import TraceAgent.Proofs.Holds.Operations
import TraceAgent.Proofs.Scopes.Slots

/-!
# Every span that finishes is handed over once

A span is handed to the pipeline only by the release that gives back the last hold of the open
span, and that release finishes it; nothing opens a finished span again. So along any run the
pipeline is fed exactly the spans that finish, each once, in the order they finish, and nothing
else.

What the hand-over reads of a world is its `Outbox`: the spans and the pipeline they go to.
`Outbox.Feeds o L o'` says that from `o` to `o'` the pipeline took the records of `L`, one for each
span that finished in between. It is reflexive and transitive (`Feeds.refl`, `Feeds.trans`), so
the hand-overs of a run are those of its steps, appended.

* `Feeds.set`, `Feeds.push` — writing a span that keeps its trace id and whether it is finished,
  or adding an open span, feeds nothing; `Feeds.finish` — the last hold of an open span feeds its
  record once.
* `Feeding v₀ k` — every run of `k`, returning or panicking, keeps the world fed since `v₀`
  (`Fed v₀`). Every primitive but the release is such a program.
* `releaseSpan_feeding` — giving back a hold on a span that exists, also when an exporter panics.
* `closeTrace_feeding`, `finishAsync_feeding`, `dropAsyncRef_feeding`, `continueAsync_feeding` —
  the operations that give holds back, from a world whose objects write into spans that exist.
-/

namespace TraceAgent

/-- The entries of an array written where an entry is. -/
theorem Array.getElem?_set!_of_some {α : Type} {xs : Array α} {i : Nat} {a : α} (h : xs[i]? = some a)
    (b : α) (j : Nat) : (xs.set! i b)[j]? = if i = j then some b else xs[j]? := by
  have hlt : i < xs.size := (Array.getElem?_eq_some_iff.1 h).1
  rw [Array.set!_eq_setIfInBounds, Array.getElem?_setIfInBounds, if_pos hlt]

namespace Pipeline

variable {α : Type}

/-- The pipeline after it was handed `spans` one after the other, each hand-over taken as it
ended, by a panic too. -/
def feed (pl : Pipeline α) (spans : List α) : Pipeline α :=
  spans.foldl (fun pl s => (pl.onEnd s).2.2) pl

theorem feed_append (pl : Pipeline α) (xs ys : List α) :
    pl.feed (xs ++ ys) = (pl.feed xs).feed ys :=
  List.foldl_append

end Pipeline

namespace SpanState

/-- `s'` has the trace id of `s` and is finished exactly when `s` is: what a write that hands
nothing over keeps of a span. -/
def SameMark (s s' : SpanState) : Prop :=
  s'.traceId = s.traceId ∧ (s'.status = .finished ↔ s.status = .finished)

theorem sameMark_takeSequence (s : SpanState) : s.SameMark s.takeSequence.2 := ⟨rfl, Iff.rfl⟩

theorem sameMark_pushEvent (s : SpanState) (e : SpanEvent) : s.SameMark (s.pushEvent e).1 := by
  unfold pushEvent
  split
  · exact ⟨rfl, Iff.rfl⟩
  · split <;> exact ⟨rfl, Iff.rfl⟩

theorem sameMark_acquire {s t : SpanState} (h : s.acquire = some t) : s.SameMark t := by
  rw [acquire_eq h]
  exact ⟨rfl, Iff.rfl⟩

/-- Only an open span is thrown away, and an open span is not finished. -/
theorem sameMark_discard (s : SpanState) : s.SameMark s.discard.2 := by
  unfold discard
  split
  · next ho =>
    simp only [isOpen, beq_iff_eq] at ho
    exact ⟨rfl, by simp [ho]⟩
  · exact ⟨rfl, Iff.rfl⟩

end SpanState

/-- What the hand-over of spans reads of a world: the spans and the pipeline they go to. -/
structure Outbox where
  spans : Array SpanState
  pipeline : Pipeline FinishedSpan

/-- The outbox of a world. -/
def World.outbox (w : World) : Outbox := ⟨w.spans, w.pipeline⟩

namespace Outbox

/-- Span `sp` is finished. -/
def Finished (o : Outbox) (sp : SpanRef) : Prop :=
  (o.spans[sp]?).map SpanState.status = some .finished

/-- The trace id of span `sp`, if there is one. -/
def traceId? (o : Outbox) (sp : SpanRef) : Option TraceId := (o.spans[sp]?).map SpanState.traceId

/-- From `o` to `o'` the pipeline took the records of `L`, in order, one for each span that
finished in between: every span keeps its trace id, the spans finished in `o'` are those finished
in `o` and those of `L`, a span of `L` was not finished in `o` and stands in `L` once, each record
carries the trace id of its span, and the pipeline is that of `o` fed the records. -/
structure Feeds (o : Outbox) (L : List (SpanRef × FinishedSpan)) (o' : Outbox) : Prop where
  traceIds : ∀ sp tid, o.traceId? sp = some tid → o'.traceId? sp = some tid
  finished : ∀ sp, o'.Finished sp ↔ o.Finished sp ∨ sp ∈ L.map Prod.fst
  fresh : ∀ sp ∈ L.map Prod.fst, ¬ o.Finished sp
  nodup : (L.map Prod.fst).Nodup
  records : ∀ p ∈ L, o'.traceId? p.1 = some p.2.traceId
  pipeline : o'.pipeline = o.pipeline.feed (L.map Prod.snd)

variable {o o' o₁ o₂ : Outbox} {L L' : List (SpanRef × FinishedSpan)}

namespace Feeds

/-- A change that keeps every span's trace id and whether it is finished, and leaves the
pipeline alone, feeds nothing. -/
theorem of_marks (ht : ∀ sp tid, o.traceId? sp = some tid → o'.traceId? sp = some tid)
    (hf : ∀ sp, o'.Finished sp ↔ o.Finished sp) (hp : o'.pipeline = o.pipeline) :
    o.Feeds [] o' where
  traceIds := ht
  finished sp := by simpa using hf sp
  fresh _ h := by simp at h
  nodup := List.nodup_nil
  records _ h := by simp at h
  pipeline := hp

theorem refl (o : Outbox) : o.Feeds [] o := of_marks (fun _ _ h => h) (fun _ => Iff.rfl) rfl

/-- The hand-overs of two stretches of a run, one after the other. -/
theorem trans (h₁ : o.Feeds L o₁) (h₂ : o₁.Feeds L' o₂) : o.Feeds (L ++ L') o₂ where
  traceIds sp tid h := h₂.traceIds sp tid (h₁.traceIds sp tid h)
  finished sp := by
    rw [h₂.finished, h₁.finished, List.map_append, List.mem_append, or_assoc]
  fresh sp hsp := by
    rw [List.map_append, List.mem_append] at hsp
    rcases hsp with hsp | hsp
    · exact h₁.fresh sp hsp
    · -- a span handed over in the second stretch was not finished after the first
      exact fun hf => h₂.fresh sp hsp ((h₁.finished sp).2 (Or.inl hf))
  nodup := by
    rw [List.map_append, List.nodup_append]
    refine ⟨h₁.nodup, h₂.nodup, fun a ha b hb hab => ?_⟩
    subst hab
    exact h₂.fresh a hb ((h₁.finished a).2 (Or.inr ha))
  records p hp := by
    rcases List.mem_append.1 hp with hp | hp
    · exact h₂.traceIds _ _ (h₁.records p hp)
    · exact h₂.records p hp
  pipeline := by rw [h₂.pipeline, h₁.pipeline, List.map_append, Pipeline.feed_append]

/-- Writing a span that keeps the mark of the one it replaces feeds nothing. -/
theorem set (o : Outbox) {sp : SpanRef} {s : SpanState}
    (hs : (o.spans[sp]?.getD default).SameMark s) :
    o.Feeds [] { o with spans := o.spans.set! sp s } := by
  cases hold : o.spans[sp]? with
  | none =>
    -- past the end the write changes nothing
    have hle : o.spans.size ≤ sp := by simpa using hold
    have hkeep : o.spans.set! sp s = o.spans := by
      rw [Array.set!_eq_setIfInBounds, Array.setIfInBounds_eq_of_size_le hle]
    rw [hkeep]
    exact refl o
  | some old =>
    rw [hold, Option.getD_some] at hs
    have hget := Array.getElem?_set!_of_some hold s
    refine of_marks (fun j tid hj => ?_) (fun j => ?_) rfl
    · unfold traceId? at hj ⊢
      rw [hget j]
      split
      · next hij =>
        subst hij
        rw [hold, Option.map_some] at hj
        rw [Option.map_some, hs.1]
        exact hj
      · exact hj
    · unfold Finished
      rw [hget j]
      split
      · next hij =>
        subst hij
        simpa [hold] using hs.2
      · exact Iff.rfl

/-- A new span that is not finished feeds nothing. -/
theorem push (o : Outbox) {s : SpanState} (hs : s.status ≠ .finished) :
    o.Feeds [] { o with spans := o.spans.push s } := by
  refine of_marks (fun j tid hj => ?_) (fun j => ?_) rfl
  · have hlt : j < o.spans.size := by
      unfold traceId? at hj
      obtain ⟨_, hget, -⟩ := Option.map_eq_some_iff.1 hj
      exact (Array.getElem?_eq_some_iff.1 hget).1
    unfold traceId? at hj ⊢
    rw [Array.getElem?_push, if_neg hlt.ne]
    exact hj
  · unfold Finished
    rw [Array.getElem?_push]
    split
    · next hj =>
      subst hj
      simp [hs]
    · exact Iff.rfl

/-- Giving back the last hold of an open span finishes it and feeds its record once. -/
theorem finish (o : Outbox) {sp : SpanRef} {old s : SpanState} (hold : o.spans[sp]? = some old)
    (hopen : old.status ≠ .finished) (hs : s.status = .finished) (hid : s.traceId = old.traceId)
    {fs : FinishedSpan} (hfs : fs.traceId = old.traceId) :
    o.Feeds [(sp, fs)] { spans := o.spans.set! sp s, pipeline := (o.pipeline.onEnd fs).2.2 } where
  traceIds j tid hj := by
    unfold traceId? at hj ⊢
    rw [Array.getElem?_set!_of_some hold s j]
    split
    · next hij =>
      subst hij
      rw [hold, Option.map_some] at hj
      rw [Option.map_some, hid]
      exact hj
    · exact hj
  finished j := by
    unfold Finished
    rw [Array.getElem?_set!_of_some hold s j]
    split
    · next hij =>
      subst hij
      simp [hs]
    · next hij =>
      simp only [List.map_cons, List.map_nil, List.mem_singleton]
      exact ⟨Or.inl, fun h => h.resolve_right (Ne.symm hij)⟩
  fresh j hj := by
    simp only [List.map_cons, List.map_nil, List.mem_singleton] at hj
    subst hj
    simp [Finished, hold, hopen]
  nodup := List.nodup_singleton _
  records p hp := by
    rw [List.mem_singleton] at hp
    subst hp
    unfold traceId?
    dsimp only
    rw [Array.getElem?_set!_of_some hold s, if_pos rfl, Option.map_some, hid, hfs]
  pipeline := rfl

end Feeds

end Outbox

namespace Agent

/-- Since `v₀` the pipeline has been fed exactly the spans finished since, each once: `x` is
reached from `v₀` as `Outbox.Feeds` allows. -/
def Fed (v₀ x : World) : Prop := ∃ L, v₀.outbox.Feeds L x.outbox

variable {α β : Type} {u v₀ x y : World}

theorem Fed.refl (v₀ : World) : Fed v₀ v₀ := ⟨[], Outbox.Feeds.refl _⟩

theorem Fed.trans (h : Fed u v₀) (h' : Fed v₀ x) : Fed u x := by
  obtain ⟨L, hL⟩ := h
  obtain ⟨L', hL'⟩ := h'
  exact ⟨L ++ L', hL.trans hL'⟩

/-- One more stretch of hand-overs. -/
theorem Fed.feeds {L : List (SpanRef × FinishedSpan)} (h : Fed v₀ x) (h' : x.outbox.Feeds L y.outbox) :
    Fed v₀ y :=
  h.trans ⟨L, h'⟩

/-- One more stretch of hand-overs, to a world with the outbox it reaches. -/
theorem Fed.of_eq {L : List (SpanRef × FinishedSpan)} {o : Outbox} (h : Fed v₀ x) (h' : x.outbox.Feeds L o)
    (hy : y.outbox = o) : Fed v₀ y :=
  h.feeds (hy ▸ h')

/-- A world with the same outbox. -/
theorem Fed.of_outbox (h : Fed v₀ x) (hy : y.outbox = x.outbox) : Fed v₀ y :=
  h.of_eq (Outbox.Feeds.refl _) hy

/-- A span that existed in `v₀` still exists. -/
theorem Fed.lt_size {sp : SpanRef} (h : Fed v₀ x) (hsp : sp < v₀.spans.size) : sp < x.spans.size := by
  obtain ⟨L, hL⟩ := h
  have hid : v₀.outbox.traceId? sp = some v₀.spans[sp].traceId := by
    simp [Outbox.traceId?, World.outbox, hsp]
  obtain ⟨s, hs, -⟩ := Option.map_eq_some_iff.1 (hL.traceIds sp _ hid)
  exact (Array.getElem?_eq_some_iff.1 hs).1

/-- Every run of `k` from a world fed since `v₀`, returning or panicking, ends in one. -/
def Feeding (v₀ : World) (k : Agent α) : Prop := Runs (Fed v₀) k (fun _ => Fed v₀) (Fed v₀)

namespace Feeding

theorem bind {k : Agent α} {f : α → Agent β} (hk : Feeding v₀ k) (hf : ∀ a, Feeding v₀ (f a)) :
    Feeding v₀ (k >>= f) :=
  Runs.bind hk hf

theorem pure (a : α) : Feeding v₀ (Pure.pure a : Agent α) := Runs.pure a fun _ h => h

theorem forIn {γ : Type} (xs : List γ) {f : γ → PUnit → Agent (ForInStep PUnit)}
    (hf : ∀ x u, Feeding v₀ (f x u)) : Feeding v₀ (ForIn.forIn xs ⟨⟩ f) :=
  Runs.forIn xs f (fun _ => Fed v₀) fun x _ =>
    Runs.mono (hf x ⟨⟩) (fun _ h => h) (fun r _ h => by cases r <;> exact h) (fun _ h => h)

theorem ite {c : Prop} [Decidable c] {k k' : Agent α} (hk : Feeding v₀ k) (hk' : Feeding v₀ k') :
    Feeding v₀ (if c then k else k') := by
  split
  · exact hk
  · exact hk'

/-- From the world a run starts in. -/
theorem runs {k : Agent α} (h : Feeding v₀ k) : Runs (· = v₀) k (fun _ => Fed v₀) (Fed v₀) :=
  Runs.mono h (fun _ hx => hx ▸ Fed.refl v₀) (fun _ _ h => h) (fun _ h => h)

/-- A fact the read established may be assumed for the rest. -/
theorem of_fact {φ : Prop} {k : Agent α} (h : φ → Feeding v₀ k) :
    Runs (fun x => Fed v₀ x ∧ φ) k (fun _ => Fed v₀) (Fed v₀) :=
  fun x hx => h hx.2 x hx.1

end Feeding

/-! ## What leaves the spans and the pipeline alone -/

section Keeping

theorem get_feeding : Feeding v₀ (get : Agent World) := fun _ h => h

/-- Reading the world, with what it read. -/
theorem get_same : Runs (Fed v₀) (get : Agent World) (fun w x => w = x ∧ Fed v₀ x) (Fed v₀) :=
  fun _ h => ⟨rfl, h⟩

theorem trace_feeding (t : TraceRef) : Feeding v₀ (trace t) := fun _ h => h

theorem asyncObj_feeding (a : AsyncRef) : Feeding v₀ (asyncObj a) := fun _ h => h

theorem settings_feeding : Feeding v₀ settings := fun _ h => h

theorem setTrace_feeding (t : TraceRef) (o : TraceObj) : Feeding v₀ (setTrace t o) := fun _ h => h

theorem setAsync_feeding (a : AsyncRef) (o : AsyncObj) : Feeding v₀ (setAsync a o) := fun _ h => h

theorem newTrace_feeding (o : TraceObj) : Feeding v₀ (newTrace o) := fun _ h => h

theorem newAsync_feeding (k : AsyncKind) : Feeding v₀ (newAsync k) := fun _ h => h

theorem emit_feeding (es : List LogEvent) : Feeding v₀ (emit es) := fun _ h => h

theorem log_feeding (e : LogEvent) : Feeding v₀ (log e) := fun _ h => h

theorem nextSequence_feeding : Feeding v₀ nextSequence := fun _ h => h

theorem nextAsyncId_feeding : Feeding v₀ nextAsyncId := fun _ h => h

theorem isSampled_feeding : Feeding v₀ isSampled := fun _ h => h

theorem newSpanId_feeding : Feeding v₀ newSpanId := by
  unfold newSpanId
  refine Runs.bind get_same fun w => ?_
  rintro x ⟨rfl, hx⟩
  cases w.ids.kind with
  | increment => exact hx
  | random =>
    -- generalized first: otherwise the kernel unfolds the random stream
    generalize w.rand.random = d
    exact hx

theorem withChain_feeding {γ : Type} (f : ChainLocal → γ × ChainLocal) : Feeding v₀ (withChain f) :=
  Runs.mono (withChain_runs f) (fun x hx => by
    split
    · exact hx.of_outbox (by simp [World.outbox])
    · exact hx) (fun _ _ h => h) (fun _ h => h)

theorem readChain_feeding {γ : Type} (f : Option ChainLocal → γ) : Feeding v₀ (readChain f) := by
  unfold readChain
  refine Feeding.bind (fun _ h => h) fun b => ?_
  exact Feeding.ite (Feeding.pure _) (Feeding.bind get_feeding fun _ => Feeding.pure _)

theorem currentRaw_feeding : Feeding v₀ currentRaw := by
  unfold currentRaw
  refine Feeding.bind (readChain_feeding _) fun r => ?_
  cases r <;> exact Feeding.pure _

theorem ensureUnbound_feeding : Feeding v₀ ensureUnbound := by
  unfold ensureUnbound
  refine Feeding.bind currentRaw_feeding fun r => ?_
  cases r with
  | some _ => exact Feeding.bind (log_feeding _) fun _ => Feeding.pure _
  | none => exact Feeding.pure _

theorem bindTrace_feeding (t : TraceRef) : Feeding v₀ (bindTrace t) := by
  unfold bindTrace
  refine Feeding.bind (withChain_feeding _) fun r => ?_
  cases r <;> exact Feeding.pure _

theorem bindNew_feeding (t : TraceRef) : Feeding v₀ (bindNew t) := by
  unfold bindNew
  refine Feeding.bind (bindTrace_feeding t) fun r => ?_
  cases r <;> exact Feeding.pure _

theorem ownsBranch_feeding (sp : SpanRef) (t : TraceRef) : Feeding v₀ (ownsBranch sp t) :=
  Feeding.bind (trace_feeding t) fun _ => Feeding.pure _

theorem spanReachable_feeding (sp : SpanRef) : Feeding v₀ (spanReachable sp) :=
  Feeding.bind get_feeding fun _ => Feeding.pure _

end Keeping

/-! ## Writing spans -/

section Spans

/-- Reading a span, with what it read. -/
theorem span_feeding (sp : SpanRef) :
    Runs (Fed v₀) (span sp) (fun u x => Fed v₀ x ∧ u = x.spans[sp]?.getD default) (Fed v₀) :=
  Runs.mono (span_runs sp) (fun _ h => ⟨h, rfl⟩) (fun _ _ h => h) (fun _ h => h)

/-- Writing back a span read, with its mark kept. -/
theorem setSpan_feeding {sp : SpanRef} {u s : SpanState} (hs : u.SameMark s) {E : World → Prop} :
    Runs (fun x => Fed v₀ x ∧ u = x.spans[sp]?.getD default) (setSpan sp s) (fun _ => Fed v₀) E :=
  Runs.mono (setSpan_runs sp s) (fun x hx => hx.1.feeds (Outbox.Feeds.set x.outbox (hx.2 ▸ hs)))
    (fun _ _ h => h) (fun _ h => h)

theorem newSpan_feeding {s : SpanState} (hs : s.status ≠ .finished) : Feeding v₀ (newSpan s) :=
  Runs.mono (newSpan_runs s) (fun x hx => hx.feeds (Outbox.Feeds.push x.outbox hs))
    (fun _ _ h => h) (fun _ h => h)

theorem pushEvent_feeding (sp : SpanRef) (e : SpanEvent) : Feeding v₀ (pushEvent sp e) := by
  unfold pushEvent
  refine Runs.bind (span_feeding sp) fun u => ?_
  exact Runs.bind (setSpan_feeding (u.sameMark_pushEvent e)) fun _ => emit_feeding _

theorem recordingTrace_feeding (tid : TraceId) : Feeding v₀ (recordingTrace tid) := by
  unfold recordingTrace
  refine Feeding.bind settings_feeding fun st => ?_
  exact Feeding.bind (newSpan_feeding (by simp)) fun _ => newTrace_feeding _

theorem blockBegin_feeding (t : TraceRef) : Feeding v₀ (blockBegin t) := by
  unfold blockBegin
  refine Feeding.bind (trace_feeding t) fun o => ?_
  cases o.kind with
  | disabled => exact Feeding.pure _
  | recording sp br st =>
    dsimp only
    split
    · exact Feeding.bind (log_feeding _) fun _ => Feeding.pure _
    split
    · exact Feeding.bind (setTrace_feeding _ _) fun _ => Feeding.pure _
    · -- a recorded frame takes the span's next sequence number
      refine Runs.bind (span_feeding sp) fun u => ?_
      exact Runs.bind (setSpan_feeding u.sameMark_takeSequence) fun _ =>
        Feeding.bind (setTrace_feeding _ _) fun _ => Feeding.pure _

theorem blockEnd_feeding (t : TraceRef) : Feeding v₀ (blockEnd t) := by
  unfold blockEnd
  refine Feeding.bind (trace_feeding t) fun o => ?_
  cases o.kind with
  | disabled => exact Feeding.pure _
  | recording sp br st =>
    dsimp only
    split
    · exact Feeding.pure _
    split
    · exact Feeding.bind (setTrace_feeding _ _) fun _ =>
        Feeding.bind (pushEvent_feeding sp _) fun _ => Feeding.pure _
    · exact Feeding.bind (setTrace_feeding _ _) fun _ => Feeding.pure _
    · exact Feeding.bind (log_feeding _) fun _ => Feeding.pure _

theorem discardTrace_feeding (t : TraceRef) : Feeding v₀ (discardTrace t) := by
  unfold discardTrace discardTraceObj
  refine Feeding.bind ?_ fun _ => Feeding.bind (withChain_feeding _) fun _ => Feeding.pure _
  refine Feeding.bind (trace_feeding t) fun o => ?_
  cases o.kind with
  | disabled => exact setTrace_feeding _ _
  | recording sp br st =>
    dsimp only
    refine Feeding.bind (setTrace_feeding _ _) fun _ => ?_
    -- only an open span is thrown away
    refine Runs.bind (span_feeding sp) fun u => ?_
    refine Runs.bind (setSpan_feeding u.sameMark_discard) fun _ => ?_
    split
    · exact log_feeding _
    · exact Feeding.pure _

theorem newTraceObject_feeding : Feeding v₀ newTraceObject := by
  unfold newTraceObject
  refine Feeding.bind ensureUnbound_feeding fun r => ?_
  split
  · exact Feeding.pure _
  refine Feeding.bind isSampled_feeding fun b => ?_
  dsimp only
  split
  · exact Feeding.bind settings_feeding fun _ => Feeding.bind nextSequence_feeding fun _ =>
      Feeding.bind newSpanId_feeding fun _ => Feeding.bind (recordingTrace_feeding _) bindNew_feeding
  · exact Feeding.bind (newTrace_feeding _) bindNew_feeding

theorem continueTraceObject_feeding (tid : TraceId) : Feeding v₀ (continueTraceObject tid) := by
  unfold continueTraceObject
  refine Feeding.bind ensureUnbound_feeding fun r => ?_
  split
  · exact Feeding.pure _
  exact Feeding.bind (recordingTrace_feeding tid) bindNew_feeding

theorem disableSampling_feeding : Feeding v₀ disableSampling := by
  unfold disableSampling
  refine Feeding.bind ensureUnbound_feeding fun r => ?_
  split
  · exact Feeding.pure _
  exact Feeding.bind (newTrace_feeding _) bindNew_feeding

theorem removeTraceObject_feeding : Feeding v₀ removeTraceObject := by
  unfold removeTraceObject
  refine Feeding.bind (withChain_feeding _) fun r => ?_
  cases r <;> exact Feeding.pure _

theorem nextAsync_feeding (r : EventRecorder) : Feeding v₀ r.nextAsync := by
  unfold EventRecorder.nextAsync
  split
  · exact newAsync_feeding _
  refine Feeding.bind (trace_feeding _) fun o => ?_
  refine Feeding.bind ?_ fun tk => ?_
  · split
    · exact Feeding.pure _
    cases o.kind with
    | disabled => exact Feeding.pure _
    | recording sp br st =>
      dsimp only
      split
      · exact Feeding.pure _
      -- the hold taken on the span changes its count only
      refine Runs.bind (span_feeding sp) fun u => ?_
      cases hacq : u.acquire with
      | none => exact Runs.pure _ fun _ h => h.1
      | some s =>
        exact Runs.bind (setSpan_feeding (SpanState.sameMark_acquire hacq)) fun _ =>
          Feeding.bind nextAsyncId_feeding fun _ =>
            Feeding.bind (setTrace_feeding _ _) fun _ => Feeding.pure _
  · rcases tk with _ | ⟨sp, tid, aid⟩
    · exact Feeding.bind (log_feeding _) fun _ => newAsync_feeding _
    · exact newAsync_feeding _

theorem cloneAsync_feeding (a : AsyncRef) : Feeding v₀ (cloneAsync a) :=
  Feeding.bind (asyncObj_feeding a) fun _ => setAsync_feeding _ _

end Spans

/-! ## Giving holds back -/

section Release

variable {sp : SpanRef}

/-- Giving back a hold on a span that exists feeds the pipeline that span if it was the last hold
of the open span, and nothing otherwise, also when an exporter panics. -/
theorem releaseSpan_feeding (hsp : sp < v₀.spans.size) : Feeding v₀ (releaseSpan sp) := by
  unfold releaseSpan
  refine Runs.bind (span_feeding sp) fun u => ?_
  have hstatus := SpanState.release_status u
  have hhanded := SpanState.release_handed u
  have hid := SpanState.release_traceId u
  rcases hr : u.release with ⟨s, done, logs⟩
  rw [hr] at hstatus hhanded hid
  dsimp only at hstatus hhanded hid ⊢
  -- the world the span was read from is what the hand-over is measured against
  let Read : World → Prop := fun x' => ∃ x, Fed v₀ x ∧ x.spans[sp]? = some u ∧
    x'.spans = x.spans.set! sp s ∧ x'.pipeline = x.pipeline
  refine Runs.bind (R := fun _ => Read)
    (Runs.mono (setSpan_runs sp s) (fun x hx => ?_) (fun _ _ h => h) (fun _ h => h)) fun _ => ?_
  · obtain ⟨hx, rfl⟩ := hx
    exact ⟨x, hx, by simp [hx.lt_size hsp], rfl, rfl⟩
  refine Runs.bind (R := fun _ => Read)
    (Runs.mono (emit_runs logs) (fun x hx => hx) (fun _ _ h => h) (fun _ h => h)) fun _ => ?_
  cases done with
  | none =>
    -- not the last hold of the open span: the span keeps its mark, and nothing is handed over
    refine Runs.pure _ fun x' ⟨x, hx, hold, hs, hp⟩ => ?_
    have hlast : ¬(u.isOpen = true ∧ u.pending = 1) := fun h => by simp [h] at hhanded
    rw [if_neg hlast] at hstatus
    have hmark : (x.outbox.spans[sp]?.getD default).SameMark s := by
      show (x.spans[sp]?.getD default).SameMark s
      rw [hold, Option.getD_some]
      exact ⟨hid, by rw [hstatus]⟩
    refine hx.of_eq (Outbox.Feeds.set x.outbox hmark) ?_
    show (⟨x'.spans, x'.pipeline⟩ : Outbox) = ⟨x.spans.set! sp s, x.pipeline⟩
    rw [hs, hp]
  | some fs =>
    -- the last hold of the open span: finished, and its record handed over once
    have hlast : u.isOpen = true ∧ u.pending = 1 := by
      by_contra hlast
      simp [hlast] at hhanded
    rw [if_pos hlast] at hstatus hhanded
    have hfs : fs.traceId = u.traceId := by simpa using hhanded
    have hopen : u.status ≠ .finished := by
      have h := hlast.1
      simp only [SpanState.isOpen, beq_iff_eq] at h
      rw [h]
      decide
    refine Runs.mono (handOver_runs fs) (fun x' hx' => ?_) (fun _ _ h => h) (fun _ h => h)
    obtain ⟨x, hx, hold, hs, hp⟩ := hx'
    have hfed : Fed v₀ { x' with pipeline := (x'.pipeline.onEnd fs).2.2 } := by
      refine hx.of_eq (Outbox.Feeds.finish x.outbox hold hopen hstatus hid hfs) ?_
      show (⟨x'.spans, (x'.pipeline.onEnd fs).2.2⟩ : Outbox) = ⟨x.spans.set! sp s, (x.pipeline.onEnd fs).2.2⟩
      rw [hs, hp]
    rcases hpl : x'.pipeline.onEnd fs with ⟨logs', panicked, pl⟩
    rw [hpl] at hfed
    cases panicked <;> exact hfed

/-- Reading the trace table of the world an operation starts from. -/
theorem trace_start (t : TraceRef) :
    Runs (· = v₀) (trace t) (fun o x => Fed v₀ x ∧ o = v₀.traces[t]?.getD default) (Fed v₀) :=
  Runs.mono (trace_runs t) (fun x hx => by subst hx; exact ⟨Fed.refl x, rfl⟩) (fun _ _ h => h)
    (fun _ h => h)

/-- Reading the context table of the world an operation starts from. -/
theorem asyncObj_start (a : AsyncRef) :
    Runs (· = v₀) (asyncObj a) (fun o x => Fed v₀ x ∧ o = v₀.asyncs[a]?.getD default) (Fed v₀) :=
  Runs.mono (asyncObj_runs a) (fun x hx => by subst hx; exact ⟨Fed.refl x, rfl⟩) (fun _ _ h => h)
    (fun _ h => h)

/-- Closing a trace that writes into a span that exists gives back at most the hold of its
synchronous side, after the frames left open are stored. -/
theorem closeTrace_feeding {t : TraceRef}
    (hsp : ∀ sp br st, (v₀.traces[t]?.getD default).kind = .recording sp br st → sp < v₀.spans.size) :
    Runs (· = v₀) (closeTrace t) (fun _ => Fed v₀) (Fed v₀) := by
  unfold closeTrace
  refine Runs.bind (trace_start t) fun o => Feeding.of_fact fun ho => ?_
  split
  · exact Feeding.pure _
  cases hk : o.kind with
  | disabled => exact setTrace_feeding _ _
  | recording sp br st =>
    have hlt : sp < v₀.spans.size := hsp sp br st (ho ▸ hk)
    dsimp only
    refine Feeding.bind (setTrace_feeding _ _) fun _ => ?_
    have hrelease : Feeding v₀ (if br.isNone = true then releaseSpan sp else pure ()) :=
      Feeding.ite (releaseSpan_feeding hlt) (Feeding.pure _)
    split
    · exact Feeding.bind (log_feeding _) fun _ => Feeding.bind
        (Feeding.forIn _ fun e _ => Feeding.bind (pushEvent_feeding sp e) fun _ => Feeding.pure _)
        fun _ => hrelease
    · exact hrelease

/-- Finishing a branch gives back its hold and, the first time, the creation hold. -/
theorem finishAsync_feeding {a : AsyncRef}
    (hsp : ∀ sp tid aid br hs, (v₀.asyncs[a]?.getD default).kind = .recording sp tid aid br hs →
      sp < v₀.spans.size) :
    Runs (· = v₀) (finishAsync a) (fun _ => Fed v₀) (Fed v₀) := by
  unfold finishAsync
  refine Runs.bind (asyncObj_start a) fun obj => Feeding.of_fact fun hobj => ?_
  cases hk : obj.kind with
  | disabled => exact Feeding.pure _
  | recording sp tid aid branch holds =>
    have hrelease : Feeding v₀ (releaseSpan sp) := releaseSpan_feeding (hsp sp tid aid branch holds (hobj ▸ hk))
    dsimp only
    split
    · exact Feeding.bind (log_feeding _) fun _ => Feeding.pure _
    refine Feeding.bind (setAsync_feeding _ _) fun _ => ?_
    split
    · refine Feeding.bind hrelease fun _ => ?_
      split
      · exact Feeding.bind hrelease fun _ => Feeding.pure _
      · exact Feeding.pure _
    · exact Feeding.pure _

/-- The last clone of a context gives back what the context still owes. -/
theorem dropAsyncRef_feeding {a : AsyncRef}
    (hsp : ∀ sp tid aid br hs, (v₀.asyncs[a]?.getD default).kind = .recording sp tid aid br hs →
      sp < v₀.spans.size) :
    Runs (· = v₀) (dropAsyncRef a) (fun _ => Fed v₀) (Fed v₀) := by
  unfold dropAsyncRef
  refine Runs.bind (asyncObj_start a) fun obj => Feeding.of_fact fun hobj => ?_
  refine Feeding.bind (setAsync_feeding _ _) fun _ => ?_
  split
  · exact Feeding.pure _
  cases hk : obj.kind with
  | disabled => exact Feeding.pure _
  | recording sp tid aid branch holds =>
    have hrelease : Feeding v₀ (releaseSpan sp) := releaseSpan_feeding (hsp sp tid aid branch holds (hobj ▸ hk))
    dsimp only
    split
    · exact Feeding.pure _
    refine Feeding.bind (setAsync_feeding _ _) fun _ => ?_
    -- the creation hold goes back first, then one hold per unfinished branch
    have hloop : Feeding v₀ (do
        for _ in List.range (holds.started - holds.finished) do releaseSpan sp
        pure ()) :=
      Feeding.bind (Feeding.forIn _ fun _ _ => Feeding.bind hrelease fun _ => Feeding.pure _)
        fun _ => Feeding.pure _
    have hgive : Feeding v₀ (do
        if holds.creation then releaseSpan sp
        for _ in List.range (holds.started - holds.finished) do releaseSpan sp) := by
      dsimp only
      split
      · exact Feeding.bind hrelease fun _ => hloop
      · exact hloop
    split
    · exact Feeding.bind (log_feeding _) fun _ => hgive
    · exact hgive

/-- Resuming a branch takes a hold on the span, and gives it back when the branch cannot be
bound. -/
theorem continueAsync_feeding {a : AsyncRef}
    (hsp : ∀ sp tid aid br hs, (v₀.asyncs[a]?.getD default).kind = .recording sp tid aid br hs →
      sp < v₀.spans.size) :
    Runs (· = v₀) (continueAsync a) (fun _ => Fed v₀) (Fed v₀) := by
  unfold continueAsync
  refine Runs.bind (asyncObj_start a) fun obj => Feeding.of_fact fun hobj => ?_
  cases hk : obj.kind with
  | disabled =>
    dsimp only
    refine Feeding.bind currentRaw_feeding fun r => ?_
    cases r with
    | some t =>
      refine Feeding.bind (trace_feeding t) fun o => ?_
      exact Feeding.ite (Feeding.pure _) (Feeding.bind (log_feeding _) fun _ => Feeding.pure _)
    | none =>
      refine Feeding.bind (newTrace_feeding _) fun t => Feeding.bind (bindTrace_feeding t) fun r => ?_
      cases r <;> exact Feeding.pure _
  | recording sp tid aid branches holds =>
    have hrelease : Feeding v₀ (releaseSpan sp) := releaseSpan_feeding (hsp sp tid aid branches holds (hobj ▸ hk))
    dsimp only
    refine Feeding.bind currentRaw_feeding fun r => ?_
    cases r with
    | some t =>
      refine Feeding.bind (ownsBranch_feeding sp t) fun b => ?_
      exact Feeding.ite (Feeding.pure _) (Feeding.bind (log_feeding _) fun _ => Feeding.pure _)
    | none =>
      -- the hold taken for the branch changes the span's count only
      refine Feeding.bind ?_ fun acquired => ?_
      · refine Feeding.bind (spanReachable_feeding sp) fun b => ?_
        refine Feeding.ite (Feeding.pure _) ?_
        refine Runs.bind (span_feeding sp) fun u => ?_
        cases hacq : u.acquire with
        | none => exact Runs.pure _ fun _ h => h.1
        | some s =>
          exact Runs.bind (setSpan_feeding (SpanState.sameMark_acquire hacq)) fun _ => Feeding.pure _
      refine Feeding.ite (Feeding.bind (log_feeding _) fun _ => Feeding.pure _) ?_
      refine Feeding.bind (setAsync_feeding _ _) fun _ => Feeding.bind settings_feeding fun _ => ?_
      refine Feeding.bind (newTrace_feeding _) fun t => Feeding.bind (bindTrace_feeding t) fun r => ?_
      rcases r with _ | ⟨⟨⟩⟩
      · -- the branch cannot be bound: its hold goes back
        refine Feeding.bind (log_feeding _) fun _ => Feeding.bind (asyncObj_feeding a) fun obj' => ?_
        cases obj'.kind with
        | recording =>
          exact Feeding.bind (setAsync_feeding _ _) fun _ => Feeding.bind hrelease fun _ => Feeding.pure _
        | disabled => exact Feeding.bind hrelease fun _ => Feeding.pure _
      · exact Feeding.pure _

end Release

end Agent
end TraceAgent
