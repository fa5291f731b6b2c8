import TraceAgent.Agent.Drop
import TraceAgent.Proofs.Scopes.Slots

/-!
# Leaving the scopes alone

A gate reads the depth of its scope when it is entered and again when it is left, so what runs
in between decides what the gate does. This module says what it means for a program to leave the
scopes alone, and proves it of everything that runs between the two reads of a gate, up to the
dropping of an attachment.

* `ScopesKept S A w w'`: from `w` to `w'` the calling thread, the threads whose storage is gone
  and the scope names given out are kept (names are only added); for each scope of `S` the depth
  is kept and an absent slot stays absent; for each scope of `S` and `A` entered in `w`, the
  attachment is kept. It is a preorder.
* `KeepsScopes S A k`: every run of `k`, returning or panicking, moves the world along
  `ScopesKept S A`. The rules follow the shape of programs (`KeepsScopes.bind`, `tryCatch`,
  `forIn`, …), one lemma per operation.

Main statements:

* `ScopesKept.around` — a scope entered around anything that keeps the scopes is, once left,
  back at its depth, and gone if the entry was the first;
* `drop_keepsScopes` and `dropMaybe_keepsScopes` — dropping an attachment keeps every scope,
  although a hook enters and leaves its own scope, starts, resumes and removes traces, and may
  panic in an exporter.
-/

namespace TraceAgent
namespace Agent

/-- From `w` to `w'`, what the gates of the scopes `S` read is kept: the calling thread, the
threads whose storage is gone and the scope names given out (names are only added); for each
scope of `S` its depth on the calling chain, an absent slot staying absent; and for each scope of
`S` and `A` entered in `w`, its attachment. -/
structure ScopesKept (S A : Nat → Prop) (w w' : World) : Prop where
  here : w'.here = w.here
  gone : w'.gone = w.gone
  names : ∃ more, w'.scopeNames = w.scopeNames ++ more
  depth : ∀ j, S j → w'.depth j = w.depth j
  absent : ∀ j, S j → w.slot j = none → w'.slot j = none
  attachment : ∀ j, S j → A j → 0 < w.depth j → w'.attachment j = w.attachment j

namespace ScopesKept

variable {S A : Nat → Prop} {w w' w'' : World}

theorem refl (w : World) : ScopesKept S A w w :=
  ⟨rfl, rfl, ⟨[], (List.append_nil _).symm⟩, fun _ _ => rfl, fun _ _ h => h, fun _ _ _ _ => rfl⟩

theorem trans (h : ScopesKept S A w w') (h' : ScopesKept S A w' w'') : ScopesKept S A w w'' := by
  obtain ⟨m, hm⟩ := h.names
  obtain ⟨m', hm'⟩ := h'.names
  refine ⟨h'.here.trans h.here, h'.gone.trans h.gone, ⟨m ++ m', by rw [hm', hm, List.append_assoc]⟩,
    fun j hj => (h'.depth j hj).trans (h.depth j hj),
    fun j hj hn => h'.absent j hj (h.absent j hj hn), fun j hj ha hd => ?_⟩
  have hd' : 0 < w'.depth j := by rw [h.depth j hj]; exact hd
  exact (h'.attachment j hj ha hd').trans (h.attachment j hj ha hd)

/-- Keeping more scopes keeps fewer. -/
theorem mono {S' : Nat → Prop} (h : ScopesKept S A w w') (hS : ∀ j, S' j → S j) :
    ScopesKept S' A w w' :=
  ⟨h.here, h.gone, h.names, fun j hj => h.depth j (hS j hj), fun j hj => h.absent j (hS j hj),
    fun j hj => h.attachment j (hS j hj)⟩

/-- A change that leaves the thread, the torn-down threads, the scope names and every slot of
the calling chain alone. -/
theorem of_slots (hh : w'.here = w.here) (hg : w'.gone = w.gone)
    (hn : ∃ more, w'.scopeNames = w.scopeNames ++ more) (hs : ∀ j, w'.slot j = w.slot j) :
    ScopesKept S A w w' :=
  ⟨hh, hg, hn, fun j _ => by simp only [World.depth, hs], fun j _ h => by rw [hs, h],
    fun j _ _ _ => by simp only [World.attachment, hs]⟩

/-- A change of the fields no chain reads. -/
theorem of_locals (hh : w'.here = w.here) (hg : w'.gone = w.gone)
    (hn : w'.scopeNames = w.scopeNames) (hl : w'.locals = w.locals) : ScopesKept S A w w' :=
  of_slots hh hg ⟨[], by rw [hn, List.append_nil]⟩ fun j => by
    simp only [World.slot, World.chain, localOf, hl, hh]

theorem chainUp (h : ScopesKept S A w w') : w'.chainUp = w.chainUp := by
  simp only [World.chainUp, h.here, h.gone]

theorem lookup (h : ScopesKept S A w w') {name : String} {id : Nat}
    (hid : w.scopeNames.lookup name = some id) : w'.scopeNames.lookup name = some id := by
  obtain ⟨m, hm⟩ := h.names
  rw [hm, List.lookup_append, hid]
  rfl

end ScopesKept

/-- Every run of `k`, returning or panicking, moves the world along `ScopesKept S A`. -/
def KeepsScopes {α : Type} (S A : Nat → Prop) (k : Agent α) : Prop :=
  ∀ w₀, Runs (ScopesKept S A w₀) k (fun _ => ScopesKept S A w₀) (ScopesKept S A w₀)

namespace KeepsScopes

variable {α β : Type} {S A : Nat → Prop}

/-- It is enough to follow one run from the world it starts in. -/
theorem of_step {k : Agent α}
    (h : ∀ v, Runs (fun w => w = v) k (fun _ => ScopesKept S A v) (ScopesKept S A v)) :
    KeepsScopes S A k := by
  intro w₀ w hw
  exact Runs.mono (h w) (fun _ h => h) (fun _ _ h' => hw.trans h') (fun _ h' => hw.trans h') w rfl

theorem pure (a : α) : KeepsScopes S A (Pure.pure a : Agent α) := fun _ _ hw => hw

theorem bind {k : Agent α} {f : α → Agent β} (hk : KeepsScopes S A k)
    (hf : ∀ a, KeepsScopes S A (f a)) : KeepsScopes S A (k >>= f) :=
  fun w₀ => Runs.bind (hk w₀) fun a => hf a w₀

theorem get : KeepsScopes S A (MonadState.get : Agent World) := fun _ _ hw => hw

theorem modify {f : World → World} (h : ∀ w, ScopesKept S A w (f w)) :
    KeepsScopes S A (modify f : Agent PUnit) := fun _ w hw => hw.trans (h w)

theorem throw (e : String) : KeepsScopes S A (throw e : Agent α) := fun _ _ hw => hw

theorem tryCatch {k : Agent α} {h : String → Agent α} (hk : KeepsScopes S A k)
    (hh : ∀ e, KeepsScopes S A (h e)) : KeepsScopes S A (tryCatch k h) :=
  fun w₀ => Runs.tryCatch (hk w₀) fun e => hh e w₀

theorem forIn {γ : Type} (xs : List γ) (f : γ → PUnit → Agent (ForInStep PUnit))
    (hf : ∀ x, KeepsScopes S A (f x ⟨⟩)) : KeepsScopes S A (ForIn.forIn xs ⟨⟩ f) :=
  fun w₀ => Runs.forIn xs f (fun _ => ScopesKept S A w₀) fun x _ =>
    Runs.mono (hf x w₀) (fun _ h => h) (fun r _ h => by cases r <;> exact h) (fun _ h => h)

/-- Writing back a world whose chains are those of the world read, and returning. -/
theorem set_pure {v w' : World} (hh : w'.here = v.here) (hg : w'.gone = v.gone)
    (hn : w'.scopeNames = v.scopeNames) (hl : w'.locals = v.locals) (a : α) :
    Runs (fun w => w = v) (MonadState.set w' >>= fun _ => Pure.pure a : Agent α)
      (fun _ => ScopesKept S A v) (ScopesKept S A v) :=
  Runs.bind (Runs.set _ fun _ _ => ScopesKept.of_locals hh hg hn hl) fun _ =>
    Runs.pure _ fun _ h => h

end KeepsScopes

/-! ## Operations that leave the scopes alone -/

section Primitives

variable {α : Type} {S A : Nat → Prop}

namespace KeepsScopes

/-- Reading the world and going on with a program that keeps the scopes of the world read. -/
theorem get_bind {f : World → Agent α}
    (hf : ∀ v, Runs (fun w => w = v) (f v) (fun _ => ScopesKept S A v) (ScopesKept S A v)) :
    KeepsScopes S A (MonadState.get >>= f) := by
  refine of_step fun v => Runs.bind (R := fun u w => w = v ∧ u = v)
    (Runs.get fun w hw => ⟨hw, hw⟩) fun u => ?_
  intro w hw
  obtain ⟨hw, rfl⟩ := hw
  exact hf u w hw

/-- A read of the world. -/
theorem read (f : World → α) :
    KeepsScopes S A (MonadState.get >>= fun w => Pure.pure (f w) : Agent α) :=
  bind get fun _ => pure _

end KeepsScopes

theorem storageAvailable_keepsScopes : KeepsScopes S A storageAvailable :=
  KeepsScopes.read _

theorem settings_keepsScopes : KeepsScopes S A settings := KeepsScopes.read _

theorem span_keepsScopes (s : SpanRef) : KeepsScopes S A (span s) := KeepsScopes.read _

theorem trace_keepsScopes (t : TraceRef) : KeepsScopes S A (trace t) := KeepsScopes.read _

theorem asyncObj_keepsScopes (a : AsyncRef) : KeepsScopes S A (asyncObj a) := KeepsScopes.read _

theorem setSpan_keepsScopes (s : SpanRef) (v : SpanState) : KeepsScopes S A (setSpan s v) :=
  KeepsScopes.modify fun _ => ScopesKept.of_locals rfl rfl rfl rfl

theorem setTrace_keepsScopes (t : TraceRef) (v : TraceObj) : KeepsScopes S A (setTrace t v) :=
  KeepsScopes.modify fun _ => ScopesKept.of_locals rfl rfl rfl rfl

theorem setAsync_keepsScopes (a : AsyncRef) (v : AsyncObj) : KeepsScopes S A (setAsync a v) :=
  KeepsScopes.modify fun _ => ScopesKept.of_locals rfl rfl rfl rfl

theorem emit_keepsScopes (es : List LogEvent) : KeepsScopes S A (emit es) :=
  KeepsScopes.modify fun _ => ScopesKept.of_locals rfl rfl rfl rfl

theorem log_keepsScopes (e : LogEvent) : KeepsScopes S A (log e) := emit_keepsScopes [e]

theorem note_keepsScopes (line : String) : KeepsScopes S A (note line) :=
  KeepsScopes.modify fun _ => ScopesKept.of_locals rfl rfl rfl rfl

theorem newSpan_keepsScopes (v : SpanState) : KeepsScopes S A (newSpan v) :=
  KeepsScopes.get_bind fun _ => KeepsScopes.set_pure (by rfl) (by rfl) (by rfl) (by rfl) _

theorem newTrace_keepsScopes (v : TraceObj) : KeepsScopes S A (newTrace v) :=
  KeepsScopes.get_bind fun _ => KeepsScopes.set_pure (by rfl) (by rfl) (by rfl) (by rfl) _

theorem isSampled_keepsScopes : KeepsScopes S A isSampled := by
  unfold isSampled
  refine KeepsScopes.get_bind fun v => ?_
  rcases v.settings.sampler.decide v.sampling with ⟨b, c⟩
  exact KeepsScopes.set_pure (by rfl) (by rfl) (by rfl) (by rfl) _

theorem nextSequence_keepsScopes : KeepsScopes S A nextSequence := by
  unfold nextSequence
  refine KeepsScopes.get_bind fun v => ?_
  rcases v.ids.nextSequence with ⟨n, ids⟩
  exact KeepsScopes.set_pure (by rfl) (by rfl) (by rfl) (by rfl) _

theorem newSpanId_keepsScopes : KeepsScopes S A newSpanId := by
  unfold newSpanId
  refine KeepsScopes.get_bind fun v => ?_
  cases v.ids.kind with
  | increment =>
    rcases v.ids.nextCountedSpan with ⟨s, ids⟩
    exact KeepsScopes.set_pure (by rfl) (by rfl) (by rfl) (by rfl) _
  | random =>
    -- generalized first: otherwise the kernel unfolds the random stream
    generalize v.rand.random = d
    rcases d with ⟨s, rand⟩
    exact KeepsScopes.set_pure (by rfl) (by rfl) (by rfl) (by rfl) _

theorem handOver_keepsScopes (fs : FinishedSpan) : KeepsScopes S A (handOver fs) := by
  intro w₀
  refine Runs.mono (handOver_runs fs) (fun w hw => ?_) (fun _ _ h => h) (fun _ h => h)
  rcases w.pipeline.onEnd fs with ⟨logs, panicked, pl⟩
  dsimp only
  split <;> exact hw.trans (ScopesKept.of_locals rfl rfl rfl rfl)

theorem releaseSpan_keepsScopes (s : SpanRef) : KeepsScopes S A (releaseSpan s) := by
  unfold releaseSpan
  refine KeepsScopes.bind (span_keepsScopes s) fun u => ?_
  rcases u.release with ⟨v, done, logs⟩
  refine KeepsScopes.bind (setSpan_keepsScopes s v) fun _ => ?_
  refine KeepsScopes.bind (emit_keepsScopes logs) fun _ => ?_
  cases done with
  | none => exact KeepsScopes.pure _
  | some fs => exact handOver_keepsScopes fs

/-- Work on the calling chain's state that keeps its slots. -/
theorem withChain_keepsScopes {f : ChainLocal → α × ChainLocal}
    (hf : ∀ c, (f c).2.slots = c.slots) : KeepsScopes S A (withChain f) := by
  unfold withChain
  refine KeepsScopes.bind storageAvailable_keepsScopes fun b => ?_
  split
  · exact KeepsScopes.pure _
  · refine KeepsScopes.get_bind fun v => ?_
    split
    next a c hac =>
    rw [putLocal_eq]
    refine Runs.bind (Runs.modify _ fun w hw => ?_) fun _ => Runs.pure _ fun _ h => h
    subst hw
    have hc : c.slots = w.chain.slots := by
      rw [show c = (f w.chain).2 by rw [World.chain, hac]]
      exact hf _
    refine ScopesKept.of_slots (by simp) (by simp) ⟨[], by simp⟩ fun j => ?_
    rw [World.slot_withLocal_here, Option.getD_some]
    simp only [ChainLocal.slot?, hc, World.slot]

theorem readChain_keepsScopes (f : Option ChainLocal → α) : KeepsScopes S A (readChain f) := by
  unfold readChain
  refine KeepsScopes.bind storageAvailable_keepsScopes fun b => ?_
  split
  · exact KeepsScopes.pure _
  · exact KeepsScopes.read _

theorem scopeId_keepsScopes (name : String) : KeepsScopes S A (scopeId name) := by
  unfold scopeId
  refine KeepsScopes.get_bind fun v => ?_
  split
  · exact Runs.pure _ fun _ h => h ▸ ScopesKept.refl _
  · refine Runs.bind (Runs.set _ fun _ _ => ?_) fun _ => Runs.pure _ fun _ h => h
    exact ⟨rfl, rfl, ⟨_, rfl⟩, fun _ _ => rfl, fun _ _ h => h, fun _ _ _ _ => rfl⟩

end Primitives


/-! ## A scope entered and left -/

section Around

variable {β : Type} {S A : Nat → Prop} {E : World → Prop}

/-- A scope entered around anything that keeps the scopes is back at its depth once it is left,
with its attachment if it was entered before; the last leave removes its slot. -/
theorem ScopesKept.around {id : Nat} (hS : S id) {w w' : World}
    (h : ScopesKept S A (w.entered id) w') :
    ScopesKept S A w (w'.left id) ∧ (w.depth id = 0 → (w'.left id).slot id = none) := by
  have hd : w'.depth id = w.depth id + 1 := by
    rw [h.depth id hS, World.depth_entered, if_pos rfl]
  obtain ⟨m, hm⟩ := h.names
  refine ⟨⟨by simp [h.here], by simp [h.gone], ⟨m, by simp [hm]⟩, fun j hj => ?_,
    fun j hj hn => ?_, fun j hj ha hpos => ?_⟩, fun h0 => World.slot_left_last (by omega)⟩
  · by_cases hji : j = id
    · subst hji
      rw [World.depth_left_self, hd, Nat.add_sub_cancel]
    · rw [World.depth_left_ne hji, h.depth j hj, World.depth_entered, if_neg hji]
  · by_cases hji : j = id
    · subst hji
      have h0 : w.depth j = 0 := by simp [World.depth, hn]
      exact World.slot_left_last (by omega)
    · rw [World.slot_left_ne hji]
      exact h.absent j hj (by rw [World.slot_entered, if_neg hji, hn])
  · have hpos' : 0 < (w.entered id).depth j := by
      rw [World.depth_entered]
      split <;> omega
    by_cases hji : j = id
    · subst hji
      rw [World.attachment_left_self (by omega), h.attachment j hj ha hpos',
        World.attachment_entered]
    · rw [World.attachment_left_ne hji, h.attachment j hj ha hpos', World.attachment_entered]

/-- A leave that finds no slot is ignored: it warns and changes no slot. -/
theorem scopeLeave_absent (id : Nat) {Q : Option Attachment → World → Prop} :
    Runs (fun w => w.chainUp = true ∧ w.slot id = none ∧ ∀ w', ScopesKept S A w w' → Q none w')
      (scopeLeave id) Q E := by
  unfold scopeLeave
  refine Runs.bind (Runs.mono (withChain_runs _) (fun w hw => ?_) (fun _ _ h => h) (fun _ h => h))
    (R := fun r w => r = .ok (false, none) ∧ ∀ e : LogEvent, Q none { w with logs := w.logs ++ [e].toArray })
    fun r => ?_
  · obtain ⟨hup, hs, hq⟩ := hw
    rw [hup, if_pos rfl]
    have hs' : w.chain.slot? id = none := hs
    rw [hs']
    refine ⟨rfl, fun e => hq _ ?_⟩
    refine ScopesKept.of_slots (by simp) (by simp) ⟨[], by simp⟩ fun j => ?_
    show (w.withLocal w.here (some w.chain)).slot j = w.slot j
    rw [World.slot_withLocal_here]
    rfl
  · intro w hw
    obtain ⟨rfl, hq⟩ := hw
    exact Runs.bind (E := E) (log_runs _ (Q := fun _ => Q none)) (fun _ => Runs.pure _ fun _ h => h) w
      (hq _)

/-- Entering a scope and leaving it at once leaves every scope as it was, whatever is done with
what the leave hands back. -/
theorem scopeEnter_leave_keepsScopes (id : Nat) (p : ExecutionPolicy)
    {K : Bool → Option Attachment → Agent β} (hK : ∀ e r, KeepsScopes S A (K e r)) :
    KeepsScopes S A (scopeEnter id p >>= fun e => scopeLeave id >>= fun r => K e r) := by
  refine KeepsScopes.of_step fun v => ?_
  cases hup : v.chainUp with
  | true =>
    refine Runs.bind (R := fun _ w => w = v.entered id)
      (Runs.mono (scopeEnter_runs id p) (fun w hw => ?_) (fun _ _ h => h) (fun _ h => h))
      fun e => ?_
    · subst hw
      exact ⟨hup, rfl⟩
    refine Runs.bind (R := fun _ w => ScopesKept S A v w)
      (Runs.mono (scopeLeave_runs id) (fun w hw => ?_) (fun _ _ h => h) (fun _ h => h))
      fun r => hK e r v
    subst hw
    -- the entered scope counts among the kept ones for as long as it is entered
    have hkept := ((ScopesKept.refl (S := fun j => S j ∨ j = id) (A := A) (v.entered id)).around
      (Or.inr rfl)).1
    refine ⟨by simpa using hup, by simp [World.slot_entered], hkept.mono fun j hj => Or.inl hj⟩
  | false =>
    have hP : ∀ w, (ScopesKept S A v w ∧ w.chainUp = false) → w.chainUp = false := fun _ h => h.2
    have hlog : ∀ w (e : LogEvent), (ScopesKept S A v w ∧ w.chainUp = false) →
        (ScopesKept S A v { w with logs := w.logs ++ [e].toArray } ∧
          ({ w with logs := w.logs ++ [e].toArray } : World).chainUp = false) :=
      fun _ _ h => ⟨h.1.trans (ScopesKept.of_locals rfl rfl rfl rfl), h.2⟩
    refine Runs.bind (Runs.mono (scopeEnter_down hP hlog id p) (fun w hw => ?_) (fun _ _ h => h)
      (fun _ h => h)) fun e => Runs.bind (scopeLeave_down hP hlog id) fun r => ?_
    · subst hw
      exact ⟨ScopesKept.refl _, hup⟩
    exact Runs.mono (hK e r v) (fun _ h => h.1) (fun _ _ h => h) (fun _ h => h)

end Around

/-! ## The operations a dropped attachment runs -/

section Drops

variable {α β : Type} {S A : Nat → Prop}

theorem scopeDepth_keepsScopes (id : Nat) : KeepsScopes S A (scopeDepth id) := by
  unfold scopeDepth
  refine KeepsScopes.bind (readChain_keepsScopes _) fun r => ?_
  split <;> exact KeepsScopes.pure _

theorem currentRaw_keepsScopes : KeepsScopes S A currentRaw := by
  unfold currentRaw
  refine KeepsScopes.bind (readChain_keepsScopes _) fun r => ?_
  split <;> exact KeepsScopes.pure _

theorem ensureUnbound_keepsScopes : KeepsScopes S A ensureUnbound := by
  unfold ensureUnbound
  refine KeepsScopes.bind currentRaw_keepsScopes fun r => ?_
  split
  · exact KeepsScopes.bind (log_keepsScopes _) fun _ => KeepsScopes.pure _
  · exact KeepsScopes.pure _

theorem bindTrace_keepsScopes (t : TraceRef) : KeepsScopes S A (bindTrace t) := by
  unfold bindTrace
  refine KeepsScopes.bind (withChain_keepsScopes fun c => ?_) fun r => ?_
  · unfold ChainLocal.bindTrace
    split <;> rfl
  · split <;> exact KeepsScopes.pure _

theorem bindNew_keepsScopes (t : TraceRef) : KeepsScopes S A (bindNew t) := by
  unfold bindNew
  refine KeepsScopes.bind (bindTrace_keepsScopes t) fun r => ?_
  split <;> exact KeepsScopes.pure _

theorem removeTraceObject_keepsScopes : KeepsScopes S A removeTraceObject := by
  unfold removeTraceObject
  refine KeepsScopes.bind (withChain_keepsScopes fun _ => rfl) fun r => ?_
  split <;> exact KeepsScopes.pure _

theorem recordingTrace_keepsScopes (tid : TraceId) : KeepsScopes S A (recordingTrace tid) :=
  KeepsScopes.bind settings_keepsScopes fun _ =>
    KeepsScopes.bind (newSpan_keepsScopes _) fun _ => newTrace_keepsScopes _

theorem newTraceObject_keepsScopes : KeepsScopes S A newTraceObject := by
  unfold newTraceObject
  refine KeepsScopes.bind ensureUnbound_keepsScopes fun r => ?_
  split
  · exact KeepsScopes.pure _
  · refine KeepsScopes.bind isSampled_keepsScopes fun b => ?_
    extract_lets bindIt
    split
    · exact KeepsScopes.bind settings_keepsScopes fun _ =>
        KeepsScopes.bind nextSequence_keepsScopes fun _ =>
          KeepsScopes.bind newSpanId_keepsScopes fun _ =>
            KeepsScopes.bind (recordingTrace_keepsScopes _) bindNew_keepsScopes
    · exact KeepsScopes.bind (newTrace_keepsScopes _) bindNew_keepsScopes

theorem ownsBranch_keepsScopes (sp : SpanRef) (t : TraceRef) : KeepsScopes S A (ownsBranch sp t) :=
  KeepsScopes.bind (trace_keepsScopes t) fun _ => KeepsScopes.pure _

theorem spanReachable_keepsScopes (s : SpanRef) : KeepsScopes S A (spanReachable s) :=
  KeepsScopes.read _

theorem continueAsync_keepsScopes (a : AsyncRef) : KeepsScopes S A (continueAsync a) := by
  unfold continueAsync
  refine KeepsScopes.bind (asyncObj_keepsScopes a) fun obj => ?_
  split
  · refine KeepsScopes.bind currentRaw_keepsScopes fun r => ?_
    split
    · refine KeepsScopes.bind (trace_keepsScopes _) fun o => ?_
      split
      · exact KeepsScopes.pure _
      · exact KeepsScopes.bind (log_keepsScopes _) fun _ => KeepsScopes.pure _
    · refine KeepsScopes.bind (newTrace_keepsScopes _) fun t => ?_
      refine KeepsScopes.bind (bindTrace_keepsScopes t) fun r => ?_
      split <;> exact KeepsScopes.pure _
  · refine KeepsScopes.bind currentRaw_keepsScopes fun r => ?_
    split
    · refine KeepsScopes.bind (ownsBranch_keepsScopes _ _) fun b => ?_
      split
      · exact KeepsScopes.pure _
      · exact KeepsScopes.bind (log_keepsScopes _) fun _ => KeepsScopes.pure _
    · refine KeepsScopes.bind ?_ fun acquired => ?_
      · refine KeepsScopes.bind (spanReachable_keepsScopes _) fun b => ?_
        split
        · exact KeepsScopes.pure _
        · refine KeepsScopes.bind (span_keepsScopes _) fun u => ?_
          split
          · exact KeepsScopes.bind (setSpan_keepsScopes _ _) fun _ => KeepsScopes.pure _
          · exact KeepsScopes.pure _
      split
      · exact KeepsScopes.bind (log_keepsScopes _) fun _ => KeepsScopes.pure _
      refine KeepsScopes.bind (setAsync_keepsScopes _ _) fun _ => ?_
      refine KeepsScopes.bind settings_keepsScopes fun _ => ?_
      refine KeepsScopes.bind (newTrace_keepsScopes _) fun t => ?_
      refine KeepsScopes.bind (bindTrace_keepsScopes t) fun r => ?_
      split
      · exact KeepsScopes.pure _
      refine KeepsScopes.bind (log_keepsScopes _) fun _ => ?_
      refine KeepsScopes.bind (asyncObj_keepsScopes a) fun obj => ?_
      extract_lets giveBack
      have hgive : ∀ u, KeepsScopes S A (giveBack u) := fun _ =>
        KeepsScopes.bind (releaseSpan_keepsScopes _) fun _ => KeepsScopes.pure _
      split
      · exact KeepsScopes.bind (setAsync_keepsScopes _ _) hgive
      · exact hgive ()

theorem dropAsyncRef_keepsScopes (a : AsyncRef) : KeepsScopes S A (dropAsyncRef a) := by
  unfold dropAsyncRef
  refine KeepsScopes.bind (asyncObj_keepsScopes a) fun obj => ?_
  refine KeepsScopes.bind (setAsync_keepsScopes _ _) fun _ => ?_
  split
  · exact KeepsScopes.pure _
  split
  · exact KeepsScopes.pure _
  split
  · exact KeepsScopes.pure _
  refine KeepsScopes.bind (setAsync_keepsScopes _ _) fun _ => ?_
  extract_lets unfinished releaseBranches giveBack
  have hbranches : ∀ u, KeepsScopes S A (releaseBranches u) := fun _ =>
    KeepsScopes.bind (KeepsScopes.forIn _ _ fun _ =>
      KeepsScopes.bind (releaseSpan_keepsScopes _) fun _ => KeepsScopes.pure _) fun _ =>
        KeepsScopes.pure _
  have hgive : ∀ u, KeepsScopes S A (giveBack u) := by
    intro u
    show KeepsScopes S A (if _ then _ else _)
    split
    · exact KeepsScopes.bind (releaseSpan_keepsScopes _) hbranches
    · exact hbranches ()
  split
  · exact KeepsScopes.bind (log_keepsScopes _) hgive
  · exact hgive ()

/-- The calling thread's own chain state is put back over whatever the detached work left. -/
theorem ScopesKept.restore {v w : World} {c : Option ChainLocal}
    (h : ScopesKept (fun _ => False) (fun _ => False) (v.withLocal v.here c) w) :
    ScopesKept S A v (w.withLocal v.here (localOf v v.here)) := by
  have hh : w.here = v.here := by rw [h.here, World.here_withLocal]
  obtain ⟨m, hm⟩ := h.names
  refine ScopesKept.of_slots (by simp [hh]) (by simp [h.gone]) ⟨m, by simp [hm]⟩ fun j => ?_
  have hs := World.slot_withLocal_here w (localOf v v.here) j
  rw [hh] at hs
  rw [hs]
  rfl

theorem withDetached_keepsScopes (c : Option ChainLocal) {k : Agent α}
    (hk : ∀ S A, KeepsScopes S A k) : KeepsScopes S A (withDetached c k) := by
  unfold withDetached
  refine KeepsScopes.bind storageAvailable_keepsScopes fun b => ?_
  split
  · exact KeepsScopes.bind (hk S A) fun _ => KeepsScopes.pure _
  · refine KeepsScopes.get_bind fun v => ?_
    refine Runs.bind (R := fun _ w => w = v.withLocal v.here c)
      (by rw [putLocal_eq]; exact Runs.modify _ fun w hw => hw ▸ rfl) fun _ => ?_
    dsimp only
    -- the work runs on the swapped-in state; only the thread, its storage and the names it
    -- keeps matter, since the calling thread's own state is put back afterwards
    have hrestore : ∀ {E' : World → Prop}, Runs
        (ScopesKept (fun _ => False) (fun _ => False) (v.withLocal v.here c))
        (do
          let u ← MonadState.get
          putLocal v.here (localOf v v.here)
          Pure.pure (localOf u v.here) : Agent (Option ChainLocal))
        (fun _ => ScopesKept S A v) E' := by
      intro E'
      refine Runs.bind (Runs.get fun w hw => hw) fun u => ?_
      rw [putLocal_eq]
      exact Runs.bind (Runs.modify _ fun w hw => hw.restore) fun _ => Runs.pure _ fun _ h => h
    refine Runs.bind (Runs.tryCatch (Runs.mono (hk _ _ _) (fun w hw => hw ▸ ScopesKept.refl _)
      (fun _ _ h => h) (fun _ h => h)) fun e => Runs.bind hrestore fun _ => Runs.throw e fun _ h => h)
      fun a => Runs.bind hrestore fun _ => Runs.pure _ fun _ h => h

/-- Dropping values with any fuel leaves every scope as it was: a hook enters and leaves its own
scope before it does anything else, and the rest of what it does never touches a slot. -/
theorem drop_keepsScopes (fuel : Nat) :
    (∀ x, KeepsScopes S A (dropAttachment fuel x)) ∧
      (∀ c, KeepsScopes S A (dropChainLocal fuel c)) ∧
      ∀ xs, KeepsScopes S A (dropAttachments fuel xs) := by
  -- a list is dropped one attachment after another, at the same fuel
  have hlist : ∀ fuel, (∀ x, KeepsScopes S A (dropAttachment fuel x)) →
      ∀ xs, KeepsScopes S A (dropAttachments fuel xs) := by
    intro fuel h xs
    induction xs with
    | nil =>
      rw [dropAttachments.eq_def]
      exact KeepsScopes.pure _
    | cons x rest ih =>
      rw [dropAttachments.eq_def]
      exact KeepsScopes.bind (h x) fun _ => ih
  induction fuel with
  | zero =>
    have h0 : ∀ x, KeepsScopes S A (dropAttachment 0 x) := fun x => by
      rw [dropAttachment.eq_def]
      exact KeepsScopes.pure _
    refine ⟨h0, fun c => ?_, hlist 0 h0⟩
    rw [dropChainLocal.eq_def]
    exact KeepsScopes.pure _
  | succ fuel ih =>
    have h1 : ∀ x, KeepsScopes S A (dropAttachment (fuel + 1) x) := by
      intro x
      cases x with
      | hook s a =>
        rw [dropAttachment.eq_def]
        dsimp -zeta only
        refine KeepsScopes.bind (scopeId_keepsScopes s) fun id => ?_
        refine scopeEnter_leave_keepsScopes id _ fun enter left => ?_
        extract_lets afterLeave
        -- once its scope is left, nothing the hook does touches a slot
        have hafter : ∀ u, KeepsScopes S A (afterLeave u) := by
          intro u
          simp -zeta only [afterLeave]
          refine KeepsScopes.bind (scopeDepth_keepsScopes id) fun depth => ?_
          refine KeepsScopes.bind currentRaw_keepsScopes fun raw => ?_
          extract_lets current afterCreate
          have hcreate : ∀ c, KeepsScopes S A (afterCreate c) := by
            intro c
            simp -zeta only [afterCreate]
            refine KeepsScopes.bind (withDetached_keepsScopes none fun _ _ =>
              KeepsScopes.bind currentRaw_keepsScopes fun _ => KeepsScopes.pure _) fun polled => ?_
            refine KeepsScopes.bind (ih.2.1 _) fun _ => ?_
            extract_lets finish
            have hfinish : ∀ r, KeepsScopes S A (finish r) := by
              intro r
              simp -zeta only [finish]
              refine KeepsScopes.bind (note_keepsScopes _) fun _ => ?_
              split
              · exact dropAsyncRef_keepsScopes _
              · exact KeepsScopes.pure _
            split
            · refine KeepsScopes.bind (continueAsync_keepsScopes _) fun resumed => ?_
              split
              · exact KeepsScopes.bind removeTraceObject_keepsScopes fun _ =>
                  KeepsScopes.bind (KeepsScopes.pure _) hfinish
              · exact KeepsScopes.bind (KeepsScopes.pure _) hfinish
            · exact KeepsScopes.bind (KeepsScopes.pure _) hfinish
          refine KeepsScopes.bind newTraceObject_keepsScopes fun created => ?_
          split
          · exact KeepsScopes.bind removeTraceObject_keepsScopes fun _ =>
              KeepsScopes.bind (KeepsScopes.pure _) hcreate
          · exact KeepsScopes.bind (KeepsScopes.pure _) hcreate
        split
        · exact KeepsScopes.bind (ih.1 _) hafter
        · exact hafter ()
      | _ =>
        rw [dropAttachment.eq_def]
        exact KeepsScopes.pure _
    refine ⟨h1, fun c => ?_, hlist (fuel + 1) h1⟩
    rw [dropChainLocal.eq_def]
    cases c with
    | none => exact KeepsScopes.pure _
    | some c => exact ih.2.2 _

theorem dropMaybe_keepsScopes (x : Option Attachment) : KeepsScopes S A (dropMaybe x) := by
  cases x with
  | none => exact KeepsScopes.pure _
  | some x => exact (drop_keepsScopes dropFuel).1 x

end Drops

end Agent
end TraceAgent
