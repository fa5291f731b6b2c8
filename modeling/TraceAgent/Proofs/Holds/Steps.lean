import TraceAgent.Agent.Async
import TraceAgent.Proofs.Holds.Ledger

/-!
# Each operation keeps the ledger balanced

The operations that move holds, one lemma each: opening and sealing frames, closing and
discarding traces, starting a transaction, handing work off to an async context, resuming,
finishing, cloning and dropping it. Each is a triple over the ledger (`LRuns`): from a sound and
balanced ledger the operation ends, normally or by a panic, in a sound and balanced ledger.

The proofs read the code top to bottom. Between two updates the ledger is balanced except at
the span the operation works on, and the intermediate assertion says by how much: after an
async context gives back its holds and before the span's count follows, the span counts
`1 + creation` more than it is owed, and each `releaseSpan` takes one off. A panic can only
come from the pipeline when a span finishes, and a finished span is no longer open, so the
ledger at a panic is balanced as well (`releaseSpan_lruns`).
-/

namespace TraceAgent
namespace Agent

/-- A triple whose assertions read only the ledger. -/
def LRuns {α : Type} (P : Ledger → Prop) (k : Agent α) (Q : α → Ledger → Prop)
    (E : Ledger → Prop) : Prop :=
  Runs (fun w => P w.ledger) k (fun a w => Q a w.ledger) (fun w => E w.ledger)

section Rules

variable {α β : Type} {P P' : Ledger → Prop} {Q Q' : α → Ledger → Prop} {E E' : Ledger → Prop}

theorem LRuns.mono {k : Agent α} (h : LRuns P k Q E) (hP : ∀ l, P' l → P l)
    (hQ : ∀ a l, Q a l → Q' a l) (hE : ∀ l, E l → E' l) : LRuns P' k Q' E' :=
  Runs.mono h (fun w => hP w.ledger) (fun a w => hQ a w.ledger) (fun w => hE w.ledger)

theorem LRuns.bind {k : Agent α} {f : α → Agent β} {R : α → Ledger → Prop} {Q : β → Ledger → Prop}
    (hk : LRuns P k R E) (hf : ∀ a, LRuns (R a) (f a) Q E) : LRuns P (k >>= f) Q E :=
  Runs.bind hk hf

theorem LRuns.pure (a : α) (h : ∀ l, P l → Q a l) : LRuns P (Pure.pure a) Q E :=
  fun w hw => h w.ledger hw

/-- A program that returns, never panics, and leaves the ledger as it found it. -/
def KeepsLedger (k : Agent α) : Prop :=
  ∀ L, Runs (fun w => w.ledger = L) k (fun _ w => w.ledger = L) (fun _ => False)

/-- A program that keeps the ledger keeps every assertion about it. -/
theorem LRuns.of_keeps {k : Agent α} (h : KeepsLedger k) : LRuns P k (fun _ => P) E := by
  intro w hw
  have hrun := h w.ledger w rfl
  revert hrun
  cases k.run w with
  | ok _ w' =>
    intro heq
    show P w'.ledger
    rw [show w'.ledger = w.ledger from heq]
    exact hw
  | error _ _ => exact False.elim

theorem KeepsLedger.bind {k : Agent α} {f : α → Agent β} (hk : KeepsLedger k)
    (hf : ∀ a, KeepsLedger (f a)) : KeepsLedger (k >>= f) :=
  fun L => Runs.bind (hk L) fun a => hf a L

theorem KeepsLedger.pure (a : α) : KeepsLedger (Pure.pure a : Agent α) := fun _ _ hw => hw

theorem KeepsLedger.get : KeepsLedger (MonadState.get : Agent World) := fun _ _ hw => hw

/-- Reading the world and going on with a program that keeps the ledger of the world read. -/
theorem KeepsLedger.get_bind {f : World → Agent α}
    (hf : ∀ v, Runs (fun w => w = v) (f v) (fun _ w => w.ledger = v.ledger) (fun _ => False)) :
    KeepsLedger (MonadState.get >>= f) := by
  intro L
  refine Runs.bind (R := fun v w => w = v ∧ v.ledger = L) (Runs.get fun w hw => ⟨rfl, hw⟩)
    fun v => ?_
  by_cases hv : v.ledger = L
  · subst hv
    exact Runs.mono (hf v) (fun w hw => hw.1) (fun _ _ h => h) (fun _ h => h)
  · exact Runs.of_false fun w hw => hv hw.2

theorem KeepsLedger.modify {f : World → World} (h : ∀ w, (f w).ledger = w.ledger) :
    KeepsLedger (modify f : Agent PUnit) := fun _ w hw => (h w).trans hw

/-- A fact that the precondition implies may be assumed. -/
theorem LRuns.of_pre {k : Agent α} {φ : Prop} (hφ : ∀ l, P l → φ) (h : φ → LRuns P k Q E) :
    LRuns P k Q E :=
  fun w hw => h (hφ _ hw) w hw

/-- A loop over a list, with an invariant indexed by the items still to come. -/
theorem LRuns.forIn {γ : Type} (xs : List γ) (f : γ → PUnit → Agent (ForInStep PUnit))
    (I : List γ → Ledger → Prop)
    (hstep : ∀ x rest, LRuns (I (x :: rest)) (f x ⟨⟩) (fun r l => match r with
      | .yield _ => I rest l
      | .done _ => I [] l) E) :
    LRuns (I xs) (ForIn.forIn xs ⟨⟩ f) (fun _ => I []) E :=
  Runs.forIn xs f (fun ys w => I ys w.ledger) fun x rest => hstep x rest

/-- The ledger does not depend on the thread an operation runs on. -/
theorem LRuns.onThread {k : Agent α} (th : Thread) (h : LRuns P k Q E) :
    LRuns P (onThread th k) Q E :=
  onThread_runs th fun _ => Runs.mono h (fun _ hw => hw.1) (fun _ _ hq => hq) (fun _ he => he)

end Rules

/-! ## The primitives, read through the ledger -/

section Primitives

variable {α : Type} {P : Ledger → Prop} {E : Ledger → Prop}

theorem span_lruns (s : SpanRef) : LRuns P (span s) (fun u l => P l ∧ u = l.span s) E :=
  fun _ hw => ⟨hw, rfl⟩

theorem trace_lruns (t : TraceRef) : LRuns P (trace t) (fun u l => P l ∧ u = l.trace t) E :=
  fun _ hw => ⟨hw, rfl⟩

theorem asyncObj_lruns (a : AsyncRef) : LRuns P (asyncObj a) (fun u l => P l ∧ u = l.async a) E :=
  fun _ hw => ⟨hw, rfl⟩

theorem setSpan_lruns (s : SpanRef) (v : SpanState) {Q : Unit → Ledger → Prop} :
    LRuns (fun l => Q () (l.setSpan s v)) (setSpan s v) Q E :=
  fun _ hw => hw

theorem setTrace_lruns (t : TraceRef) (v : TraceObj) {Q : Unit → Ledger → Prop} :
    LRuns (fun l => Q () (l.setTrace t v)) (setTrace t v) Q E :=
  fun _ hw => hw

theorem setAsync_lruns (a : AsyncRef) (v : AsyncObj) {Q : Unit → Ledger → Prop} :
    LRuns (fun l => Q () (l.setAsync a v)) (setAsync a v) Q E :=
  fun _ hw => hw

theorem newSpan_lruns (v : SpanState) {Q : SpanRef → Ledger → Prop} :
    LRuns (fun l => Q l.spans.size (l.pushSpan v)) (newSpan v) Q E :=
  fun _ hw => hw

theorem newTrace_lruns (v : TraceObj) {Q : TraceRef → Ledger → Prop} :
    LRuns (fun l => Q l.traces.size (l.pushTrace v)) (newTrace v) Q E :=
  fun _ hw => hw

theorem newAsync_lruns (v : AsyncKind) {Q : AsyncRef → Ledger → Prop} :
    LRuns (fun l => Q l.asyncs.size (l.pushAsync ⟨v, 1⟩)) (newAsync v) Q E :=
  fun _ hw => hw

theorem emit_lruns (es : List LogEvent) : LRuns P (emit es) (fun _ => P) E := fun _ hw => hw

theorem log_lruns (e : LogEvent) : LRuns P (log e) (fun _ => P) E := fun _ hw => hw

theorem note_lruns (line : String) : LRuns P (note line) (fun _ => P) E := fun _ hw => hw

theorem settings_lruns : LRuns P settings (fun _ => P) E := fun _ hw => hw

theorem emit_keepsLedger (es : List LogEvent) : KeepsLedger (emit es) := fun _ _ hw => hw

theorem log_keepsLedger (e : LogEvent) : KeepsLedger (log e) := fun _ _ hw => hw

theorem note_keepsLedger (line : String) : KeepsLedger (note line) := fun _ _ hw => hw

theorem settings_keepsLedger : KeepsLedger settings := fun _ _ hw => hw

/-- Handing a span over leaves the ledger alone, also when it panics. -/
theorem handOver_lruns (fs : FinishedSpan) : LRuns P (handOver fs) (fun _ => P) P := by
  refine Runs.mono (handOver_runs fs) (fun w hw => ?_) (fun _ _ h => h) (fun _ h => h)
  dsimp only
  split <;> exact hw

/-- Giving back a hold moves the ledger as `SpanState.release` says. A panic comes only from the
pipeline, after the release that closed the span. -/
theorem releaseSpan_lruns (s : SpanRef) {P : Ledger → Prop} :
    LRuns (fun l => P (l.setSpan s (l.span s).release.1)) (releaseSpan s) (fun _ => P)
      (fun l => P l ∧ (s < l.spans.size → (l.span s).isOpen = false)) := by
  unfold releaseSpan
  refine LRuns.bind (span_lruns s) fun u => ?_
  rcases hr : u.release with ⟨v, done, logs⟩
  dsimp only
  refine LRuns.bind
    (R := fun _ l => P l ∧ (done.isSome → s < l.spans.size → (l.span s).isOpen = false))
    (LRuns.mono (setSpan_lruns s v) (fun l hl => ?_) (fun _ _ h => h) (fun _ h => h)) fun _ => ?_
  · obtain ⟨hP, rfl⟩ := hl
    rw [hr] at hP
    refine ⟨hP, fun hd hs => ?_⟩
    rw [Ledger.size_setSpan] at hs
    rw [Ledger.span_setSpan_self v hs]
    obtain ⟨fs, hfs⟩ := Option.isSome_iff_exists.1 hd
    have hclosed := @SpanState.release_closes (l.span s) fs (by rw [hr]; exact hfs)
    rwa [hr] at hclosed
  refine LRuns.bind (emit_lruns logs) fun _ => ?_
  cases done with
  | none => exact LRuns.pure () fun _ hl => hl.1
  | some fs =>
    exact LRuns.mono (handOver_lruns fs) (fun _ hl => hl) (fun _ _ hl => hl.1)
      (fun _ hl => ⟨hl.1, hl.2 rfl⟩)

end Primitives

/-! ## The chain and the counters leave the ledger alone -/

theorem storageAvailable_keepsLedger : KeepsLedger storageAvailable := fun _ _ hw => hw

theorem withChain_keepsLedger {α : Type} (f : ChainLocal → α × ChainLocal) :
    KeepsLedger (withChain f) := by
  unfold withChain putLocal
  refine KeepsLedger.bind storageAvailable_keepsLedger fun b => ?_
  split
  · exact KeepsLedger.pure _
  · refine KeepsLedger.bind KeepsLedger.get fun w₀ => ?_
    split
    refine KeepsLedger.bind (KeepsLedger.modify fun w => ?_) fun _ => KeepsLedger.pure _
    split <;> (try split) <;> rfl

theorem readChain_keepsLedger {α : Type} (f : Option ChainLocal → α) :
    KeepsLedger (readChain f) := by
  unfold readChain
  refine KeepsLedger.bind storageAvailable_keepsLedger fun b => ?_
  split
  · exact KeepsLedger.pure _
  · exact KeepsLedger.bind KeepsLedger.get fun _ => KeepsLedger.pure _

theorem trace_keepsLedger (t : TraceRef) : KeepsLedger (trace t) :=
  KeepsLedger.bind KeepsLedger.get fun _ => KeepsLedger.pure _

theorem ownsBranch_keepsLedger (sp : SpanRef) (t : TraceRef) : KeepsLedger (ownsBranch sp t) :=
  KeepsLedger.bind (trace_keepsLedger t) fun _ => KeepsLedger.pure _

theorem currentRaw_keepsLedger : KeepsLedger currentRaw := by
  unfold currentRaw
  refine KeepsLedger.bind (readChain_keepsLedger _) fun r => ?_
  split <;> exact KeepsLedger.pure _

theorem bindTrace_keepsLedger (t : TraceRef) : KeepsLedger (bindTrace t) := by
  unfold bindTrace
  refine KeepsLedger.bind (withChain_keepsLedger _) fun r => ?_
  split <;> exact KeepsLedger.pure _

theorem bindNew_keepsLedger (t : TraceRef) : KeepsLedger (bindNew t) := by
  unfold bindNew
  refine KeepsLedger.bind (bindTrace_keepsLedger t) fun r => ?_
  split <;> exact KeepsLedger.pure _

theorem removeTraceObject_keepsLedger : KeepsLedger removeTraceObject := by
  unfold removeTraceObject
  refine KeepsLedger.bind (withChain_keepsLedger _) fun r => ?_
  split <;> exact KeepsLedger.pure _

theorem ensureUnbound_keepsLedger : KeepsLedger ensureUnbound := by
  unfold ensureUnbound
  refine KeepsLedger.bind currentRaw_keepsLedger fun r => ?_
  split
  · exact KeepsLedger.bind (log_keepsLedger _) fun _ => KeepsLedger.pure _
  · exact KeepsLedger.pure _

/-- Writing back a world with the ledger of the world read, and returning. -/
theorem set_pure_keeps {α : Type} {v w' : World} (h : w'.ledger = v.ledger) (a : α) :
    Runs (fun w => w = v) (MonadState.set w' >>= fun _ => Pure.pure a : Agent α)
      (fun _ w => w.ledger = v.ledger) (fun _ => False) :=
  Runs.bind (Runs.set _ fun _ _ => h) fun _ => Runs.pure _ fun _ h => h

theorem isSampled_keepsLedger : KeepsLedger isSampled := by
  unfold isSampled
  refine KeepsLedger.get_bind fun v => ?_
  rcases v.settings.sampler.decide v.sampling with ⟨b, c⟩
  dsimp only
  exact set_pure_keeps (by rfl) _

theorem nextSequence_keepsLedger : KeepsLedger nextSequence := by
  unfold nextSequence
  refine KeepsLedger.get_bind fun v => ?_
  rcases v.ids.nextSequence with ⟨n, ids⟩
  dsimp only
  exact set_pure_keeps (by rfl) _

theorem nextAsyncId_keepsLedger : KeepsLedger nextAsyncId := by
  unfold nextAsyncId
  refine KeepsLedger.get_bind fun v => ?_
  rcases v.ids.nextAsync with ⟨a, ids⟩
  dsimp only
  exact set_pure_keeps (by rfl) _

theorem newSpanId_keepsLedger : KeepsLedger newSpanId := by
  unfold newSpanId
  refine KeepsLedger.get_bind fun v => ?_
  cases v.ids.kind with
  | increment =>
    rcases v.ids.nextCountedSpan with ⟨s, ids⟩
    dsimp only
    exact set_pure_keeps (by rfl) _
  | random =>
    -- generalized first: otherwise the kernel unfolds the random stream
    generalize v.rand.random = d
    rcases d with ⟨s, rand⟩
    dsimp only
    exact set_pure_keeps (by rfl) _

theorem spanReachable_keepsLedger (s : SpanRef) : KeepsLedger (spanReachable s) := by
  unfold spanReachable
  exact KeepsLedger.bind KeepsLedger.get fun _ => KeepsLedger.pure _

end Agent
end TraceAgent
