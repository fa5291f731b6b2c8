import Mathlib
import TraceAgent.Proofs.Chains.Starts
import TraceAgent.Proofs.Holds.Accounting

/-!
# Resuming an async context

A resume (`continueAsync`) takes a hold on the span, counts one more started branch in the
context, gives the branch the next number, and only then binds it to the chain. A bind that fails
takes the start and the hold back, but not the number. What a resume leaves behind depends on where
it stops:

* on a bound chain it returns the bound trace if that is a branch of the same span, and otherwise
  nothing; either way only the log changes (`continueAsync_run_bound`);
* when the span is out of reach or takes no more holds, it logs and returns nothing
  (`continueAsync_run_closed`);
* on a live unbound chain it binds a fresh branch numbered one past the counter
  (`continueAsync_run_fresh`);
* on a torn-down chain the bind fails: the hold is given back and the context's holds are as
  before, provided its pin followed its debt; the counter stays moved on
  (`continueAsync_run_unbindable_sound`).

`continueAsync_run_cases` says that these are all the ends. A finish that answers `false` changes
nothing but the log (`finishAsync_run_false`). Over a run of resumes, finishes, clones and drops,
a context's counter moves on by at most one at each of its own resumes and never otherwise
(`AsyncOp.run_advance`), so its fresh branches carry numbers among those the counter moved
through, in order (`runAsyncOps_counted`). The counter is 32 bits wide: the numbers repeat none
while it does not go round (`numberedOn_nodup_iff`), and once it has, a resume numbers a branch as
the first branch, which may still run (`branch_number_repeats_after_wrap`).

Main statement: `async_resume_is_atomic`.
-/

namespace TraceAgent

/-- Writing back what an index holds changes nothing. -/
theorem Array.setIfInBounds_getD_self {α : Type} (xs : Array α) (i : Nat) (d : α) :
    xs.setIfInBounds i (xs[i]?.getD d) = xs := by
  by_cases h : i < xs.size
  · simp [Array.setIfInBounds, h]
  · exact Array.setIfInBounds_eq_of_size_le (Nat.le_of_not_lt h)

namespace Holds

/-- The holds of a context that resumes a branch: one more started, and the span pinned. -/
def start (h : Holds) : Holds := { h with started := h.started + 1, pinned := true }

/-- The holds once a start is taken back: one started less, unpinned if nothing is owed. -/
def unstart (h : Holds) : Holds :=
  let h := { h with started := h.started - 1 }
  if h.settled then { h with pinned := false } else h

/-- A start taken back leaves a context whose pin follows its debt as it was. -/
theorem unstart_start {h : Holds} (hp : h.pinned = !h.settled) : h.start.unstart = h := by
  rcases h with ⟨pinned, creation, started, finished⟩
  simp only [start, unstart, settled, Nat.add_sub_cancel] at hp ⊢
  split <;> simp_all

end Holds

namespace AsyncKind

/-- What a context hands its branches: its hand-off id and the last branch number given out. -/
def numbering : AsyncKind → Option (AsyncId × UInt32)
  | .recording _ _ aid br _ => some (aid, br)
  | .disabled => none

end AsyncKind

/-- The numbering of the context at `a` in a table of contexts; none past its end. -/
def numberOf (A : Array AsyncObj) (a : AsyncRef) : Option (AsyncId × UInt32) :=
  A[a]?.bind fun o => o.kind.numbering

section NumberOf

variable {A : Array AsyncObj} {a a' : AsyncRef} {v : AsyncObj}

theorem numberOf_of_kind {sp : SpanRef} {tid : TraceId} {aid : AsyncId} {br : UInt32} {hs : Holds}
    {refs : Nat} (h : A[a]? = some ⟨.recording sp tid aid br hs, refs⟩) :
    numberOf A a = some (aid, br) := by
  simp [numberOf, h, AsyncKind.numbering]

/-- A recording context is what a numbering reads. -/
theorem exists_of_numberOf {aid : AsyncId} {br : UInt32} (h : numberOf A a = some (aid, br)) :
    ∃ sp tid hs refs, A[a]? = some ⟨.recording sp tid aid br hs, refs⟩ := by
  unfold numberOf at h
  obtain ⟨⟨kind, refs⟩, ho, hk⟩ := Option.bind_eq_some_iff.1 h
  cases kind with
  | recording sp tid aid' br' hs =>
    simp only [AsyncKind.numbering, Option.some.injEq, Prod.mk.injEq] at hk
    obtain ⟨rfl, rfl⟩ := hk
    exact ⟨sp, tid, hs, refs, ho⟩
  | disabled => simp [AsyncKind.numbering] at hk

/-- Replacing a context keeps the numbering of every other one, and its own when the new kind
numbers as the old. -/
theorem numberOf_set (h : a' ≠ a ∨ v.kind.numbering = (A[a']?.getD default).kind.numbering) :
    numberOf (A.set! a' v) a = numberOf A a := by
  by_cases heq : a' = a
  · subst heq
    have hk := h.resolve_left (not_not.2 rfl)
    by_cases hlt : a' < A.size
    · simp [numberOf, hlt, hk]
    · simp [numberOf, Array.setIfInBounds_eq_of_size_le (Nat.le_of_not_lt hlt)]
  · simp [numberOf, heq]

/-- Replacing a context by one of a kind that numbers as `n` keeps the context's kind numbering
as `n`. -/
theorem numbering_set_self {n : Option (AsyncId × UInt32)}
    (hA : (A[a']?.getD default).kind.numbering = n) (hv : v.kind.numbering = n) :
    ((A.set! a' v)[a']?.getD default).kind.numbering = n := by
  by_cases hlt : a' < A.size
  · simp [hlt, hv]
  · rw [Array.set!_eq_setIfInBounds, Array.setIfInBounds_eq_of_size_le (Nat.le_of_not_lt hlt)]
    exact hA

end NumberOf

namespace Agent

variable {w u : World} {a : AsyncRef} {sp : SpanRef} {tid : TraceId} {aid : AsyncId} {br : UInt32}
  {hs : Holds} {refs : Nat}

/-! ## The steps of a resume -/

theorem asyncObj_run_of {o : AsyncObj} (h : w.asyncs[a]? = some o) :
    (asyncObj a).run w = .ok o w := by
  show EStateM.Result.ok (w.asyncs[a]?.getD default) w = _
  rw [h]
  rfl

theorem span_run (s : SpanRef) (w : World) : (span s).run w = .ok (w.spans[s]?.getD default) w := rfl

theorem setSpan_run (s : SpanRef) (v : SpanState) (w : World) :
    (setSpan s v).run w = .ok () { w with spans := w.spans.set! s v } := rfl

theorem setAsync_run (a : AsyncRef) (v : AsyncObj) (w : World) :
    (setAsync a v).run w = .ok () { w with asyncs := w.asyncs.set! a v } := rfl

theorem log_run (e : LogEvent) (w : World) :
    (log e).run w = .ok () { w with logs := w.logs ++ [e].toArray } := rfl

/-- Giving back a hold just taken: the span is put back as it was and nothing is finished. -/
theorem releaseSpan_run_of {t s : SpanState} (h : w.spans[sp]? = some t) (hrel : t.release = (s, none, [])) :
    (releaseSpan sp).run w = .ok () { w with spans := w.spans.set! sp s, logs := w.logs ++ [].toArray } := by
  unfold releaseSpan
  rw [run_bind_ok (span_run sp w), h, Option.getD_some, hrel]
  rfl

/-- A span pinned by a context with a clone alive can be reached. -/
theorem spanReachable_run_pinned (hc : w.asyncs[a]? = some ⟨.recording sp tid aid br hs, refs⟩)
    (hr : 0 < refs) (hp : hs.pinned = true) : (spanReachable sp).run w = .ok true w := by
  obtain ⟨ha, hget⟩ := Array.getElem?_eq_some_iff.1 hc
  simp only [spanReachable, EStateM.run_bind, EStateM.run_get, EStateM.run_pure, EStateM.Result.ok.injEq,
    and_true, Bool.or_eq_true, Array.any_eq_true]
  exact Or.inr ⟨a, ha, by simp [hget, hr, hp]⟩

/-- The branch a resume binds: it writes into the context's span under the branch number `n`. -/
def branchTrace (sp : SpanRef) (aid : AsyncId) (n : UInt32) (w : World) : TraceObj :=
  { kind := .recording sp (some ⟨aid, n⟩) { maxDepth := w.settings.maxCallStackDepth } }

section Recording

variable (hc : w.asyncs[a]? = some ⟨.recording sp tid aid br hs, refs⟩)
include hc

/-- On a bound chain a resume returns the bound trace if it is a branch of the same span, and
otherwise nothing, with a debug event. -/
theorem continueAsync_run_bound {t : TraceRef} (hb : w.boundTrace = some t) :
    (continueAsync a).run w =
      if (w.traces[t]?.getD default).isAsync && (w.traces[t]?.getD default).span? == some sp then
        .ok (some t) w
      else .ok none { w with logs := w.logs ++ [LogEvent.dbg "AsyncContext.Continue.ChainBusy"].toArray } := by
  unfold continueAsync
  rw [run_bind_ok (asyncObj_run_of hc)]
  dsimp only
  rw [run_bind_ok (currentRaw_run_bound w), hb]
  dsimp only
  rw [run_bind_ok (rfl : (ownsBranch sp t).run w = .ok _ w)]
  split <;> rfl

/-- On an unbound chain, when the span is out of reach or takes no hold, nothing is resumed. -/
theorem continueAsync_run_closed (hb : w.boundTrace = none) {b : Bool}
    (hreach : (spanReachable sp).run w = .ok b w)
    (hfail : b = false ∨ (w.spans[sp]?.getD default).acquire = none) :
    (continueAsync a).run w =
      .ok none { w with logs := w.logs ++ [LogEvent.dbg "AsyncContext.Continue.SpanClosed"].toArray } := by
  unfold continueAsync
  rw [run_bind_ok (asyncObj_run_of hc)]
  dsimp only
  rw [run_bind_ok (currentRaw_run_bound w), hb]
  dsimp only
  rw [EStateM.run_bind, run_bind_ok hreach]
  rcases hfail with rfl | hnone
  · rfl
  · cases b
    · rfl
    · rw [if_neg (by decide), run_bind_ok (span_run sp w), hnone]
      rfl

/-- On a live unbound chain, with a hold taken on the span, the context counts one more branch
and the next branch is bound. -/
theorem continueAsync_run_fresh (hup : w.chainUp = true) (hb : w.chain.trace = none)
    (hreach : (spanReachable sp).run w = .ok true w)
    {v : SpanState} (hv : (w.spans[sp]?.getD default).acquire = some v) :
    (continueAsync a).run w =
      .ok (some w.traces.size)
        (({ w with
            spans := w.spans.set! sp v
            asyncs := w.asyncs.set! a ⟨.recording sp tid aid (br + 1) hs.start, refs⟩
            traces := w.traces.push (branchTrace sp aid (br + 1) w) } : World).withLocal w.here
          (some { w.chain with trace := some w.traces.size })) := by
  have hbound : w.boundTrace = none := by rw [World.boundTrace_of_up hup, hb]
  unfold continueAsync
  rw [run_bind_ok (asyncObj_run_of hc)]
  dsimp only
  rw [run_bind_ok (currentRaw_run_bound w), hbound]
  dsimp only
  rw [EStateM.run_bind, run_bind_ok hreach, if_neg (by decide), run_bind_ok (span_run sp w), hv]
  dsimp only
  rw [run_bind_ok (setSpan_run _ _ _), EStateM.run_pure]
  dsimp only
  rw [if_neg (by decide), run_bind_ok (setAsync_run _ _ _), run_bind_ok (settings_run _),
    run_bind_ok (newTrace_run _ _), run_bind_ok (bindTrace_run_unbound ?_ ?_ _)]
  · rfl
  · exact hup
  · exact hb

/-- On a torn-down chain, with a hold taken on the span, the bind fails: the context's start is
taken back, though its branch counter has moved on, and the hold is given back. -/
theorem continueAsync_run_unbindable (hup : w.chainUp = false)
    (hreach : (spanReachable sp).run w = .ok true w)
    {v : SpanState} (hv : (w.spans[sp]?.getD default).acquire = some v) :
    (continueAsync a).run w =
      (do releaseSpan sp; pure none : Agent (Option TraceRef)).run { w with
        spans := w.spans.set! sp v
        asyncs := w.asyncs.set! a ⟨.recording sp tid aid (br + 1) hs.start.unstart, refs⟩
        traces := w.traces.push (branchTrace sp aid (br + 1) w)
        logs := w.logs ++ [LogEvent.dbg "AsyncContext.Continue.BindFailed"].toArray } := by
  have hbound : w.boundTrace = none := World.boundTrace_of_down hup
  have ha : a < w.asyncs.size := (Array.getElem?_eq_some_iff.1 hc).1
  unfold continueAsync
  rw [run_bind_ok (asyncObj_run_of hc)]
  dsimp only
  rw [run_bind_ok (currentRaw_run_bound w), hbound]
  dsimp only
  rw [EStateM.run_bind, run_bind_ok hreach, if_neg (by decide), run_bind_ok (span_run sp w), hv]
  dsimp only
  rw [run_bind_ok (setSpan_run _ _ _), EStateM.run_pure]
  dsimp only
  rw [if_neg (by decide), run_bind_ok (setAsync_run _ _ _), run_bind_ok (settings_run _),
    run_bind_ok (newTrace_run _ _), run_bind_ok (bindTrace_run_down ?_ _)]
  · dsimp only
    rw [run_bind_ok (log_run _ _), run_bind_ok (asyncObj_run_of (o := ⟨.recording sp tid aid (br + 1) hs.start, refs⟩) ?_)]
    · dsimp only
      rw [run_bind_ok (setAsync_run _ _ _)]
      simp only [Array.set!_eq_setIfInBounds, Array.setIfInBounds_setIfInBounds]
      rfl
    · show (w.asyncs.set! a _)[a]? = _
      simp [ha, Holds.start]
  · exact hup

/-- The same failure on a context whose pin follows its debt and a span in the table: the span,
the context's holds and every chain are as they were. -/
theorem continueAsync_run_unbindable_sound (hup : w.chainUp = false)
    (hreach : (spanReachable sp).run w = .ok true w)
    {v : SpanState} (hv : (w.spans[sp]?.getD default).acquire = some v) (hsp : sp < w.spans.size)
    (hpin : hs.pinned = !hs.settled) :
    (continueAsync a).run w =
      .ok none { w with
        asyncs := w.asyncs.set! a ⟨.recording sp tid aid (br + 1) hs, refs⟩
        traces := w.traces.push (branchTrace sp aid (br + 1) w)
        logs := w.logs ++ [LogEvent.dbg "AsyncContext.Continue.BindFailed"].toArray } := by
  rw [continueAsync_run_unbindable hc hup hreach hv, Holds.unstart_start hpin,
    run_bind_ok (releaseSpan_run_of (t := v) ?_ (SpanState.release_acquire _ _ hv))]
  · simp only [Array.set!_eq_setIfInBounds, Array.setIfInBounds_setIfInBounds, Array.append_empty,
      EStateM.run_pure, Array.setIfInBounds_getD_self]
  · show (w.spans.set! sp v)[sp]? = some v
    simp [hsp]

/-- On an unbound chain a resume either finds the span closed to it, or takes a hold `v` on a
span in reach. -/
theorem continueAsync_run_unbound (hb : w.boundTrace = none) :
    (continueAsync a).run w =
        .ok none { w with logs := w.logs ++ [LogEvent.dbg "AsyncContext.Continue.SpanClosed"].toArray } ∨
      (spanReachable sp).run w = .ok true w ∧ ∃ v, (w.spans[sp]?.getD default).acquire = some v := by
  obtain ⟨b, hreach⟩ : ∃ b, (spanReachable sp).run w = .ok b w := ⟨_, rfl⟩
  cases hacq : (b && ((w.spans[sp]?.getD default).acquire).isSome) with
  | false =>
    have hfail : b = false ∨ (w.spans[sp]?.getD default).acquire = none := by
      cases b <;> simp_all
    exact .inl (continueAsync_run_closed hc hb hreach hfail)
  | true =>
    simp only [Bool.and_eq_true, Option.isSome_iff_exists] at hacq
    obtain ⟨rfl, hv⟩ := hacq
    exact .inr ⟨hreach, hv⟩

/-- A resume of a recording context ends in one of four ways: it returns the branch already bound
to the chain and changes nothing; it gives nothing back and only logs, the chain being busy or the
span out of reach; it binds a fresh branch to an unbound chain after taking a hold `v` on the span;
or the bind fails and all but the branch counter is put back. -/
theorem continueAsync_run_cases (hsp : sp < w.spans.size) (hpin : hs.pinned = !hs.settled) :
    (∃ t, w.boundTrace = some t ∧ (continueAsync a).run w = .ok (some t) w) ∨
    (∃ e, (continueAsync a).run w = .ok none { w with logs := w.logs ++ [e].toArray }) ∨
    (w.chainUp = true ∧ w.chain.trace = none ∧ ∃ v, (w.spans[sp]?.getD default).acquire = some v ∧
      (continueAsync a).run w = .ok (some w.traces.size)
        (({ w with
            spans := w.spans.set! sp v
            asyncs := w.asyncs.set! a ⟨.recording sp tid aid (br + 1) hs.start, refs⟩
            traces := w.traces.push (branchTrace sp aid (br + 1) w) } : World).withLocal w.here
          (some { w.chain with trace := some w.traces.size }))) ∨
    (continueAsync a).run w = .ok none { w with
        asyncs := w.asyncs.set! a ⟨.recording sp tid aid (br + 1) hs, refs⟩
        traces := w.traces.push (branchTrace sp aid (br + 1) w)
        logs := w.logs ++ [LogEvent.dbg "AsyncContext.Continue.BindFailed"].toArray } := by
  cases hb : w.boundTrace with
  | some t =>
    rw [continueAsync_run_bound hc hb]
    split
    · exact .inl ⟨t, rfl, rfl⟩
    · exact .inr (.inl ⟨_, rfl⟩)
  | none =>
    rcases continueAsync_run_unbound hc hb with hclosed | ⟨hreach, v, hv⟩
    · exact .inr (.inl ⟨_, hclosed⟩)
    cases hup : w.chainUp with
    | true =>
      have hnone : w.chain.trace = none := by rwa [World.boundTrace_of_up hup] at hb
      exact .inr (.inr (.inl ⟨rfl, hnone, v, hv, continueAsync_run_fresh hc hup hnone hreach hv⟩))
    | false =>
      exact .inr (.inr (.inr (continueAsync_run_unbindable_sound hc hup hreach hv hsp hpin)))

end Recording

/-- Every run returns or panics. -/
theorem Runs.anyway {α : Type} {P : World → Prop} (k : Agent α) :
    Runs P k (fun _ _ => True) (fun _ => True) := by
  intro w _
  cases k.run w <;> trivial

/-- A program whose returns are all `true` does not return `false`. -/
theorem run_ne_false {k : Agent Bool} (hk : Runs (fun v => v = w) k (fun r _ => r = true) (fun _ => True)) :
    k.run w ≠ .ok false u := by
  intro h
  have hq := hk w rfl
  rw [h] at hq
  exact Bool.false_ne_true hq

theorem finishAsync_run_false (a : AsyncRef) (h : (finishAsync a).run w = .ok false u) :
    u = w ∨ u = { w with logs := w.logs ++ [LogEvent.warn "AsyncContext.Finish.Unbalanced"].toArray } := by
  unfold finishAsync at h
  rw [run_bind_ok (rfl : (asyncObj a).run w = .ok (w.asyncs[a]?.getD default) w)] at h
  split at h
  · -- a disabled context has nothing to finish
    exact .inl (EStateM.Result.ok.inj h).2.symm
  · split at h
    · exact .inr (EStateM.Result.ok.inj h).2.symm
    · -- a branch is finished: whatever is given back, the answer is `true`
      refine absurd h (run_ne_false ?_)
      refine Runs.bind (R := fun _ _ => True) (Runs.anyway _) fun _ => ?_
      split
      · refine Runs.bind (R := fun _ _ => True) (Runs.anyway _) fun _ => ?_
        split
        · exact Runs.bind (R := fun _ _ => True) (Runs.anyway _) fun _ => Runs.pure _ fun _ _ => rfl
        · exact Runs.pure _ fun _ _ => rfl
      · exact Runs.pure _ fun _ _ => rfl

/-! ## Programs that leave the table of async contexts alone -/

/-- `k` leaves the table of async contexts as it found it, whether it returns or panics. -/
def KeepsAsyncs {α : Type} (k : Agent α) : Prop :=
  ∀ A, Runs (fun w => w.asyncs = A) k (fun _ w => w.asyncs = A) (fun w => w.asyncs = A)

section KeepsAsyncs

variable {α β : Type}

theorem KeepsAsyncs.bind {k : Agent α} {f : α → Agent β} (hk : KeepsAsyncs k)
    (hf : ∀ x, KeepsAsyncs (f x)) : KeepsAsyncs (k >>= f) :=
  fun A => Runs.bind (hk A) fun x => hf x A

theorem KeepsAsyncs.pure (x : α) : KeepsAsyncs (Pure.pure x : Agent α) :=
  fun _ => Runs.pure x fun _ h => h

/-- What a program that leaves the table alone keeps: anything the table says. -/
theorem KeepsAsyncs.runs {k : Agent α} (hk : KeepsAsyncs k) (P : Array AsyncObj → Prop) :
    Runs (fun w => P w.asyncs) k (fun _ w => P w.asyncs) (fun w => P w.asyncs) := by
  intro w hw
  have hrun := hk w.asyncs w rfl
  revert hrun
  cases k.run w with
  | ok _ u => exact fun (hu : u.asyncs = w.asyncs) => show P u.asyncs from hu ▸ hw
  | error _ u => exact fun (hu : u.asyncs = w.asyncs) => show P u.asyncs from hu ▸ hw

/-- A program that returns at once to the world it read. -/
theorem KeepsAsyncs.of_run {k : Agent α} (h : ∀ w, ∃ x, k.run w = .ok x w) : KeepsAsyncs k := by
  intro A w hw
  obtain ⟨x, hx⟩ := h w
  rw [hx]
  exact hw

theorem log_keepsAsyncs (e : LogEvent) : KeepsAsyncs (log e) := fun _ _ hw => hw

theorem emit_keepsAsyncs (es : List LogEvent) : KeepsAsyncs (emit es) := fun _ _ hw => hw

theorem span_keepsAsyncs (s : SpanRef) : KeepsAsyncs (span s) := fun _ _ hw => hw

theorem setSpan_keepsAsyncs (s : SpanRef) (v : SpanState) : KeepsAsyncs (setSpan s v) :=
  fun _ _ hw => hw

theorem trace_keepsAsyncs (t : TraceRef) : KeepsAsyncs (trace t) := fun _ _ hw => hw

theorem newTrace_keepsAsyncs (v : TraceObj) : KeepsAsyncs (newTrace v) := fun _ _ hw => hw

theorem settings_keepsAsyncs : KeepsAsyncs settings := fun _ _ hw => hw

theorem asyncObj_keepsAsyncs (a : AsyncRef) : KeepsAsyncs (asyncObj a) := fun _ _ hw => hw

theorem currentRaw_keepsAsyncs : KeepsAsyncs currentRaw :=
  KeepsAsyncs.of_run fun w => ⟨_, currentRaw_run_bound w⟩

theorem ownsBranch_keepsAsyncs (sp : SpanRef) (t : TraceRef) : KeepsAsyncs (ownsBranch sp t) :=
  KeepsAsyncs.of_run fun _ => ⟨_, rfl⟩

theorem spanReachable_keepsAsyncs (s : SpanRef) : KeepsAsyncs (spanReachable s) :=
  KeepsAsyncs.of_run fun _ => ⟨_, rfl⟩

theorem withChain_keepsAsyncs (f : ChainLocal → α × ChainLocal) : KeepsAsyncs (withChain f) := by
  intro A
  refine Runs.mono (withChain_runs f) (fun v hv => ?_) (fun _ _ h => h) (fun _ h => h)
  split
  · rw [World.withLocal_eq]
    exact hv
  · exact hv

theorem bindTrace_keepsAsyncs (t : TraceRef) : KeepsAsyncs (bindTrace t) := by
  unfold bindTrace
  refine KeepsAsyncs.bind (withChain_keepsAsyncs _) fun r => ?_
  split <;> exact KeepsAsyncs.pure _

theorem handOver_keepsAsyncs (fs : FinishedSpan) : KeepsAsyncs (handOver fs) := by
  intro A
  refine Runs.mono (handOver_runs fs) (fun w hw => ?_) (fun _ _ h => h) (fun _ h => h)
  rcases w.pipeline.onEnd fs with ⟨logs, panicked, pl⟩
  dsimp only
  split <;> exact hw

theorem releaseSpan_keepsAsyncs (s : SpanRef) : KeepsAsyncs (releaseSpan s) := by
  unfold releaseSpan
  refine KeepsAsyncs.bind (span_keepsAsyncs s) fun u => ?_
  rcases u.release with ⟨v, done, logs⟩
  refine KeepsAsyncs.bind (setSpan_keepsAsyncs s v) fun _ => ?_
  refine KeepsAsyncs.bind (emit_keepsAsyncs logs) fun _ => ?_
  cases done with
  | none => exact KeepsAsyncs.pure _
  | some fs => exact handOver_keepsAsyncs fs

end KeepsAsyncs

/-! ## Programs that keep a context's numbering -/

/-- `k` keeps the hand-off id and branch counter of the context at `a`, whether it returns or
panics. -/
def KeepsNumber (a : AsyncRef) {α : Type} (k : Agent α) : Prop :=
  ∀ x, Runs (fun w => numberOf w.asyncs a = x) k (fun _ w => numberOf w.asyncs a = x)
    (fun w => numberOf w.asyncs a = x)

/-- The numbering of `a` is `x`, and the context at `a'` numbers as `n`: what holds between
reading the context at `a'` and writing it back. -/
def Anchored (a a' : AsyncRef) (x n : Option (AsyncId × UInt32)) (A : Array AsyncObj) : Prop :=
  numberOf A a = x ∧ (A[a']?.getD default).kind.numbering = n

section KeepsNumber

variable {α β : Type} {a a' : AsyncRef} {E : World → Prop}

theorem KeepsNumber.bind {k : Agent α} {f : α → Agent β} (hk : KeepsNumber a k)
    (hf : ∀ x, KeepsNumber a (f x)) : KeepsNumber a (k >>= f) :=
  fun x => Runs.bind (hk x) fun r => hf r x

theorem KeepsNumber.pure (r : α) : KeepsNumber a (Pure.pure r : Agent α) :=
  fun _ => Runs.pure r fun _ h => h

theorem KeepsAsyncs.number {k : Agent α} (hk : KeepsAsyncs k) : KeepsNumber a k :=
  fun x => hk.runs fun A => numberOf A a = x

theorem setAsync_keepsNumber {v : AsyncObj} (h : a' ≠ a) : KeepsNumber a (setAsync a' v) :=
  fun _ _ hw => (numberOf_set (.inl h)).trans hw

/-- Writing back a context that numbers as the one read. -/
theorem setAsync_anchored {x n : Option (AsyncId × UInt32)} {v : AsyncObj}
    (hv : v.kind.numbering = n) :
    Runs (fun w => Anchored a a' x n w.asyncs) (setAsync a' v) (fun _ w => Anchored a a' x n w.asyncs) E :=
  fun _ hw => ⟨(numberOf_set (.inr (hv.trans hw.2.symm))).trans hw.1, numbering_set_self hw.2 hv⟩

/-- A program that leaves the table alone keeps the anchor, and so the numbering. -/
theorem KeepsAsyncs.anchored {k : Agent α} (hk : KeepsAsyncs k) {x n : Option (AsyncId × UInt32)} :
    Runs (fun w => Anchored a a' x n w.asyncs) k (fun _ w => Anchored a a' x n w.asyncs)
      (fun w => numberOf w.asyncs a = x) :=
  Runs.mono (hk.runs _) (fun _ h => h) (fun _ _ h => h) (fun _ h => h.1)

theorem anchored_pure (r : α) {x n : Option (AsyncId × UInt32)} :
    Runs (fun w => Anchored a a' x n w.asyncs) (Pure.pure r) (fun _ w => numberOf w.asyncs a = x) E :=
  Runs.pure r fun _ h => h.1

/-- Reading the context at `a'` anchors what the rest of the program may write back there. -/
theorem asyncObj_bind_keepsNumber {f : AsyncObj → Agent β}
    (hf : ∀ obj x, Runs (fun w => Anchored a a' x obj.kind.numbering w.asyncs) (f obj)
      (fun _ w => numberOf w.asyncs a = x) (fun w => numberOf w.asyncs a = x)) :
    KeepsNumber a (asyncObj a' >>= f) :=
  fun x => Runs.bind (Runs.mono (asyncObj_runs a') (fun _ hw => ⟨hw, rfl⟩) (fun _ _ h => h)
    (fun _ h => h)) fun obj => hf obj x

theorem cloneAsync_keepsNumber (a' : AsyncRef) : KeepsNumber a (cloneAsync a') := by
  unfold cloneAsync
  exact asyncObj_bind_keepsNumber fun _ _ => Runs.mono (setAsync_anchored rfl) (fun _ h => h)
    (fun _ w (h : Anchored a a' _ _ w.asyncs) => h.1) (fun _ h => h)

theorem finishAsync_keepsNumber (a' : AsyncRef) : KeepsNumber a (finishAsync a') := by
  unfold finishAsync
  refine asyncObj_bind_keepsNumber fun obj x => ?_
  split
  · exact anchored_pure _
  · rename_i hk
    split
    · exact Runs.bind (log_keepsAsyncs _).anchored fun _ => anchored_pure _
    refine Runs.bind (setAsync_anchored (by rw [hk]; rfl)) fun _ => ?_
    refine Runs.mono (KeepsAsyncs.anchored ?_) (fun _ h => h) (fun _ _ h => h.1) (fun _ h => h)
    split
    · refine KeepsAsyncs.bind (releaseSpan_keepsAsyncs _) fun _ => ?_
      split
      · exact KeepsAsyncs.bind (releaseSpan_keepsAsyncs _) fun _ => KeepsAsyncs.pure _
      · exact KeepsAsyncs.pure _
    · exact KeepsAsyncs.pure _

theorem dropAsyncRef_keepsNumber (a' : AsyncRef) : KeepsNumber a (dropAsyncRef a') := by
  unfold dropAsyncRef
  refine asyncObj_bind_keepsNumber fun obj x => ?_
  refine Runs.bind (setAsync_anchored rfl) fun _ => ?_
  split
  · exact anchored_pure _
  split
  · exact anchored_pure _
  rename_i hk
  split
  · exact anchored_pure _
  refine Runs.bind (setAsync_anchored (by rw [hk]; rfl)) fun _ => ?_
  refine Runs.mono (KeepsAsyncs.anchored ?_) (fun _ h => h) (fun _ _ h => h.1) (fun _ h => h)
  extract_lets unfinished releaseBranches giveBack
  have hbranches : ∀ u, KeepsAsyncs (releaseBranches u) := fun _ =>
    KeepsAsyncs.bind (fun A => Runs.forIn _ _ (fun _ w => w.asyncs = A) fun _ _ =>
      Runs.bind (releaseSpan_keepsAsyncs _ A) fun _ => Runs.pure _ fun _ h => h) fun _ =>
        KeepsAsyncs.pure _
  have hgive : ∀ u, KeepsAsyncs (giveBack u) := by
    intro u
    show KeepsAsyncs (if _ then _ else _)
    split
    · exact KeepsAsyncs.bind (releaseSpan_keepsAsyncs _) hbranches
    · exact hbranches ()
  split
  · exact KeepsAsyncs.bind (log_keepsAsyncs _) hgive
  · exact hgive ()

/-- Resuming another context keeps the numbering of `a`. -/
theorem continueAsync_keepsNumber (h : a' ≠ a) : KeepsNumber a (continueAsync a') := by
  unfold continueAsync
  refine KeepsNumber.bind (asyncObj_keepsAsyncs a').number fun obj => ?_
  split
  · refine KeepsNumber.bind currentRaw_keepsAsyncs.number fun r => ?_
    split
    · refine KeepsNumber.bind (trace_keepsAsyncs _).number fun o => ?_
      split
      · exact KeepsNumber.pure _
      · exact KeepsNumber.bind (log_keepsAsyncs _).number fun _ => KeepsNumber.pure _
    · refine KeepsNumber.bind (newTrace_keepsAsyncs _).number fun t => ?_
      refine KeepsNumber.bind (bindTrace_keepsAsyncs t).number fun r => ?_
      split <;> exact KeepsNumber.pure _
  · refine KeepsNumber.bind currentRaw_keepsAsyncs.number fun r => ?_
    split
    · refine KeepsNumber.bind (ownsBranch_keepsAsyncs _ _).number fun b => ?_
      split
      · exact KeepsNumber.pure _
      · exact KeepsNumber.bind (log_keepsAsyncs _).number fun _ => KeepsNumber.pure _
    · refine KeepsNumber.bind ?_ fun acquired => ?_
      · refine KeepsNumber.bind (spanReachable_keepsAsyncs _).number fun b => ?_
        split
        · exact KeepsNumber.pure _
        · refine KeepsNumber.bind (span_keepsAsyncs _).number fun u => ?_
          split
          · exact KeepsNumber.bind (setSpan_keepsAsyncs _ _).number fun _ => KeepsNumber.pure _
          · exact KeepsNumber.pure _
      split
      · exact KeepsNumber.bind (log_keepsAsyncs _).number fun _ => KeepsNumber.pure _
      refine KeepsNumber.bind (setAsync_keepsNumber h) fun _ => ?_
      refine KeepsNumber.bind settings_keepsAsyncs.number fun _ => ?_
      refine KeepsNumber.bind (newTrace_keepsAsyncs _).number fun t => ?_
      refine KeepsNumber.bind (bindTrace_keepsAsyncs t).number fun r => ?_
      split
      · exact KeepsNumber.pure _
      refine KeepsNumber.bind (log_keepsAsyncs _).number fun _ => ?_
      refine KeepsNumber.bind (asyncObj_keepsAsyncs a').number fun obj => ?_
      extract_lets giveBack
      have hgive : ∀ u, KeepsNumber a (giveBack u) := fun _ =>
        KeepsNumber.bind (releaseSpan_keepsAsyncs _).number fun _ => KeepsNumber.pure _
      split
      · exact KeepsNumber.bind (setAsync_keepsNumber h) hgive
      · exact hgive ()

end KeepsNumber

/-! ## Branch numbers over a run -/

/-- The operations on async contexts: resuming a branch, finishing one, and cloning or dropping a
reference. -/
inductive AsyncOp where
  | resume (a : AsyncRef)
  | finish (a : AsyncRef)
  | clone (a : AsyncRef)
  | drop (a : AsyncRef)

/-- Runs the operation. A resume that binds a new branch to an unbound chain reports the context
and the branch's id. -/
def AsyncOp.run : AsyncOp → Agent (Option (AsyncRef × LocalAsyncId))
  | .resume a => do
    let before ← currentRaw
    let r ← continueAsync a
    match before, r with
    | none, some t => pure (((← trace t).branch?).map fun id => (a, id))
    | _, _ => pure none
  | .finish a => do
    let _ ← finishAsync a
    pure none
  | .clone a => do
    cloneAsync a
    pure none
  | .drop a => do
    dropAsyncRef a
    pure none

/-- Runs the operations in order, each on its thread, and lists the new branches reported. -/
def runAsyncOps : List (Thread × AsyncOp) → Agent (List (AsyncRef × LocalAsyncId))
  | [] => pure []
  | (th, op) :: rest => do
    let r ← onThread th op.run
    let rs ← runAsyncOps rest
    pure (r.toList ++ rs)

/-- The ids of the new branches of context `a` among those reported. -/
def branchesOf (a : AsyncRef) (xs : List (AsyncRef × LocalAsyncId)) : List LocalAsyncId :=
  xs.filterMap fun p => if p.1 = a then some p.2 else none

theorem branchesOf_append (a : AsyncRef) (xs ys : List (AsyncRef × LocalAsyncId)) :
    branchesOf a (xs ++ ys) = branchesOf a xs ++ branchesOf a ys :=
  List.filterMap_append

/-- The world after a resume of `a` binds a fresh branch to the calling chain, the span having
taken the hold `v`: the context has moved its counter to `br + 1` and counts one more started
branch, and the branch so numbered is the next trace, bound to the chain. -/
def resumedWorld (w : World) (a : AsyncRef) (sp : SpanRef) (tid : TraceId) (aid : AsyncId)
    (br : UInt32) (hs : Holds) (refs : Nat) (v : SpanState) : World :=
  ({ w with
      spans := w.spans.set! sp v
      asyncs := w.asyncs.set! a ⟨.recording sp tid aid (br + 1) hs.start, refs⟩
      traces := w.traces.push (branchTrace sp aid (br + 1) w) } : World).withLocal w.here
    (some { w.chain with trace := some w.traces.size })

/-- A resume on a live unbound chain, of a span in reach that takes a hold `v`, reports the fresh
branch under the next number. -/
theorem resume_run_fresh (hc : w.asyncs[a]? = some ⟨.recording sp tid aid br hs, refs⟩)
    (hup : w.chainUp = true) (hb : w.chain.trace = none)
    (hreach : (spanReachable sp).run w = .ok true w)
    {v : SpanState} (hv : (w.spans[sp]?.getD default).acquire = some v) :
    (AsyncOp.resume a).run.run w = .ok (some (a, ⟨aid, br + 1⟩)) (resumedWorld w a sp tid aid br hs refs v) := by
  unfold AsyncOp.run
  rw [run_bind_ok (currentRaw_run_bound w), World.boundTrace_of_up hup, hb,
    run_bind_ok (continueAsync_run_fresh hc hup hb hreach hv)]
  dsimp only
  rw [run_bind_ok (rfl : (trace w.traces.size).run _ = .ok _ _), World.traces_withLocal,
    Array.getElem?_push_size]
  rfl

/-- What one operation does to the numbering of context `a`, which numbered up to `n`: it is
kept and no branch of `a` is reported, or it moves on to `n + 1` and a branch of `a` reported has
that number. -/
def Advance (a : AsyncRef) (aid : AsyncId) (n : UInt32) (r : Option (AsyncRef × LocalAsyncId))
    (u : World) : Prop :=
  (numberOf u.asyncs a = some (aid, n) ∧ branchesOf a r.toList = []) ∨
    (numberOf u.asyncs a = some (aid, n + 1) ∧
      (branchesOf a r.toList = [] ∨ branchesOf a r.toList = [⟨aid, n + 1⟩]))

section Advance

variable {a : AsyncRef} {aid : AsyncId} {n : UInt32}

/-- An operation that keeps the numbering and reports nothing. -/
theorem advance_of_keeps {β : Type} {k : Agent β} (hk : KeepsNumber a k) :
    Runs (fun w => numberOf w.asyncs a = some (aid, n)) (k >>= fun _ => pure none)
      (fun r u => Advance a aid n r u) (fun _ => True) :=
  Runs.bind (Runs.mono (hk _) (fun _ h => h) (fun _ _ h => h) (fun _ _ => trivial)) fun _ =>
    Runs.pure _ fun _ h => .inl ⟨h, rfl⟩

/-- Resuming another context reports only branches of that context. -/
theorem resume_other_advance {a' : AsyncRef} (h : a' ≠ a) :
    Runs (fun w => numberOf w.asyncs a = some (aid, n)) (AsyncOp.resume a').run
      (fun r u => Advance a aid n r u) (fun _ => True) := by
  refine Runs.mono (E := fun w => numberOf w.asyncs a = some (aid, n)) ?_ (fun _ h => h)
    (fun _ _ h => h) (fun _ _ => trivial)
  unfold AsyncOp.run
  refine Runs.bind (currentRaw_keepsAsyncs.number _) fun before => ?_
  refine Runs.bind (continueAsync_keepsNumber h _) fun r => ?_
  split
  · refine Runs.bind ((trace_keepsAsyncs _).number _) fun o => Runs.pure _ fun _ hu => .inl ⟨hu, ?_⟩
    cases o.branch? <;> simp [branchesOf, h]
  · exact Runs.pure _ fun _ hu => .inl ⟨hu, rfl⟩

/-- Resuming `a` itself: on a bound chain or when no hold is taken, nothing of `a` changes; a
fresh branch is reported under the next number, and a failed bind moves the counter on all the
same. -/
theorem resume_self_advance :
    Runs (fun w => numberOf w.asyncs a = some (aid, n)) (AsyncOp.resume a).run
      (fun r u => Advance a aid n r u) (fun _ => True) := by
  intro w hw
  obtain ⟨sp, tid, hs, refs, hc⟩ := exists_of_numberOf hw
  have ha : a < w.asyncs.size := (Array.getElem?_eq_some_iff.1 hc).1
  unfold AsyncOp.run
  rw [run_bind_ok (currentRaw_run_bound w)]
  cases hb : w.boundTrace with
  | some t =>
    -- the chain is bound: whatever comes back, no new branch is reported
    by_cases hown : ((w.traces[t]?.getD default).isAsync && (w.traces[t]?.getD default).span? == some sp) = true
    · rw [EStateM.run_bind, continueAsync_run_bound hc hb, if_pos hown]
      exact .inl ⟨hw, rfl⟩
    · rw [EStateM.run_bind, continueAsync_run_bound hc hb, if_neg hown]
      exact .inl ⟨hw, rfl⟩
  | none =>
    rcases continueAsync_run_unbound hc hb with hclosed | ⟨hreach, v, hv⟩
    · rw [run_bind_ok hclosed]
      exact .inl ⟨hw, rfl⟩
    cases hup : w.chainUp with
    | true =>
      -- a fresh branch, bound under the next number
      have hnone : w.chain.trace = none := by rwa [World.boundTrace_of_up hup] at hb
      have hset : (w.asyncs.set! a ⟨.recording sp tid aid (n + 1) hs.start, refs⟩)[a]? =
          some ⟨.recording sp tid aid (n + 1) hs.start, refs⟩ := by simp [ha]
      rw [run_bind_ok (continueAsync_run_fresh hc hup hnone hreach hv), World.withLocal_eq]
      refine .inr ⟨numberOf_of_kind hset, .inr ?_⟩
      simp [branchesOf, branchTrace, TraceObj.branch?]
    | false =>
      -- the bind fails after the counter moved on; giving the hold back touches no context
      have hset : (w.asyncs.set! a ⟨.recording sp tid aid (n + 1) hs.start.unstart, refs⟩)[a]? =
          some ⟨.recording sp tid aid (n + 1) hs.start.unstart, refs⟩ := by simp [ha]
      have hrelease : Runs (fun v => numberOf v.asyncs a = some (aid, n + 1))
          (do releaseSpan sp; pure none : Agent (Option TraceRef))
          (fun r v => r = none ∧ numberOf v.asyncs a = some (aid, n + 1)) (fun _ => True) :=
        Runs.bind (Runs.mono ((releaseSpan_keepsAsyncs sp).runs fun A => numberOf A a = some (aid, n + 1))
          (fun _ h => h) (fun _ _ h => h) (fun _ _ => trivial)) fun _ => Runs.pure none fun _ h => ⟨rfl, h⟩
      rw [run_bind_congr (continueAsync_run_unbindable hc hup hreach hv)]
      refine Runs.bind hrelease (fun r v hv => ?_) _ ?_
      · obtain ⟨rfl, hv⟩ := hv
        exact .inr ⟨hv, .inl rfl⟩
      · exact numberOf_of_kind hset

/-- Each operation moves the counter of `a` on by at most one, and reports a new branch of `a`
only under the number it moved to. -/
theorem AsyncOp.run_advance (op : AsyncOp) :
    Runs (fun w => numberOf w.asyncs a = some (aid, n)) op.run (fun r u => Advance a aid n r u)
      (fun _ => True) := by
  cases op with
  | resume a' =>
    by_cases h : a' = a
    · subst h
      exact resume_self_advance
    · exact resume_other_advance h
  | finish a' => exact advance_of_keeps (finishAsync_keepsNumber a')
  | clone a' => exact advance_of_keeps (cloneAsync_keepsNumber a')
  | drop a' => exact advance_of_keeps (dropAsyncRef_keepsNumber a')

end Advance

/-- The ids of `k` branches of hand-off `aid` numbered on from `n`: `n + 1`, `n + 2`, … in 32
bits. -/
def numberedOn (aid : AsyncId) (n : UInt32) (k : Nat) : List LocalAsyncId :=
  (List.range k).map fun i => ⟨aid, n + UInt32.ofNat (i + 1)⟩

section NumberedOn

variable {aid : AsyncId} {n : UInt32} {k : Nat}

/-- Numbering on from `n` starts with `n + 1` and goes on from there. -/
theorem numberedOn_succ (aid : AsyncId) (n : UInt32) (k : Nat) :
    numberedOn aid n (k + 1) = ⟨aid, n + 1⟩ :: numberedOn aid (n + 1) k := by
  simp only [numberedOn, List.range_succ_eq_map, List.map_cons, List.map_map, Function.comp_def]
  congr 1
  refine List.map_congr_left fun i _ => ?_
  -- one step further on is one more in 32 bits
  rw [LocalAsyncId.mk.injEq, UInt32.ofNat_add (i + 1) 1]
  exact ⟨rfl, by grind⟩

/-- Two numbers on from `n` agree exactly when they agree modulo `2^32`. -/
theorem numberedOn_eq_iff (i j : Nat) :
    (⟨aid, n + UInt32.ofNat (i + 1)⟩ : LocalAsyncId) = ⟨aid, n + UInt32.ofNat (j + 1)⟩ ↔
      (n.toNat + i + 1) % UInt32.size = (n.toNat + j + 1) % UInt32.size := by
  rw [LocalAsyncId.mk.injEq, ← UInt32.toNat_inj]
  simp [UInt32.toNat_add, UInt32.toNat_ofNat, Nat.add_mod_mod, Nat.add_assoc]

/-- Numbers on from `n` repeat none exactly while the counter does not go round: there are at
most `2^32` of them. -/
theorem numberedOn_nodup_iff : (numberedOn aid n k).Nodup ↔ k ≤ UInt32.size := by
  have hsize : UInt32.size = 4294967296 := rfl
  rw [numberedOn, List.nodup_map_iff_inj_on List.nodup_range]
  simp only [List.mem_range, numberedOn_eq_iff]
  constructor
  · intro hinj
    by_contra hk
    -- the first number and the one `2^32` further on agree
    have h0 := hinj 0 (by omega) UInt32.size (by omega) (by rw [hsize]; omega)
    rw [hsize] at h0
    omega
  · intro hk i hi j hj heq
    rw [hsize] at heq hk
    omega

end NumberedOn

/-- Over any run of operations on async contexts, on any threads, the counter of `a` moves on some
`k` times, at most once an operation, and the new branches of `a` are reported in order under
numbers among the `k` it moved through. -/
theorem runAsyncOps_counted {a : AsyncRef} {aid : AsyncId} (ops : List (Thread × AsyncOp)) :
    ∀ n : UInt32, Runs (fun w => numberOf w.asyncs a = some (aid, n)) (runAsyncOps ops)
      (fun xs u => ∃ k ≤ ops.length, numberOf u.asyncs a = some (aid, n + UInt32.ofNat k) ∧
        (branchesOf a xs).Sublist (numberedOn aid n k)) (fun _ => True) := by
  induction ops with
  | nil => exact fun n => Runs.pure [] fun _ hw => ⟨0, le_rfl, by simpa using hw, by simp [branchesOf]⟩
  | cons p rest ih =>
    obtain ⟨th, op⟩ := p
    intro n
    have hstep : Runs (fun w => numberOf w.asyncs a = some (aid, n)) (onThread th op.run)
        (fun r u => Advance a aid n r u) (fun _ => True) :=
      onThread_runs th fun _ =>
        Runs.mono op.run_advance (fun _ h => h.1) (fun _ _ h => h) (fun _ _ => trivial)
    refine Runs.bind hstep fun r => ?_
    rintro w (⟨hx, hr⟩ | ⟨hx, hr⟩)
    · -- the counter stayed: the rest numbers on from `n`
      refine Runs.bind (ih n) (fun rs => Runs.pure _ fun _ hs => ?_) w hx
      obtain ⟨k, hk, hu, hsub⟩ := hs
      refine ⟨k, by simp only [List.length_cons]; omega, hu, ?_⟩
      rwa [branchesOf_append, hr, List.nil_append]
    · -- the counter moved on: the rest numbers on from `n + 1`
      refine Runs.bind (ih (n + 1)) (fun rs => Runs.pure _ fun _ hs => ?_) w hx
      obtain ⟨k, hk, hu, hsub⟩ := hs
      refine ⟨k + 1, by simp only [List.length_cons]; omega, ?_, ?_⟩
      · rw [hu, UInt32.ofNat_add, UInt32.ofNat_one, UInt32.add_assoc, UInt32.add_comm 1]
      · rw [branchesOf_append, numberedOn_succ]
        rcases hr with hr | hr
        · rw [hr, List.nil_append]
          exact hsub.cons _
        · rw [hr, List.singleton_append]
          exact hsub.cons_cons _

/-- Every world a run reaches meets what a resume asks of a live context: its span is in the
table, and its pin follows its debt. -/
theorem HoldReachable.resumable {w : World} (h : HoldReachable w) {a : AsyncRef} {sp : SpanRef}
    {tid : TraceId} {aid : AsyncId} {br : UInt32} {hs : Holds} {refs : Nat}
    (hc : w.asyncs[a]? = some ⟨.recording sp tid aid br hs, refs⟩) (hlive : 0 < refs) :
    sp < w.spans.size ∧ hs.pinned = !hs.settled := by
  obtain ⟨hsound, -⟩ := h.correct
  have hmem : (⟨.recording sp tid aid br hs, refs⟩ : AsyncObj) ∈ w.asyncs := Array.mem_of_getElem? hc
  have hholds := (AsyncObj.sound_of_kind rfl).1 (hsound.holds _ hmem)
  exact ⟨hsound.asyncs_in _ hmem sp rfl, hholds.2 (by simpa using hlive)⟩

/-- Resuming an async context fails atomically. Take a recording context `a` of a span in the
table, whose pin follows its debt, as it does in every reachable world while a clone is alive. A
resume that gives nothing back, the chain being busy, the span out of reach or the bind failing,
leaves every span, every chain and every context as they were, except that the branch counter of
`a` may have moved on by one. A resume that returns the branch already bound to the chain changes
nothing. A resume that binds a fresh branch starts one more branch and takes one more hold on the
span, and binds a branch numbered one past the counter, in 32 bits. Over any run of resumes,
finishes, clones and drops of any contexts on any threads, the counter of `a` moves on some
`k ≤` (length of the run) times, and the fresh branches of `a` are reported in order under numbers
among `br + 1, …, br + k`, taken modulo `2^32`; so they repeat none while the counter does not go
round, `k ≤ 2^32`. A finish that answers `false` changes nothing but the log. -/
theorem async_resume_is_atomic (w : World) {a : AsyncRef} {sp : SpanRef} {tid : TraceId}
    {aid : AsyncId} {br : UInt32} {hs : Holds} {refs : Nat}
    (hc : w.asyncs[a]? = some ⟨.recording sp tid aid br hs, refs⟩) (hsp : sp < w.spans.size)
    (hpin : hs.pinned = !hs.settled) :
    (∀ u, (continueAsync a).run w = .ok none u →
      u.spans = w.spans ∧ u.locals = w.locals ∧
        (u.asyncs = w.asyncs ∨ u.asyncs = w.asyncs.set! a ⟨.recording sp tid aid (br + 1) hs, refs⟩)) ∧
    (∀ t u, w.boundTrace = some t → (continueAsync a).run w = .ok (some t) u → u = w) ∧
    (∀ t u, w.boundTrace = none → (continueAsync a).run w = .ok (some t) u →
      u.asyncs[a]? = some
          ⟨.recording sp tid aid (br + 1) { hs with started := hs.started + 1, pinned := true }, refs⟩ ∧
        (u.spans[sp]?.getD default).pending = (w.spans[sp]?.getD default).pending + 1 ∧
        u.boundTrace = some t ∧ (u.traces[t]?.getD default).span? = some sp ∧
        (u.traces[t]?.getD default).branch? = some ⟨aid, br + 1⟩) ∧
    (∀ ops xs u, (runAsyncOps ops).run w = .ok xs u → ∃ k ≤ ops.length,
      numberOf u.asyncs a = some (aid, br + UInt32.ofNat k) ∧
        (branchesOf a xs).Sublist (numberedOn aid br k) ∧ (k ≤ UInt32.size → (branchesOf a xs).Nodup)) ∧
    (∀ a' u, (finishAsync a').run w = .ok false u →
      u = w ∨ u = { w with logs := w.logs ++ [LogEvent.warn "AsyncContext.Finish.Unbalanced"].toArray }) := by
  have ha : a < w.asyncs.size := (Array.getElem?_eq_some_iff.1 hc).1
  have hcases := continueAsync_run_cases hc hsp hpin
  refine ⟨fun u hu => ?_, fun t u hb hu => ?_, fun t u hb hu => ?_, fun ops xs u hrun => ?_,
    fun a' u hu => finishAsync_run_false a' hu⟩
  · -- nothing given back: only the log, or the log, an orphan trace and the counter
    rcases hcases with ⟨t, -, h⟩ | ⟨e, h⟩ | ⟨-, -, v, -, h⟩ | h <;> rw [h] at hu <;> cases hu
    · exact ⟨rfl, rfl, .inl rfl⟩
    · exact ⟨rfl, rfl, .inr rfl⟩
  · -- on a bound chain only the bound branch itself comes back
    rcases hcases with ⟨t', -, h⟩ | ⟨e, h⟩ | ⟨hup, hnone, v, -, h⟩ | h <;> rw [h] at hu <;> cases hu
    · rfl
    · rw [World.boundTrace_of_up hup, hnone] at hb
      cases hb
  · -- a fresh branch
    rcases hcases with ⟨t', hb', h⟩ | ⟨e, h⟩ | ⟨hup, hnone, v, hv, h⟩ | h <;> rw [h] at hu <;> cases hu
    · rw [hb] at hb'
      cases hb'
    · have hbind := World.withLocal_bound
        ({ w with
            spans := w.spans.set! sp v
            asyncs := w.asyncs.set! a ⟨.recording sp tid aid (br + 1) hs.start, refs⟩
            traces := w.traces.push (branchTrace sp aid (br + 1) w) } : World) w.chain w.traces.size
      refine ⟨?_, ?_, ?_, ?_⟩
      · rw [World.withLocal_eq]
        simp [ha, Holds.start]
      · rw [World.withLocal_eq]
        simp [hsp, SpanState.acquire_pending _ _ hv]
      · simp only [World.boundTrace, World.chainUp, World.here_withLocal, World.gone_withLocal] at hup ⊢
        rw [if_pos hup]
        exact congrArg ChainLocal.trace hbind.1
      · rw [World.withLocal_eq]
        simp [branchTrace, TraceObj.span?, TraceObj.branch?]
  · -- the numbers over a run: a sublist of numbers that repeat none before the counter goes round
    have hrun' := runAsyncOps_counted ops br w (numberOf_of_kind hc)
    rw [hrun] at hrun'
    obtain ⟨k, hk, hnum, hsub⟩ := hrun'
    exact ⟨k, hk, hnum, hsub, fun hks => hsub.nodup (numberedOn_nodup_iff.2 hks)⟩

/-- A chain busy with the span's own synchronous trace: the resume gives nothing back, and the
spans and chains are as they were. -/
theorem resume_on_busy_chain :
    let w : World := { (default : World) with
      spans := #[{ traceId := default, maxEvents := 1 }]
      traces := #[{ kind := .recording 0 none { maxDepth := 1 } }]
      asyncs := #[⟨.recording 0 default default 0 {}, 1⟩]
      locals := [(.chain "main", { trace := some 0 })] }
    ∃ u, (continueAsync 0).run w = .ok none u ∧ u.spans = w.spans ∧ u.locals = w.locals := by
  intro w
  obtain ⟨u, hu⟩ : ∃ u, (continueAsync 0).run w = .ok none u := ⟨_, rfl⟩
  have hkept := (async_resume_is_atomic w (a := 0) rfl (by decide) rfl).1 u hu
  exact ⟨u, hu, hkept.1, hkept.2.1⟩

/-- A context of hand-off `7` whose branch counter has come round to `2^32 - 1`: every branch but
the first has finished, and the first, numbered `1`, is still bound on the chain of thread
`first`; the span is open with that branch's hold. -/
def wrappedWorld : World := { (default : World) with
  spans := #[{ traceId := default, maxEvents := 1 }]
  traces := #[{ kind := .recording 0 (some ⟨⟨7⟩, 1⟩) { maxDepth := 1 } }]
  asyncs := #[⟨.recording 0 default ⟨7⟩ 4294967295
    { creation := false, started := 4294967295, finished := 4294967294 }, 1⟩]
  locals := [(.chain "first", { trace := some 0 })] }

/-- Branch numbers repeat once the counter has gone round. Two more resumes of the context of
`wrappedWorld`, on two fresh threads, bind branches numbered `0` and `1`; the second is a live
branch with the id of the first branch, which still runs. -/
theorem branch_number_repeats_after_wrap :
    ∃ u, (runAsyncOps [(.chain "second", .resume 0), (.chain "third", .resume 0)]).run wrappedWorld =
        .ok [(0, ⟨⟨7⟩, 0⟩), (0, ⟨⟨7⟩, 1⟩)] u ∧
      (u.traces[0]?.getD default).branch? = some ⟨⟨7⟩, 1⟩ ∧ (u.traces[0]?.getD default).closed = false ∧
      (u.traces[2]?.getD default).branch? = some ⟨⟨7⟩, 1⟩ ∧ (u.traces[2]?.getD default).closed = false := by
  let hs : Holds := { creation := false, started := 4294967295, finished := 4294967294 }
  let s₀ : SpanState := { traceId := default, maxEvents := 1 }
  -- the first resume, on thread `second`, wraps the counter to `0`
  let w₁ : World := { wrappedWorld with here := .chain "second" }
  have hc₁ : w₁.asyncs[0]? = some ⟨.recording 0 default ⟨7⟩ 4294967295 hs, 1⟩ := rfl
  have h₁ := resume_run_fresh (v := { s₀ with pending := 2 }) hc₁ rfl rfl
    (spanReachable_run_pinned hc₁ Nat.one_pos rfl) rfl
  -- the second, on thread `third`, numbers its branch `1`
  let u₁ : World := { resumedWorld w₁ 0 0 default ⟨7⟩ 4294967295 hs 1 { s₀ with pending := 2 } with
    here := wrappedWorld.here }
  have hc₂ : ({ u₁ with here := .chain "third" } : World).asyncs[0]? =
      some ⟨.recording 0 default ⟨7⟩ 0 hs.start, 1⟩ := rfl
  have h₂ := resume_run_fresh (v := { s₀ with pending := 3 }) hc₂ rfl rfl
    (spanReachable_run_pinned hc₂ Nat.one_pos rfl) rfl
  refine ⟨{ resumedWorld { u₁ with here := .chain "third" } 0 0 default ⟨7⟩ 0 hs.start 1
    { s₀ with pending := 3 } with here := wrappedWorld.here }, ?_, rfl, rfl, rfl, rfl⟩
  rw [runAsyncOps, run_bind_ok (onThread_run_ok _ h₁), EStateM.run_bind, runAsyncOps,
    run_bind_ok (onThread_run_ok (w := u₁) _ h₂)]
  rfl

end Agent
end TraceAgent
