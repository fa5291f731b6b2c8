import TraceAgent.Proofs.Holds.Steps
import TraceAgent.Proofs.Holds.Invariant

/-!
# Each operation keeps the hold accounting correct

One lemma per operation that moves holds, each a ledger triple: from a correct ledger (and the
trace or the live context the caller holds) the operation ends in a correct ledger, whether it
returns or a processor panics while a span is handed over.

* `blockBegin_correct`, `blockEnd_correct` — frames move between a trace's stack and its span;
  no count moves.
* `closeTrace_correct`, `discardTrace_correct` — the synchronous side gives its hold back after
  the frames left open are stored; a discarded span is no longer counted.
* `newTraceObject_correct`, `continueTraceObject_correct`, `disableSampling_correct` — a new span
  starts with the hold of the trace that opens it.
* `nextAsync_correct` — the hold taken on the span is the new context's creation hold.
* `continueAsync_correct` — the hold taken for a branch is owed by the context; when the branch
  cannot be bound it is given back.
* `finishAsync_correct` — a finished branch gives back its hold, and the first also the creation
  hold.
* `cloneAsync_correct`, `dropAsyncRef_correct` — clones change nothing until the last one goes,
  which gives back what the context still owes.

In each proof the intermediate assertion is `Ledger.OffBy l sp k`: after the context's holds move
and before the span's count follows, the span counts `k` more than it is owed, and each
`releaseSpan` takes one off (`releaseSpan_offBy`).
-/

namespace TraceAgent
namespace Agent

open Ledger

theorem releaseSpan_offBy (sp : SpanRef) (k : ℤ) :
    LRuns (OffBy · sp k) (releaseSpan sp) (fun _ l => l.OffBy sp (k - 1)) Correct :=
  LRuns.mono (releaseSpan_lruns sp) (fun _ h => ⟨h.1.release, h.2.release h.1⟩) (fun _ _ h => h)
    fun _ h => h.1.of_closed h.2

theorem finishAsync_correct (a : AsyncRef) :
    LRuns (fun l => l.Correct ∧ a < l.asyncs.size ∧ 0 < (l.async a).refs) (finishAsync a)
      (fun _ => Correct) Correct := by
  unfold finishAsync
  refine LRuns.bind (asyncObj_lruns a) fun obj => ?_
  cases hk : obj.kind with
  | disabled => exact LRuns.pure _ fun _ h => h.1.1
  | recording sp tid aid branch holds =>
    dsimp only
    split
    · exact LRuns.bind (log_lruns _) fun _ => LRuns.pure _ fun _ h => h.1.1
    · rename_i hlt
      refine LRuns.bind (R := fun _ l => l.OffBy sp (1 + holds.creation.toNat) ∧ holds.pinned = true)
        (LRuns.mono (setAsync_lruns _ _) (fun l hl => ?_) (fun _ _ h => h) (fun _ h => h)) fun _ => ?_
      · obtain ⟨⟨hc, ha, hr⟩, rfl⟩ := hl
        have hsound := hc.1.holds_of ha hr hk
        have hpin : holds.pinned = true := by
          have h := hsound.2 rfl
          rwa [Holds.settled_eq_false (by omega)] at h
        refine ⟨(hc.offBy _).setHolds ha hr hk ?_ ?_, hpin⟩
        · exact Holds.sound_unpin (by simp only; omega) hpin
        · rw [Holds.owed_unpin]
          simp only [Holds.owed, Bool.toNat_false]
          omega
      · refine LRuns.of_pre (fun _ h => h.2) fun hpin => ?_
        rw [if_pos hpin]
        refine LRuns.bind (LRuns.mono (releaseSpan_offBy sp _) (fun _ h => h.1) (fun _ _ h => h)
          (fun _ h => h)) fun _ => ?_
        cases holds.creation with
        | false => exact LRuns.pure _ fun _ h => offBy_zero_iff.1 (by simpa using h)
        | true =>
          refine LRuns.bind (releaseSpan_offBy sp _) fun _ => LRuns.pure _ fun _ h => ?_
          exact offBy_zero_iff.1 (by simpa using h)

/-- Giving back one hold per item of a list. -/
theorem releaseEach_offBy {γ : Type} (sp : SpanRef) (xs : List γ) :
    LRuns (OffBy · sp xs.length)
      (for _ in xs do releaseSpan sp)
      (fun _ l => l.OffBy sp 0) Correct := by
  refine LRuns.bind (LRuns.forIn xs _ (fun ys l => l.OffBy sp ys.length) fun x rest => ?_)
    fun _ => LRuns.pure _ fun _ h => h
  refine LRuns.bind (releaseSpan_offBy sp _) fun _ => LRuns.pure _ fun l h => ?_
  simpa using h

/-- Giving back the creation hold if still held, then one hold per unfinished branch. -/
theorem giveBack_correct (sp : SpanRef) (c : Bool) (n : Nat) :
    LRuns (OffBy · sp (c.toNat + n : Nat))
      (do
        if c = true then releaseSpan sp
        for _ in List.range n do releaseSpan sp)
      (fun _ => Correct) Correct := by
  have hloop := LRuns.mono (releaseEach_offBy sp (List.range n))
    (fun l (h : l.OffBy sp n) => by rwa [List.length_range]) (fun _ _ h => offBy_zero_iff.1 h)
    (fun _ h => h)
  cases c with
  | false => simpa using hloop
  | true =>
    refine LRuns.bind (LRuns.mono (releaseSpan_offBy sp _) (fun _ h => h) (fun _ _ h => ?_)
      (fun _ h => h)) fun _ => hloop
    simpa [add_comm] using h

theorem dropAsyncRef_correct (a : AsyncRef) :
    LRuns (fun l => l.Correct ∧ a < l.asyncs.size ∧ 0 < (l.async a).refs) (dropAsyncRef a)
      (fun _ => Correct) Correct := by
  unfold dropAsyncRef
  refine LRuns.bind (asyncObj_lruns a) fun obj => ?_
  cases hk : obj.kind with
  | disabled =>
    refine LRuns.bind (R := fun _ => Correct)
      (LRuns.mono (setAsync_lruns _ _) (fun l hl => ?_) (fun _ _ h => h) (fun _ h => h)) fun _ => ?_
    · obtain ⟨⟨hc, ha, -⟩, rfl⟩ := hl
      refine offBy_zero_iff.1 ((hc.offBy 0).setAsync ha ?_ ?_ ?_ ?_) <;>
        simp [AsyncObj.owes, AsyncObj.Sound, AsyncObj.span?, hk]
    · split <;> exact LRuns.pure _ fun _ h => h
  | recording sp tid aid branch holds =>
    refine LRuns.of_pre (fun l hl => show holds.Sound true ∧ 0 < obj.refs from ?_) fun hpre => ?_
    · obtain ⟨⟨hc, ha, hr⟩, rfl⟩ := hl
      exact ⟨hc.1.holds_of ha hr hk, hr⟩
    obtain ⟨hsound, hpos⟩ := hpre
    by_cases hr1 : obj.refs = 1
    · -- the last clone goes: the context owes nothing from here on, so its span counts what the
      -- context owed until the holds are given back
      rw [hr1]
      refine LRuns.bind
        (R := fun _ l => l.OffBy sp holds.owed ∧ a < l.asyncs.size ∧ (l.async a).refs = 0 ∧
          sp < l.spans.size)
        (LRuns.mono (setAsync_lruns _ _) (fun l hl => ?_) (fun _ _ h => h) (fun _ h => h))
        fun _ => ?_
      · obtain ⟨⟨hc, ha, hr⟩, rfl⟩ := hl
        refine ⟨(hc.offBy _).setAsync ha ?_ ?_ ?_ ?_, by simpa using ha, ?_, ?_⟩
        · intro s hs
          simp [AsyncObj.owes, AsyncObj.live, hk, Ne.symm hs]
        · exact ⟨hsound.1, by simp [AsyncObj.live]⟩
        · intro s hs
          simp only [AsyncObj.span?, Option.some.injEq] at hs
          exact hs ▸ hc.1.span_lt ha hk
        · simp [AsyncObj.owes, AsyncObj.live, hk, hr]
        · simp [async_setAsync_self _ ha]
        · simpa using hc.1.span_lt ha hk
      · rw [if_neg (by simp)]
        dsimp only
        split
        · -- an unpinned context is settled and owes nothing
          rename_i hunpin
          have hset : holds.settled = true := by
            have h := hsound.2 rfl
            simp only [Bool.not_eq_true'] at hunpin
            rw [hunpin] at h
            simpa using h.symm
          exact LRuns.pure _ fun _ h => offBy_zero_iff.1 (by simpa [Holds.owed_eq_zero hset] using h.1)
        · refine LRuns.bind (R := fun _ l => l.OffBy sp holds.owed)
            (LRuns.mono (setAsync_lruns _ _) (fun l hl => ?_) (fun _ _ h => h) (fun _ h => h))
            fun _ => ?_
          · obtain ⟨hoff, ha, hr0, hsp⟩ := hl
            refine hoff.setAsync ha ?_ ?_ ?_ ?_
            · intro s _
              rw [AsyncObj.owes_of_refs_zero hr0]
              simp [AsyncObj.owes, AsyncObj.live]
            · exact ⟨hsound.1, by simp [AsyncObj.live]⟩
            · intro s hs
              simp only [AsyncObj.span?, Option.some.injEq] at hs
              exact hs ▸ hsp
            · rw [AsyncObj.owes_of_refs_zero hr0]
              simp [AsyncObj.owes, AsyncObj.live]
          · split
            · exact LRuns.bind (log_lruns _) fun _ => giveBack_correct sp holds.creation _
            · exact giveBack_correct sp holds.creation _
    · -- other clones remain: nothing changes hands
      refine LRuns.bind (R := fun _ => Correct)
        (LRuns.mono (setAsync_lruns _ _) (fun l hl => ?_) (fun _ _ h => h) (fun _ h => h))
        fun _ => ?_
      · obtain ⟨⟨hc, ha, hr⟩, rfl⟩ := hl
        rw [← hk]
        exact hc.setRefs ha hr (by omega)
      · rw [if_pos (by simp; omega)]
        exact LRuns.pure _ fun _ h => h

theorem cloneAsync_correct (a : AsyncRef) :
    LRuns (fun l => l.Correct ∧ a < l.asyncs.size ∧ 0 < (l.async a).refs) (cloneAsync a)
      (fun _ => Correct) Correct := by
  unfold cloneAsync
  refine LRuns.bind (asyncObj_lruns a) fun obj => ?_
  refine LRuns.mono (setAsync_lruns _ _) (fun l hl => ?_) (fun _ _ h => h) (fun _ h => h)
  obtain ⟨⟨hc, ha, hr⟩, rfl⟩ := hl
  exact hc.setRefs ha hr (Nat.succ_pos _)

theorem continueAsync_correct (a : AsyncRef) :
    LRuns (fun l => l.Correct ∧ a < l.asyncs.size ∧ 0 < (l.async a).refs) (continueAsync a)
      (fun _ => Correct) Correct := by
  unfold continueAsync
  refine LRuns.bind (asyncObj_lruns a) fun obj => ?_
  cases hk : obj.kind with
  | disabled =>
    -- a disabled context only ever adds disabled traces
    refine LRuns.bind (LRuns.of_keeps currentRaw_keepsLedger) fun r => ?_
    cases r with
    | some t =>
      refine LRuns.bind (trace_lruns t) fun o => ?_
      split
      · exact LRuns.pure _ fun _ h => h.1.1.1
      · exact LRuns.bind (log_lruns _) fun _ => LRuns.pure _ fun _ h => h.1.1.1
    | none =>
      refine LRuns.bind (R := fun _ => Correct)
        (LRuns.mono (newTrace_lruns _) (fun l hl => ?_) (fun _ _ h => h) (fun _ h => h)) fun t => ?_
      · exact hl.1.1.pushTrace (fun _ => rfl) (fun _ hs => by simp [TraceObj.span?] at hs)
      · refine LRuns.bind (LRuns.of_keeps (bindTrace_keepsLedger t)) fun r => ?_
        split <;> exact LRuns.pure _ fun _ h => h
  | recording sp tid aid branches holds =>
    refine LRuns.of_pre (fun l hl => show holds.Sound true ∧ 0 < obj.refs from ?_) fun hpre => ?_
    · obtain ⟨⟨hc, ha, hr⟩, rfl⟩ := hl
      exact ⟨hc.1.holds_of ha hr hk, hr⟩
    obtain ⟨hsound, hpos⟩ := hpre
    have hfs : holds.finished ≤ holds.started := hsound.1
    refine LRuns.bind (LRuns.of_keeps currentRaw_keepsLedger) fun r => ?_
    cases r with
    | some t =>
      refine LRuns.bind (LRuns.of_keeps (ownsBranch_keepsLedger sp t)) fun b => ?_
      split
      · exact LRuns.pure _ fun _ h => h.1.1
      · exact LRuns.bind (log_lruns _) fun _ => LRuns.pure _ fun _ h => h.1.1
    | none =>
      -- the acquire: on success the span counts one hold the context does not owe yet
      refine LRuns.bind (R := fun acq l => (if acq then l.OffBy sp 1 else l.Correct) ∧
          a < l.asyncs.size ∧ obj = l.async a) ?_ fun acquired => ?_
      · refine LRuns.bind (LRuns.of_keeps (spanReachable_keepsLedger sp))
          fun b => ?_
        split
        · exact LRuns.pure _ fun _ h => ⟨h.1.1, h.1.2.1, h.2⟩
        · refine LRuns.bind (span_lruns sp) fun u => ?_
          cases hacq : u.acquire with
          | none => exact LRuns.pure _ fun _ h => ⟨h.1.1.1, h.1.1.2.1, h.1.2⟩
          | some v =>
            refine LRuns.bind (LRuns.mono (setSpan_lruns sp v) (fun l hl => ?_) (fun _ _ h => h)
              (fun _ h => h)) fun _ => LRuns.pure _ fun _ h => h
            obtain ⟨⟨⟨hc, ha, -⟩, hobj⟩, rfl⟩ := hl
            refine ⟨?_, ha, hobj⟩
            simpa using (hc.offBy _).acquire hacq
      cases acquired with
      | false =>
        rw [if_pos (show (!false) = true from rfl)]
        exact LRuns.bind (log_lruns _) fun _ => LRuns.pure _ fun _ h => h.1
      | true =>
        rw [if_neg (by decide)]
        dsimp only
        -- the new branch is owed that hold; what the rest of the run reads of the context
        refine LRuns.bind (R := fun _ l => l.Correct ∧ a < l.asyncs.size ∧
            (l.async a).kind = .recording sp tid aid (branches + 1)
              { holds with started := holds.started + 1, pinned := true } ∧
            0 < (l.async a).refs ∧ sp < l.spans.size)
          (LRuns.mono (setAsync_lruns _ _) (fun l hl => ?_) (fun _ _ h => h) (fun _ h => h))
          fun _ => ?_
        · obtain ⟨hoff, ha, rfl⟩ := hl
          rw [if_pos rfl] at hoff
          have hsp := hoff.1.span_lt ha hk
          refine ⟨offBy_zero_iff.1 (hoff.setHolds ha hpos hk ?_ ?_), by simpa using ha,
            by simp [async_setAsync_self _ ha], by simpa [async_setAsync_self _ ha] using hpos,
            by simpa using hsp⟩
          · exact ⟨by simp only; omega, fun _ => by simp [Holds.settled]; omega⟩
          · simp only [Holds.owed]
            omega
        refine LRuns.bind settings_lruns fun st => ?_
        refine LRuns.bind (R := fun _ l => l.Correct ∧ a < l.asyncs.size ∧
            (l.async a).kind = .recording sp tid aid (branches + 1)
              { holds with started := holds.started + 1, pinned := true } ∧
            0 < (l.async a).refs ∧ sp < l.spans.size)
          (LRuns.mono (newTrace_lruns _) (fun l hl => ?_) (fun _ _ h => h) (fun _ h => h))
          fun t => ?_
        · obtain ⟨hc, ha, hk', hr, hsp⟩ := hl
          refine ⟨hc.pushTrace (fun _ => rfl) fun s hs => ?_, ha, hk', hr, hsp⟩
          simp only [TraceObj.span?, Option.some.injEq] at hs
          exact hs ▸ hsp
        refine LRuns.bind (LRuns.of_keeps (bindTrace_keepsLedger t)) fun r => ?_
        rcases r with _ | ⟨⟨⟩⟩
        · -- the chain is unavailable: the branch gives its hold back
          refine LRuns.bind (log_lruns _) fun _ => ?_
          refine LRuns.bind (asyncObj_lruns a) fun obj' => ?_
          refine LRuns.of_pre (fun l hl => hl.2 ▸ hl.1.2.2.1) fun hk' => ?_
          rw [hk']
          dsimp only
          refine LRuns.bind (R := fun _ l => l.OffBy sp 1)
            (LRuns.mono (setAsync_lruns _ _) (fun l hl => ?_) (fun _ _ h => h) (fun _ h => h))
            fun _ => ?_
          · obtain ⟨⟨hc, ha, hk2, hr, -⟩, rfl⟩ := hl
            refine (hc.offBy _).setHolds ha hr hk2 (Holds.sound_unpin (by simp only; omega) rfl) ?_
            rw [Holds.owed_unpin]
            simp only [Holds.owed]
            omega
          · exact LRuns.bind (releaseSpan_offBy sp 1) fun _ =>
              LRuns.pure _ fun _ h => offBy_zero_iff.1 (by simpa using h)
        · exact LRuns.pure _ fun _ h => h.1

theorem blockBegin_correct (t : TraceRef) :
    LRuns (fun l => l.Correct ∧ t < l.traces.size) (blockBegin t) (fun _ => Correct) Correct := by
  unfold blockBegin
  refine LRuns.bind (trace_lruns t) fun o => ?_
  cases hk : o.kind with
  | disabled => exact LRuns.pure _ fun _ h => h.1.1
  | recording sp br st =>
    dsimp only
    split
    · exact LRuns.bind (log_lruns _) fun _ => LRuns.pure _ fun _ h => h.1.1
    split
    · -- a counted frame: only the stack changes
      refine LRuns.bind (R := fun _ => Correct)
        (LRuns.mono (setTrace_lruns _ _) (fun l hl => ?_) (fun _ _ h => h) (fun _ h => h))
        fun _ => LRuns.pure _ fun _ h => h
      obtain ⟨⟨hc, ht⟩, rfl⟩ := hl
      exact offBy_zero_iff.1 ((hc.offBy 0).restack ht hk _)
    · -- a recorded frame takes the span's next sequence number, which moves no count
      refine LRuns.bind (span_lruns sp) fun u => ?_
      refine LRuns.bind (R := fun _ l => l.Correct ∧ t < l.traces.size ∧ o = l.trace t)
        (LRuns.mono (setSpan_lruns _ _) (fun l hl => ?_) (fun _ _ h => h) (fun _ h => h))
        fun _ => ?_
      · obtain ⟨⟨⟨hc, ht⟩, ho⟩, rfl⟩ := hl
        refine ⟨offBy_zero_iff.1 ((hc.offBy sp).setSpan_same fun h => ?_), ht, ho⟩
        exact ⟨by simpa using h, SpanState.takeSequence_pending _⟩
      refine LRuns.bind (R := fun _ => Correct)
        (LRuns.mono (setTrace_lruns _ _) (fun l hl => ?_) (fun _ _ h => h) (fun _ h => h))
        fun _ => LRuns.pure _ fun _ h => h
      obtain ⟨hc, ht, rfl⟩ := hl
      exact offBy_zero_iff.1 ((hc.offBy 0).restack ht hk _)

/-- Storing a sealed frame moves no count. -/
theorem pushEvent_offBy (sp : SpanRef) (e : SpanEvent) (k : ℤ) {E : Ledger → Prop} :
    LRuns (OffBy · sp k) (pushEvent sp e) (fun _ l => l.OffBy sp k) E := by
  unfold pushEvent
  refine LRuns.bind (span_lruns sp) fun u => ?_
  rcases hp : u.pushEvent e with ⟨v, logs⟩
  refine LRuns.bind (LRuns.mono (setSpan_lruns sp v) (fun l hl => ?_) (fun _ _ h => h)
    (fun _ h => h)) fun _ => emit_lruns logs
  obtain ⟨h, rfl⟩ := hl
  refine h.setSpan_same fun ho => ?_
  have hopen := SpanState.pushEvent_isOpen (l.span sp) e
  have hpend := SpanState.pushEvent_pending (l.span sp) e
  rw [hp] at hopen hpend
  exact ⟨by rw [← hopen]; exact ho, hpend⟩

theorem blockEnd_correct (t : TraceRef) :
    LRuns (fun l => l.Correct ∧ t < l.traces.size) (blockEnd t) (fun _ => Correct) Correct := by
  unfold blockEnd
  refine LRuns.bind (trace_lruns t) fun o => ?_
  cases hk : o.kind with
  | disabled => exact LRuns.pure _ fun _ h => h.1.1
  | recording sp br st =>
    dsimp only
    split
    · exact LRuns.pure _ fun _ h => h.1.1
    split
    · -- a recorded frame goes from the stack into the span
      refine LRuns.bind (R := fun _ l => l.OffBy sp 0)
        (LRuns.mono (setTrace_lruns _ _) (fun l hl => ?_) (fun _ _ h => h) (fun _ h => h))
        fun _ => ?_
      · obtain ⟨⟨hc, ht⟩, rfl⟩ := hl
        exact (hc.offBy _).restack ht hk _
      exact LRuns.bind (pushEvent_offBy sp _ 0) fun _ => LRuns.pure _ fun _ h => offBy_zero_iff.1 h
    · refine LRuns.bind (R := fun _ => Correct)
        (LRuns.mono (setTrace_lruns _ _) (fun l hl => ?_) (fun _ _ h => h) (fun _ h => h))
        fun _ => LRuns.pure _ fun _ h => h
      obtain ⟨⟨hc, ht⟩, rfl⟩ := hl
      exact offBy_zero_iff.1 ((hc.offBy 0).restack ht hk _)
    · exact LRuns.bind (log_lruns _) fun _ => LRuns.pure _ fun _ h => h.1.1

/-- Storing sealed frames one after the other moves no count. -/
theorem pushEach_offBy (sp : SpanRef) (es : List SpanEvent) (k : ℤ) {E : Ledger → Prop} :
    LRuns (OffBy · sp k)
      (ForIn.forIn es PUnit.unit fun e _ => do
        pushEvent sp e
        pure (ForInStep.yield PUnit.unit))
      (fun _ l => l.OffBy sp k) E :=
  LRuns.forIn es _ (fun _ l => l.OffBy sp k) fun x _ =>
    LRuns.bind (pushEvent_offBy sp x k) fun _ => LRuns.pure _ fun _ h => h

theorem closeTrace_correct (t : TraceRef) :
    LRuns (fun l => l.Correct ∧ t < l.traces.size) (closeTrace t) (fun _ => Correct) Correct := by
  unfold closeTrace
  refine LRuns.bind (trace_lruns t) fun o => ?_
  split
  · exact LRuns.pure _ fun _ h => h.1.1
  cases hk : o.kind with
  | disabled =>
    refine LRuns.mono (setTrace_lruns _ _) (fun l hl => ?_) (fun _ _ h => h) (fun _ h => h)
    obtain ⟨⟨hc, ht⟩, rfl⟩ := hl
    exact hc.closeTrace_disabled ht hk
  | recording sp br st =>
    rcases hd : st.drain with ⟨frames, st'⟩
    dsimp only
    refine LRuns.bind (R := fun _ l => l.OffBy sp (o.syncHold sp))
      (LRuns.mono (setTrace_lruns _ _) (fun l hl => ?_) (fun _ _ h => h) (fun _ h => h))
      fun _ => ?_
    · obtain ⟨⟨hc, ht⟩, rfl⟩ := hl
      exact hc.closeTrace_recording ht hk _
    -- the synchronous side's hold goes back last, after any frames left open are stored
    have tail : LRuns (OffBy · sp (o.syncHold sp)) (if br.isNone = true then releaseSpan sp else pure ())
        (fun _ => Correct) Correct := by
      cases br with
      | none =>
        have hone : o.syncHold sp = 1 := by simp [TraceObj.syncHold, *]
        rw [hone, if_pos (show Option.isNone none = true from rfl)]
        exact LRuns.mono (releaseSpan_offBy sp 1) (fun _ h => h)
          (fun _ _ h => offBy_zero_iff.1 (by simpa using h)) (fun _ h => h)
      | some b =>
        have hzero : o.syncHold sp = 0 := by simp [TraceObj.syncHold, hk]
        rw [hzero, if_neg (show ¬(some b).isNone = true from Bool.false_ne_true)]
        exact LRuns.pure _ fun _ h => offBy_zero_iff.1 (by simpa using h)
    split
    · exact LRuns.bind (log_lruns _) fun _ => LRuns.bind (pushEach_offBy sp _ _) fun _ => tail
    · exact tail

theorem discardTrace_correct (t : TraceRef) :
    LRuns (fun l => l.Correct ∧ t < l.traces.size) (discardTrace t) (fun _ => Correct) Correct := by
  unfold discardTrace discardTraceObj
  refine LRuns.bind (R := fun _ => Correct) ?_ fun _ =>
    LRuns.bind (LRuns.of_keeps (withChain_keepsLedger _)) fun _ => LRuns.pure _ fun _ h => h
  refine LRuns.bind (trace_lruns t) fun o => ?_
  cases hk : o.kind with
  | disabled =>
    refine LRuns.mono (setTrace_lruns _ _) (fun l hl => ?_) (fun _ _ h => h) (fun _ h => h)
    obtain ⟨⟨hc, ht⟩, rfl⟩ := hl
    exact hc.closeTrace_disabled ht hk
  | recording sp br st =>
    dsimp only
    refine LRuns.bind (R := fun _ l => l.OffBy sp (o.syncHold sp))
      (LRuns.mono (setTrace_lruns _ _) (fun l hl => ?_) (fun _ _ h => h) (fun _ h => h))
      fun _ => ?_
    · obtain ⟨⟨hc, ht⟩, rfl⟩ := hl
      exact hc.closeTrace_recording ht hk _
    -- the span is thrown away, whatever it still counts
    refine LRuns.bind (span_lruns sp) fun u => ?_
    refine LRuns.bind (R := fun _ => Correct)
      (LRuns.mono (setSpan_lruns _ _) (fun l hl => ?_) (fun _ _ h => h) (fun _ h => h)) fun _ => ?_
    · obtain ⟨h, rfl⟩ := hl
      exact h.discard (SpanState.discard_isOpen _)
    split
    · exact LRuns.bind (log_lruns _) fun _ => LRuns.pure _ fun _ h => h
    · exact LRuns.pure _ fun _ h => h

/-- A new span starts with the one hold of the trace that opens it. -/
theorem recordingTrace_correct (tid : TraceId) {E : Ledger → Prop} :
    LRuns Correct (recordingTrace tid) (fun _ => Correct) E := by
  unfold recordingTrace
  refine LRuns.bind settings_lruns fun st => ?_
  refine LRuns.bind (R := fun sp l => l.OffBy sp 1 ∧ sp < l.spans.size ∧ l.openSync sp = 0)
    (LRuns.mono (newSpan_lruns _) (fun l hl => ?_) (fun _ _ h => h) (fun _ h => h)) fun sp => ?_
  · refine ⟨⟨hl.1.pushSpan fun _ => Nat.one_pos, ?_⟩, by simp, openSync_eq_zero hl.1 le_rfl⟩
    exact_mod_cast hl.2.pushSpan hl.1 _
  refine LRuns.mono (newTrace_lruns _) (fun l hl => ?_) (fun _ _ h => h) (fun _ h => h)
  obtain ⟨⟨hs, hb⟩, hsp, hfree⟩ := hl
  have hne : ∀ s, s ≠ sp →
      TraceObj.syncHold { kind := .recording sp none { maxDepth := st.maxCallStackDepth } } s = 0 :=
    fun s hs => by simp [TraceObj.syncHold, Ne.symm hs]
  have hone : TraceObj.syncHold { kind := .recording sp none { maxDepth := st.maxCallStackDepth } } sp = 1 := by
    simp [TraceObj.syncHold]
  have hb' := hb.pushTrace hne
  rw [hone, Nat.cast_one, sub_self] at hb'
  refine offBy_zero_iff.1 ⟨hs.pushTrace (fun s h => ?_) fun s => ?_, hb'⟩
  · simp only [TraceObj.span?, Option.some.injEq] at h
    exact h ▸ hsp
  · -- the new span had no synchronous side yet
    by_cases hs' : s = sp
    · subst hs'
      rw [hfree, hone]
    · rw [hne s hs', add_zero]
      exact hs.sync_le_one s

/-- A disabled trace holds nothing. -/
theorem newDisabled_correct (a : Bool) {E : Ledger → Prop} :
    LRuns Correct (newTrace { kind := .disabled a }) (fun _ => Correct) E :=
  LRuns.mono (newTrace_lruns _) (fun _ h => h.pushTrace (fun _ => rfl) fun _ hs => by
    simp [TraceObj.span?] at hs) (fun _ _ h => h) (fun _ h => h)

theorem newTraceObject_correct :
    LRuns Correct newTraceObject (fun _ => Correct) Correct := by
  unfold newTraceObject
  refine LRuns.bind (LRuns.of_keeps ensureUnbound_keepsLedger) fun r => ?_
  split
  · exact LRuns.pure _ fun _ h => h
  refine LRuns.bind (LRuns.of_keeps isSampled_keepsLedger) fun b => ?_
  cases b with
  | true =>
    refine LRuns.bind settings_lruns fun st => ?_
    refine LRuns.bind (LRuns.of_keeps nextSequence_keepsLedger) fun _ => ?_
    refine LRuns.bind (LRuns.of_keeps newSpanId_keepsLedger) fun _ => ?_
    exact LRuns.bind (recordingTrace_correct _) fun t =>
      LRuns.of_keeps (bindNew_keepsLedger t)
  | false =>
    exact LRuns.bind (newDisabled_correct false) fun t =>
      LRuns.of_keeps (bindNew_keepsLedger t)

theorem continueTraceObject_correct (tid : TraceId) :
    LRuns Correct (continueTraceObject tid) (fun _ => Correct) Correct := by
  unfold continueTraceObject
  refine LRuns.bind (LRuns.of_keeps ensureUnbound_keepsLedger) fun r => ?_
  split
  · exact LRuns.pure _ fun _ h => h
  exact LRuns.bind (recordingTrace_correct tid) fun t =>
    LRuns.of_keeps (bindNew_keepsLedger t)

theorem disableSampling_correct :
    LRuns Correct disableSampling (fun _ => Correct) Correct := by
  unfold disableSampling
  refine LRuns.bind (LRuns.of_keeps ensureUnbound_keepsLedger) fun r => ?_
  split
  · exact LRuns.pure _ fun _ h => h
  exact LRuns.bind (newDisabled_correct false) fun t =>
    LRuns.of_keeps (bindNew_keepsLedger t)

theorem nextAsync_correct (r : EventRecorder) :
    LRuns (fun l => l.Correct ∧ r.owner < l.traces.size) r.nextAsync (fun _ => Correct) Correct := by
  unfold EventRecorder.nextAsync
  -- a context that resumes disabled traces owes nothing
  have hdisabled : ∀ {P : Ledger → Prop}, (∀ l, P l → l.Correct) →
      LRuns P (newAsync .disabled) (fun _ => Correct) Correct := fun hP =>
    LRuns.mono (newAsync_lruns _) (fun l h => (hP l h).pushAsync (fun _ => rfl)
      (show AsyncObj.Sound ⟨.disabled, 1⟩ from trivial) fun _ hs => by simp [AsyncObj.span?] at hs)
      (fun _ _ h => h) (fun _ h => h)
  split
  · exact hdisabled fun _ h => h.1
  refine LRuns.bind (trace_lruns _) fun o => ?_
  -- the hold taken for the new context, on the span it will write into
  refine LRuns.bind (R := fun tk l => tk.elim l.Correct fun t => l.OffBy t.1 1 ∧ t.1 < l.spans.size)
    ?_ fun tk => ?_
  · split
    · exact LRuns.pure _ fun _ h => h.1.1
    cases hk : o.kind with
    | disabled => exact LRuns.pure _ fun _ h => h.1.1
    | recording sp br st =>
      dsimp only
      split
      · exact LRuns.pure _ fun _ h => h.1.1
      refine LRuns.bind (span_lruns sp) fun u => ?_
      cases hacq : u.acquire with
      | none => exact LRuns.pure _ fun _ h => h.1.1.1
      | some v =>
        refine LRuns.bind (R := fun _ l => l.OffBy sp 1 ∧ r.owner < l.traces.size ∧ o = l.trace r.owner)
          (LRuns.mono (setSpan_lruns _ _) (fun l hl => ?_) (fun _ _ h => h) (fun _ h => h))
          fun _ => ?_
        · obtain ⟨⟨⟨hc, ht⟩, ho⟩, rfl⟩ := hl
          exact ⟨by simpa using (hc.offBy _).acquire hacq, ht, ho⟩
        refine LRuns.bind (LRuns.of_keeps nextAsyncId_keepsLedger) fun aid => ?_
        refine LRuns.bind (R := fun _ l => l.OffBy sp 1 ∧ sp < l.spans.size)
          (LRuns.mono (setTrace_lruns _ _) (fun l hl => ?_) (fun _ _ h => h) (fun _ h => h))
          fun _ => LRuns.pure _ fun _ h => h
        obtain ⟨hoff, ht, rfl⟩ := hl
        exact ⟨hoff.restack ht hk _, hoff.1.trace_span_lt ht hk⟩
  · rcases tk with _ | ⟨sp, tid, aid⟩
    · exact LRuns.bind (LRuns.of_keeps (log_keepsLedger _)) fun _ => hdisabled fun _ h => h
    · -- the new context owes the creation hold the span counts already
      refine LRuns.mono (newAsync_lruns _) (fun l hl => ?_) (fun _ _ h => h) (fun _ h => h)
      obtain ⟨hoff, hsp⟩ := hl
      have howes : AsyncObj.owes ⟨.recording sp tid aid 0 {}, 1⟩ sp = 1 := by
        simp [AsyncObj.owes, AsyncObj.live, Holds.owed]
      have hb := hoff.2.pushAsync (v := ⟨.recording sp tid aid 0 {}, 1⟩)
        fun s hs => by simp [AsyncObj.owes, Ne.symm hs]
      rw [howes, Nat.cast_one, sub_self] at hb
      refine offBy_zero_iff.1 ⟨hoff.1.pushAsync ?_ fun s hs => ?_, hb⟩
      · exact ⟨le_rfl, fun _ => rfl⟩
      · simp only [AsyncObj.span?, Option.some.injEq] at hs
        exact hs ▸ hsp


end Agent
end TraceAgent
