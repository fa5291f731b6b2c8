import TraceAgent.Proofs.Holds.HandOver

/-!
# Hold accounting over every run

A run starts from a context with no spans, traces or async contexts and takes, one at a time and
each on any thread, the operations that move holds (`HoldOp`): starting or continuing a
transaction, opening and sealing frames, closing and discarding traces, handing work off to an
async context, resuming and finishing branches, and cloning and dropping contexts. Each is taken
with what its caller holds: an existing trace, or a live clone of an existing context
(`HoldOp.Valid`). A run goes on after an operation that panicked, as a caller that catches the
unwinding does.

* `HoldOp.run_correct` — one operation keeps the accounting correct (`Ledger.Correct`), also
  when a processor panics while a span is handed over.
* `HoldReachable.correct` — so every world a run reaches has correct accounting.
* `HoldOp.fed_step` — one operation hands the pipeline only the spans it finishes, each once, also
  when a processor panics; `HoldReachable.fed` — so does every run from a reachable world
  (`Relation.ReflTransGen HoldStep`).
* `hold_accounting` — in every such world, every recording async context has finished no more
  branches than it started and, while a clone of it is alive, pins its span exactly while it is
  not settled; every open span has a hold outstanding, at most one open synchronous side,
  and counts exactly that side while it is open plus what the live contexts writing into it
  owe; and every run from it feeds the pipeline exactly the spans that finish on the way, each
  once, in the order they finish.
-/

namespace TraceAgent
namespace Agent

/-- The operations that move holds. -/
inductive HoldOp where
  | newTrace
  | continueTrace (tid : TraceId)
  | disableSampling
  | removeTrace
  | blockBegin (t : TraceRef)
  | blockEnd (t : TraceRef)
  | close (t : TraceRef)
  | discard (t : TraceRef)
  | nextAsync (r : EventRecorder)
  | continueAsync (a : AsyncRef)
  | finishAsync (a : AsyncRef)
  | cloneAsync (a : AsyncRef)
  | dropAsync (a : AsyncRef)

namespace HoldOp

/-- The operation, its result dropped. -/
def run : HoldOp → Agent Unit
  | newTrace => do let _ ← newTraceObject
  | continueTrace tid => do let _ ← continueTraceObject tid
  | disableSampling => do let _ ← Agent.disableSampling
  | removeTrace => do let _ ← removeTraceObject
  | blockBegin t => do let _ ← Agent.blockBegin t
  | blockEnd t => do let _ ← Agent.blockEnd t
  | close t => closeTrace t
  | discard t => discardTrace t
  | nextAsync r => do let _ ← r.nextAsync
  | continueAsync a => do let _ ← Agent.continueAsync a
  | finishAsync a => do let _ ← Agent.finishAsync a
  | cloneAsync a => Agent.cloneAsync a
  | dropAsync a => dropAsyncRef a

/-- What the caller of an operation holds: the trace it works on, or a live clone of the
context. -/
def Valid (l : Ledger) : HoldOp → Prop
  | blockBegin t | blockEnd t | close t | discard t => t < l.traces.size
  | nextAsync r => r.owner < l.traces.size
  | continueAsync a | finishAsync a | cloneAsync a | dropAsync a =>
    a < l.asyncs.size ∧ 0 < (l.async a).refs
  | _ => True

/-- A result dropped keeps what the operation established. -/
theorem lruns_drop {α : Type} {P : Ledger → Prop} {k : Agent α}
    (h : LRuns P k (fun _ => Ledger.Correct) Ledger.Correct) :
    LRuns P (do let _ ← k) (fun _ => Ledger.Correct) Ledger.Correct :=
  LRuns.bind h fun _ => LRuns.pure _ fun _ h => h

/-- One operation keeps the accounting correct, whether it returns or panics. -/
theorem run_correct (op : HoldOp) :
    LRuns (fun l => l.Correct ∧ op.Valid l) op.run (fun _ => Ledger.Correct) Ledger.Correct := by
  cases op with
  | newTrace => exact lruns_drop (LRuns.mono newTraceObject_correct (fun _ h => h.1)
      (fun _ _ h => h) (fun _ h => h))
  | continueTrace tid => exact lruns_drop (LRuns.mono (continueTraceObject_correct tid)
      (fun _ h => h.1) (fun _ _ h => h) (fun _ h => h))
  | disableSampling => exact lruns_drop (LRuns.mono disableSampling_correct (fun _ h => h.1)
      (fun _ _ h => h) (fun _ h => h))
  | removeTrace => exact lruns_drop (LRuns.mono (LRuns.of_keeps removeTraceObject_keepsLedger)
      (fun _ h => h.1) (fun _ _ h => h) (fun _ h => h))
  | blockBegin t => exact lruns_drop (blockBegin_correct t)
  | blockEnd t => exact lruns_drop (blockEnd_correct t)
  | close t => exact closeTrace_correct t
  | discard t => exact discardTrace_correct t
  | nextAsync r => exact lruns_drop (nextAsync_correct r)
  | continueAsync a => exact lruns_drop (continueAsync_correct a)
  | finishAsync a => exact lruns_drop (finishAsync_correct a)
  | cloneAsync a => exact cloneAsync_correct a
  | dropAsync a => exact dropAsyncRef_correct a

/-- One operation, from a world whose objects write into spans that exist, hands the pipeline only
the spans it finishes, each once, whether it returns or panics. -/
theorem run_feeding (op : HoldOp) {v : World} (hl : v.ledger.Sound) (hv : op.Valid v.ledger) :
    Runs (· = v) op.run (fun _ => Fed v) (Fed v) := by
  -- the operations that give a hold back read the span it is on from the tables of `v`
  have drop {α : Type} {k : Agent α} (h : Runs (· = v) k (fun _ => Fed v) (Fed v)) :
      Runs (· = v) (do let _ ← k) (fun _ => Fed v) (Fed v) :=
    Runs.bind h fun _ => Feeding.pure _
  cases op with
  | newTrace => exact drop newTraceObject_feeding.runs
  | continueTrace tid => exact drop (continueTraceObject_feeding tid).runs
  | disableSampling => exact drop disableSampling_feeding.runs
  | removeTrace => exact drop removeTraceObject_feeding.runs
  | blockBegin t => exact drop (blockBegin_feeding t).runs
  | blockEnd t => exact drop (blockEnd_feeding t).runs
  | close t => exact closeTrace_feeding fun _ _ _ hk => hl.trace_span_lt hv hk
  | discard t => exact (discardTrace_feeding t).runs
  | nextAsync r => exact drop (nextAsync_feeding r).runs
  | continueAsync a => exact drop (continueAsync_feeding fun _ _ _ _ _ hk => hl.span_lt hv.1 hk)
  | finishAsync a => exact drop (finishAsync_feeding fun _ _ _ _ _ hk => hl.span_lt hv.1 hk)
  | cloneAsync a => exact (cloneAsync_feeding a).runs
  | dropAsync a => exact dropAsyncRef_feeding fun _ _ _ _ _ hk => hl.span_lt hv.1 hk

/-- The same on any thread: the calling thread does not change what is handed over. -/
theorem fed_step (op : HoldOp) (th : Thread) {v : World} (hl : v.ledger.Sound)
    (hv : op.Valid v.ledger) : Fed v (finalWorld (onThread th op.run) v) := by
  refine Runs.finalWorld (P := (· = v)) (onThread_runs th fun back => ?_) rfl
  refine Runs.mono (op.run_feeding (v := { v with here := th }) hl hv) (fun x hx => ?_)
    (fun _ _ h => h) (fun _ h => h)
  obtain ⟨rfl, rfl⟩ := hx
  rfl

end HoldOp

/-- The worlds a run reaches: from one with no spans, traces or contexts, any operation that moves
holds, on any thread, taken with what its caller holds; a panic ends the operation, not the run. -/
inductive HoldReachable : World → Prop
  | start {w : World} : w.spans = #[] → w.traces = #[] → w.asyncs = #[] → HoldReachable w
  | step {w : World} (th : Thread) (op : HoldOp) : HoldReachable w → op.Valid w.ledger →
      HoldReachable (finalWorld (onThread th op.run) w)

/-- One operation that moves holds, on any thread, taken with what its caller holds. -/
def HoldStep (v v' : World) : Prop :=
  ∃ (th : Thread) (op : HoldOp), op.Valid v.ledger ∧ v' = finalWorld (onThread th op.run) v

/-- An empty ledger is correct: there is nothing to count. -/
theorem Ledger.correct_empty {l : Ledger} (hs : l.spans = #[]) (ht : l.traces = #[])
    (ha : l.asyncs = #[]) : l.Correct := by
  refine ⟨⟨?_, ?_, ?_, ?_, fun s => ?_⟩, ?_⟩
  · simp [ht]
  · simp [ha]
  · simp [ha]
  · simp [hs]
  · simp [Ledger.openSync, ht]
  · simp [Ledger.Balanced, hs]

/-- Every world a run reaches has correct accounting. -/
theorem HoldReachable.correct {w : World} (h : HoldReachable w) : w.ledger.Correct := by
  induction h with
  | start hs ht ha => exact Ledger.correct_empty hs ht ha
  | step th op _ hv ih => exact Runs.finalWorld ((op.run_correct).onThread th) ⟨ih, hv⟩

theorem HoldReachable.steps {w w' : World} (h : HoldReachable w)
    (hs : Relation.ReflTransGen HoldStep w w') : HoldReachable w' := by
  induction hs with
  | refl => exact h
  | tail _ hstep ih =>
    obtain ⟨th, op, hv, rfl⟩ := hstep
    exact .step th op ih hv

/-- Every run from a reachable world feeds the pipeline exactly the spans that finish on the way,
each once: each step does, from a world with correct accounting. -/
theorem HoldReachable.fed {w w' : World} (h : HoldReachable w)
    (hs : Relation.ReflTransGen HoldStep w w') : Fed w w' := by
  induction hs with
  | refl => exact Fed.refl w
  | tail hsteps hstep ih =>
    obtain ⟨th, op, hv, rfl⟩ := hstep
    exact ih.trans (op.fed_step th (h.steps hsteps).correct.1 hv)

theorem hold_accounting {w : World} (h : HoldReachable w) :
    (∀ o ∈ w.asyncs, ∀ (sp : SpanRef) (tid : TraceId) (aid : AsyncId) (br : UInt32) (hs : Holds),
        o.kind = .recording sp tid aid br hs →
        hs.finished ≤ hs.started ∧ (0 < o.refs → (hs.pinned = true ↔ hs.settled = false))) ∧
      (∀ (s : Nat) (hs : s < w.spans.size), w.spans[s].isOpen = true →
        0 < w.spans[s].pending ∧ w.ledger.openSync s ≤ 1 ∧
          w.spans[s].pending = w.ledger.openSync s + w.ledger.owed s) ∧
      ∀ w', Relation.ReflTransGen HoldStep w w' → ∃ L, w.outbox.Feeds L w'.outbox := by
  obtain ⟨hsound, hbal⟩ := h.correct
  refine ⟨fun o ho sp tid aid br hs hk => ?_, fun s hs ho => ?_, fun w' hs => h.fed hs⟩
  · have hos := hsound.holds o ho
    rw [AsyncObj.sound_of_kind hk] at hos
    refine ⟨hos.1, fun hr => ?_⟩
    have hpin := hos.2 (by simpa using hr)
    cases hsettled : hs.settled <;> simp_all
  · have hspan : w.ledger.span s = w.spans[s] := by simp [Ledger.span, World.ledger, hs]
    rw [← hspan] at ho ⊢
    exact ⟨hsound.open_held s hs ho, hsound.sync_le_one s, hbal s hs ho⟩

/-- The accounting after one step: a remote caller's transaction continued on the host thread. -/
theorem hold_accounting_continued :
    let w := finalWorld (onThread .host (HoldOp.continueTrace default).run) default
    HoldReachable w ∧
      ((∀ o ∈ w.asyncs, ∀ (sp : SpanRef) (tid : TraceId) (aid : AsyncId) (br : UInt32) (hs : Holds),
          o.kind = .recording sp tid aid br hs →
          hs.finished ≤ hs.started ∧ (0 < o.refs → (hs.pinned = true ↔ hs.settled = false))) ∧
        (∀ (s : Nat) (hs : s < w.spans.size), w.spans[s].isOpen = true →
          0 < w.spans[s].pending ∧ w.ledger.openSync s ≤ 1 ∧
            w.spans[s].pending = w.ledger.openSync s + w.ledger.owed s) ∧
        ∀ w', Relation.ReflTransGen HoldStep w w' → ∃ L, w.outbox.Feeds L w'.outbox) := by
  intro w
  have h : HoldReachable w := .step .host (.continueTrace default) (.start rfl rfl rfl) trivial
  exact ⟨h, hold_accounting h⟩

end Agent
end TraceAgent
