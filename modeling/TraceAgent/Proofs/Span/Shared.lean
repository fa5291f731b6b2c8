import Mathlib
import TraceAgent.Proofs.Span.Offers
import TraceAgent.Proofs.Traces.Closing

/-!
# The world follows the writers of a shared span

The operations on the traces writing into one span run in the world as the span writers of
`Writers` say. `Tracking sp w Q` ties a world to a state of the writers: the span `sp` is the
writers' span, and each trace writing into it is either open and in step with its frame machine,
or closed. Every operation keeps `Tracking` and hands the pipeline exactly the spans the step
exports (`Tracking.step`), so a whole interleaving does too (`Tracking.runAll`).

What a trace's own operation leaves alone is said once, by views of the world that it keeps
(`Keeps`): the other traces, and the pipeline unless a hold is given back.

Main statement: `shared_span_law`, the law of a shared span over every interleaving:
the frames are numbered from the span's 32-bit counter in opening order, each frame is offered at
most once, a discarded or finished span keeps and hands over nothing more, and the span is handed
over at most once, holding the first `maxEvents` frames offered while it was open, sorted by
number, and counting the others in 32 bits. Past `2^32` frames the counter wraps, and frames
opened later get smaller numbers, and the count of frames left out wraps too (`span_counters_wrap`).
-/

namespace TraceAgent

open LogicalStack

/-- The traces of a world other than `t`. -/
def World.others (w : World) (t : TraceRef) : TraceRef → Option TraceObj :=
  fun u => if u = t then none else w.traces[u]?

namespace Agent

variable {α β γ : Type}

/-- A program keeps the view `f` of the world: the world it leaves, by returning or by
panicking, has the view of the world it started from. -/
def Keeps (f : World → γ) (k : Agent α) : Prop :=
  ∀ b, Runs (fun v => f v = b) k (fun _ v => f v = b) (fun v => f v = b)

/-- A view of the world that writes into spans and into logs leave alone. -/
structure Quiet (f : World → γ) : Prop where
  spans : ∀ w xs, f { w with spans := xs } = f w
  logs : ∀ w xs, f { w with logs := xs } = f w

/-- A view that writes into trace `t` leave alone as well. -/
structure Beside (t : TraceRef) (f : World → γ) : Prop extends Quiet f where
  trace : ∀ w v, f { w with traces := w.traces.set! t v } = f w

theorem quiet_traces : Quiet World.traces := ⟨fun _ _ => rfl, fun _ _ => rfl⟩

theorem beside_others (t : TraceRef) : Beside t (World.others · t) where
  spans _ _ := rfl
  logs _ _ := rfl
  trace w v := by
    funext u
    by_cases h : u = t
    · simp [World.others, h]
    · simp [World.others, h, Array.set!_eq_setIfInBounds, Array.getElem?_setIfInBounds_ne (Ne.symm h)]

theorem beside_pipeline (t : TraceRef) : Beside t World.pipeline where
  spans _ _ := rfl
  logs _ _ := rfl
  trace _ _ := rfl

theorem others_eq {w w' : World} {t u : TraceRef} (h : w'.others t = w.others t) (hu : u ≠ t) :
    w'.traces[u]? = w.traces[u]? := by
  have := congrFun h u
  simpa [World.others, hu] using this

namespace Keeps

variable {f : World → γ}

theorem pure (a : α) : Keeps f (Pure.pure a : Agent α) := fun _ => Runs.pure a fun _ h => h

theorem bind {k : Agent α} {g : α → Agent β} (hk : Keeps f k) (hg : ∀ a, Keeps f (g a)) :
    Keeps f (k >>= g) :=
  fun b => Runs.bind (hk b) fun a => hg a b

theorem forIn {δ : Type} (xs : List δ) {g : δ → PUnit → Agent (ForInStep PUnit)}
    (hg : ∀ x u, Keeps f (g x u)) : Keeps f (ForIn.forIn xs ⟨⟩ g) := fun b =>
  Runs.forIn xs g (fun _ v => f v = b) fun x _ =>
    Runs.mono (hg x ⟨⟩ b) (fun _ h => h) (fun r _ h => by cases r <;> exact h) (fun _ h => h)

theorem run_ok {k : Agent α} (hk : Keeps f k) {w w' : World} {a : α} (h : k.run w = .ok a w') :
    f w' = f w := by
  have hrun := hk (f w) w rfl
  rw [h] at hrun
  exact hrun

theorem finalWorld {k : Agent α} (hk : Keeps f k) (w : World) : f (Agent.finalWorld k w) = f w :=
  Runs.finalWorld (hk (f w)) rfl

end Keeps

/-! ## What the operations on one trace keep -/

section Footprint

variable {t : TraceRef} {f : World → γ}

theorem trace_keeps (u : TraceRef) : Keeps f (trace u) := fun b => trace_runs u (Q := fun _ v => f v = b)

theorem span_keeps (sp : SpanRef) : Keeps f (span sp) := fun b => span_runs sp (Q := fun _ v => f v = b)

theorem setSpan_keeps (hf : Quiet f) (sp : SpanRef) (v : SpanState) : Keeps f (setSpan sp v) :=
  fun _ => Runs.mono (setSpan_runs sp v) (fun w hw => (hf.spans w _).trans hw) (fun _ _ h => h) (fun _ h => h)

theorem emit_keeps (hf : Quiet f) (es : List LogEvent) : Keeps f (emit es) :=
  fun _ => Runs.mono (emit_runs es) (fun w hw => (hf.logs w _).trans hw) (fun _ _ h => h) (fun _ h => h)

theorem setTrace_keeps (hf : Beside t f) (v : TraceObj) : Keeps f (setTrace t v) :=
  fun _ => Runs.mono (setTrace_runs t v) (fun w hw => (hf.trace w v).trans hw) (fun _ _ h => h) (fun _ h => h)

theorem pushEvent_keeps (hf : Quiet f) (sp : SpanRef) (e : SpanEvent) : Keeps f (pushEvent sp e) := by
  unfold pushEvent
  refine Keeps.bind (span_keeps sp) fun u => ?_
  exact Keeps.bind (setSpan_keeps hf sp _) fun _ => emit_keeps hf _

theorem blockBegin_keeps (hf : Beside t f) : Keeps f (blockBegin t) := by
  unfold blockBegin
  refine Keeps.bind (trace_keeps t) fun o => ?_
  cases hk : o.kind with
  | disabled => exact Keeps.pure _
  | recording sp br st =>
    dsimp only
    split
    · exact Keeps.bind (emit_keeps hf.toQuiet _) fun _ => Keeps.pure _
    split
    · exact Keeps.bind (setTrace_keeps hf _) fun _ => Keeps.pure _
    · refine Keeps.bind (span_keeps sp) fun u => ?_
      exact Keeps.bind (setSpan_keeps hf.toQuiet sp _) fun _ => Keeps.bind (setTrace_keeps hf _) fun _ => Keeps.pure _

theorem blockEnd_keeps (hf : Beside t f) : Keeps f (blockEnd t) := by
  unfold blockEnd
  refine Keeps.bind (trace_keeps t) fun o => ?_
  cases hk : o.kind with
  | disabled => exact Keeps.pure _
  | recording sp br st =>
    dsimp only
    split
    · exact Keeps.pure _
    split
    · exact Keeps.bind (setTrace_keeps hf _) fun _ => Keeps.bind (pushEvent_keeps hf.toQuiet sp _) fun _ => Keeps.pure _
    · exact Keeps.bind (setTrace_keeps hf _) fun _ => Keeps.pure _
    · exact Keeps.bind (emit_keeps hf.toQuiet _) fun _ => Keeps.pure _

theorem withTop_keeps (hf : Beside t f) (a : Bool) (g : SpanEvent → SpanEvent) :
    Keeps f (EventRecorder.withTop ⟨t, a⟩ g) := by
  unfold EventRecorder.withTop
  split
  · exact Keeps.pure _
  refine Keeps.bind (trace_keeps t) fun o => ?_
  split
  · exact Keeps.pure _
  split
  · split
    · exact Keeps.bind (setTrace_keeps hf _) fun _ => Keeps.pure _
    · exact Keeps.pure _
  · exact Keeps.pure _

theorem frameCall_keeps (hf : Beside t f) (c : FrameCall) : Keeps f (c.perform t) := by
  cases c with
  | blockBegin => exact Keeps.bind (blockBegin_keeps hf) fun _ => Keeps.pure _
  | blockEnd => exact Keeps.bind (blockEnd_keeps hf) fun _ => Keeps.pure _
  | write fw =>
    by_cases hfw : fw = .exception none
    · subst hfw
      exact Keeps.pure ()
    · rw [FrameCall.perform, FrameWrite.perform_eq _ hfw]
      exact Keeps.bind (withTop_keeps hf true _) fun _ => Keeps.pure _

theorem discardTraceObj_keeps (hf : Beside t f) : Keeps f (discardTraceObj t) := by
  unfold discardTraceObj
  refine Keeps.bind (trace_keeps t) fun o => ?_
  cases hk : o.kind with
  | disabled => exact setTrace_keeps hf _
  | recording sp br st =>
    dsimp only
    refine Keeps.bind (setTrace_keeps hf _) fun _ => Keeps.bind (span_keeps sp) fun u => ?_
    refine Keeps.bind (setSpan_keeps hf.toQuiet sp _) fun _ => ?_
    split
    · exact emit_keeps hf.toQuiet _
    · exact Keeps.pure _

/-- A span handed over, or a hold given back, leaves every trace alone. -/
theorem releaseSpan_keeps_others (t : TraceRef) (sp : SpanRef) : Keeps (World.others · t) (releaseSpan sp) := by
  have hf := beside_others t
  unfold releaseSpan
  refine Keeps.bind (span_keeps sp) fun u => ?_
  refine Keeps.bind (setSpan_keeps hf.toQuiet sp _) fun _ => Keeps.bind (emit_keeps hf.toQuiet _) fun _ => ?_
  split
  · exact fun _ => Runs.mono (handOver_runs_either _) (fun _ h => h) (fun _ _ h => h) (fun _ h => h)
  · exact Keeps.pure _

theorem closeTrace_keeps_others (t : TraceRef) : Keeps (World.others · t) (closeTrace t) := by
  have hf := beside_others t
  unfold closeTrace
  refine Keeps.bind (trace_keeps t) fun o => ?_
  split
  · exact Keeps.pure _
  cases hk : o.kind with
  | disabled => exact setTrace_keeps hf _
  | recording sp br st =>
    dsimp only
    -- the release that may follow the sealed frames touches no trace either
    have hrel : Keeps (World.others · t) (if br.isNone then releaseSpan sp else pure ()) := by
      split
      · exact releaseSpan_keeps_others t sp
      · exact Keeps.pure _
    refine Keeps.bind (setTrace_keeps hf _) fun _ => ?_
    split
    · refine Keeps.bind (emit_keeps hf.toQuiet _) fun _ => Keeps.bind ?_ fun _ => hrel
      exact Keeps.forIn _ fun e _ => Keeps.bind (pushEvent_keeps hf.toQuiet sp e) fun _ => Keeps.pure _
    · exact hrel

end Footprint

/-! ## The operations, run -/

section Runs

variable {t : TraceRef} {o : TraceObj} {sp : SpanRef} {br : Option LocalAsyncId} {st : CallStack}
  {w : World} {s : SpanState}

theorem finalWorld_congr {k k' : Agent α} {w' : World} (h : k.run w = k'.run w') :
    finalWorld k w = finalWorld k' w' := by
  unfold finalWorld
  rw [h]

/-- A closed trace takes no call: the traces, the spans and the pipeline stay as they are. -/
theorem frameCall_run_closed (ht : w.traces[t]? = some { o with kind := .recording sp br st })
    (hc : o.closed = true) (c : FrameCall) :
    ∃ w', (c.perform t).run w = .ok () w' ∧ w'.traces = w.traces ∧ w'.spans = w.spans ∧
      w'.pipeline = w.pipeline := by
  cases c with
  | blockBegin =>
    refine ⟨{ w with logs := w.logs ++ [LogEvent.dbg "Trace.BlockBegin.Closed"].toArray }, ?_, rfl, rfl, rfl⟩
    simp [FrameCall.perform, blockBegin, trace, ht, hc, log, emit]
  | blockEnd =>
    refine ⟨w, ?_, rfl, rfl, rfl⟩
    simp [FrameCall.perform, blockEnd, trace, ht, hc]
  | write fw =>
    refine ⟨w, ?_, rfl, rfl, rfl⟩
    by_cases hfw : fw = .exception none
    · subst hfw
      rfl
    · rw [FrameCall.perform, FrameWrite.perform_eq _ hfw]
      simp [EventRecorder.withTop, trace, ht, hc]

/-- A closed trace is not closed again. -/
theorem closeTrace_run_closed (ht : w.traces[t]? = some { o with kind := .recording sp br st })
    (hc : o.closed = true) : (closeTrace t).run w = .ok () w := by
  simp [closeTrace, trace, ht, hc]

/-- Discarding a recording trace, open or closed, closes it, drains its frames without offering
them, and throws its span away. -/
theorem discardTraceObj_run (ht : w.traces[t]? = some { o with kind := .recording sp br st })
    (hs : w.spans[sp]? = some s) :
    ∃ w', (discardTraceObj t).run w = .ok () w' ∧
      w'.traces = w.traces.set! t { o with closed := true, kind := .recording sp br st.drain.2 } ∧
      w'.spans = w.spans.set! sp s.discard.2 ∧ w'.pipeline = w.pipeline := by
  refine ⟨{ w with
      traces := w.traces.set! t { o with closed := true, kind := .recording sp br st.drain.2 }
      spans := w.spans.set! sp s.discard.2
      logs := w.logs ++ (if s.discard.1 then [LogEvent.warn "Trace.Discarded"] else []).toArray },
    ?_, rfl, rfl, rfl⟩
  cases hd : s.discard.1 <;> simp [discardTraceObj, trace, setTrace, span, setSpan, ht, hs, hd, log, emit]

/-- Giving a hold back releases the span and changes no trace; the pipeline is handed the span
when this was the last hold of the open span, also when an exporter panics. -/
theorem releaseSpan_final (hs : w.spans[sp]? = some s) :
    (finalWorld (releaseSpan sp) w).spans[sp]? = some s.release.1 ∧
      (finalWorld (releaseSpan sp) w).traces = w.traces ∧
      (finalWorld (releaseSpan sp) w).pipeline =
        s.release.2.1.toList.foldl (fun p fs => (p.onEnd fs).2.2) w.pipeline := by
  have hspan : (span sp).run w = .ok s w := by simp [span, hs]
  have hset : (w.spans.set! sp s.release.1)[sp]? = some s.release.1 := by
    rw [Array.set!_eq_setIfInBounds, Array.getElem?_setIfInBounds_self_of_lt (Array.getElem?_eq_some_iff.1 hs).1]
  cases hd : s.release.2.1 with
  | none =>
    have hrun : (releaseSpan sp).run w =
        .ok () { w with spans := w.spans.set! sp s.release.1, logs := w.logs ++ s.release.2.2.toArray } := by
      unfold releaseSpan
      rw [run_bind_ok hspan]
      rcases hr : s.release with ⟨v, done, logs⟩
      rw [hr] at hd
      subst hd
      rfl
    rw [finalWorld_of_run_ok hrun]
    exact ⟨hset, rfl, rfl⟩
  | some fs =>
    -- the span is released first, then handed over
    have hrun : (releaseSpan sp).run w = (handOver fs).run
        { w with spans := w.spans.set! sp s.release.1, logs := w.logs ++ s.release.2.2.toArray } := by
      unfold releaseSpan
      rw [run_bind_ok hspan]
      rcases hr : s.release with ⟨v, done, logs⟩
      rw [hr] at hd
      subst hd
      rfl
    rw [finalWorld_congr hrun]
    exact Runs.finalWorld (handOver_runs_either fs (R := fun x => x.spans[sp]? = some s.release.1 ∧
      x.traces = w.traces ∧ x.pipeline = (w.pipeline.onEnd fs).2.2)) ⟨hset, rfl, rfl⟩

/-- Offering frames one after another, as a loop over them. -/
theorem pushEach_run (hs : w.spans[sp]? = some s) (es : List SpanEvent) :
    ∃ w', (ForIn.forIn es PUnit.unit fun e _ => do
        pushEvent sp e
        pure (ForInStep.yield PUnit.unit) : Agent PUnit).run w = .ok () w' ∧
      w'.spans[sp]? = some (s.offerAll es) := by
  induction es generalizing w s with
  | nil => exact ⟨w, rfl, hs⟩
  | cons e es ih =>
    have hsp : sp < w.spans.size := (Array.getElem?_eq_some_iff.1 hs).1
    obtain ⟨w', hrun, hsp'⟩ := ih (w := { w with
        spans := w.spans.set! sp (s.pushEvent e).1
        logs := w.logs ++ (s.pushEvent e).2.toArray }) (s := (s.pushEvent e).1)
      (by rw [Array.set!_eq_setIfInBounds, Array.getElem?_setIfInBounds_self_of_lt hsp])
    refine ⟨w', ?_, hsp'⟩
    have hbody : (do pushEvent sp e; pure (ForInStep.yield PUnit.unit) : Agent (ForInStep PUnit)).run w =
        .ok (.yield ⟨⟩) { w with
          spans := w.spans.set! sp (s.pushEvent e).1
          logs := w.logs ++ (s.pushEvent e).2.toArray } := by
      rw [run_bind_ok (pushEvent_run hs e)]
      rfl
    rw [List.forIn_cons, run_bind_ok hbody]
    exact hrun

/-- Closing an open trace: the trace is sealed, its recorded frames are offered to the span, and the
synchronous side then gives its hold back. Up to that release nothing a view beside the trace
shows has changed. -/
theorem Tracks.closeTrace_splits {m : Nat} {q : FrameMachine} (h : Tracks t o sp br m w q st) :
    ∃ w', (closeTrace t).run w = (if br.isNone then releaseSpan sp else pure ()).run w' ∧
      w'.traces[t]? = some { o with closed := true, kind := .recording sp br st.drain.2 } ∧
      w'.spans[sp]? = some (FrameMachine.close q).span ∧
      ∀ {δ : Type} {f : World → δ}, Beside t f → f w' = f w := by
  have hrun := closeTrace_run_recording h.trace h.notClosed rfl
  have hfr : st.drain.1 = recorded q.stack := by rw [CallStack.drain_fst, h.view]
  rw [hfr] at hrun
  by_cases he : recorded q.stack = []
  · -- nothing was left open: the trace is only sealed
    refine ⟨_, hrun.trans ?_, h.traces_set _, ?_, fun hf => hf.trace w _⟩
    · rw [he]
      rfl
    · simpa [FrameMachine.close, he] using h.span
  · -- the frames left open are offered, innermost first, after a warning
    let v₁ : World := { w with traces := w.traces.set! t { o with closed := true, kind := .recording sp br st.drain.2 } }
    let v : World := { v₁ with logs := v₁.logs ++ [LogEvent.warn "Trace.Close.UnbalancedFrames"].toArray }
    obtain ⟨w', hpush, hsp⟩ := pushEach_run (w := v) h.span (recorded q.stack)
    -- offering frames changes neither the traces nor any quiet view
    have hpushes {δ : Type} {g : World → δ} (hg : Quiet g) : g w' = g v :=
      Keeps.run_ok (Keeps.forIn _ fun e _ => Keeps.bind (pushEvent_keeps hg sp e) fun _ => Keeps.pure _) hpush
    have hc : (!(recorded q.stack).isEmpty) = true := by simpa using he
    refine ⟨w', hrun.trans ?_, ?_, hsp, ?_⟩
    · dsimp only
      rw [if_pos hc]
      refine (run_bind_ok (show (log (LogEvent.warn "Trace.Close.UnbalancedFrames")).run _ = .ok () v from rfl)).trans ?_
      exact (run_bind_ok hpush).trans rfl
    · rw [hpushes quiet_traces]
      exact h.traces_set _
    · exact fun hf => (hpushes hf.toQuiet).trans ((hf.logs v₁ _).trans (hf.trace w _))

end Runs

end Agent

/-- The pipeline once it has been handed the spans `xs`, in order. -/
def Pipeline.endAll {α : Type} (p : Pipeline α) (xs : List α) : Pipeline α :=
  xs.foldl (fun p x => (p.onEnd x).2.2) p

namespace SpanWork

/-- An operation on the traces writing into span `sp`, in the world. -/
def perform (sp : SpanRef) : SpanWork → Agent Unit
  | call t c => c.perform t
  | close t => Agent.closeTrace t
  | discard t => Agent.discardTraceObj t
  | release => Agent.releaseSpan sp

/-- Operations in order, each run from the world the one before left, whether it returned or
panicked. -/
def runAll (sp : SpanRef) : List SpanWork → World → World
  | [], w => w
  | op :: ops, w => runAll sp ops (Agent.finalWorld (op.perform sp) w)

end SpanWork

namespace Agent

/-- How the world holds a trace writing into span `sp`, whose state is `s`: open and in step with
its frame machine, or closed after recording into `sp`. -/
inductive WriterAt (sp : SpanRef) (s : SpanState) (w : World) (t : TraceRef) : Writer → Prop
  | live {limit : Nat} {br : Option LocalAsyncId} {L : LogicalStack} {o : TraceObj} {st : CallStack} :
      Tracks t o sp br limit w (FrameMachine.mk L s) st → WriterAt sp s w t (Writer.mk limit br (some L))
  | closed {limit : Nat} {br : Option LocalAsyncId} {o : TraceObj} {st : CallStack} :
      w.traces[t]? = some { o with kind := .recording sp br st } → o.closed = true →
      WriterAt sp s w t (Writer.mk limit br none)

/-- The world `w` is in state `Q` of the writers of span `sp`: the span is the writers' span, and
each trace writing into it is held as its writer says. -/
structure Tracking (sp : SpanRef) (w : World) (Q : Writers) : Prop where
  span : w.spans[sp]? = some Q.span
  writers : ∀ t ∈ Q.refs, WriterAt sp Q.span w t (Q.writer t)

section Tracking

variable {sp : SpanRef} {w w' : World} {Q : Writers} {s s' : SpanState} {t : TraceRef}

/-- A trace held as a writer stays so while its own entry is unchanged. -/
theorem WriterAt.frame {wr : Writer} (h : WriterAt sp s w t wr) (ht : w'.traces[t]? = w.traces[t]?)
    (hs : w'.spans[sp]? = some s') : WriterAt sp s' w' t wr := by
  cases h with
  | live h => exact .live ⟨ht.trans h.trace, h.notClosed, h.limit, h.wellFormed, h.view, hs⟩
  | closed ho hc => exact .closed (ht.trans ho) hc

/-- The trace a writer stands for records into the span. -/
theorem WriterAt.recording {wr : Writer} (h : WriterAt sp s w t wr) :
    ∃ (o : TraceObj) (st : CallStack), w.traces[t]? = some { o with kind := .recording sp wr.branch st } := by
  cases h with
  | live h => exact ⟨_, _, h.trace⟩
  | closed ho _ => exact ⟨_, _, ho⟩

theorem Tracking.of_tables (h : Tracking sp w Q) (ht : w'.traces = w.traces) (hs : w'.spans = w.spans) :
    Tracking sp w' Q where
  span := hs ▸ h.span
  writers u hu := (h.writers u hu).frame (by rw [ht]) (hs ▸ h.span)

/-- An operation on trace `t` that leaves the other traces alone, and leaves the world holding
`t` as `wr` and the span as `s'`, keeps the world in step with the writers so updated. -/
theorem Tracking.update (h : Tracking sp w Q) (hothers : w'.others t = w.others t)
    (hs : w'.spans[sp]? = some s') {wr : Writer} (ht : WriterAt sp s' w' t wr) :
    Tracking sp w' (Q.update t wr s') where
  span := hs
  writers u hu := by
    by_cases hne : u = t
    · subst hne
      simpa [Writers.update] using ht
    · simp only [Writers.update, Function.update_of_ne hne]
      exact (h.writers u hu).frame (others_eq hothers hne) hs

theorem Array.getElem?_set!_self_of_some {α : Type} {xs : Array α} {i : Nat} {a : α} (h : xs[i]? = some a)
    (v : α) : (xs.set! i v)[i]? = some v := by
  rw [Array.set!_eq_setIfInBounds, Array.getElem?_setIfInBounds_self_of_lt (Array.getElem?_eq_some_iff.1 h).1]

theorem FrameCall.effect_exported (limit : Nat) (br : Option LocalAsyncId) (s : SpanState) (L : LogicalStack)
    (c : FrameCall) : (c.effect limit br s L).exported = [] := by
  cases c <;> rfl

/-- A call on a trace's frames runs as the writer's frame machine does, or does nothing once the
trace is closed; it hands nothing over. -/
theorem Tracking.call_step (h : Tracking sp w Q) (ht : t ∈ Q.refs) (c : FrameCall) :
    Tracking sp (finalWorld (c.perform t) w) (Q.step (.call t c)).2 ∧
      (finalWorld (c.perform t) w).pipeline = w.pipeline.endAll (Q.step (.call t c)).1.exported := by
  have hwt := h.writers t ht
  generalize hwr : Q.writer t = wr at hwt
  cases hwt with
  | @live limit br L o st htr =>
    obtain ⟨w', st', hrun, h'⟩ := htr.frameCall_step c
    have hstep : Q.step (.call t c) = (c.effect limit br Q.span L,
        Q.update t ⟨limit, br, some (FrameMachine.step limit br c.toStack ⟨L, Q.span⟩).2.stack⟩
          (FrameMachine.step limit br c.toStack ⟨L, Q.span⟩).2.span) := by
      simp [Writers.step, hwr]
    rw [finalWorld_of_run_ok hrun, hstep, FrameCall.effect_exported]
    exact ⟨h.update ((frameCall_keeps (beside_others t) c).run_ok hrun) h'.span (.live h'),
      (frameCall_keeps (beside_pipeline t) c).run_ok hrun⟩
  | @closed limit br o st ho hc =>
    obtain ⟨w', hrun, htr, hsp, hpl⟩ := frameCall_run_closed ho hc c
    have hstep : Q.step (.call t c) = ({}, Q) := by simp [Writers.step, hwr]
    rw [finalWorld_of_run_ok hrun, hstep]
    exact ⟨h.of_tables htr hsp, hpl⟩

/-- Closing a trace seals its open frames into the span, and the synchronous side then gives its
hold back, which hands the span over when it was the last. -/
theorem Tracking.close_step (h : Tracking sp w Q) (ht : t ∈ Q.refs) :
    Tracking sp (finalWorld (closeTrace t) w) (Q.step (.close t)).2 ∧
      (finalWorld (closeTrace t) w).pipeline = w.pipeline.endAll (Q.step (.close t)).1.exported := by
  have hwt := h.writers t ht
  generalize hwr : Q.writer t = wr at hwt
  cases hwt with
  | @live limit br L o st htr =>
    obtain ⟨w', hrun, htr', hsp, hview⟩ := htr.closeTrace_splits
    -- sealed and closed: the trace is now held as a closed writer
    have hclosed {v : World} {s₁ : SpanState} (hv : v.traces[t]? = w'.traces[t]?) :
        WriterAt sp s₁ v t ⟨limit, br, none⟩ :=
      .closed (o := { o with closed := true }) (hv.trans htr') rfl
    cases br with
    | none =>
      -- the synchronous side gives its hold back
      have hrel : finalWorld (closeTrace t) w = finalWorld (releaseSpan sp) w' := finalWorld_congr hrun
      obtain ⟨hsp', htr'', hpl⟩ := releaseSpan_final hsp
      have hothers := (releaseSpan_keeps_others t sp).finalWorld w'
      have hstep : Q.step (.close t) =
          ({ Effect.offer Q.span (recorded L) with
              exported := (FrameMachine.close ⟨L, Q.span⟩).span.release.2.1.toList },
            Q.update t ⟨limit, none, none⟩ (FrameMachine.close ⟨L, Q.span⟩).span.release.1) := by
        simp [Writers.step, hwr, Settle.apply]
      rw [hrel, hstep]
      refine ⟨h.update (hothers.trans (hview (beside_others t))) hsp' (hclosed (by rw [htr''])), ?_⟩
      rw [hpl, hview (beside_pipeline t)]
      rfl
    | some b =>
      -- a branch keeps its hold
      have hrel : finalWorld (closeTrace t) w = w' := finalWorld_of_run_ok hrun
      have hstep : Q.step (.close t) =
          (Effect.offer Q.span (recorded L), Q.update t ⟨limit, some b, none⟩ (FrameMachine.close ⟨L, Q.span⟩).span) := by
        simp [Writers.step, hwr, Settle.apply, Effect.offer]
      rw [hrel, hstep]
      exact ⟨h.update (hview (beside_others t)) hsp (hclosed rfl), hview (beside_pipeline t)⟩
  | @closed limit br o st ho hc =>
    have hstep : Q.step (.close t) = ({}, Q) := by simp [Writers.step, hwr]
    rw [finalWorld_of_run_ok (closeTrace_run_closed ho hc), hstep]
    exact ⟨h, rfl⟩

/-- Discarding a trace, open or closed, closes it without offering its frames and throws the span
away. -/
theorem Tracking.discard_step (h : Tracking sp w Q) (ht : t ∈ Q.refs) :
    Tracking sp (finalWorld (discardTraceObj t) w) (Q.step (.discard t)).2 ∧
      (finalWorld (discardTraceObj t) w).pipeline = w.pipeline.endAll (Q.step (.discard t)).1.exported := by
  obtain ⟨o, st, ho⟩ := (h.writers t ht).recording
  obtain ⟨w', hrun, htr, hsp, hpl⟩ := discardTraceObj_run ho h.span
  have hspan : w'.spans[sp]? = some Q.span.discard.2 := by
    rw [hsp]
    exact Array.getElem?_set!_self_of_some h.span _
  -- the trace is closed, its frames drained: it is held as a closed writer
  have hclosed : WriterAt sp Q.span.discard.2 w' t ⟨(Q.writer t).limit, (Q.writer t).branch, none⟩ :=
    .closed (o := { o with closed := true }) (by rw [htr]; exact Array.getElem?_set!_self_of_some ho _) rfl
  rw [finalWorld_of_run_ok hrun]
  exact ⟨h.update ((discardTraceObj_keeps (beside_others t)).run_ok hrun) hspan hclosed, hpl⟩

/-- A hold given back releases the span, and hands it over when it was the last. -/
theorem Tracking.release_step (h : Tracking sp w Q) :
    Tracking sp (finalWorld (releaseSpan sp) w) (Q.step .release).2 ∧
      (finalWorld (releaseSpan sp) w).pipeline = w.pipeline.endAll (Q.step .release).1.exported := by
  obtain ⟨hsp, htr, hpl⟩ := releaseSpan_final h.span
  exact ⟨⟨hsp, fun u hu => (h.writers u hu).frame (by rw [htr]) hsp⟩, hpl⟩

/-- Every operation on the traces writing into the span keeps the world in step with the writers,
and hands the pipeline exactly the spans the step exports. -/
theorem Tracking.step (h : Tracking sp w Q) {op : SpanWork} (hop : op.within Q.refs = true) :
    Tracking sp (finalWorld (op.perform sp) w) (Q.step op).2 ∧
      (finalWorld (op.perform sp) w).pipeline = w.pipeline.endAll (Q.step op).1.exported := by
  cases op with
  | call t c => exact h.call_step (by simpa [SpanWork.within] using hop) c
  | close t => exact h.close_step (by simpa [SpanWork.within] using hop)
  | discard t => exact h.discard_step (by simpa [SpanWork.within] using hop)
  | release => exact h.release_step

/-- Any interleaving of operations on the traces writing into the span runs as the writers do, and
hands the pipeline exactly the spans they export, in order. -/
theorem Tracking.runAll (h : Tracking sp w Q) {ops : List SpanWork} (hops : ∀ op ∈ ops, op.within Q.refs = true) :
    Tracking sp (SpanWork.runAll sp ops w) (Q.run ops).2 ∧
      (SpanWork.runAll sp ops w).pipeline = w.pipeline.endAll (Q.run ops).1.exported := by
  induction ops generalizing w Q with
  | nil => exact ⟨h, rfl⟩
  | cons op ops ih =>
    obtain ⟨h₁, hp₁⟩ := h.step (hops op List.mem_cons_self)
    obtain ⟨h₂, hp₂⟩ := ih h₁ fun o ho => by
      rw [Writers.step_refs]
      exact hops o (List.mem_cons_of_mem _ ho)
    refine ⟨h₂, ?_⟩
    rw [SpanWork.runAll, hp₂, hp₁, Writers.run_cons]
    simp only [Pipeline.endAll, Effect.append, List.foldl_append]

end Tracking

section Law

variable {sp : SpanRef} {w : World} {Q : Writers}

/-- The law of the span `sp` shared by the writers `Q`, over the interleaving `ops` of operations
on them run from the world `w`, when the span kept the frames `past` while open before. -/
structure SpanLaw (sp : SpanRef) (w : World) (Q : Writers) (past : List SpanEvent) (ops : List SpanWork) :
    Prop where
  /-- The world ends as the writers do. -/
  tracks : Tracking sp (SpanWork.runAll sp ops w) (Q.run ops).2
  /-- The pipeline is handed exactly the spans the run exports, in order. -/
  handed : (SpanWork.runAll sp ops w).pipeline = w.pipeline.endAll (Q.run ops).1.exported
  /-- The frames are numbered in opening order by consecutive values of the span's 32-bit counter. -/
  numbered : (Q.run ops).1.opened.map SpanEvent.sequence =
    (List.range (Q.run ops).1.opened.length).map fun j => (Q.span.nextSequence.toNat + j) % UInt32.size
  /-- No frame is offered twice, or offered and still open: the numbers offered and still open are
  among those open at the start and those opened, none more often. -/
  offered_once : List.Subperm (((Q.run ops).2.allOpen ++ (Q.run ops).1.offered).map SpanEvent.sequence)
    ((Q.allOpen ++ (Q.run ops).1.opened).map SpanEvent.sequence)
  /-- The span keeps only frames offered to it. -/
  kept_offered : List.Sublist (Q.run ops).1.kept (Q.run ops).1.offered
  /-- A span finished or discarded keeps, counts and hands over nothing more. -/
  closed_still : Q.span.isOpen = false → (Q.run ops).2.span.events = Q.span.events ∧
    (Q.run ops).2.span.dropped = Q.span.dropped ∧ (Q.run ops).1.kept = [] ∧ (Q.run ops).1.exported = []
  /-- A span discarded while open is never handed over. -/
  discarded : ∀ pre t rest, ops = pre ++ SpanWork.discard t :: rest → (Q.run pre).2.span.isOpen = true →
    (Q.run ops).1.exported = []
  /-- The span is handed over at most once. -/
  once : (Q.run ops).1.exported.length ≤ 1
  /-- The span handed over holds the first `maxEvents` frames kept while it was open, sorted by
  number, and counts the others modulo `2^32`. -/
  exported : ∀ fs ∈ (Q.run ops).1.exported, fs.traceId = Q.span.traceId ∧
    fs.events = ((past ++ (Q.run ops).1.kept).take Q.span.maxEvents).mergeSort
      (fun a b => a.sequence ≤ b.sequence) ∧
    fs.droppedEvents.toNat = ((past ++ (Q.run ops).1.kept).length - Q.span.maxEvents) % UInt32.size
  /-- Below the counter's wrap the frames are numbered `n, n + 1, …` in opening order, the frames
  offered before, offered now and still open carry distinct numbers, and the span handed over lists
  its frames by strictly increasing number. -/
  below_wrap : ((past ++ Q.allOpen).map SpanEvent.sequence).Nodup →
    (∀ e ∈ past ++ Q.allOpen, e.sequence < Q.span.nextSequence.toNat) →
    Q.span.nextSequence.toNat + (Q.run ops).1.opened.length ≤ UInt32.size →
    (Q.run ops).1.opened.map SpanEvent.sequence =
        (List.range (Q.run ops).1.opened.length).map (Q.span.nextSequence.toNat + ·) ∧
      ((past ++ (Q.run ops).1.offered ++ (Q.run ops).2.allOpen).map SpanEvent.sequence).Nodup ∧
      ∀ fs ∈ (Q.run ops).1.exported, fs.events.Pairwise fun a b => a.sequence < b.sequence

/-- The law of a shared span over every interleaving of operations on the traces writing into it:
the world follows the writers, the frames are numbered from the span's counter in opening order,
each frame is offered at most once, a finished or discarded span keeps and hands over nothing more,
and the span is handed over at most once, holding the first `maxEvents` frames offered while it
was open, sorted by number, and counting the others in 32 bits. -/
theorem shared_span_law (h : Tracking sp w Q) {past : List SpanEvent}
    (hlog : Q.span.isOpen = true → Q.span.Logged past) {ops : List SpanWork}
    (hops : ∀ op ∈ ops, op.within Q.refs = true) : SpanLaw sp w Q past ops where
  tracks := (h.runAll hops).1
  handed := (h.runAll hops).2
  numbered := (Q.run_numbers ops).1
  offered_once := Q.run_numbers_subperm hops
  kept_offered := Q.run_kept_sublist ops
  closed_still := Q.run_of_not_open ops
  discarded := by
    rintro pre t rest rfl hopen
    exact Q.run_discarded hopen
  once := (Q.run_exports ops hlog).1
  exported := (Q.run_exports ops hlog).2
  below_wrap hnum hlt hroom :=
    ⟨Q.run_numbers_below_wrap ops hroom, Q.run_nodup hops hnum hlt hroom,
      Q.run_exported_sorted hops hlog hnum hlt hroom⟩

/-- A world with one open synchronous trace, writing into span `0`, whose state is `s`. -/
def oneWriterWorld (s : SpanState) : World :=
  { (default : World) with
    spans := #[s]
    traces := #[{ kind := .recording 0 none { maxDepth := 10 } }] }

/-- The writers of a fresh span `0` in `oneWriterWorld`. -/
def oneWriter : Writers where
  refs := [0]
  refs_nodup := List.nodup_singleton 0
  writer _ := ⟨10, none, some []⟩
  span := { traceId := default, maxEvents := 10 }

/-- The law over two frames opened, one sealed, and the trace closed. -/
theorem shared_span_law_one_writer :
    Tracking 0 (oneWriterWorld oneWriter.span) oneWriter ∧
      (oneWriter.span.isOpen = true → oneWriter.span.Logged []) ∧
      (∀ op ∈ [.call 0 .blockBegin, .call 0 .blockBegin, .call 0 .blockEnd, .close 0],
        SpanWork.within oneWriter.refs op = true) ∧
      SpanLaw 0 (oneWriterWorld oneWriter.span) oneWriter []
        [.call 0 .blockBegin, .call 0 .blockBegin, .call 0 .blockEnd, .close 0] := by
  have h : Tracking 0 (oneWriterWorld oneWriter.span) oneWriter := by
    refine ⟨rfl, fun t ht => ?_⟩
    rw [List.mem_singleton.1 ht]
    exact .live (Tracks.fresh (o := { kind := .recording 0 none { maxDepth := 10 } }) rfl rfl rfl)
  have hlog : oneWriter.span.isOpen = true → oneWriter.span.Logged [] := fun _ => ⟨rfl, rfl⟩
  have hops : ∀ op ∈ [.call 0 .blockBegin, .call 0 .blockBegin, .call 0 .blockEnd, .close 0],
      SpanWork.within oneWriter.refs op = true := by decide
  exact ⟨h, hlog, hops, shared_span_law h hlog hops⟩

/-- A span lists frames already in increasing order of number as they stand. -/
theorem SpanState.finishedSpan_events_of_sorted {s : SpanState}
    (h : (s.events.map SpanEvent.sequence).Pairwise (· ≤ ·)) : s.finishedSpan.events = s.events :=
  List.mergeSort_of_pairwise (by simpa [List.pairwise_map] using h)

/-- Both counters of a span are 32 bits wide and wrap. A span whose counter stands at its last
value, `2^32 - 1`, numbers the next frame opened with it and the one after with `0`: sorted by
number, the span lists the frame opened second (depth 2) before the frame opened first (depth 1).
A span with no room left that has counted `2^32 - 1` frames counts the next one as `0`. -/
theorem span_counters_wrap :
    ((SpanWork.runAll 0 [.call 0 .blockBegin, .call 0 .blockBegin, .call 0 .blockEnd, .call 0 .blockEnd]
        (oneWriterWorld { traceId := default, nextSequence := 4294967295, maxEvents := 10 })).spans[0]?.map
        fun s => s.finishedSpan.events.map fun e => (e.depth, e.sequence)) = some [(2, 0), (1, 4294967295)] ∧
      ((SpanWork.runAll 0 [.call 0 .blockBegin, .call 0 .blockEnd]
        (oneWriterWorld { traceId := default, dropped := 4294967295, maxEvents := 0 })).spans[0]?.map
        fun s => s.finishedSpan.droppedEvents) = some 0 := by
  refine ⟨?_, by decide +kernel⟩
  have hev : ((SpanWork.runAll 0 [.call 0 .blockBegin, .call 0 .blockBegin, .call 0 .blockEnd, .call 0 .blockEnd]
      (oneWriterWorld { traceId := default, nextSequence := 4294967295, maxEvents := 10 })).spans[0]?.map
      fun s => s.events.map fun e => (e.depth, e.sequence)) = some [(2, 0), (1, 4294967295)] := by
    decide +kernel
  -- the frames stand in increasing order of number, so sorting leaves them as they are
  generalize (SpanWork.runAll 0 _ _).spans[0]? = r at hev ⊢
  obtain ⟨s, rfl, hs⟩ := Option.map_eq_some_iff.1 hev
  have hseq : s.events.map SpanEvent.sequence = [0, 4294967295] := by
    simpa [Function.comp_def] using congrArg (List.map Prod.snd) hs
  rw [Option.map_some, SpanState.finishedSpan_events_of_sorted (by rw [hseq]; decide), hs]

end Law

end Agent

end TraceAgent
