import Mathlib
import TraceAgent.Proofs.Stack.Logical
import TraceAgent.Proofs.Scopes.Gates

/-!
# A trace's frames follow its logical stack

Writing into an open recording trace is a sequence of calls (`StackCall`): begins, ends, and
writes into the top frame through a recorder. Every metadata method of a recorder is such a
write, `EventRecorder.withTop` with a change that leaves the frame's depth alone.

`FrameMachine` is the specification these calls meet: the trace's logical stack together with the
span it records into. A begin pushes the frame `LogicalStack.opened` gives, drawing the span's next
sequence number when the frame is recorded; an end pops the top frame and seals it into the span
when it is recorded, and fails on an empty stack; a write changes the top frame when it is
recorded. Read off the machine alone: an end seals the frame its matching begin opened, with the
writes made on it while it was on top (`FrameMachine.run_block`).

`Tracks` ties a world to a state of the machine: the trace is open and records into the span, its
call stack is well formed and views as the machine's stack, and the span is the machine's span.
Every call keeps `Tracks` and answers as the machine does (`perform_step`), so a whole sequence of
calls does too (`performAll_refines`). Closing the trace seals what is still recorded, innermost
first, and leaves no frame open (`closeTrace_seals`).
-/

namespace TraceAgent

open LogicalStack

/-- A call into the frames of a trace. -/
inductive StackCall where
  /-- Opens a frame. -/
  | blockBegin
  /-- Seals the top frame. -/
  | blockEnd
  /-- Writes into the top frame through a recorder; a write never changes the frame's depth. -/
  | record (f : SpanEvent → SpanEvent) (keepsDepth : ∀ e, (f e).depth = e.depth)

/-- What a call answers. -/
inductive StackReply where
  | begun
  | ended
  | emptyStack
  | wrote (landed : Bool)
  deriving DecidableEq

namespace StackCall

/-- Whether the call opens a frame. -/
def opens : StackCall → Bool
  | blockBegin => true
  | _ => false

/-- The calls of a block that leaves open, once it is done, no frame of its own: started with `d`
of its own frames open, it never ends a frame it did not open, and ends all it opened. -/
def Closes : Nat → List StackCall → Prop
  | d, [] => d = 0
  | d, blockBegin :: cs => Closes (d + 1) cs
  | 0, blockEnd :: _ => False
  | d + 1, blockEnd :: cs => Closes d cs
  | d, record _ _ :: cs => Closes d cs

/-- The writes a block makes while none of its own frames is open, composed in order. -/
def outerWrites : Nat → List StackCall → SpanEvent → SpanEvent
  | _, [] => id
  | d, blockBegin :: cs => outerWrites (d + 1) cs
  | d, blockEnd :: cs => outerWrites (d - 1) cs
  | 0, record f _ :: cs => outerWrites 0 cs ∘ f
  | d + 1, record _ _ :: cs => outerWrites (d + 1) cs

theorem outerWrites_depth (d : Nat) (calls : List StackCall) (e : SpanEvent) :
    (outerWrites d calls e).depth = e.depth := by
  induction calls generalizing d e with
  | nil => rfl
  | cons c cs ih =>
    cases c with
    | blockBegin => exact ih _ e
    | blockEnd => exact ih _ e
    | record f hf =>
      cases d with
      | zero => rw [outerWrites, Function.comp_apply, ih, hf]
      | succ d => exact ih _ e

end StackCall

/-- A trace's logical stack and the span it records into. -/
structure FrameMachine where
  stack : LogicalStack
  span : SpanState

namespace FrameMachine

/-- The span once the frame `x` is sealed into it; a counted frame leaves it as it is. -/
def sealFrame (s : SpanState) : Option SpanEvent → SpanState
  | some e => (s.pushEvent e).1
  | none => s

/-- One call on a trace limited to `limit` levels, recording as branch `br`. -/
def step (limit : Nat) (br : Option LocalAsyncId) : StackCall → FrameMachine → StackReply × FrameMachine
  | .blockBegin, ⟨L, s⟩ =>
    (.begun, ⟨opened limit s.nextSequence.toNat br L :: L,
      if L.length < limit then s.takeSequence.2 else s⟩)
  | .blockEnd, ⟨[], s⟩ => (.emptyStack, ⟨[], s⟩)
  | .blockEnd, ⟨x :: rest, s⟩ => (.ended, ⟨rest, sealFrame s x⟩)
  | .record f _, ⟨L, s⟩ => (.wrote (writable L), ⟨write f L, s⟩)

/-- A sequence of calls: the replies in order, and the state it leaves. -/
def run (limit : Nat) (br : Option LocalAsyncId) : List StackCall → FrameMachine →
    List StackReply × FrameMachine
  | [], q => ([], q)
  | c :: cs, q =>
    let r := step limit br c q
    let rs := run limit br cs r.2
    (r.1 :: rs.1, rs.2)

variable {limit : Nat} {br : Option LocalAsyncId}

@[simp] theorem run_nil (q : FrameMachine) : run limit br [] q = ([], q) := rfl

@[simp] theorem run_cons (c : StackCall) (cs : List StackCall) (q : FrameMachine) :
    run limit br (c :: cs) q = ((step limit br c q).1 :: (run limit br cs (step limit br c q).2).1,
      (run limit br cs (step limit br c q).2).2) := rfl

/-- Every call keeps the logical stack sound. -/
theorem step_sound (br : Option LocalAsyncId) (c : StackCall) {q : FrameMachine} (h : Sound limit q.stack) :
    Sound limit (step limit br c q).2.stack := by
  obtain ⟨L, s⟩ := q
  cases c with
  | blockBegin => exact h.opened _ br
  | blockEnd =>
    cases L with
    | nil => exact h
    | cons x rest => exact h.2
  | record f hf => exact h.write hf

/-- One call changes the depth by one for a begin, by minus one for an end that sealed a frame,
and not otherwise. -/
theorem step_length (limit : Nat) (br : Option LocalAsyncId) (c : StackCall) (q : FrameMachine) :
    (step limit br c q).2.stack.length + (if (step limit br c q).1 == .ended then 1 else 0) =
      q.stack.length + (if c.opens then 1 else 0) := by
  obtain ⟨L, s⟩ := q
  cases c with
  | blockBegin => simp [step, StackCall.opens]
  | blockEnd => cases L <;> simp [step, StackCall.opens]
  | record f hf => simp [step, StackCall.opens]

/-- The depth a sequence of calls leaves is the depth it started at, one more for each begin and
one less for each end that sealed a frame. -/
theorem run_length (limit : Nat) (br : Option LocalAsyncId) (calls : List StackCall) (q : FrameMachine) :
    (run limit br calls q).2.stack.length + (run limit br calls q).1.count .ended =
      q.stack.length + calls.countP StackCall.opens := by
  induction calls generalizing q with
  | nil => simp
  | cons c cs ih =>
    have hstep := step_length limit br c q
    have hrest := ih (step limit br c q).2
    simp only [run_cons, List.count_cons, List.countP_cons]
    omega

/-- A block that closes its own frames leaves the frames below it as they were, but for the writes
it makes while none of its own frames is open, which land on the top frame below. -/
theorem run_closes_stack (limit : Nat) (br : Option LocalAsyncId) {d : Nat} {calls : List StackCall}
    (h : StackCall.Closes d calls) {P L : LogicalStack} (hP : P.length = d) (s : SpanState) :
    (run limit br calls ⟨P ++ L, s⟩).2.stack = write (StackCall.outerWrites d calls) L := by
  induction calls generalizing d P L s with
  | nil =>
    simp only [StackCall.Closes] at h
    subst h
    rw [List.length_eq_zero_iff] at hP
    subst hP
    simp [StackCall.outerWrites, write_id]
  | cons c cs ih =>
    cases c with
    | blockBegin =>
      rw [run_cons]
      exact ih h (P := _ :: P) (by simp [hP]) _
    | blockEnd =>
      cases d with
      | zero => exact h.elim
      | succ d =>
        obtain ⟨x, P, rfl⟩ : ∃ x P', P = x :: P' := List.exists_cons_of_length_eq_add_one hP
        rw [run_cons]
        exact ih h (by simpa using hP) _
    | record f hf =>
      rw [run_cons]
      cases d with
      | zero =>
        rw [List.length_eq_zero_iff] at hP
        subst hP
        rw [StackCall.outerWrites, ← write_comp]
        exact ih h (P := []) rfl _
      | succ d =>
        obtain ⟨x, P, rfl⟩ : ∃ x P', P = x :: P' := List.exists_cons_of_length_eq_add_one hP
        have hw : write f ((x :: P) ++ L) = write f (x :: P) ++ L := write_cons_append f x P L
        simp only [step, hw]
        exact ih h (by rw [length_write, hP]) _

/-- LIFO: the end that closes a block seals the frame the block's begin opened, changed by the
writes made on it while it was on top. -/
theorem run_block (limit : Nat) (br : Option LocalAsyncId) {calls : List StackCall}
    (h : StackCall.Closes 0 calls) (L : LogicalStack) (s : SpanState) :
    (run limit br (.blockBegin :: calls) ⟨L, s⟩).2.stack =
      (opened limit s.nextSequence.toNat br L).map (StackCall.outerWrites 0 calls) :: L := by
  rw [run_cons]
  have := run_closes_stack limit br h (P := []) (L := opened limit s.nextSequence.toNat br L :: L) rfl
  simp only [step, List.nil_append] at this ⊢
  rw [this, write_cons]

/-- Closing: every recorded frame still open is sealed into the span, innermost first, and no
frame is left open. -/
def close (q : FrameMachine) : FrameMachine :=
  ⟨[], q.stack.recorded.foldl (fun s e => (s.pushEvent e).1) q.span⟩

end FrameMachine

namespace StackCall

/-- Runs a call on trace `t`, writing through a recorder that may write. -/
def perform (t : TraceRef) : StackCall → Agent StackReply
  | blockBegin => do
    let _ ← Agent.blockBegin t
    pure .begun
  | blockEnd => do
    match ← Agent.blockEnd t with
    | .ok _ => pure .ended
    | .error _ => pure .emptyStack
  | record f _ => do pure (.wrote (← Agent.EventRecorder.withTop ⟨t, true⟩ f))

/-- Runs calls on trace `t` in order. -/
def performAll (t : TraceRef) : List StackCall → Agent (List StackReply)
  | [] => pure []
  | c :: cs => do
    let r ← c.perform t
    let rs ← performAll t cs
    pure (r :: rs)

end StackCall

namespace Agent

/-- The world `w` is in state `q` of the frame machine of trace `t`, limited to `m` levels: `t` is
open and records into span `sp` as branch `br` with the well-formed call stack `st`, whose view is
the machine's stack, and the span is the machine's span. `o` is the rest of the trace's object. -/
structure Tracks (t : TraceRef) (o : TraceObj) (sp : SpanRef) (br : Option LocalAsyncId) (m : Nat)
    (w : World) (q : FrameMachine) (st : CallStack) : Prop where
  trace : w.traces[t]? = some { o with kind := .recording sp br st }
  notClosed : o.closed = false
  limit : st.maxDepth = m
  wellFormed : st.WellFormed
  view : st.view = q.stack
  span : w.spans[sp]? = some q.span

namespace Tracks

variable {t : TraceRef} {o : TraceObj} {sp : SpanRef} {br : Option LocalAsyncId} {m : Nat}
  {w : World} {q : FrameMachine} {st : CallStack}

theorem traces_set (h : Tracks t o sp br m w q st) (v : TraceObj) : (w.traces.set! t v)[t]? = some v := by
  rw [Array.set!_eq_setIfInBounds,
    Array.getElem?_setIfInBounds_self_of_lt (Array.getElem?_eq_some_iff.1 h.trace).1]

theorem spans_set (h : Tracks t o sp br m w q st) (v : SpanState) : (w.spans.set! sp v)[sp]? = some v := by
  rw [Array.set!_eq_setIfInBounds,
    Array.getElem?_setIfInBounds_self_of_lt (Array.getElem?_eq_some_iff.1 h.span).1]

/-- The trace's stack changed and its span set: the world is in the machine state they show. -/
theorem of_stack (h : Tracks t o sp br m w q st) {w' : World} {q' : FrameMachine} {st' : CallStack}
    (htr : w'.traces = w.traces.set! t { o with kind := .recording sp br st' })
    (hsp : w'.spans[sp]? = some q'.span) (hm : st'.maxDepth = st.maxDepth) (hv : st'.view = q'.stack)
    (hs : Sound m q'.stack) : Tracks t o sp br m w' q' st' where
  trace := by rw [htr, h.traces_set]
  notClosed := h.notClosed
  limit := hm.trans h.limit
  wellFormed := CallStack.wellFormed_of_view hm hv (h.limit ▸ hs)
  view := hv
  span := hsp

theorem sound (h : Tracks t o sp br m w q st) : Sound m q.stack := h.limit ▸ h.view ▸ h.wellFormed

theorem length_stack (h : Tracks t o sp br m w q st) : q.stack.length = st.depth := by
  rw [← h.view, CallStack.length_view]

/-- The representation invariant, in the stack's own terms. -/
theorem frames_bounded (h : Tracks t o sp br m w q st) :
    st.frames.length ≤ m ∧ (0 < st.overflow → st.frames.length = m) :=
  ⟨h.limit ▸ h.wellFormed.frames_le, fun ho => h.limit ▸ h.wellFormed.frames_eq_of_overflow ho⟩

/-- A trace as it is created, with no frame open, is in the machine's empty state. -/
theorem fresh {s : SpanState} (ho : w.traces[t]? = some { o with kind := .recording sp br { maxDepth := m } })
    (hc : o.closed = false) (hs : w.spans[sp]? = some s) :
    Tracks t o sp br m w ⟨[], s⟩ { maxDepth := m } where
  trace := ho
  notClosed := hc
  limit := rfl
  wellFormed := CallStack.wellFormed_empty m
  view := rfl
  span := hs

end Tracks

section Steps

variable {t : TraceRef} {o : TraceObj} {sp : SpanRef} {br : Option LocalAsyncId} {m : Nat}
  {w : World} {q : FrameMachine} {st : CallStack}

theorem pushEvent_run {s : SpanState} (hs : w.spans[sp]? = some s) (e : SpanEvent) :
    (pushEvent sp e).run w =
      .ok () { w with spans := w.spans.set! sp (s.pushEvent e).1, logs := w.logs ++ (s.pushEvent e).2.toArray } := by
  simp [pushEvent, span, setSpan, emit, hs]

theorem pushEvents_run {s : SpanState} (hs : w.spans[sp]? = some s) (es : List SpanEvent) :
    ∃ w', (es.foldlM (fun _ e => pushEvent sp e) ()).run w = .ok () w' ∧
      w'.spans[sp]? = some (es.foldl (fun s e => (s.pushEvent e).1) s) ∧ w'.traces = w.traces := by
  induction es generalizing w s with
  | nil => exact ⟨w, rfl, hs, rfl⟩
  | cons e es ih =>
    have hsp : sp < w.spans.size := (Array.getElem?_eq_some_iff.1 hs).1
    obtain ⟨w', hrun, hsp', htr⟩ := ih (w := { w with
        spans := w.spans.set! sp (s.pushEvent e).1
        logs := w.logs ++ (s.pushEvent e).2.toArray }) (s := (s.pushEvent e).1)
      (by rw [Array.set!_eq_setIfInBounds, Array.getElem?_setIfInBounds_self_of_lt hsp])
    refine ⟨w', ?_, hsp', htr⟩
    rw [List.foldlM_cons, run_bind_ok (pushEvent_run hs e)]
    exact hrun

namespace Tracks

/-- A begin opens the frame the machine opens. -/
theorem blockBegin_step (h : Tracks t o sp br m w q st) :
    ∃ w' st', (blockBegin t).run w = .ok ⟨t, true⟩ w' ∧
      Tracks t o sp br m w' (FrameMachine.step m br .blockBegin q).2 st' := by
  obtain ⟨L, s⟩ := q
  have hlen : L.length = st.depth := h.length_stack
  cases hf : st.isFull
  · -- within the limit: the frame is recorded with the span's next number
    have hroom : L.length < m := by
      have := mt h.wellFormed.isFull_iff.2
      rw [hf, h.limit] at this
      simp only [Bool.false_eq_true, not_false_eq_true, forall_const, not_le] at this
      omega
    let e : SpanEvent := { sequence := s.nextSequence.toNat, depth := st.depth + 1, asyncId := br }
    refine ⟨{ w with
        spans := w.spans.set! sp s.takeSequence.2
        traces := w.traces.set! t { o with kind := .recording sp br (st.push e) } }, st.push e, ?_, ?_⟩
    · simp [blockBegin, Agent.trace, Agent.span, setSpan, setTrace, h.trace, h.span, h.notClosed, hf, e,
        SpanState.takeSequence]
    · refine h.of_stack rfl ?_ rfl ?_ ?_
      · simp only [FrameMachine.step, if_pos hroom]
        exact h.spans_set _
      · rw [CallStack.view_push_of_isFull_eq_false h.wellFormed hf, h.view, h.limit]
        rfl
      · exact FrameMachine.step_sound br .blockBegin h.sound
  · -- past the limit: the frame is only counted
    have hdeep : ¬ L.length < m := by
      have := h.wellFormed.isFull_iff.1 hf
      rw [h.limit] at this
      omega
    refine ⟨{ w with traces := w.traces.set! t { o with kind := .recording sp br st.pushOverflow } },
      st.pushOverflow, ?_, ?_⟩
    · simp [blockBegin, Agent.trace, setTrace, h.trace, h.notClosed, hf]
    · refine h.of_stack rfl ?_ rfl ?_ ?_
      · simpa [FrameMachine.step, hdeep] using h.span
      · rw [CallStack.view_pushOverflow_of_isFull h.wellFormed hf s.nextSequence.toNat br, h.view,
          h.limit]
        rfl
      · exact FrameMachine.step_sound br .blockBegin h.sound

/-- An end with no frame open fails, and changes nothing but the log. -/
theorem blockEnd_empty (h : Tracks t o sp br m w q st) (hv : q.stack = []) :
    (blockEnd t).run w =
      .ok (.error .emptyCallStack) { w with logs := w.logs.push (.err "Trace.BlockEnd.EmptyCallStack") } := by
  have hpop := CallStack.pop_of_view_eq_nil (h.view.trans hv)
  simp [blockEnd, Agent.trace, log, emit, h.trace, h.notClosed, hpop]

/-- An end seals the top frame of the machine: into the span when it is recorded. -/
theorem blockEnd_step (h : Tracks t o sp br m w q st) :
    ∃ w' st', (blockEnd t).run w = .ok (if q.stack.isEmpty then .error .emptyCallStack else .ok ()) w' ∧
      Tracks t o sp br m w' (FrameMachine.step m br .blockEnd q).2 st' := by
  obtain ⟨L, s⟩ := q
  cases L with
  | nil => exact ⟨_, st, h.blockEnd_empty rfl, { h with }⟩
  | cons x rest =>
    obtain ⟨st', hpop, hv, hm⟩ := CallStack.pop_of_view_eq_cons h.view
    have hs : Sound m rest := FrameMachine.step_sound br .blockEnd h.sound
    cases x with
    | none =>
      refine ⟨{ w with traces := w.traces.set! t { o with kind := .recording sp br st' } }, st', ?_, ?_⟩
      · simp [blockEnd, Agent.trace, setTrace, h.trace, h.notClosed, hpop]
      · exact h.of_stack rfl h.span hm hv hs
    | some e =>
      let w₁ := { w with traces := w.traces.set! t { o with kind := .recording sp br st' } }
      refine ⟨{ w₁ with
          spans := w₁.spans.set! sp (s.pushEvent e).1
          logs := w₁.logs ++ (s.pushEvent e).2.toArray }, st', ?_, ?_⟩
      · simp [blockEnd, Agent.trace, setTrace, h.trace, h.notClosed, hpop, pushEvent, Agent.span, setSpan, emit,
          w₁, h.span]
      · exact h.of_stack rfl (h.spans_set _) hm hv hs

/-- A write lands in the top frame of the machine when that frame is recorded, and is dropped
otherwise. -/
theorem withTop_step (h : Tracks t o sp br m w q st) (f : SpanEvent → SpanEvent)
    (hf : ∀ e, (f e).depth = e.depth) :
    ∃ w' st', (EventRecorder.withTop ⟨t, true⟩ f).run w = .ok (writable q.stack) w' ∧
      Tracks t o sp br m w' ⟨write f q.stack, q.span⟩ st' := by
  have htop : st.top?.isSome = writable q.stack := by rw [CallStack.top?_isSome, h.view]
  cases hst : st.top? with
  | none =>
    rw [hst, Option.isSome_none, eq_comm] at htop
    refine ⟨w, st, ?_, ?_⟩
    · simp [EventRecorder.withTop, Agent.trace, h.trace, h.notClosed, hst, htop]
    · simpa [write_of_writable_eq_false htop] using h
  | some e =>
    rw [hst, Option.isSome_some, eq_comm] at htop
    refine ⟨{ w with traces := w.traces.set! t { o with kind := .recording sp br (st.updateTop f) } },
      st.updateTop f, ?_, ?_⟩
    · simp [EventRecorder.withTop, Agent.trace, setTrace, h.trace, h.notClosed, hst, htop]
    · refine h.of_stack rfl h.span (CallStack.maxDepth_updateTop st f) ?_
        (FrameMachine.step_sound br (.record f hf) h.sound)
      rw [CallStack.view_updateTop, h.view]

/-- Closing seals the recorded frames still open into the span, innermost first, and leaves no
frame open; a trace that is no branch then gives its hold on the span back. -/
theorem closeTrace_seals (h : Tracks t o sp br m w q st) :
    ∃ w', (closeTrace t).run w = (if br.isNone then releaseSpan sp else pure ()).run w' ∧
      w'.traces[t]? = some { o with closed := true, kind := .recording sp br st.drain.2 } ∧
      st.drain.2.view = (FrameMachine.close q).stack ∧
      w'.spans[sp]? = some (FrameMachine.close q).span := by
  have hfr : st.drain.1 = recorded q.stack := by rw [CallStack.drain_fst, h.view]
  by_cases he : recorded q.stack = []
  · refine ⟨{ w with traces := w.traces.set! t { o with closed := true, kind := .recording sp br st.drain.2 } },
      ?_, h.traces_set _, CallStack.view_drain_snd st, ?_⟩
    · simp [closeTrace, Agent.trace, setTrace, h.trace, h.notClosed, hfr, he]
    · simpa [FrameMachine.close, he] using h.span
  · -- frames left open: a warning, then each recorded frame is sealed
    obtain ⟨w', hrun, hsp, htr⟩ := pushEvents_run (w := { w with
        traces := w.traces.setIfInBounds t { o with closed := true, kind := .recording sp br st.drain.2 }
        logs := w.logs.push (.warn "Trace.Close.UnbalancedFrames") }) h.span (recorded q.stack)
    refine ⟨w', ?_, ?_, CallStack.view_drain_snd st, hsp⟩
    · simp [closeTrace, Agent.trace, setTrace, h.trace, h.notClosed, hfr, he, log, emit]
      rw [hrun]
    · rw [htr]
      exact Array.getElem?_setIfInBounds_self_of_lt (Array.getElem?_eq_some_iff.1 h.trace).1

/-- Every call keeps the world in step with the frame machine and answers as the machine does. -/
theorem perform_step (h : Tracks t o sp br m w q st) (c : StackCall) :
    ∃ w' st', (c.perform t).run w = .ok (FrameMachine.step m br c q).1 w' ∧
      Tracks t o sp br m w' (FrameMachine.step m br c q).2 st' := by
  cases c with
  | blockBegin =>
    obtain ⟨w', st', hrun, h'⟩ := h.blockBegin_step
    exact ⟨w', st', by simp only [StackCall.perform]; rw [run_bind_ok hrun]; rfl, h'⟩
  | blockEnd =>
    obtain ⟨w', st', hrun, h'⟩ := h.blockEnd_step
    refine ⟨w', st', ?_, h'⟩
    simp only [StackCall.perform]
    rw [run_bind_ok hrun]
    obtain ⟨L, s⟩ := q
    cases L <;> rfl
  | record f hf =>
    obtain ⟨w', st', hrun, h'⟩ := h.withTop_step f hf
    refine ⟨w', st', ?_, by obtain ⟨L, s⟩ := q; exact h'⟩
    simp only [StackCall.perform]
    rw [run_bind_ok hrun]
    obtain ⟨L, s⟩ := q
    rfl

/-- A sequence of calls runs as the frame machine does: the same replies, and a world in step
with the machine's final state, the call stack still well formed. -/
theorem performAll_refines (h : Tracks t o sp br m w q st) (calls : List StackCall) :
    ∃ w' st', (StackCall.performAll t calls).run w = .ok (FrameMachine.run m br calls q).1 w' ∧
      Tracks t o sp br m w' (FrameMachine.run m br calls q).2 st' := by
  induction calls generalizing w q st with
  | nil => exact ⟨w, st, rfl, h⟩
  | cons c cs ih =>
    obtain ⟨w₁, st₁, hrun₁, h₁⟩ := h.perform_step c
    obtain ⟨w₂, st₂, hrun₂, h₂⟩ := ih h₁
    refine ⟨w₂, st₂, ?_, h₂⟩
    simp only [StackCall.performAll]
    rw [run_bind_ok hrun₁, run_bind_ok hrun₂]
    rfl

end Tracks

/-- A trace object limited to one level, as created. -/
def oneLevelTrace : TraceObj := { kind := .recording 0 none { maxDepth := 1 } }

/-- A span with room for a few frames. -/
def oneLevelSpan : SpanState := { traceId := default, maxEvents := 8 }

/-- A world holding one trace limited to one level, and its span. -/
def oneLevelWorld : World := { (default : World) with traces := #[oneLevelTrace], spans := #[oneLevelSpan] }

end Steps

end Agent

end TraceAgent
