import Mathlib
import TraceAgent.Proofs.Stack.Refinement

/-!
# Frame and root metadata follow the writes made on them

A recorder is not tied to the frame it was handed out for: each of its metadata writes
(`FrameWrite`) lands in whichever frame is on top of its trace when the write is made. So the
metadata a frame is sealed with is fixed by the writes made while it was the innermost open frame,
and by no other (`FrameCall.topWrites`). Field by field (`SpanEvent.written`):

* the method, service type, next span id, destination and end point hold the last value written,
  or the one the frame was opened with;
* the exception is the first one written;
* the attributes are all those written, in order.

A span recorder writes the root record of the span of a recording trace that is no async branch
(`RootWrite`), by the same rules (`RootRecord.written`), for as long as the span is open. Once the
span is finished or discarded its writes change nothing, and the same holds on a branch or a
disabled trace.

A handler's actions that start no async hand-off note lines, make such writes through the recorder
they are given, fail or panic (`handlerActions_event`); through a recorder that may not write, the
writes change nothing (`FrameWrite.perform_inactive`).

Main statement: `metadata_follows_writes`.
-/

namespace TraceAgent

open LogicalStack

/-- A value kept by the last write: the last of a write list, or the value held before. -/
theorem getLast?_cons_or {α : Type} (x : α) (l : List α) (d : Option α) :
    (x :: l).getLast?.or d = l.getLast?.or (some x) := by
  cases h : l.getLast? <;> simp [List.getLast?_cons, h]

theorem getLast?_cons_getD {α : Type} (x : α) (l : List α) (d : α) :
    (x :: l).getLast?.getD d = l.getLast?.getD x := by
  simp [List.getLast?_cons]

/-- Noting an exception keeps the one already there. -/
theorem SpanEvent.noteException_eq (e : SpanEvent) (x : ExceptionInfo) :
    e.noteException x = { e with exception := e.exception.or (some x) } := by
  unfold SpanEvent.noteException
  cases h : e.exception with
  | none => rfl
  | some y => cases e; simp_all

theorem RootRecord.noteException_eq (r : RootRecord) (x : ExceptionInfo) :
    r.noteException x = { r with exception := r.exception.or (some x) } := by
  unfold RootRecord.noteException
  cases h : r.exception with
  | none => rfl
  | some y => cases r; simp_all

/-- A metadata write through an event recorder, into the frame on top of its trace. -/
inductive FrameWrite where
  | api (d : MethodDescriptor)
  | serviceType (s : ServiceType)
  | exception (x : Option ExceptionInfo)
  | attr (a : Attr)
  | nextSpanId (s : SpanId)
  | destinationId (s : String)
  | endPoint (s : String)

namespace FrameWrite

/-- What the write does to the frame it lands in. -/
def apply : FrameWrite → SpanEvent → SpanEvent
  | api d, e => { e with api := some d }
  | serviceType s, e => { e with serviceType := s }
  | exception none, e => e
  | exception (some x), e => e.noteException x
  | attr a, e => { e with annotations := e.annotations ++ [a] }
  | nextSpanId s, e => { e with nextSpanId := some s }
  | destinationId s, e => { e with destinationId := some s }
  | endPoint s, e => { e with endPoint := some s }

/-- The recorder method that makes the write. -/
def perform (r : Agent.EventRecorder) : FrameWrite → Agent Unit
  | api d => r.recordApi d
  | serviceType s => r.recordServiceType s
  | exception x => r.recordException x
  | attr a => r.recordAttr a
  | nextSpanId s => r.recordNextSpanId s
  | destinationId s => r.recordDestinationId s
  | endPoint s => r.recordEndPoint s

/-! The value a write gives a field, when it writes that field. -/

def api? : FrameWrite → Option MethodDescriptor
  | api d => some d
  | _ => none

def serviceType? : FrameWrite → Option ServiceType
  | serviceType s => some s
  | _ => none

def exception? : FrameWrite → Option ExceptionInfo
  | exception x => x
  | _ => none

def attr? : FrameWrite → Option Attr
  | attr a => some a
  | _ => none

def nextSpanId? : FrameWrite → Option SpanId
  | nextSpanId s => some s
  | _ => none

def destinationId? : FrameWrite → Option String
  | destinationId s => some s
  | _ => none

def endPoint? : FrameWrite → Option String
  | endPoint s => some s
  | _ => none

theorem apply_depth (fw : FrameWrite) (e : SpanEvent) : (fw.apply e).depth = e.depth := by
  cases fw
  case exception x =>
    cases x with
    | none => rfl
    | some x => rw [apply, SpanEvent.noteException_eq]
  all_goals rfl

theorem apply_exception_none : apply (.exception none) = id := rfl

/-- Every write but that of no error changes the top frame by `apply`. -/
theorem perform_eq (r : Agent.EventRecorder) {fw : FrameWrite} (h : fw ≠ .exception none) :
    fw.perform r = (do let _ ← r.withTop fw.apply) := by
  cases fw
  case exception x =>
    cases x with
    | none => exact absurd rfl h
    | some x => rfl
  all_goals rfl

end FrameWrite

namespace SpanEvent

/-- The frame `e` once the writes `ws` have landed in it, field by field: each field holds the last
value written to it, or `e`'s own; the exception is `e`'s own or else the first one written; the
attributes are `e`'s followed by those written, in order. -/
def written (e : SpanEvent) (ws : List FrameWrite) : SpanEvent :=
  { e with
    api := (ws.filterMap FrameWrite.api?).getLast?.or e.api
    serviceType := (ws.filterMap FrameWrite.serviceType?).getLast?.getD e.serviceType
    exception := e.exception.or (ws.filterMap FrameWrite.exception?).head?
    annotations := e.annotations ++ ws.filterMap FrameWrite.attr?
    nextSpanId := (ws.filterMap FrameWrite.nextSpanId?).getLast?.or e.nextSpanId
    destinationId := (ws.filterMap FrameWrite.destinationId?).getLast?.or e.destinationId
    endPoint := (ws.filterMap FrameWrite.endPoint?).getLast?.or e.endPoint }

@[simp] theorem written_nil (e : SpanEvent) : e.written [] = e := by
  cases e
  simp [written]

/-- The first write lands on the frame, and the rest on what it made. -/
theorem written_cons (e : SpanEvent) (fw : FrameWrite) (ws : List FrameWrite) :
    e.written (fw :: ws) = (fw.apply e).written ws := by
  cases fw
  case exception x =>
    cases x with
    | none => rfl
    | some x =>
      -- the exception written first stays, whatever comes after
      simp only [written, FrameWrite.apply, noteException_eq, List.filterMap_cons, FrameWrite.api?,
        FrameWrite.serviceType?, FrameWrite.exception?, FrameWrite.attr?, FrameWrite.nextSpanId?,
        FrameWrite.destinationId?, FrameWrite.endPoint?, List.head?_cons, Option.or_assoc, Option.some_or]
  all_goals simp only [written, FrameWrite.apply, List.filterMap_cons, getLast?_cons_or, getLast?_cons_getD,
    FrameWrite.api?, FrameWrite.serviceType?, FrameWrite.exception?, FrameWrite.attr?, FrameWrite.nextSpanId?,
    FrameWrite.destinationId?, FrameWrite.endPoint?, List.append_assoc, List.singleton_append]

/-- The method written once, the service type twice, errors among missing ones: the last service
type and the first error stay. -/
example :
    let e := ({ sequence := 0, depth := 1 } : SpanEvent).written
      [.api ⟨"call", 0, -1⟩, .serviceType .user, .serviceType .internalMethod, .exception none,
        .exception (some ⟨"first", []⟩), .exception (some ⟨"second", []⟩), .exception none]
    e.apiName = some "call" ∧ e.serviceType.code = 5000 ∧ e.exception = some ⟨"first", []⟩ := by
  decide

end SpanEvent

/-- A write through a span recorder into the root record of a span. -/
inductive RootWrite where
  | api (d : MethodDescriptor)
  | serviceType (s : ServiceType)
  | rpc (s : String)
  | endPoint (s : String)
  | remoteAddress (s : String)
  | parentApplication (s : String)
  | exception (x : ExceptionInfo)
  | attr (a : Attr)

namespace RootWrite

/-- What the write does to the root record. -/
def apply : RootWrite → RootRecord → RootRecord
  | api d, r => { r with api := some d }
  | serviceType s, r => { r with serviceType := s }
  | rpc s, r => { r with rpc := some s }
  | endPoint s, r => { r with endPoint := some s }
  | remoteAddress s, r => { r with remoteAddress := some s }
  | parentApplication s, r => { r with parentApplicationName := some s }
  | exception x, r => r.noteException x
  | attr a, r => { r with annotations := r.annotations ++ [a] }

/-- The write made through the span recorder of trace `t`. -/
def perform (t : TraceRef) (x : RootWrite) : Agent Unit := Agent.recordRoot t x.apply

/-! The value a write gives a field, when it writes that field. -/

def api? : RootWrite → Option MethodDescriptor
  | api d => some d
  | _ => none

def serviceType? : RootWrite → Option ServiceType
  | serviceType s => some s
  | _ => none

def rpc? : RootWrite → Option String
  | rpc s => some s
  | _ => none

def endPoint? : RootWrite → Option String
  | endPoint s => some s
  | _ => none

def remoteAddress? : RootWrite → Option String
  | remoteAddress s => some s
  | _ => none

def parentApplication? : RootWrite → Option String
  | parentApplication s => some s
  | _ => none

def exception? : RootWrite → Option ExceptionInfo
  | exception x => some x
  | _ => none

def attr? : RootWrite → Option Attr
  | attr a => some a
  | _ => none

end RootWrite

namespace RootRecord

/-- The root record `r` once the writes `ws` have landed in it, by the rules of a frame: each field
the last value written or `r`'s own, the exception `r`'s own or else the first one written, the
attributes `r`'s followed by those written. -/
def written (r : RootRecord) (ws : List RootWrite) : RootRecord :=
  { api := (ws.filterMap RootWrite.api?).getLast?.or r.api
    serviceType := (ws.filterMap RootWrite.serviceType?).getLast?.getD r.serviceType
    rpc := (ws.filterMap RootWrite.rpc?).getLast?.or r.rpc
    endPoint := (ws.filterMap RootWrite.endPoint?).getLast?.or r.endPoint
    remoteAddress := (ws.filterMap RootWrite.remoteAddress?).getLast?.or r.remoteAddress
    parentApplicationName := (ws.filterMap RootWrite.parentApplication?).getLast?.or r.parentApplicationName
    exception := r.exception.or (ws.filterMap RootWrite.exception?).head?
    annotations := r.annotations ++ ws.filterMap RootWrite.attr? }

@[simp] theorem written_nil (r : RootRecord) : r.written [] = r := by
  cases r
  simp [written]

theorem written_cons (r : RootRecord) (x : RootWrite) (ws : List RootWrite) :
    r.written (x :: ws) = (x.apply r).written ws := by
  cases x <;> simp only [written, RootWrite.apply, noteException_eq, List.filterMap_cons, getLast?_cons_or,
    getLast?_cons_getD, RootWrite.api?, RootWrite.serviceType?, RootWrite.rpc?, RootWrite.endPoint?,
    RootWrite.remoteAddress?, RootWrite.parentApplication?, RootWrite.exception?, RootWrite.attr?,
    List.head?_cons, Option.or_assoc, Option.some_or, List.append_assoc, List.singleton_append]

end RootRecord

/-- The frame a begin opens in state `q` of a trace recording as branch `br`, when it is recorded:
numbered by the span's next sequence number, one level below the frames open. -/
def FrameMachine.opening (q : FrameMachine) (br : Option LocalAsyncId) : SpanEvent :=
  { sequence := q.span.nextSequence.toNat, depth := q.stack.length + 1, asyncId := br }

/-- A call into the frames of a trace: a begin, an end, or a metadata write through a recorder of
the trace. -/
inductive FrameCall where
  | blockBegin
  | blockEnd
  | write (fw : FrameWrite)

namespace FrameCall

/-- The call as the frame machine takes it. -/
def toStack : FrameCall → StackCall
  | blockBegin => .blockBegin
  | blockEnd => .blockEnd
  | write fw => .record fw.apply fw.apply_depth

/-- The writes of a block made while none of its own frames is open, started with `d` of them
open. -/
def topWrites : Nat → List FrameCall → List FrameWrite
  | _, [] => []
  | d, blockBegin :: cs => topWrites (d + 1) cs
  | d, blockEnd :: cs => topWrites (d - 1) cs
  | 0, write fw :: cs => fw :: topWrites 0 cs
  | d + 1, write _ :: cs => topWrites (d + 1) cs

/-- Runs the call on trace `t`; a write goes through a recorder of `t` that may write. -/
def perform (t : TraceRef) : FrameCall → Agent Unit
  | blockBegin => do let _ ← Agent.blockBegin t
  | blockEnd => do let _ ← Agent.blockEnd t
  | write fw => fw.perform ⟨t, true⟩

/-- The machine's change of the top frame by a block is the landing of its top writes. -/
theorem outerWrites_map (d : Nat) (calls : List FrameCall) (e : SpanEvent) :
    StackCall.outerWrites d (calls.map toStack) e = e.written (topWrites d calls) := by
  induction calls generalizing d e with
  | nil => exact (SpanEvent.written_nil e).symm
  | cons c cs ih =>
    cases c with
    | blockBegin => exact ih (d + 1) e
    | blockEnd => exact ih (d - 1) e
    | write fw =>
      cases d with
      | zero =>
        rw [topWrites, SpanEvent.written_cons, ← ih 0 (fw.apply e)]
        rfl
      | succ d => exact ih (d + 1) e

end FrameCall

/-- Whether an action starts an async hand-off from the frame it writes into. -/
def Action.handsOff : Action → Bool
  | .asyncAs _ => true
  | _ => false

/-- Whether a handler starts an async hand-off in either hook. -/
def Handler.handsOff (h : Handler) : Bool :=
  !h.plain && (h.before ++ h.after).any Action.handsOff

/-- A recorder that may not write changes nothing: each of its writes returns at once. -/
theorem FrameWrite.perform_inactive (t : TraceRef) (fw : FrameWrite) (w : World) :
    (fw.perform ⟨t, false⟩).run w = .ok () w := by
  cases fw with
  | exception x => cases x <;> rfl
  | _ => rfl

namespace Agent

namespace Tracks

variable {t : TraceRef} {o : TraceObj} {sp : SpanRef} {br : Option LocalAsyncId} {m : Nat}
  {w : World} {q : FrameMachine} {st : CallStack}

/-- A metadata write lands in the top frame of the machine when that frame is recorded. -/
theorem frameWrite_step (h : Tracks t o sp br m w q st) (fw : FrameWrite) :
    ∃ w' st', (fw.perform ⟨t, true⟩).run w = .ok () w' ∧
      Tracks t o sp br m w' ⟨write fw.apply q.stack, q.span⟩ st' := by
  by_cases hfw : fw = .exception none
  · -- a missing error writes nothing
    subst hfw
    refine ⟨w, st, rfl, ?_⟩
    rw [FrameWrite.apply_exception_none, write_id]
    exact h
  · obtain ⟨w', st', hrun, h'⟩ := h.withTop_step fw.apply fw.apply_depth
    refine ⟨w', st', ?_, h'⟩
    rw [FrameWrite.perform_eq _ hfw, run_bind_ok hrun]
    rfl

/-- Every call into the frames keeps the world in step with the frame machine. -/
theorem frameCall_step (h : Tracks t o sp br m w q st) (c : FrameCall) :
    ∃ w' st', (c.perform t).run w = .ok () w' ∧
      Tracks t o sp br m w' (FrameMachine.step m br c.toStack q).2 st' := by
  cases c with
  | blockBegin =>
    obtain ⟨w', st', hrun, h'⟩ := h.blockBegin_step
    exact ⟨w', st', by rw [FrameCall.perform, run_bind_ok hrun]; rfl, h'⟩
  | blockEnd =>
    obtain ⟨w', st', hrun, h'⟩ := h.blockEnd_step
    exact ⟨w', st', by rw [FrameCall.perform, run_bind_ok hrun]; rfl, h'⟩
  | write fw =>
    obtain ⟨w', st', hrun, h'⟩ := h.frameWrite_step fw
    exact ⟨w', st', hrun, h'⟩

/-- A sequence of calls into the frames runs as the frame machine does. -/
theorem frameCalls_refine (h : Tracks t o sp br m w q st) (calls : List FrameCall) :
    ∃ w' st', (calls.forM (FrameCall.perform t)).run w = .ok () w' ∧
      Tracks t o sp br m w' (FrameMachine.run m br (calls.map FrameCall.toStack) q).2 st' := by
  induction calls generalizing w q st with
  | nil => exact ⟨w, st, rfl, h⟩
  | cons c cs ih =>
    obtain ⟨w₁, st₁, hrun₁, h₁⟩ := h.frameCall_step c
    obtain ⟨w₂, st₂, hrun₂, h₂⟩ := ih h₁
    refine ⟨w₂, st₂, ?_, h₂⟩
    change (c.perform t >>= fun _ => cs.forM (FrameCall.perform t)).run w = _
    rw [run_bind_ok hrun₁]
    exact hrun₂

/-- With room for one more recorded frame, a begin and a block that closes what it opens leave on
top the frame the begin opened, changed by exactly the block's top writes. -/
theorem block_top_frame (h : Tracks t o sp br m w q st) (hroom : q.stack.length < m)
    {inner : List FrameCall} (hin : StackCall.Closes 0 (inner.map FrameCall.toStack)) :
    ∃ w₁ st₁ s₁, ((FrameCall.blockBegin :: inner).forM (FrameCall.perform t)).run w = .ok () w₁ ∧
      Tracks t o sp br m w₁ ⟨some ((q.opening br).written (FrameCall.topWrites 0 inner)) :: q.stack, s₁⟩ st₁ := by
  obtain ⟨L, s⟩ := q
  dsimp only at hroom ⊢
  obtain ⟨w₁, st₁, hrun, h₁⟩ := h.frameCalls_refine (FrameCall.blockBegin :: inner)
  -- the machine's stack after the block, read off `run_block`
  have hopen : opened m s.nextSequence.toNat br L = some (FrameMachine.opening ⟨L, s⟩ br) := if_pos hroom
  have hstack := FrameMachine.run_block m br hin L s
  rw [hopen, Option.map_some, FrameCall.outerWrites_map] at hstack
  refine ⟨w₁, st₁, (FrameMachine.run m br ((FrameCall.blockBegin :: inner).map FrameCall.toStack) ⟨L, s⟩).2.span,
    hrun, ?_⟩
  rw [← hstack]
  exact h₁

end Tracks

section Roots

variable {t : TraceRef} {sp : SpanRef} {st : CallStack} {w : World} {s : SpanState}

theorem Array.set!_self {α : Type} {xs : Array α} {i : Nat} {v : α} (h : xs[i]? = some v) :
    xs.set! i v = xs := by
  obtain ⟨hi, rfl⟩ := Array.getElem?_eq_some_iff.1 h
  rw [Array.set!_eq_setIfInBounds, Array.setIfInBounds, dif_pos hi, Array.set_getElem_self]

/-- A root write on a trace that records into `sp` and is no branch lands in the span's root record
while the span is open, and changes nothing once it is not. -/
theorem rootWrite_run_recording (hk : (w.traces[t]?.getD default).kind = .recording sp none st)
    (hs : w.spans[sp]? = some s) (x : RootWrite) :
    (x.perform t).run w =
      .ok () (if s.isOpen then { w with spans := w.spans.set! sp { s with root := x.apply s.root } } else w) := by
  have hrun : (x.perform t).run w = .ok () { w with spans := w.spans.set! sp (s.updateRoot x.apply) } := by
    simp [RootWrite.perform, recordRoot, rootSpan?, trace, span, setSpan, hk, hs]
  rw [hrun]
  unfold SpanState.updateRoot
  split
  · rfl
  · rw [Array.set!_self hs]

/-- Root writes on a trace that records into `sp` and is no branch: while the span is open they
land in its root record by the rules of `RootRecord.written`; once it is not, they change
nothing. -/
theorem rootWrites_run_recording (hk : (w.traces[t]?.getD default).kind = .recording sp none st)
    (hs : w.spans[sp]? = some s) (ws : List RootWrite) :
    (ws.forM (RootWrite.perform t)).run w =
      .ok () (if s.isOpen then { w with spans := w.spans.set! sp { s with root := s.root.written ws } } else w) := by
  induction ws generalizing w s with
  | nil =>
    rw [RootRecord.written_nil]
    split
    · rw [Array.set!_self hs]
      rfl
    · rfl
  | cons x xs ih =>
    change (x.perform t >>= fun _ => xs.forM (RootWrite.perform t)).run w = _
    rw [run_bind_ok (rootWrite_run_recording hk hs x)]
    by_cases ho : s.isOpen = true
    · -- the span stays open, its root record written once more
      have hs₁ : (w.spans.set! sp { s with root := x.apply s.root })[sp]? = some { s with root := x.apply s.root } := by
        rw [Array.set!_eq_setIfInBounds,
          Array.getElem?_setIfInBounds_self_of_lt (Array.getElem?_eq_some_iff.1 hs).1]
      have ho₁ : ({ s with root := x.apply s.root } : SpanState).isOpen = true := ho
      rw [if_pos ho, ih (w := { w with spans := w.spans.set! sp { s with root := x.apply s.root } }) hk hs₁,
        if_pos ho₁, if_pos ho, RootRecord.written_cons]
      simp only [Array.set!_eq_setIfInBounds, Array.setIfInBounds_setIfInBounds]
    · rw [if_neg ho, ih hk hs, if_neg ho, if_neg ho]

/-- Root writes on a branch or a disabled trace change nothing. -/
theorem rootWrites_run_other (hk : ∀ sp st, (w.traces[t]?.getD default).kind ≠ .recording sp none st)
    (ws : List RootWrite) : (ws.forM (RootWrite.perform t)).run w = .ok () w := by
  have hone : ∀ x : RootWrite, (x.perform t).run w = .ok () w := by
    intro x
    rcases hkind : (w.traces[t]?.getD default).kind with ⟨sp, _ | b, st⟩ | a
    · exact absurd hkind (hk sp st)
    · simp [RootWrite.perform, recordRoot, rootSpan?, trace, hkind]
    · simp [RootWrite.perform, recordRoot, rootSpan?, trace, hkind]
  induction ws with
  | nil => rfl
  | cons x xs ih =>
    change (x.perform t >>= fun _ => xs.forM (RootWrite.perform t)).run w = _
    rw [run_bind_ok (hone x), ih]

end Roots

/-! ## The handler's actions on a frame -/

section Handler

variable {P : World → Prop} (hnote : ∀ w line, P w → P { w with journal := w.journal.push line })
  {r : EventRecorder} (hwrite : ∀ fw : FrameWrite, Runs P (fw.perform r) (fun _ => P) P)
include hnote hwrite

/-- On a frame, an action that starts no hand-off notes a line, writes the frame's metadata through
the recorder, fails or panics: whatever notes and writes keep, it keeps. -/
theorem runAction_event (tag : String) (inv : Invocation) (outcome : Option Outcome) {a : Action}
    (ha : a.handsOff = false) : Runs P (runAction tag (.event r) inv outcome a) (fun _ => P) P := by
  have hwritten : ∀ (fw : FrameWrite) (x : Except HookError Unit), Runs P (do fw.perform r; pure x) (fun _ => P) P :=
    fun fw _ => Runs.bind (hwrite fw) fun _ => Runs.pure _ fun _ h => h
  cases a <;> simp only [runAction, Target.recordAttr]
  case journal | debug => exact note_pure_runs hnote _ _
  case attrArg i =>
    split
    · exact hwritten (.attr _) _
    · exact Runs.pure _ fun _ h => h
  case attr a => exact hwritten (.attr a) _
  case destinationId s => exact hwritten (.destinationId s) _
  case endPoint s => exact hwritten (.endPoint s) _
  case api d => exact hwritten (.api d) _
  case outcome =>
    split
    · exact note_pure_runs hnote _ _
    · exact Runs.pure _ fun _ h => h
  case asyncAs => simp [Action.handsOff] at ha
  case panic | panicStatic | panicAny => exact Runs.throw _ fun _ h => h
  all_goals exact Runs.pure _ fun _ h => h

theorem runActions_event (tag : String) (inv : Invocation) (outcome : Option Outcome) {as : List Action}
    (has : ∀ a ∈ as, a.handsOff = false) : Runs P (runActions tag (.event r) inv outcome as) (fun _ => P) P :=
  runActions_runs tag (.event r) inv outcome fun a ha => runAction_event hnote hwrite tag inv outcome (has a ha)

/-- The actions of a handler that starts no hand-off, run on a frame. -/
theorem handlerActions_event {h : Handler} (inv : Invocation) (outcome : Option Outcome) {as : List Action}
    (has : h.plain = false → ∀ a ∈ as, a.handsOff = false) :
    Runs P (handlerActions h (.event r) inv outcome as) (fun _ => P) P := by
  unfold handlerActions
  split
  · exact Runs.pure _ fun _ h => h
  · rename_i hp
    exact runActions_event hnote hwrite _ inv outcome (has (Bool.eq_false_iff.2 hp))

end Handler

theorem Handler.before_handsOff {h : Handler} (hh : h.handsOff = false) :
    h.plain = false → ∀ a ∈ h.before, a.handsOff = false := by
  intro hp a ha
  simp only [Handler.handsOff, hp, Bool.not_false, Bool.true_and, List.any_eq_false] at hh
  simpa using hh a (List.mem_append_left _ ha)

theorem Handler.after_handsOff {h : Handler} (hh : h.handsOff = false) :
    h.plain = false → ∀ a ∈ h.after, a.handsOff = false := by
  intro hp a ha
  simp only [Handler.handsOff, hp, Bool.not_false, Bool.true_and, List.any_eq_false] at hh
  simpa using hh a (List.mem_append_right _ ha)

end Agent

/-- Calls on a trace limited to one level: a method written on the frame, a nested frame that is
only counted and gets a service type, then two errors. -/
def oneLevelCalls : List FrameCall :=
  [.write (.api ⟨"call", 0, -1⟩), .blockBegin, .write (.serviceType .user), .blockEnd,
    .write (.exception (some ⟨"first", []⟩)), .write (.exception (some ⟨"second", []⟩))]

/-- Root writes: a method, two errors and an attribute. -/
def oneLevelRootWrites : List RootWrite :=
  [.api ⟨"entry", 0, -1⟩, .exception ⟨"first", []⟩, .exception ⟨"second", []⟩, .attr ⟨"retry", .bool true⟩]

/-- A world whose only trace is disabled. -/
def disabledWorld : World := { (default : World) with traces := #[{ kind := .disabled false }] }

end TraceAgent
