import TraceAgent.Span.Event
import TraceAgent.Error

/-!
# Call stacks

The frames a trace has opened and not yet sealed, innermost first. Past `maxDepth` frames a new
frame is only counted (`overflow`): its begin and end still balance, but nothing is recorded for
it, and while a counted frame is on top there is no frame to write into.

Main statements:

* `depth_push` and `depth_pushOverflow` — opening a frame adds one to the depth;
* `pop_push` — the frame opened last is sealed first.
-/

namespace TraceAgent

/-- The open frames of one trace. -/
structure CallStack where
  frames : List SpanEvent := []
  overflow : Nat := 0
  maxDepth : Nat
  deriving Inhabited

namespace CallStack

/-- Open frames, counted ones included. -/
def depth (s : CallStack) : Nat := s.frames.length + s.overflow

/-- Whether no frame is open. -/
def isEmpty (s : CallStack) : Bool := s.frames.isEmpty && s.overflow == 0

/-- Whether a new frame would only be counted. -/
def isFull (s : CallStack) : Bool := s.overflow > 0 || s.frames.length ≥ s.maxDepth

/-- Opens a recorded frame. -/
def push (s : CallStack) (e : SpanEvent) : CallStack := { s with frames := e :: s.frames }

/-- Opens a counted frame. -/
def pushOverflow (s : CallStack) : CallStack := { s with overflow := s.overflow + 1 }

/-- Seals the top frame: a counted frame gives `none`, an empty stack an error. -/
def pop (s : CallStack) : Except TraceError (Option SpanEvent × CallStack) :=
  if s.overflow > 0 then .ok (none, { s with overflow := s.overflow - 1 })
  else
    match s.frames with
    | e :: rest => .ok (some e, { s with frames := rest })
    | [] => .error .emptyCallStack

/-- Changes the top frame, if it is a recorded one. -/
def updateTop (s : CallStack) (f : SpanEvent → SpanEvent) : CallStack :=
  if s.overflow > 0 then s
  else
    match s.frames with
    | e :: rest => { s with frames := f e :: rest }
    | [] => s

/-- The top frame, if it is a recorded one. -/
def top? (s : CallStack) : Option SpanEvent :=
  if s.overflow > 0 then none else s.frames.head?

/-- Removes every open frame, innermost first. -/
def drain (s : CallStack) : List SpanEvent × CallStack :=
  (s.frames, { s with frames := [], overflow := 0 })

theorem depth_push (s : CallStack) (e : SpanEvent) : (s.push e).depth = s.depth + 1 := by
  simp only [depth, push, List.length_cons]
  omega

theorem depth_pushOverflow (s : CallStack) : s.pushOverflow.depth = s.depth + 1 := by
  simp only [depth, pushOverflow]
  omega

theorem pop_push (s : CallStack) (e : SpanEvent) (h : s.overflow = 0) :
    (s.push e).pop = .ok (some e, s) := by
  cases s
  simp_all [pop, push]

end CallStack

end TraceAgent
