import TraceAgent.Record
import TraceAgent.Ident.Span

/-!
# Span events and finished spans

A span event is one frame of a span: the call it stands for, in the order frames were opened
(`sequence`) and at its nesting depth (`depth`, 1 for a top-level frame of a call chain). A frame
written on a resumed async branch carries the branch's id; the frame that handed work off carries
the id of that hand-off.

A finished span is what a processor receives: the span's identity, its root record and its
frames sorted by sequence, with the number of frames not kept because of the event limit (a 32-bit
count that wraps, as the span keeps it).

Main statement: `FinishedSpan.eventNamed_api` — a frame found by name has that name.
-/

namespace TraceAgent

/-- One frame of a span. -/
structure SpanEvent where
  sequence : Nat
  depth : Nat
  asyncId : Option LocalAsyncId := none
  api : Option MethodDescriptor := none
  serviceType : ServiceType := .undefined
  exception : Option ExceptionInfo := none
  annotations : List Attr := []
  nextSpanId : Option SpanId := none
  nextAsyncId : Option AsyncId := none
  destinationId : Option String := none
  endPoint : Option String := none
  deriving Inhabited

namespace SpanEvent

/-- The full name of the recorded method, if any. -/
def apiName (e : SpanEvent) : Option String := e.api.map (·.fullName)

/-- Keeps the first exception recorded on the frame. -/
def noteException (e : SpanEvent) (x : ExceptionInfo) : SpanEvent :=
  match e.exception with
  | some _ => e
  | none => { e with exception := some x }

end SpanEvent

/-- The root record of a span: what its entry point received and from whom. -/
structure RootRecord where
  api : Option MethodDescriptor := none
  serviceType : ServiceType := .undefined
  rpc : Option String := none
  endPoint : Option String := none
  remoteAddress : Option String := none
  parentApplicationName : Option String := none
  exception : Option ExceptionInfo := none
  annotations : List Attr := []
  deriving Inhabited

namespace RootRecord

/-- Keeps the first exception recorded on the root. -/
def noteException (r : RootRecord) (x : ExceptionInfo) : RootRecord :=
  match r.exception with
  | some _ => r
  | none => { r with exception := some x }

end RootRecord

/-- A span handed to processors once finished. -/
structure FinishedSpan where
  traceId : TraceId
  root : RootRecord
  events : List SpanEvent
  droppedEvents : UInt32
  deriving Inhabited

namespace FinishedSpan

/-- The first frame whose method has the given full name. -/
def eventNamed (s : FinishedSpan) (name : String) : Option SpanEvent :=
  s.events.find? (fun e => e.apiName == some name)

theorem eventNamed_api (s : FinishedSpan) (name : String) (e : SpanEvent)
    (h : s.eventNamed name = some e) : e.apiName = some name := by
  have := List.find?_some h
  simpa using this

end FinishedSpan

end TraceAgent
