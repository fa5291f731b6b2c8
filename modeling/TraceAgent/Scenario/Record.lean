import TraceAgent.Scenario.Handles

/-!
# Recording actions of a scripted run

A `begin` or `record` step writes into the top frame of a trace through a list of *event
actions*; a `span_record` step writes the span's root record through *span actions*. Each action
is a one-member object:

* event actions: `api`, `service_type`, `exception` (an error spec or `null`), `attr`
  (`[key, value]`), `next_span_id` (a span id or `{"handle": trace id}`), `destination_id`,
  `end_point`, and `async` (a name or `null`), which starts an async hand-off from the frame and
  stores the context under the name;
* span actions: `api`, `service_type`, `rpc`, `end_point`, `remote_address`,
  `parent_application`, `exception` and `attr`.

An unnamed async context is dropped at once.
-/

namespace TraceAgent
namespace Scenario

open Protocol

/-- A write into the top frame of a trace. -/
inductive EventAction where
  | api (d : MethodDescriptor)
  | serviceType (s : ServiceType)
  | exception (e : Option ExceptionInfo)
  | attr (a : Attr)
  | nextSpanId (s : SpanId)
  | destinationId (s : String)
  | endPoint (s : String)
  | async (name : Option String)
  deriving Inhabited

/-- A write into the root record of a span. -/
inductive SpanAction where
  | api (d : MethodDescriptor)
  | serviceType (s : ServiceType)
  | rpc (s : String)
  | endPoint (s : String)
  | remoteAddress (s : String)
  | parentApplication (s : String)
  | exception (e : Option ExceptionInfo)
  | attr (a : Attr)
  deriving Inhabited

/-- Reads an optional error spec. -/
def readErrorSpec? (key : String) : Doc → Read (Option ExceptionInfo)
  | .null => pure none
  | d => some <$> readErrorSpec key d

/-- Reads an attribute `[key, value]`. -/
def readAttr : Doc → Read Attr
  | .arr [.str k, v] => do pure ⟨k, ← readAttrValue v⟩
  | _ => refuse "attr"

/-- The text of a string member. -/
def textOf (key : String) : Doc → Read String
  | .str s => pure s
  | _ => refuse key

/-- Reads one event action. -/
def readEventAction (d : Doc) : StepM EventAction := do
  match d with
  | .obj ((key, v) :: _) =>
    match key with
    | "api" => return .api (← lift (readDescriptor key v))
    | "service_type" => return .serviceType (← lift (readServiceType v))
    | "exception" => return .exception (← lift (readErrorSpec? key v))
    | "attr" => return .attr (← lift (readAttr v))
    | "next_span_id" =>
      match v.field? "handle" with
      | some (.str name) =>
        match ← handle name with
        | .traceId t => return .nextSpanId t.span
        | _ => throw (.wrongHandle name)
      | _ => return .nextSpanId (← lift ((← act masks).readSpanId key v))
    | "destination_id" => return .destinationId (← lift (textOf key v))
    | "end_point" => return .endPoint (← lift (textOf key v))
    | "async" =>
      match v with
      | .str name => return .async (some name)
      | .null => return .async none
      | _ => throw (.badInput key)
    | _ => throw (.badInput "record")
  | _ => throw (.badInput "record")

/-- Reads one span action. -/
def readSpanAction (d : Doc) : Read SpanAction :=
  match d with
  | .obj ((key, v) :: _) =>
    match key with
    | "api" => .api <$> readDescriptor key v
    | "service_type" => .serviceType <$> readServiceType v
    | "rpc" => .rpc <$> textOf key v
    | "end_point" => .endPoint <$> textOf key v
    | "remote_address" => .remoteAddress <$> textOf key v
    | "parent_application" => .parentApplication <$> textOf key v
    | "exception" => .exception <$> readErrorSpec? key v
    | "attr" => .attr <$> readAttr v
    | _ => refuse "record"
  | _ => refuse "record"

/-- Runs an event action; an async hand-off answers with the context's document. -/
def runEventAction (r : Agent.EventRecorder) : EventAction → Agent (Option Doc)
  | .api d => do r.recordApi d; pure none
  | .serviceType s => do r.recordServiceType s; pure none
  | .exception e => do r.recordException e; pure none
  | .attr a => do r.recordAttr a; pure none
  | .nextSpanId s => do r.recordNextSpanId s; pure none
  | .destinationId s => do r.recordDestinationId s; pure none
  | .endPoint s => do r.recordEndPoint s; pure none
  | .async name => do
    let a ← r.nextAsync
    let d ← asyncDoc a
    match name with
    | some n => Agent.storeHandle n (.async a)
    | none => Agent.dropAsyncRef a
    pure (some d)

/-- Runs event actions in order; the documents of the async hand-offs. -/
def runEventActions (r : Agent.EventRecorder) (actions : List EventAction) : Agent (List Doc) := do
  let mut out : List Doc := []
  for x in actions do
    if let some d ← runEventAction r x then out := out ++ [d]
  pure out

/-- Runs a span action on a trace's root record. -/
def runSpanAction (t : TraceRef) : SpanAction → Agent Unit
  | .api d => Agent.recordRoot t fun r => { r with api := some d }
  | .serviceType s => Agent.recordRoot t fun r => { r with serviceType := s }
  | .rpc s => Agent.recordRoot t fun r => { r with rpc := some s }
  | .endPoint s => Agent.recordRoot t fun r => { r with endPoint := some s }
  | .remoteAddress s => Agent.recordRoot t fun r => { r with remoteAddress := some s }
  | .parentApplication s => Agent.recordRoot t fun r => { r with parentApplicationName := some s }
  | .exception (some e) => Agent.recordRoot t fun r => r.noteException e
  | .exception none => pure ()
  | .attr a => Agent.recordRoot t fun r => { r with annotations := r.annotations ++ [a] }

end Scenario
end TraceAgent
