import TraceAgent.Agent.World
import TraceAgent.Protocol.Shapes

/-!
# Answer documents of a run

The documents a scripted run answers with: traces, async contexts, exported spans and their
frames, remote traces and carriers. Ids are written through the run's masks (`Protocol.Masks`):
random span ids by their labels, the agent's start time as `START`.

With random root span ids, a root trace id of this agent gets its label the first time it is
written (`labelRoot`), so the label numbers follow the order in which ids are first shown.
-/

namespace TraceAgent
namespace Scenario

/-- Labels the span id of a root trace id of this agent when span ids are random. -/
def labelRoot (t : TraceId) : Agent Unit := do
  let w ← get
  if w.ids.kind == .random && t.isRoot && t.transaction.startTime == w.settings.startTime then
    set { w with masks := w.masks.label t.span }

/-- The masks of the run. -/
def masks : Agent Protocol.Masks := do pure (← get).masks

/-- A trace id, written after `labelRoot`. -/
def traceIdDoc (t : TraceId) : Agent Doc := do
  labelRoot t
  pure (Protocol.traceIdDoc (← masks) t)

/-- Whether a trace started its transaction: it records, is not a branch, and its id is a root. -/
def startedTransaction (o : TraceObj) (tid : Option TraceId) : Bool :=
  match o.kind, tid with
  | .recording _ none _, some x => x.isRoot
  | _, _ => false

/-- A trace: `sampled`, `root`, `async`, `closed`, `depth`, `trace_id` and `local_async_id`. -/
def traceDoc (t : TraceRef) : Agent Doc := do
  let o ← Agent.trace t
  let tid ← Agent.traceId? t
  let tidDoc ← match tid with
    | some x => traceIdDoc x
    | none => pure .null
  pure (.obj [("async", .bool o.isAsync), ("closed", .bool o.closed), ("depth", .nat o.depth),
    ("local_async_id", Doc.ofOption (fun l => .str l.display) o.branch?),
    ("root", .bool (startedTransaction o tid)), ("sampled", .bool o.canSample), ("trace_id", tidDoc)])

/-- An optional trace. -/
def traceDoc? : Option TraceRef → Agent Doc
  | some t => traceDoc t
  | none => pure .null

/-- An async context: whether it records and its id. -/
def asyncDoc (a : AsyncRef) : Agent Doc := do
  match (← Agent.asyncObj a).kind with
  | .recording _ _ aid _ _ => pure (.obj [("async_id", .nat aid.value.toNat), ("sampled", .bool true)])
  | .disabled => pure (.obj [("async_id", .null), ("sampled", .bool false)])

/-- A frame of an exported span. -/
def eventDoc (m : Protocol.Masks) (e : SpanEvent) : Doc :=
  .obj [("annotations", .arr (e.annotations.map Protocol.attrDoc)),
    ("api", Doc.ofOption Protocol.descriptorDoc e.api),
    ("async_id", Doc.ofOption (fun l => .str l.display) e.asyncId),
    ("depth", .nat e.depth),
    ("destination_id", Doc.ofOption .str e.destinationId),
    ("end_point", Doc.ofOption .str e.endPoint),
    ("exception", Doc.ofOption Protocol.exceptionDoc e.exception),
    ("next_async_id", Doc.ofOption (fun a => .nat a.value.toNat) e.nextAsyncId),
    ("next_span_id", Doc.ofOption m.spanDoc e.nextSpanId),
    ("sequence", .nat e.sequence),
    ("service_type", Protocol.serviceTypeDoc e.serviceType)]

/-- An exported span, with the index of the processor whose exporter received it. -/
def spanDoc (processor : Nat) (s : FinishedSpan) : Agent Doc := do
  let tid ← traceIdDoc s.traceId
  let m ← masks
  let r := s.root
  pure (.obj [("annotations", .arr (r.annotations.map Protocol.attrDoc)),
    ("api", Doc.ofOption Protocol.descriptorDoc r.api),
    ("dropped_span_events", .nat s.droppedEvents.toNat),
    ("end_point", Doc.ofOption .str r.endPoint),
    ("exception", Doc.ofOption Protocol.exceptionDoc r.exception),
    ("parent_application_name", Doc.ofOption .str r.parentApplicationName),
    ("processor", .nat processor),
    ("remote_address", Doc.ofOption .str r.remoteAddress),
    ("rpc", Doc.ofOption .str r.rpc),
    ("service_type", Protocol.serviceTypeDoc r.serviceType),
    ("span_events", .arr (s.events.map (eventDoc m))),
    ("trace_id", tid)])

/-- A remote trace. -/
def remoteDoc (r : RemoteTrace) : Agent Doc := do
  if let .resume t _ _ := r then labelRoot t
  pure (Protocol.remoteDoc (← masks) r)

/-- A carrier, values masked. -/
def headersDoc (h : HeaderMap) : Agent Doc := do
  pure (Protocol.headersDoc (← masks) h)

end Scenario
end TraceAgent
