import TraceAgent.Agent.World

/-!
# Debug forms of the run's objects

The debug text of traces, recorders, async contexts, trace ids, remote traces, trace scopes,
detached chains, the context, its configuration and the interceptor registry, in the field
layout of a derived debug form (`Name { field: value, .. }`, `Some(..)`, `None`).

Values that change from run to run are masked: labelled span ids are written by their labels,
the context's id as `ID`, and the start time as `START` wherever it stands as a whole number
(`Masks.hideStart`, applied by the caller to the finished text).
-/

namespace TraceAgent
namespace Scenario

/-- The debug form of an optional value. -/
def optionDebug {α : Type} (f : α → String) : Option α → String
  | some a => "Some(" ++ f a ++ ")"
  | none => "None"

/-- The debug form of a boolean. -/
def boolDebug (b : Bool) : String := if b then "true" else "false"

/-- A trace id, span ids by their labels. -/
def traceIdDebug (w : World) (t : TraceId) : String := t.debug w.masks.spanText

/-- The trace id of the span a trace writes into. -/
def traceIdIn (w : World) (o : TraceObj) : Option TraceId :=
  o.span?.bind fun sp => w.spans[sp]?.map (·.traceId)

/-- A trace: its trace id, branch id, whether it records and whether it is closed. -/
def traceDebug (w : World) (t : TraceRef) : String :=
  let o := w.traces[t]?.getD default
  "Trace \x7b trace_id: " ++ optionDebug (traceIdDebug w) (traceIdIn w o) ++ ", async_id: " ++
    optionDebug LocalAsyncId.debug o.branch? ++ ", sampled: " ++ boolDebug o.canSample ++
    ", closed: " ++ boolDebug o.closed ++ " \x7d"

/-- The frame recorder of a trace. -/
def recorderDebug (w : World) (t : TraceRef) : String :=
  "SpanEventRecorder \x7b trace: " ++ traceDebug w t ++ " \x7d"

/-- A span under construction: its trace id, pending holds and status code. -/
def spanStateDebug (w : World) (s : SpanState) : String :=
  "SpanState \x7b trace_id: " ++ traceIdDebug w s.traceId ++ ", pending: " ++ toString s.pending ++
    ", status: " ++ toString s.status.code ++ " \x7d"

/-- The root recorder of a trace: the span of a recording trace that is not a branch. -/
def spanRecorderDebug (w : World) (t : TraceRef) : String :=
  let o := w.traces[t]?.getD default
  let s := match o.kind with
    | .recording sp none _ => w.spans[sp]?
    | _ => none
  "SpanRecorder \x7b span: " ++ optionDebug (spanStateDebug w) s ++ " \x7d"

/-- An async context: its id, the trace id it resumes and its branch counts. -/
def asyncDebug (w : World) (a : AsyncRef) : String :=
  match (w.asyncs[a]?.getD default).kind with
  | .recording _ tid aid _ h =>
    "AsyncContext \x7b async_id: AsyncId(" ++ toString aid.value.toNat ++ "), trace_id: " ++
      traceIdDebug w tid ++ ", started: " ++ toString h.started ++ ", finished: " ++
      toString h.finished ++ " \x7d"
  | .disabled => "AsyncContext(disabled)"

/-- A remote trace. -/
def remoteDebug (w : World) : RemoteTrace → String
  | .absent => "Absent"
  | .notSampled => "NotSampled"
  | .resume t app host =>
    "Continue \x7b trace_id: " ++ traceIdDebug w t ++ ", parent_application_name: " ++
      optionDebug Text.quote app ++ ", host: " ++ optionDebug Text.quote host ++ " \x7d"

/-- A trace scope of a trace. -/
def traceScopeDebug (s : TraceScope) : String :=
  "TraceScope \x7b inner: TraceScopeState \x7b name: " ++ Text.quote s.name ++ ", depth: " ++
    toString s.depth ++ " \x7d \x7d"

/-- A detached chain: the context id masked, its trace and its number of scopes. -/
def chainDebug (w : World) (c : Option ChainLocal) : String :=
  let trace := c.bind (·.trace)
  let scopes := (c.map (·.slots.length)).getD 0
  "DetachedChain \x7b context_id: ID, trace: " ++ optionDebug (traceDebug w) trace ++ ", scopes: " ++
    toString scopes ++ " \x7d"

/-- The context, its id and start time masked. -/
def contextDebug (s : Settings) : String :=
  "TraceContext \x7b id: ID, agent_id: " ++ Text.quote s.agentId ++ ", application_name: " ++
    Text.quote s.applicationName ++ ", agent_start_time: START \x7d"

/-- The context's configuration, with its sampler and id source. -/
def configDebug (w : World) : String :=
  let s := w.settings
  "Config \x7b agent_id: " ++ Text.quote s.agentId ++ ", application_name: " ++
    Text.quote s.applicationName ++ ", sampler: " ++ s.sampler.debug ++ ", id_generator: " ++
    w.ids.debug ++ ", max_call_stack_depth: " ++ toString s.maxCallStackDepth ++
    ", max_span_events: " ++ toString s.maxSpanEvents ++ " \x7d"

/-- The interceptor registry: how many are registered and how many may be. -/
def registryDebug (w : World) : String :=
  "InterceptorRegistry \x7b registered: " ++ toString w.registry.length ++ ", capacity: " ++
    toString w.settings.registryCapacity ++ " \x7d"

/-- An interceptor scope, its invocation on the calling chain, and its name. -/
def scopeDebug (name : String) : String :=
  let scope := "InterceptorScope \x7b name: " ++ Text.quote name ++ " \x7d"
  scope ++ " InterceptorScopeInvocation \x7b scope: " ++ scope ++ " \x7d " ++ name

end Scenario
end TraceAgent
