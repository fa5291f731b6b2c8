import TraceAgent.Protocol.Probe
import TraceAgent.Protocol.ProcessorRun
import TraceAgent.Doc.Write
import TraceAgent.Scenario.Run

/-!
# Answering a request

`respond` answers one request document: it reads the operation name, runs the operation and
writes `{"ok": …}` or `{"error": kind, "message": text}`, with the list of log events under
`logs` when the request asked for them.
-/

namespace TraceAgent
namespace Protocol

/-- The answer document of an outcome. -/
def answerDoc (o : Outcome) (withLogs : Bool) : Doc :=
  let logs := if withLogs then [("logs", Doc.arr (o.logs.map fun e => .str e.text))] else []
  match o.result with
  | .ok d => .obj ([("ok", d)] ++ logs)
  | .error (kind, message) => .obj ([("error", .str kind), ("message", .str message)] ++ logs)

/-- Runs the operation a request names. -/
def dispatch (op : String) (req : Doc) : Outcome :=
  match op with
  | "txid_parse" => txidParse req
  | "txid_format" => txidFormat req
  | "policy" => policyProbe req
  | "local_async_id" => localAsyncProbe req
  | "exception_info" => exceptionProbe req
  | "annotation" => attrProbe req
  | "service_type_eq" => serviceTypeProbe req
  | "sampler" => samplerProbe req
  | "config_env" => configProbe req
  | "batch_config" => batchConfigProbe req
  | "id_generator" => idSourceProbe req
  | "extract" => extractProbe req
  | "trace_id" => traceIdProbe req
  | "propagator_fields" => fieldsProbe
  | "debug_values" => debugProbe req
  | "counting_sampler" => countingProbe req
  | "boxed_sampler" => boxedProbe req
  | "processor" => processorProbe req
  | "scenario" => Scenario.scenarioProbe req
  | _ => Outcome.refused (.badInput ("unknown op " ++ op))

/-- The answer to a request. -/
def respond (req : Doc) : Doc :=
  let withLogs := match req.field? "logs" with
    | some (.bool b) => b
    | _ => false
  match req.field? "op" with
  | some (.str op) => answerDoc (dispatch op req) withLogs
  | _ => answerDoc (Outcome.refused (.badInput "op")) withLogs

/-- The answer to a request, as one line of JSON text. -/
def respondLine (req : Doc) : String := (respond req).write

/-- The answer to a line that is not JSON. -/
def unreadableLine (reason : String) : String :=
  (Doc.obj [("error", .str "BadJson"), ("message", .str reason)]).write

end Protocol
end TraceAgent
