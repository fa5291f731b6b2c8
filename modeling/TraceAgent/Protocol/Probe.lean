import TraceAgent.Protocol.Shapes
import TraceAgent.Config
import TraceAgent.Export.BatchConfig
import TraceAgent.IdSource
import TraceAgent.Log

/-!
# Single-value operations

The operations of the protocol that look at one value of the library at a time: reading and
writing transaction ids, policies, async ids, exceptions, attribute values, service types,
samplers, configuration from the environment, id sources, header extraction, trace ids and the
debug forms. Each is a function from the request to an `Outcome`: an answer document or an error
(kind and text), with the log events the library gave.
-/

namespace TraceAgent
namespace Protocol

/-- The result of an operation: the answer or an error's kind and text, and the log events. -/
structure Outcome where
  result : Except (String × String) Doc
  logs : List LogEvent := []

/-- A successful outcome. -/
def Outcome.ok (d : Doc) (logs : List LogEvent := []) : Outcome := ⟨.ok d, logs⟩

/-- An outcome of a refused request. -/
def Outcome.refused (r : Refusal) : Outcome := ⟨.error (r.kind, r.message), []⟩

/-- An outcome of a trace error. -/
def Outcome.traceError (e : TraceError) : Outcome := ⟨.error (e.kind, e.message), []⟩

/-- Runs a reading and continues with its value; a refusal ends the operation. -/
def withRead {α : Type} (r : Read α) (k : α → Outcome) : Outcome :=
  match r with
  | .ok a => k a
  | .error e => Outcome.refused e

/-- `txid_parse`: reads a transaction id. -/
def txidParse (req : Doc) : Outcome :=
  withRead (reqString req "text") fun text =>
    match TransactionId.ofString? text with
    | .ok t => Outcome.ok (.obj [("agent_id", .str t.agentId), ("agent_start_time", .int t.startTime.toNat),
        ("display", .str t.display), ("sequence", .int t.sequence.toNat)])
    | .error e => Outcome.traceError e

/-- `txid_format`: writes a transaction id and reads it back. -/
def txidFormat (req : Doc) : Outcome :=
  withRead (do
      let a ← reqString req "agent_id"
      let st ← reqNat req "agent_start_time" (Nat.pow 2 64)
      let sq ← reqNat req "sequence" (Nat.pow 2 64)
      pure (TransactionId.mk a st.toUInt64 sq.toUInt64)) fun t =>
    let reparsed := match TransactionId.ofString? t.display with
      | .ok u => Doc.obj [("agent_id", .str u.agentId), ("equal", .bool (u == t))]
      | .error e => Doc.obj [("error", .str e.kind), ("message", .str e.message)]
    Outcome.ok (.obj [("display", .str t.display), ("reparsed", reparsed)])

/-- Reads a policy name. -/
def readPolicy (req : Doc) (key : String) : Read ExecutionPolicy := do
  match ExecutionPolicy.ofName? (← reqString req key) with
  | some p => pure p
  | none => refuse key

/-- `policy`: the answers of a policy at a depth. -/
def policyProbe (req : Doc) : Outcome :=
  withRead (do pure (← readPolicy req "policy", ← reqNat req "depth" (Nat.pow 2 32))) fun (p, d) =>
    Outcome.ok (.obj [("display", .str p.display), ("enter", .bool (p.allowsEnter d)),
      ("leave", .bool (p.allowsLeave d))])

/-- `local_async_id`: writes a branch id. -/
def localAsyncProbe (req : Doc) : Outcome :=
  withRead (do pure (← reqNat req "async_id" (Nat.pow 2 32), ← reqNat req "sequence" (Nat.pow 2 32))) fun (a, s) =>
    let l : LocalAsyncId := ⟨⟨a.toUInt32⟩, s.toUInt32⟩
    Outcome.ok (.obj [("async_id", .str (toString a)), ("display", .str l.display), ("sequence", .int s)])

/-- A required field read by a reader of its document. -/
def reqWith {α : Type} (req : Doc) (key : String) (read : Doc → Read α) : Read α :=
  match optField req key with
  | some d => read d
  | none => refuse key

/-- `exception_info`: the exception of an error spec. -/
def exceptionProbe (req : Doc) : Outcome :=
  withRead (reqWith req "error" (readErrorSpec "error")) fun e => Outcome.ok (exceptionDoc e)

/-- `annotation`: an attribute value with its display text. -/
def attrProbe (req : Doc) : Outcome :=
  withRead (reqWith req "value" readAttrValue) fun v => Outcome.ok (attrValueDoc v)

/-- `service_type_eq`: whether two service types are the same. -/
def serviceTypeProbe (req : Doc) : Outcome :=
  withRead (do pure (← reqWith req "a" readServiceType, ← reqWith req "b" readServiceType)) fun (a, b) =>
    Outcome.ok (.obj [("a", serviceTypeDoc a), ("b", serviceTypeDoc b), ("equal", .bool (a.same b))])

/-- The number of decisions asked for. -/
def decisionCount (req : Doc) (default : Nat) : Read Nat := do
  pure ((← optNat req "n" 1001).getD default)

/-- `sampler`: a run of decisions. -/
def samplerProbe (req : Doc) : Outcome :=
  withRead (do pure (← reqWith req "sampler" (readSampler "sampler"), ← decisionCount req 10)) fun (s, n) =>
    Outcome.ok (.arr ((s.decideMany n {}).1.map .bool))

/-- Writes a sampler's kind and argument. -/
def samplerDoc : Sampler → Doc
  | .alwaysOn => .obj [("kind", .str "always_on")]
  | .alwaysOff => .obj [("kind", .str "always_off")]
  | .counting r => .obj [("kind", .str "counting"), ("rate", .int r.toNat)]
  | .percent p => .obj [("kind", .str "percent"), ("value", .float p)]

/-- `config_env`: the configuration read from an environment. -/
def configProbe (req : Doc) : Outcome :=
  withRead (stringMap req "env") fun env =>
    let (c, logs) := Config.ofEnv env
    let decisions := if c.sampler.isDeterministic then
        Doc.arr ((c.sampler.decideMany 10 {}).1.map .bool) else Doc.null
    Outcome.ok (.obj [
      ("agent_id", match c.agentId with
        | some a => .str a
        | none => .obj [("default", .bool true)]),
      ("application_name", .str c.applicationName),
      ("decisions", decisions),
      ("max_call_stack_depth", .nat c.maxCallStackDepth),
      ("max_span_events", .nat c.maxSpanEvents),
      ("sampler", samplerDoc c.sampler)]) logs

/-- Writes batch settings. -/
def batchConfigDoc (c : BatchConfig) : Doc :=
  .obj [("max_export_batch_size", .nat c.maxExportBatchSize),
    ("max_export_timeout_ms", .nat c.maxExportTimeout.count), ("max_queue_size", .nat c.maxQueueSize),
    ("scheduled_delay_ms", .nat c.scheduledDelay.count)]

/-- Applies explicit batch settings over a configuration. -/
def applyBatchSettings (b : Doc) (c : BatchConfig) : Read BatchConfig := do
  let q ← optNat b "max_queue_size" (Nat.pow 2 64)
  let bs ← optNat b "max_export_batch_size" (Nat.pow 2 64)
  let dl ← optNat b "scheduled_delay_ms" (Nat.pow 2 64)
  let timeout ← optNat b "max_export_timeout_ms" (Nat.pow 2 64)
  let c := match q with | some n => { c with maxQueueSize := n } | none => c
  let c := match bs with | some n => { c with maxExportBatchSize := n } | none => c
  let c := match dl with | some n => { c with scheduledDelay := ⟨n⟩ } | none => c
  let c := match timeout with | some n => { c with maxExportTimeout := ⟨n⟩ } | none => c
  pure c

/-- `batch_config`: batch settings from an environment and explicit settings. -/
def batchConfigProbe (req : Doc) : Outcome :=
  withRead (do
      let env ← stringMap req "env"
      let b := (optField req "builder").getD (.obj [])
      applyBatchSettings b (BatchConfig.ofEnv env)) fun c =>
    Outcome.ok (batchConfigDoc c.finish)

/-- One call on an id source, with the random stream and the labels. -/
def idCall (masks : Masks) (rand : RandomSpans) (src : IdSource) (call : String) :
    Read (Doc × Masks × RandomSpans × IdSource) :=
  match call with
  | "span" =>
    match src.kind with
    | .increment =>
      let (s, src) := src.nextCountedSpan
      pure (.obj [("null", .bool s.isNone), ("span", masks.spanDoc s)], masks, rand, src)
    | .random =>
      let (s, rand) := rand.random
      let masks := masks.label s
      pure (.obj [("null", .bool s.isNone), ("span", masks.spanDoc s)], masks, rand, src)
  | "seq" =>
    let (n, src) := src.nextSequence
    pure (.obj [("seq", .int n.toNat)], masks, rand, src)
  | "async" =>
    let (a, src) := src.nextAsync
    pure (.obj [("async", .int a.value.toNat)], masks, rand, src)
  | "reset" => pure (.str "reset", masks, rand, src.reset)
  | _ => refuse "calls"

/-- `id_generator`: a run of calls on an id source. -/
def idSourceProbe (req : Doc) : Outcome :=
  withRead (do
      let kind ← match ← reqString req "kind" with
        | "increment" => pure SpanIdKind.increment
        | "default" => pure SpanIdKind.random
        | _ => refuse "kind"
      let calls ← stringList "calls" (← optList req "calls")
      let init : List Doc × Masks × RandomSpans × IdSource := ([], {}, .standard, { kind })
      let (out, _) ← calls.foldlM (fun (acc, m, r, s) call => do
        let (d, m, r, s) ← idCall m r s call
        pure (acc ++ [d], m, r, s)) init
      pure out) fun out => Outcome.ok (.arr out)

/-- `extract`: reads a header list and then the remote trace. -/
def extractProbe (req : Doc) : Outcome :=
  withRead (do
      let h ← applyHeaderList {} "headers" (← optList req "headers")
      let keys ← stringList "get" (← optList req "get")
      pure (h, keys)) fun (h, keys) =>
    let (remote, logs) := RemoteTrace.extract h
    Outcome.ok (.obj [("get", .arr (keys.map fun k => Doc.ofOption .str (h.get k))),
      ("keys", .arr (h.keys.map .str)), ("remote", remoteDoc {} remote)]) logs

/-- One step of `trace_id`: the callee of the last id. -/
def nextIds (masks : Masks) (rand : RandomSpans) (last : TraceId) :
    Nat → List Doc → List Doc × Masks
  | 0, acc => (acc, masks)
  | n + 1, acc =>
    let (fresh, rand) := rand.nextSpanId last.span last.parent
    let next := last.child fresh
    let masks := masks.label fresh
    let distinct := !fresh.isNone && fresh != last.span && fresh != last.parent
    let doc := match traceIdDoc masks next with
      | .obj ms => Doc.obj (ms ++ [("distinct", .bool distinct),
          ("same_txid", .bool (next.transaction == last.transaction))])
      | d => d
    nextIds masks rand next n (acc ++ [doc])

/-- `trace_id`: a trace id and a chain of callees. -/
def traceIdProbe (req : Doc) : Outcome :=
  match readTraceId {} req with
  | .error (.inl r) => Outcome.refused r
  | .error (.inr e) => Outcome.traceError e
  | .ok first =>
    withRead (do pure (← optNat req "next" 51, ← flag req "new_root")) fun (n, newRoot) =>
      let rand : RandomSpans := .standard
      let (first, rand, masks) :=
        if newRoot then
          let (s, rand) := rand.random
          (TraceId.root first.transaction s, rand, ({} : Masks).label s)
        else (first, rand, ({} : Masks))
      let (rest, _) := nextIds masks rand first (n.getD 0) []
      Outcome.ok (.arr (traceIdDoc masks first :: rest))

/-- `propagator_fields`: the header names. -/
def fieldsProbe : Outcome := Outcome.ok (.arr (headerFields.map .str))

/-- Adds a debug text to a list of answer members when the request has the field. -/
def debugMember (req : Doc) (key : String) {α : Type} (read : Doc → Except (Sum Refusal TraceError) α)
    (present : α → List (String × Doc)) : Except (Sum Refusal TraceError) (List (String × Doc)) :=
  match optField req key with
  | some d => present <$> read d
  | none => pure []

/-- `debug_values`: debug forms of the given values. -/
def debugProbe (req : Doc) : Outcome :=
  let lift {α : Type} (r : Read α) : Except (Sum Refusal TraceError) α := r.mapError .inl
  let res : Except (Sum Refusal TraceError) (List (String × Doc)) := do
    let txid ← debugMember req "txid" (readTransaction "txid") fun t => [("txid", .str t.debug)]
    let span ← debugMember req "span_id" (fun d => lift (({} : Masks).readSpanId "span_id" d)) fun s =>
      [("span_id", .str s.display), ("span_id_display", .str s.display)]
    let tid ← debugMember req "trace_id" (readTraceId {}) fun t =>
      [("trace_id", .str (t.debug SpanId.display))]
    let desc ← debugMember req "descriptor" (fun d => lift (readDescriptor "descriptor" d)) fun m =>
      [("descriptor", .str m.debug), ("descriptor_display", .str m.fullName)]
    let st ← debugMember req "service_type" (fun d => lift (readServiceType d)) fun s =>
      [("service_type", .str s.debug)]
    let attr ← debugMember req "annotation" (fun d => lift (readAttrValue d)) fun v =>
      [("annotation", .str v.debug)]
    let pol ← debugMember req "policy" (fun d => lift (match d with
        | .str s => match ExecutionPolicy.ofName? s with
          | some p => pure p
          | none => refuse "policy"
        | _ => refuse "policy")) fun p => [("policy", .str p.debug)]
    let lai ← debugMember req "local_async_id" (fun d => lift (do
        pure (LocalAsyncId.mk ⟨(← reqNat d "async_id" (Nat.pow 2 32)).toUInt32⟩ (← reqNat d "sequence" (Nat.pow 2 32)).toUInt32)))
      fun l => [("local_async_id", .str l.debug)]
    let exc ← debugMember req "exception" (fun d => lift (readErrorSpec "exception" d)) fun e =>
      [("exception", .str e.debug)]
    let statics ← lift (flag req "statics")
    let st2 := if statics then
        [("remote_absent", Doc.str "Absent"),
          ("static_annotation", attrValueDoc (.text "static value")),
          ("static_descriptor", Doc.str "Static.method")]
      else []
    pure (txid ++ span ++ tid ++ desc ++ st ++ attr ++ pol ++ lai ++ exc ++ st2)
  match res with
  | .ok ms => Outcome.ok (.obj ms)
  | .error (.inl r) => Outcome.refused r
  | .error (.inr e) => Outcome.traceError e

/-- `counting_sampler`: decisions of a counting sampler and then of a clone sharing its counter. -/
def countingProbe (req : Doc) : Outcome :=
  withRead (do pure (← reqNat req "rate" (Nat.pow 2 64), ← decisionCount req 6)) fun (r, n) =>
    let s := Sampler.counting r.toUInt64
    let (first, c) := s.decideMany n {}
    let (second, _) := s.decideMany n c
    Outcome.ok (.obj [("clone_decisions", .arr (second.map .bool)), ("debug", .str (Sampler.countingDebug r.toUInt64)),
      ("decisions", .arr (first.map .bool)), ("rate", .nat r)])

/-- `boxed_sampler`: the debug form and decisions of a sampler and its clones. -/
def boxedProbe (req : Doc) : Outcome :=
  withRead (do pure (← reqWith req "sampler" (readSampler "sampler"), ← decisionCount req 6)) fun (s, n) =>
    Outcome.ok (.obj [("debug", .str s.debug), ("decisions", .arr ((s.decideMany n {}).1.map .bool))])

end Protocol
end TraceAgent
