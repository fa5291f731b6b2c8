import TraceAgent.Scenario.Record
import TraceAgent.Scenario.Spec
import TraceAgent.Scenario.Debug
import TraceAgent.Protocol.ProcessorRun

/-!
# The steps of a scripted run

Each step names an operation (`op`) and its fields, and answers with a result document and, for
some operations, extra members: `async` (the async contexts a recording step handed off),
`trace` (after `end`), `depth` (after a scope operation), `body` (the answers of a call's body)
and `id_display` (for the debug form of an interceptor).

An operation refuses (`Refusal`) while it reads its fields and looks its objects up; once it
runs, errors of the library are results (`{"error": kind, "message": text}`), and panics end the
step. The steps that run other steps, `call` and `with_chain`, take the runner of their nested
steps as an argument (`callStep`, `withChainStep`).
-/

namespace TraceAgent
namespace Scenario

open Protocol

/-- A step's result and its extra members. -/
abbrev StepResult := Doc × List (String × Doc)

/-- The answer of a trace operation: the trace, stored under `as` and written, or the error. -/
def traceOutcome (as : Option String) : Except TraceError TraceRef → Agent Doc
  | .ok t => do
    storeAs as (.trace t)
    traceDoc t
  | .error e => pure (traceErrorDoc e)

/-- An optional trace, stored under `as` and written. -/
def traceFound (as : Option String) (t : Option TraceRef) : Agent Doc := do
  if let some x := t then storeAs as (.trace x)
  traceDoc? t

/-- Reads the remote trace of `trace_for`. -/
def readRemote (step : Doc) : StepM (Except TraceError RemoteTrace) := do
  match optField step "remote" with
  | some (.str "absent") => pure (.ok .absent)
  | some (.str "not_sampled") => pure (.ok .notSampled)
  | some d@(.obj _) =>
    match d.field? "handle", d.field? "continue" with
    | some (.str name), _ =>
      match ← handle name with
      | .remote r => pure (.ok r)
      | _ => throw (.wrongHandle name)
    | _, some c =>
      let app ← lift (optString c "parent_application_name")
      let host ← lift (optString c "host")
      match optField c "trace_id" with
      | some t =>
        match ← traceIdAt t with
        | .ok tid => pure (.ok (.resume tid app host))
        | .error e => pure (.error e)
      | none => throw (.badInput "trace_id")
    | _, _ => throw (.badInput "remote")
  | _ => throw (.badInput "remote")

/-- `new_trace`, `continue_trace`, `disable_sampling` and `trace_for`. -/
def startStep (op : String) (step : Doc) : StepM StepResult := do
  let as ← lift (optString step "as")
  let started ← match op with
    | "continue_trace" => do
      match ← traceIdAt ((optField step "trace_id").getD .null) with
      | .ok tid => act (Agent.continueTraceObject tid)
      | .error e => pure (.error e)
    | "disable_sampling" => act Agent.disableSampling
    | "trace_for" => do
      match ← readRemote step with
      | .ok r => act (Agent.traceFor r)
      | .error e => pure (.error e)
    | _ => act Agent.newTraceObject
  pure (← act (traceOutcome as started), [])

/-- `begin` and `record`: writes into a new frame, or the top one, and answers with the trace. -/
def recordStep (opens : Bool) (step : Doc) : StepM StepResult := do
  let t ← traceAt step "trace"
  let actions ← (← lift (optList step "record")).mapM readEventAction
  act do
    let r ← if opens then Agent.blockBegin t else Agent.currentRecorder t
    let asyncs ← runEventActions r actions
    let extra := if asyncs.isEmpty then [] else [("async", Doc.arr asyncs)]
    pure (← traceDoc t, extra)

/-- `end`: seals the top frame; answers `"ok"` or the error, with the trace after it. -/
def endStep (step : Doc) : StepM StepResult := do
  let t ← traceAt step "trace"
  act do
    let r ← Agent.blockEnd t
    let result := match r with
      | .ok () => Doc.str "ok"
      | .error e => traceErrorDoc e
    pure (result, [("trace", ← traceDoc t)])

/-- The depth of a trace scope. -/
def traceScopeDepth (t : TraceRef) (name : String) : Agent Nat := do
  pure ((((← Agent.trace t).scope? name).map (·.depth)).getD 0)

/-- `tscope_enter`, `tscope_leave` and `tscope_get`. -/
def traceScopeStep (op : String) (step : Doc) : StepM StepResult := do
  let t ← traceAt step "trace"
  let name ← nameAt step "name"
  act do
    match op with
    | "tscope_enter" =>
      let b ← Agent.traceScopeEnter t name
      pure (.bool b, [("depth", .nat (← traceScopeDepth t name))])
    | "tscope_leave" =>
      match ← Agent.traceScopeLeave t name with
      | some b => pure (.bool b, [("depth", .nat (← traceScopeDepth t name))])
      | none => pure (.str "no_scope", [])
    | _ =>
      match (← Agent.trace t).scope? name with
      | some s =>
        pure (.obj [("active", .bool (s.depth > 0)), ("depth", .nat s.depth), ("name", .str s.name)], [])
      | none => pure (.null, [])

/-- `inject`: writes the headers of a call out of the trace into a stored carrier. -/
def injectStep (step : Doc) : StepM StepResult := do
  let t ← traceAt step "trace"
  let into ← nameAt step "into"
  let host ← lift (optString step "host")
  let as ← lift (optString step "as")
  let h ← headersOrEmpty into
  act do
    if let some tid ← Agent.traceId? t then labelRoot tid
    let (next?, h) ← Agent.injectWithHost t host h
    if let some next := next? then modify fun w => { w with masks := w.masks.label next.span }
    Agent.storeHandle into (.headers h)
    match next? with
    | some next =>
      storeAs as (.traceId next)
      pure (.obj [("headers", ← headersDoc h), ("next", ← traceIdDoc next)], [])
    | none => pure (.obj [("headers", ← headersDoc h), ("next", .null)], [])

/-- `extract`: reads the remote trace a carrier describes. -/
def extractStep (step : Doc) : StepM StepResult := do
  let h ← headersAt step "headers"
  let as ← lift (optString step "as")
  act do
    let (r, logs) := RemoteTrace.extract h
    Agent.emit logs
    storeAs as (.remote r)
    pure (← remoteDoc r, [])

/-- `set_header`: sets a header of a stored carrier, or removes it when no value is given. -/
def setHeaderStep (step : Doc) : StepM StepResult := do
  let into ← nameAt step "into"
  let key ← nameAt step "key"
  let value ← lift (optString step "value")
  let h ← headersOrEmpty into
  let h := match value with
    | some v => h.set key v
    | none => h.erase (Text.toLowerFull key)
  act do
    Agent.storeHandle into (.headers h)
    pure (← headersDoc h, [])

/-- The async operations: `async_continue`, `async_current`, `async_finish` and `async_info`. -/
def asyncStep (op : String) (step : Doc) : StepM StepResult := do
  let a ← asyncAt step "async"
  let as ← lift (optString step "as")
  act do
    match op with
    | "async_continue" => pure (← traceFound as (← Agent.continueAsync a), [])
    | "async_current" => pure (← traceFound as (← Agent.currentAsync a), [])
    | "async_finish" => pure (.bool (← Agent.finishAsync a), [])
    | _ => pure (← asyncDoc a, [])

/-- `clone`: a second name for the same object. -/
def cloneStep (step : Doc) : StepM StepResult := do
  let name ← nameAt step "handle"
  let as ← nameAt step "as"
  let h ← handle name
  act do
    if let .async a := h then Agent.cloneAsync a
    Agent.storeHandle as h
    pure (.null, [])

/-- `drop`: forgets a name, dropping what it held; whether it existed. -/
def dropStep (step : Doc) : StepM StepResult := do
  let name ← nameAt step "handle"
  act do
    let w ← get
    match w.handles.lookup name with
    | some h =>
      set { w with handles := w.handles.filter (fun (p : String × Handle) => p.1 != name) }
      Agent.dropHandleValue h
      pure (.bool true, [])
    | none =>
      match w.detached.lookup name with
      | some c =>
        set { w with detached := w.detached.filter (fun (p : String × Option ChainLocal) => p.1 != name) }
        Agent.dropChainLocal Agent.dropFuel c
        pure (.bool true, [])
      | none => pure (.bool false, [])

/-- The document of a value taken out of a scope's slot. -/
def attachmentDoc : Option Attachment → Doc
  | some (.text s) => .obj [("str", .str s)]
  | some (.count n) => .obj [("u64", .nat n.toNat)]
  | some _ => .obj [("other", .bool true)]
  | none => .null

/-- The value of a scope's slot read as `type`: a string (`"str"`) or a number (`"u64"`). -/
def typedAttachment (asCount : Bool) : Option Attachment → Doc
  | some (.text s) => if asCount then .null else .str s
  | some (.count n) => if asCount then .nat n.toNat else .null
  | _ => .null

/-- Reads the type a scope's slot is read as: whether it is `"u64"`. -/
def readSlotType (step : Doc) : StepM Bool := do
  match ← lift (optString step "type") with
  | none => pure false
  | some "str" => pure false
  | some "u64" => pure true
  | some _ => throw (.badInput "type")

/-- Reads a value to store in a scope's slot: a string, a number, or a drop hook (which takes a
clone of its async context). -/
def readSlotValue (key : String) (v : Doc) : StepM Attachment := do
  match v with
  | .str s => pure (.text s)
  | .int n => if 0 ≤ n ∧ n < Int.pow 2 64 then pure (.count n.toNat.toUInt64) else throw (.badInput key)
  | d@(.obj _) =>
    match d.field? "drop_hook" with
    | some h =>
      let scope ← nameAt h "scope"
      let a ← match optField h "async" with
        | some (.str name) =>
          match ← handle name with
          | .async a => pure (some a)
          | _ => throw (.wrongHandle name)
        | none => pure none
        | some _ => throw (.badInput "async")
      if let some x := a then act (Agent.cloneAsync x)
      pure (.hook scope a)
    | none => throw (.badInput key)
  | _ => throw (.badInput key)

/-- The scope operations; each answers with the scope's depth after it. -/
def scopeStep (op : String) (step : Doc) : StepM StepResult := do
  let name ← nameAt step "scope"
  let result ← match op with
    | "scope_enter" => do
      let policy ← lift (readPolicy step "policy")
      act do
        let id ← Agent.scopeId name
        pure (Doc.bool (← Agent.scopeEnter id policy))
    | "scope_can_leave" => do
      let policy ← lift (readPolicy step "policy")
      act do
        let id ← Agent.scopeId name
        pure (Doc.bool (← Agent.scopeCanLeave id policy))
    | "scope_leave" => do
      let _ ← lift (readPolicy step "policy")
      act do
        let id ← Agent.scopeId name
        Agent.dropMaybe (← Agent.scopeLeave id)
        pure Doc.null
    | "scope_set_attachment" => do
      let v ← readSlotValue "value" ((optField step "value").getD .null)
      act do
        let id ← Agent.scopeId name
        let (prev, unstored) ← Agent.setAttachment id v
        Agent.dropMaybe unstored
        let d := attachmentDoc prev
        Agent.dropMaybe prev
        pure d
    | "scope_attachment" => do
      let asCount ← readSlotType step
      act do
        let id ← Agent.scopeId name
        pure (typedAttachment asCount (← Agent.attachment id))
    | "scope_get_or_create" => do
      let asCount ← readSlotType step
      let init ← match optField step "init" with
        | some (.str s) => if asCount then throw (.badInput "init") else pure (Attachment.text s)
        | some (.int n) =>
          if asCount && 0 ≤ n && n < Int.pow 2 64 then pure (Attachment.count n.toNat.toUInt64)
          else throw (.badInput "init")
        | _ => throw (.badInput "init")
      act do
        let id ← Agent.scopeId name
        let made : Agent Attachment := do
          Agent.note "init"
          pure init
        pure (typedAttachment asCount (← Agent.getOrCreateAttachment id made))
    | "scope_remove_attachment" => do
      act do
        let id ← Agent.scopeId name
        let prev ← Agent.removeAttachment id
        let d := attachmentDoc prev
        Agent.dropMaybe prev
        pure d
    | _ => do
      act do
        let id ← Agent.scopeId name
        pure (.obj [("active", .bool ((← Agent.scopeDepth id) > 0))])
  let depth ← act (do Agent.scopeDepth (← Agent.scopeId name))
  pure (result, [("depth", .nat depth)])

/-- `scope_same`: whether two names give the same scope. -/
def scopeSameStep (step : Doc) : StepM StepResult := do
  let a ← nameAt step "a"
  let b ← nameAt step "b"
  act do
    let x ← Agent.scopeId a
    let y ← Agent.scopeId b
    pure (.obj [("equal", .bool (x == y)), ("name", .str a)], [])

/-- `new_chain` and `detach_chain`: stores a chain state apart from any thread. -/
def chainStep (detach : Bool) (step : Doc) : StepM StepResult := do
  let as ← nameAt step "as"
  act do
    let c ← if detach then Agent.detachLocal else pure none
    let d ← traceDoc? (c.bind (·.trace))
    Agent.storeDetached as c
    pure (d, [])

/-- The interceptor registered under the name a field holds. -/
def interceptorAt (step : Doc) (key : String) : StepM Nat := do
  let name ← nameAt step key
  match (← act get).interceptorNames.lookup name with
  | some id => pure id
  | none => throw (.unknownInterceptor name)

/-- `register`: builds an interceptor from its spec and registers it under a name. -/
def registerStep (step : Doc) : StepM StepResult := do
  let name ← nameAt step "as"
  let spec := (optField step "interceptor").getD .null
  let (i, lines) ← lift (readInterceptor name (spec.depth + 1) spec)
  act do
    Agent.claimScopes i
    for line in lines do Agent.note line
    match ← Agent.register i with
    | .ok id =>
      modify fun w =>
        { w with interceptorNames :=
            w.interceptorNames.filter (fun (p : String × Nat) => p.1 != name) ++ [(name, id)] }
      pure (.nat id, [])
    | .error e => pure (traceErrorDoc e, [])

/-- Reads a value passed to an intercepted call. -/
def readCallValue (key : String) (d : Doc) : StepM CallValue := do
  match d with
  | .str s => pure (.text s)
  | .int n => if 0 ≤ n ∧ n < Int.pow 2 32 then pure (.number n.toNat.toUInt32) else throw (.badInput key)
  | .obj _ =>
    match d.field? "headers", d.field? "async" with
    | some (.str name), _ => pure (.headers (← headersNamed name))
    | some (.arr items), _ => pure (.headers (← lift (applyHeaderList {} key items)))
    | _, some (.str name) =>
      match ← handle name with
      | .async a => pure (.async a)
      | _ => throw (.wrongHandle name)
    | _, _ => throw (.badInput key)
  | _ => throw (.badInput key)

/-- Reads the receiver and arguments of an intercepted call. -/
def readInvocation (step : Doc) : StepM Invocation := do
  let target ← match optField step "target" with
    | none => pure .unit
    | some (.str s) => pure (.text s)
    | some d@(.obj _) =>
      match d.field? "async" with
      | some (.str name) =>
        match ← handle name with
        | .async a => pure (.async a)
        | _ => throw (.wrongHandle name)
      | _ => throw (.badInput "target")
    | some _ => throw (.badInput "target")
  let args ← (← lift (optList step "args")).mapM (readCallValue "args")
  pure { target, args }

/-- The async contexts a call carries: its arguments', then its receiver's. -/
def callContexts (inv : Invocation) : List AsyncRef :=
  let of : CallValue → List AsyncRef
    | .async a => [a]
    | _ => []
  inv.args.flatMap of ++ of inv.target

/-- Runs work while a call holds clones of the async contexts it carries. -/
def holdingContexts {α : Type} (inv : Invocation) (k : Agent α) : Agent α := do
  let refs := callContexts inv
  refs.forM Agent.cloneAsync
  Agent.guarded k (refs.forM Agent.dropAsyncRef)

/-- How a scripted call ends after its body: it returns a string, fails, or panics. -/
def readCallEnd (step : Doc) : StepM Agent.CallEnd := do
  match optField step "outcome" with
  | none => pure (.returned "done")
  | some (.str "panic") => pure (.panicked "application panic")
  | some d@(.obj _) =>
    match d.field? "ok", d.field? "err" with
    | some (.str s), _ => pure (.returned s)
    | _, some e => pure (.failed (← lift (readErrorSpec "outcome" e)))
    | _, _ => throw (.badInput "outcome")
  | some _ => throw (.badInput "outcome")

/-- The outcome a directly called `after` hook sees: absent means neither result nor error. -/
def readHookOutcome (step : Doc) : StepM Outcome := do
  match optField step "outcome" with
  | none => pure .unwound
  | some d@(.obj _) =>
    match d.field? "ok", d.field? "err" with
    | some (.str s), _ => pure (.returned s)
    | _, some e => pure (.failed (← lift (readErrorSpec "outcome" e)))
    | _, _ => throw (.badInput "outcome")
  | some _ => throw (.badInput "outcome")

/-- The result of an intercepted call. -/
def callEndDoc : Agent.CallEnd → Doc
  | .returned s => .obj [("returned", .str s)]
  | .failed e => .obj [("failed", .str e.message)]
  | .panicked text => .obj [("panicked", .str text)]

/-- `call`: runs the body steps between the hooks of a registered interceptor. -/
def callStep (runBody : List Doc → Agent (List Doc)) (step : Doc) : StepM StepResult := do
  let id ← interceptorAt step "id"
  let inv ← readInvocation step
  let body ← lift (optList step "body")
  let ending ← readCallEnd step
  act do
    let (answers, ending) ← holdingContexts inv
      (Agent.around id inv (do pure (← runBody body, ending)) (fun r => r.2.outcome))
    pure (callEndDoc ending, if answers.isEmpty then [] else [("body", .arr answers)])

/-- `hook_before` and `hook_after`: an interceptor's own hook, called directly. -/
def hookStep (before : Bool) (step : Doc) : StepM StepResult := do
  let id ← interceptorAt step "id"
  let inv ← readInvocation step
  let outcome ← if before then pure .unwound else readHookOutcome step
  match (← act get).registry[id]? with
  | none => pure (.str "unknown_id", [])
  | some i =>
    act do
      let r ← holdingContexts inv
        (if before then Agent.hookBefore i inv else Agent.hookAfter i inv outcome)
      pure (hookResultDoc r, [])

/-- `registry_dispatch`: the registry's own dispatch of one hook, with an empty call. -/
def dispatchStep (step : Doc) : StepM StepResult := do
  let id ← interceptorAt step "id"
  match ← lift (optString step "hook") with
  | none | some "before" => act (Agent.dispatchBefore id {})
  | some "after" => act (Agent.dispatchAfter id {} .unwound)
  | some _ => throw (.badInput "hook")
  pure (.null, [])

/-- `with_chain`: runs the steps with a stored chain state installed on the calling thread; the
state is used up, and what the steps leave of it is dropped. -/
def withChainStep (runBody : List Doc → Agent (List Doc)) (step : Doc) : StepM StepResult := do
  let name ← nameAt step "handle"
  let steps ← lift (optList step "steps")
  match (← act get).detached.lookup name with
  | none => throw (.unknownHandle name)
  | some c =>
    act do
      modify fun w =>
        { w with detached := w.detached.filter (fun (p : String × Option ChainLocal) => p.1 != name) }
      let (answers, left) ← Agent.withDetached c (runBody steps)
      Agent.dropChainLocal Agent.dropFuel left
      pure (.null, [("steps", .arr answers)])

/-- `debug`: the debug form of an object of the run, masked. -/
def debugStep (step : Doc) : StepM StepResult := do
  let what ← nameAt step "what"
  let w ← act get
  let text (s : String) : StepM StepResult := pure (.str (w.masks.hideStart s), [])
  match what with
  | "trace" => text (traceDebug w (← traceAt step "handle"))
  | "recorder" => text (recorderDebug w (← traceAt step "handle"))
  | "span_recorder" => text (spanRecorderDebug w (← traceAt step "handle"))
  | "async" => text (asyncDebug w (← asyncAt step "handle"))
  | "trace_id" =>
    let name ← nameAt step "handle"
    match ← handle name with
    | .traceId t => text (traceIdDebug w t)
    | .remote r => text (remoteDebug w r)
    | .trace t => text (optionDebug (traceIdDebug w) (traceIdIn w (w.traces[t]?.getD default)))
    | _ => throw (.wrongHandle name)
  | "trace_scope" =>
    let t ← traceAt step "handle"
    let name ← nameAt step "name"
    text (optionDebug traceScopeDebug ((w.traces[t]?.getD default).scope? name))
  | "context" => text (contextDebug w.settings)
  | "config" => text (configDebug w)
  | "registry" => text (registryDebug w)
  | "interceptor" =>
    let id ← interceptorAt step "id"
    pure (.str (w.masks.hideStart (optionDebug Interceptor.debug w.registry[id]?)),
      [("id_display", .str (toString id))])
  | "scope" =>
    let name ← nameAt step "name"
    let _ ← act (Agent.scopeId name)
    text (scopeDebug name)
  | "chain" =>
    let name ← nameAt step "handle"
    match w.detached.lookup name with
    | some c => text (chainDebug w c)
    | none => throw (.unknownHandle name)
  | _ => throw (.badInput "unknown debug target")

/-- `find_event`: the first frame of that name in every span exported so far. -/
def findEventStep (step : Doc) : StepM StepResult := do
  let name ← nameAt step "name"
  let w ← act get
  let spans := w.pipeline.processors.flatMap (·.exporter.stored)
  pure (.arr (spans.map fun s => match s.eventNamed name with
    | some e => .obj [("api_name", Doc.ofOption .str e.apiName), ("sequence", .nat e.sequence)]
    | none => .null), [])

/-- The steps that run no other steps. -/
def plainStep (op : String) (step : Doc) : StepM StepResult := do
  match op with
  | "new_trace" | "continue_trace" | "disable_sampling" | "trace_for" => startStep op step
  | "remove_trace" =>
    let as ← lift (optString step "as")
    act do pure (← traceFound as (← Agent.removeTraceObject), [])
  | "current" =>
    let raw ← lift (flag step "raw")
    let as ← lift (optString step "as")
    act do
      let t ← if raw then Agent.currentRaw else Agent.currentSampled
      pure (← traceFound as t, [])
  | "discard" =>
    let t ← traceAt step "trace"
    act do
      Agent.discardTrace t
      pure (← traceDoc t, [])
  | "force_flush" => act do pure (exportResultDoc (← flushPipeline), [])
  | "shutdown" => act do pure (exportResultDoc (← shutdownPipeline), [])
  | "state" => do
    let t ← traceAt step "trace"
    act do pure (← traceDoc t, [])
  | "begin" => recordStep true step
  | "record" => recordStep false step
  | "end" => endStep step
  | "span_record" =>
    let t ← traceAt step "trace"
    let actions ← (← lift (optList step "record")).mapM (fun d => lift (readSpanAction d))
    act do
      actions.forM (runSpanAction t)
      pure (.null, [])
  | "close" =>
    let t ← traceAt step "trace"
    act do
      Agent.closeTrace t
      pure (← traceDoc t, [])
  | "tscope_enter" | "tscope_leave" | "tscope_get" => traceScopeStep op step
  | "inject" => injectStep step
  | "extract" => extractStep step
  | "set_header" => setHeaderStep step
  | "async_continue" | "async_current" | "async_finish" | "async_info" => asyncStep op step
  | "clone" => cloneStep step
  | "drop" => dropStep step
  | "scope_enter" | "scope_can_leave" | "scope_leave" | "scope_depth" | "scope_set_attachment"
  | "scope_attachment" | "scope_get_or_create" | "scope_remove_attachment" => scopeStep op step
  | "scope_same" => scopeSameStep step
  | "new_chain" => chainStep false step
  | "detach_chain" => chainStep true step
  | "register" => registerStep step
  | "registry_len" =>
    let n := (← act get).registry.length
    pure (.obj [("empty", .bool (n == 0)), ("len", .nat n)], [])
  | "registry_clear" =>
    act (modify fun w => { w with registry := [] })
    pure (.null, [])
  | "hook_before" => hookStep true step
  | "hook_after" => hookStep false step
  | "registry_dispatch" => dispatchStep step
  | "journal" =>
    let line ← nameAt step "text"
    act (Agent.note line)
    pure (.null, [])
  | "debug" => debugStep step
  | "find_event" => findEventStep step
  | _ => throw (.badInput ("unknown op " ++ op))

end Scenario
end TraceAgent
