import TraceAgent.Agent.Drop

/-!
# Running interceptors

The hooks of each interceptor kind, the scripted handler actions they run, and the registry that
dispatches calls to them.

* **Entry point.** `before` enters the entry-point scope with a boundary policy; only the
  outermost entry starts a trace (as the handler says), keeps it in the scope's attachment and
  records the method and service type on the span's root. `after` leaves the scope in any case;
  the outermost exit runs the handler, records the call's error, unbinds and closes the trace.
* **Span event.** `before` opens a frame on the chain's sampled trace and records the service
  type; `after` records the method, runs the handler, records the error and seals the frame. A
  frame that cannot be sealed throws the trace away and is reported.
* **Async end point.** `before` resumes the branch of the call's async context and opens a frame
  (the outermost frame of the branch is marked `ASYNC`); `after` seals it, and the outermost exit
  unbinds and closes the branch and reports it finished.
* **Scoped.** The delegate runs only at the nesting levels the policy selects; its failures are
  logged and kept here.
* **Journal.** Notes each hook and runs its actions.

A hook's panic is *contained* by the registry: it becomes the failure
`interceptor panicked: <text>`. Failures of hooks run by the registry are logged and go no
further.
-/

namespace TraceAgent
namespace Agent

/-- The name of the scope shared by every entry point. -/
def entryScopeName : String := "calltrace.entry-point"

/-- The name of the trace scope counting nested end point frames of a branch. -/
def asyncScopeName : String := "calltrace.async-trace"

/-- Where a handler's actions write. -/
inductive Target where
  | nowhere
  | root (t : TraceRef)
  | event (r : EventRecorder)
  deriving Inhabited

/-- Records an attribute where the actions write. -/
def Target.recordAttr (tg : Target) (a : Attr) : Agent Unit :=
  match tg with
  | .root t => recordRoot t fun r => { r with annotations := r.annotations ++ [a] }
  | .event r => r.recordAttr a
  | .nowhere => pure ()

/-- The text of a remote trace in a journal line, ids as rendered. -/
def remoteText (m : Protocol.Masks) : RemoteTrace → String
  | .absent => "absent"
  | .notSampled => "not_sampled"
  | .resume t app host =>
    "continue " ++ m.txidText t.transaction ++ " " ++ m.spanText t.span ++ " " ++ m.spanText t.parent ++
      " " ++ toString t.flags.toNat ++ " " ++ app.getD "-" ++ " " ++ host.getD "-"

/-- Runs one action of a handler. -/
def runAction (tag : String) (tg : Target) (inv : Invocation) (outcome : Option Outcome) :
    Action → Agent (Except HookError Unit)
  | .journal text => do note (tag ++ ":" ++ text); pure (.ok ())
  | .attrArg i =>
    match inv.textArg? i with
    | some s => do tg.recordAttr ⟨"arg" ++ toString i, .text s⟩; pure (.ok ())
    | none => pure (.error (.missingArgument i))
  | .attr a => do tg.recordAttr a; pure (.ok ())
  | .outcome => do
    if let some o := outcome then note (tag ++ ":outcome " ++ o.journalText)
    pure (.ok ())
  | .rpc s => do
    if let .root t := tg then recordRoot t fun r => { r with rpc := some s }
    pure (.ok ())
  | .remoteAddress s => do
    if let .root t := tg then recordRoot t fun r => { r with remoteAddress := some s }
    pure (.ok ())
  | .destinationId s => do
    if let .event r := tg then r.recordDestinationId s
    pure (.ok ())
  | .endPoint s => do
    match tg with
    | .root t => recordRoot t fun r => { r with endPoint := some s }
    | .event r => r.recordEndPoint s
    | .nowhere => pure ()
    pure (.ok ())
  | .api d => do
    if let .event r := tg then r.recordApi d
    pure (.ok ())
  | .asyncAs name => do
    if let .event r := tg then
      let a ← r.nextAsync
      storeHandle name (.async a)
      let (sampled, id) := match (← asyncObj a).kind with
        | .recording _ _ aid _ _ => (true, toString aid.value.toNat)
        | .disabled => (false, "-")
      note (tag ++ ":async " ++ name ++ " sampled=" ++ flagText sampled ++ " id=" ++ id)
    pure (.ok ())
  | .debug => do
    let outcomeText := (outcome.map Outcome.debug).getD "-"
    let returned := (outcome.map fun o => flagText o.hasResult).getD "-"
    note (tag ++ ":debug " ++ inv.debug ++ " " ++ outcomeText ++ " target_string=" ++
      flagText inv.textTarget?.isSome ++ " args=" ++ toString inv.args.length ++ " returned=" ++ returned)
    pure (.ok ())
  | .fail text => pure (.error (.other text))
  | .failStatic => pure (.error (.other "static failure"))
  | .panic text => panicWith text
  | .panicStatic => panicWith "static panic"
  | .panicAny => panicWith "non-string payload"
  | .nothing => pure (.ok ())

/-- Runs actions in order until one fails. -/
def runActions (tag : String) (tg : Target) (inv : Invocation) (outcome : Option Outcome) :
    List Action → Agent (Except HookError Unit)
  | [] => pure (.ok ())
  | a :: rest => do
    match ← runAction tag tg inv outcome a with
    | .ok () => runActions tag tg inv outcome rest
    | .error e => pure (.error e)

/-- A hook's panic as its failure. -/
def contain (k : Agent (Except HookError Unit)) : Agent (Except HookError Unit) :=
  tryCatch k fun text => pure (.error (.other ("interceptor panicked: " ++ text)))

/-- Logs a failed hook. -/
def report (r : Except HookError Unit) : Agent Unit :=
  match r with
  | .error _ => log (.warn "Interceptor.Hook.Failed")
  | .ok () => pure ()

/-- Starts the trace of an entry point, as its handler says. -/
def createTrace (h : Handler) (inv : Invocation) : Agent (Except TraceError TraceRef) := do
  if h.plain then return ← newTraceObject
  match h.create with
  | .fresh => newTraceObject
  | .fromHeaders =>
    let (remote, logs) := match inv.headersArg? 0 with
      | some hm => RemoteTrace.extract hm
      | none => (.absent, [])
    emit logs
    note (h.tag ++ ":remote " ++ remoteText (← get).masks remote)
    traceFor remote
  | .disabled => disableSampling
  | .fail => pure (.error (.other "create failed"))
  | .failStatic => pure (.error (.other "static create failure"))

/-- The async context a call carries for an end point: the handler's argument or the target. -/
def endPointContext (h : Handler) (inv : Invocation) : Option AsyncRef :=
  match h.contextArg with
  | some i => if h.plain then inv.asyncTarget? else inv.asyncArg? i
  | none => inv.asyncTarget?

/-- The handler's actions of one hook, none for a plain handler. -/
def handlerActions (h : Handler) (tg : Target) (inv : Invocation) (outcome : Option Outcome)
    (actions : List Action) : Agent (Except HookError Unit) :=
  if h.plain then pure (.ok ()) else runActions h.tag tg inv outcome actions

/-- Unbinds a trace from the calling chain if it is bound there. -/
def unbindIfBound (t : TraceRef) : Agent Bool := do
  if (← currentRaw) == some t then
    let _ ← removeTraceObject
    pure true
  else pure false

/-- The `before` hook of an interceptor. -/
def hookBefore : Interceptor → Invocation → Agent (Except HookError Unit)
  | .entryPoint api st h, inv => do
    let id ← scopeId entryScopeName
    if !(← scopeEnter id .boundary) then
      log (.dbg "EntryPointInterceptor.Before.Nested")
      return .ok ()
    match ← createTrace h inv with
    | .error e => pure (.error (.trace e))
    | .ok t =>
      let (prev, unstored) ← setAttachment id (.trace t)
      dropMaybe prev
      dropMaybe unstored
      recordRoot t fun r => { r with api := some api }
      recordRoot t fun r => { r with serviceType := st }
      handlerActions h (.root t) inv none h.before
  | .spanEvent _ st h, inv => do
    match ← currentSampled with
    | none => pure (.ok ())
    | some t =>
      let r ← blockBegin t
      r.recordServiceType st
      handlerActions h (.event r) inv none h.before
  | .asyncEndPoint _ h, inv => do
    match endPointContext h inv with
    | none => pure (.ok ())
    | some a =>
      match ← continueAsync a with
      | none => pure (.ok ())
      | some t =>
        let outermost ← traceScopeEnter t asyncScopeName
        let r ← blockBegin t
        if outermost then r.recordServiceType .async
        handlerActions h (.event r) inv none h.before
  | .gated scope policy delegate, inv => do
    let id ← scopeId scope
    if !(← scopeEnter id policy) then
      log (.dbg "ScopedInterceptor.Before.Skipped")
      return .ok ()
    report (← contain (hookBefore delegate inv))
    pure (.ok ())
  | .journal tag before _, inv => do
    note (tag ++ ":before " ++ inv.textTarget?.getD "?")
    runActions tag .nowhere inv none before

/-- The `after` hook of an interceptor. -/
def hookAfter : Interceptor → Invocation → Outcome → Agent (Except HookError Unit)
  | .entryPoint _ _ h, inv, outcome => do
    let id ← scopeId entryScopeName
    guarded (do
        if !(← scopeCanLeave id .boundary) then return .ok ()
        match ← attachment id with
        | some (.trace t) =>
          report (← contain (handlerActions h (.root t) inv (some outcome) h.after))
          if let some x := outcome.error? then recordRoot t fun r => r.noteException x
          if !(← unbindIfBound t) then log (.warn "EntryPointInterceptor.After.NotBound")
          closeTrace t
          pure (.ok ())
        | _ => pure (.ok ()))
      (do dropMaybe (← scopeLeave id))
  | .spanEvent api _ h, inv, outcome => do
    match ← currentSampled with
    | none => pure (.ok ())
    | some t =>
      let r ← currentRecorder t
      r.recordApi api
      report (← contain (handlerActions h (.event r) inv (some outcome) h.after))
      r.recordException outcome.error?
      match ← blockEnd t with
      | .ok () => pure (.ok ())
      | .error e =>
        discardTrace t
        pure (.error (.trace e))
  | .asyncEndPoint api h, inv, outcome => do
    match endPointContext h inv with
    | none => pure (.ok ())
    | some a =>
      match ← currentAsync a with
      | none => pure (.ok ())
      | some t =>
        let r ← currentRecorder t
        r.recordApi api
        report (← contain (handlerActions h (.event r) inv (some outcome) h.after))
        r.recordException outcome.error?
        let ended ← blockEnd t
        let outermost ← match ← traceScopeLeave t asyncScopeName with
          | some b => pure b
          | none => pure true
        if outermost then
          let _ ← unbindIfBound t
          closeTrace t
          if !(← finishAsync a) then log (.dbg "AsyncEndPointInterceptor.After.NothingToFinish")
        match ended with
        | .ok () => pure (.ok ())
        | .error e =>
          discardTrace t
          pure (.error (.trace e))
  | .gated scope policy delegate, inv, outcome => do
    let id ← scopeId scope
    guarded (do
        if !(← scopeCanLeave id policy) then
          log (.dbg "ScopedInterceptor.After.Skipped")
          return .ok ()
        report (← contain (hookAfter delegate inv outcome))
        pure (.ok ()))
      (do dropMaybe (← scopeLeave id))
  | .journal tag _ after, inv, outcome => do
    note (tag ++ ":after " ++ outcome.journalText)
    runActions tag .nowhere inv (some outcome) after

/-- Allocates the scopes an interceptor uses, as building it does. -/
def claimScopes : Interceptor → Agent Unit
  | .entryPoint _ _ _ => do let _ ← scopeId entryScopeName
  | .gated scope _ delegate => do
    let _ ← scopeId scope
    claimScopes delegate
  | _ => pure ()

/-- Registers an interceptor and returns its id; a full registry refuses. -/
def register (i : Interceptor) : Agent (Except TraceError Nat) := do
  let w ← get
  let cap := w.settings.registryCapacity
  if w.registry.length ≥ cap then
    log (.err "InterceptorRegistry.Register.Full")
    return .error (.registryFull cap)
  set { w with registry := w.registry ++ [i] }
  pure (.ok w.registry.length)

/-- The interceptor registered under an id, with a debug event for an unknown id. -/
def lookupInterceptor (id : Nat) : Agent (Option Interceptor) := do
  match (← get).registry[id]? with
  | some i => pure (some i)
  | none =>
    log (.dbg "InterceptorRegistry.UnknownId")
    pure none

/-- How the intercepted call itself finished. -/
inductive CallEnd where
  | returned (s : String)
  | failed (e : ExceptionInfo)
  | panicked (text : String)
  deriving Inhabited

/-- The outcome the `after` hook sees. -/
def CallEnd.outcome : CallEnd → Outcome
  | .returned s => .returned s
  | .failed e => .failed e
  | .panicked _ => .unwound

/-- Runs the `before` hook of interceptor `id`, containing and logging its failure. -/
def dispatchBefore (id : Nat) (inv : Invocation) : Agent Unit := do
  if let some i ← lookupInterceptor id then report (← contain (hookBefore i inv))

/-- Runs the `after` hook of interceptor `id`, containing and logging its failure. -/
def dispatchAfter (id : Nat) (inv : Invocation) (outcome : Outcome) : Agent Unit := do
  if let some i ← lookupInterceptor id then report (← contain (hookAfter i inv outcome))

/-- Runs a call between the hooks of interceptor `id` and returns its result unchanged; the
`after` hook sees the result through `outcome`. A call that panics still runs the `after` hook,
with an empty outcome, before the panic goes on. -/
def around {β : Type} (id : Nat) (inv : Invocation) (call : Agent β) (outcome : β → Outcome) :
    Agent β := do
  match ← lookupInterceptor id with
  | none => call
  | some i =>
    report (← contain (hookBefore i inv))
    let r ← tryCatch call fun text => do
      report (← contain (hookAfter i inv .unwound))
      throw text
    report (← contain (hookAfter i inv (outcome r)))
    pure r

end Agent
end TraceAgent
