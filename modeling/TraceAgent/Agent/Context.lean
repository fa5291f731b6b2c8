import TraceAgent.Agent.Traces

/-!
# Binding traces to call chains

Each call chain works on at most one trace at a time.

* `currentRaw` is the trace bound to the calling chain, disabled ones included; `currentSampled`
  only reports a recording one.
* `newTraceObject` starts a transaction on an unbound chain: the sampler decides whether the
  trace records; a recording trace gets the next transaction sequence and a fresh root span id.
  `continueTraceObject` continues a remote caller's trace without asking the sampler, and
  `disableSampling` binds a disabled trace. On a bound chain each fails with `alreadyBound`, with
  an error event, and leaves the bound trace alone.
* `removeTraceObject` unbinds the chain's trace and returns it, without closing it.
* `discardTrace` throws a trace's span away and unbinds it if it is the chain's.

Main statement: `bindLocal_bound` — binding never replaces a bound trace.
-/

namespace TraceAgent

/-- Binds a trace to a chain state unless one is bound already. -/
def ChainLocal.bindTrace (c : ChainLocal) (t : TraceRef) : Except TraceError Unit × ChainLocal :=
  match c.trace with
  | some _ => (.error .alreadyBound, c)
  | none => (.ok (), { c with trace := some t })

theorem bindLocal_bound (c : ChainLocal) (t : TraceRef) (h : c.trace.isSome) :
    c.bindTrace t = (.error .alreadyBound, c) := by
  unfold ChainLocal.bindTrace
  cases hc : c.trace with
  | none => simp [hc] at h
  | some _ => rfl

namespace Agent

/-- The trace bound to the calling chain, disabled ones included. -/
def currentRaw : Agent (Option TraceRef) := do
  match ← readChain (fun c => c.bind (·.trace)) with
  | .ok t => pure t
  | .error _ => pure none

/-- The recording trace bound to the calling chain. -/
def currentSampled : Agent (Option TraceRef) := do
  match ← currentRaw with
  | some t => if (← trace t).canSample then pure (some t) else pure none
  | none => pure none

/-- Binds a trace to the calling chain. -/
def bindTrace (t : TraceRef) : Agent (Except TraceError Unit) := do
  match ← withChain (fun c => c.bindTrace t) with
  | .ok r => pure r
  | .error e => pure (.error e)

/-- Fails with an error event when the calling chain is bound. -/
def ensureUnbound : Agent (Except TraceError Unit) := do
  match ← currentRaw with
  | some _ =>
    log (.err "TraceContext.AlreadyBound")
    pure (.error .alreadyBound)
  | none => pure (.ok ())

/-- A new recording trace writing into a new span. -/
def recordingTrace (tid : TraceId) : Agent TraceRef := do
  let s ← settings
  let sp ← newSpan { traceId := tid, maxEvents := s.maxSpanEvents }
  newTrace { kind := .recording sp none { maxDepth := s.maxCallStackDepth } }

/-- Asks the sampler. -/
def isSampled : Agent Bool := do
  let w ← get
  let (b, st) := w.settings.sampler.decide w.sampling
  set { w with sampling := st }
  pure b

/-- The next transaction sequence number. -/
def nextSequence : Agent UInt64 := do
  let w ← get
  let (n, ids) := w.ids.nextSequence
  set { w with ids }
  pure n

/-- A fresh root span id: counted, or drawn at random. -/
def newSpanId : Agent SpanId := do
  let w ← get
  match w.ids.kind with
  | .increment =>
    let (s, ids) := w.ids.nextCountedSpan
    set { w with ids }
    pure s
  | .random =>
    let drawn := w.rand.random
    set { w with rand := drawn.2 }
    pure drawn.1

/-- A random span id for the callee of a trace id. -/
def nextTraceId (t : TraceId) : Agent TraceId := do
  let w ← get
  let drawn := w.rand.nextSpanId t.span t.parent
  set { w with rand := drawn.2 }
  pure (t.child drawn.1)

/-- Writes the identity of the callee hop of trace `t` into the carrier `h`, with the host the
callee is addressed as: the callee's trace id and the carrier, or, for a trace that does not record,
no id and the not-sampled marker. -/
def injectWithHost (t : TraceRef) (host : Option String) (h : HeaderMap) :
    Agent (Option TraceId × HeaderMap) := do
  match ← traceId? t with
  | some tid =>
    let next ← nextTraceId tid
    pure (some next, injectHeaders h next (← settings).applicationName host)
  | none => pure (none, injectNotSampled h)

/-- Binds a new trace and returns it, or the binding error. -/
def bindNew (t : TraceRef) : Agent (Except TraceError TraceRef) := do
  match ← bindTrace t with
  | .ok () => pure (.ok t)
  | .error e => pure (.error e)

/-- Starts a new transaction on the calling chain. -/
def newTraceObject : Agent (Except TraceError TraceRef) := do
  if let .error e ← ensureUnbound then return .error e
  let t ← if ← isSampled then
      let s ← settings
      let seq ← nextSequence
      let sid ← newSpanId
      recordingTrace (TraceId.root ⟨s.agentId, s.startTime, seq⟩ sid)
    else newTrace { kind := .disabled false }
  bindNew t

/-- Continues a remote caller's transaction. -/
def continueTraceObject (tid : TraceId) : Agent (Except TraceError TraceRef) := do
  if let .error e ← ensureUnbound then return .error e
  bindNew (← recordingTrace tid)

/-- Binds a disabled trace. -/
def disableSampling : Agent (Except TraceError TraceRef) := do
  if let .error e ← ensureUnbound then return .error e
  bindNew (← newTrace { kind := .disabled false })

/-- Starts the trace a remote caller asks for; a continued trace records the caller's
application and the host it addressed. -/
def traceFor : RemoteTrace → Agent (Except TraceError TraceRef)
  | .absent => newTraceObject
  | .notSampled => disableSampling
  | .resume tid app host => do
    match ← continueTraceObject tid with
    | .ok t =>
      if let some a := app then recordRoot t fun r => { r with parentApplicationName := some a }
      if let some h := host then recordRoot t fun r => { r with endPoint := some h }
      pure (.ok t)
    | .error e => pure (.error e)

/-- Unbinds the calling chain's trace and returns it. -/
def removeTraceObject : Agent (Option TraceRef) := do
  match ← withChain (fun c => (c.trace, { c with trace := none })) with
  | .ok t => pure t
  | .error _ => pure none

/-- Throws a trace's span away; unbinds the trace if the calling chain is working on it. -/
def discardTrace (t : TraceRef) : Agent Unit := do
  discardTraceObj t
  let _ ← withChain fun c =>
    if c.trace == some t then ((), { c with trace := none }) else ((), c)

end Agent
end TraceAgent
