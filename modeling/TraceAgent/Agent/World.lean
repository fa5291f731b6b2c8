import TraceAgent.Agent.Objects
import TraceAgent.Span.State
import TraceAgent.Intercept.Spec
import TraceAgent.Export.Pipeline
import TraceAgent.Sampler
import TraceAgent.IdSource
import TraceAgent.Protocol.Labels

/-!
# The state of a tracing run

`World` is everything one run of the tracer holds: the context's settings and counters, the
tables of spans, traces and async contexts, the chain state of every thread, the interceptor
registry, the export pipeline, the log, and what the scripted side keeps (named handles and interceptors,
detached chains, the journal, the labels of random span ids and how much of each record was reported).

`Agent` is the state monad over it. Its error is a panic, with its text; a panic keeps the state
reached so far, as unwinding does.

Chain state is reached through `withChain` and `readChain`, which fail with
`TraceError.chainUnavailable` on a thread whose storage is being torn down.
-/

namespace TraceAgent

/-- What a named handle of the scripted side refers to. -/
inductive Handle where
  | trace (t : TraceRef)
  | async (a : AsyncRef)
  | headers (h : HeaderMap)
  | traceId (t : TraceId)
  | remote (r : RemoteTrace)
  deriving Inhabited

/-- The fixed settings of a context. -/
structure Settings where
  agentId : String
  applicationName : String
  startTime : UInt64
  maxCallStackDepth : Nat
  maxSpanEvents : Nat
  registryCapacity : Nat
  sampler : Sampler
  deriving Inhabited

/-- How much of each record has been reported. -/
structure Reported where
  journal : Nat := 0
  logs : Nat := 0
  exported : List Nat := []
  deriving Inhabited

/-- The state of a run. -/
structure World where
  settings : Settings
  sampling : Sampler.State := {}
  ids : IdSource
  rand : RandomSpans := .standard
  spans : Array SpanState := #[]
  traces : Array TraceObj := #[]
  asyncs : Array AsyncObj := #[]
  scopeNames : List (String × Nat) := []
  locals : List (Thread × ChainLocal) := []
  here : Thread := .chain "main"
  gone : List Thread := []
  pipeline : Pipeline FinishedSpan
  registry : List Interceptor := []
  interceptorNames : List (String × Nat) := []
  handles : List (String × Handle) := []
  detached : List (String × Option ChainLocal) := []
  journal : Array String := #[]
  logs : Array LogEvent := #[]
  masks : Protocol.Masks := {}
  reported : Reported := {}
  deriving Inhabited

/-- The tracer's monad: state over `World`, panics as errors. -/
abbrev Agent := EStateM String World

namespace Agent

/-- Records log events. -/
def emit (events : List LogEvent) : Agent Unit :=
  modify fun w => { w with logs := w.logs ++ events.toArray }

/-- Records one log event. -/
def log (e : LogEvent) : Agent Unit := emit [e]

/-- Appends a journal line. -/
def note (line : String) : Agent Unit :=
  modify fun w => { w with journal := w.journal.push line }

/-- Raises a panic. -/
def panicWith {α : Type} (text : String) : Agent α := throw text

/-- The settings. -/
def settings : Agent Settings := do pure (← get).settings

/-- A span. -/
def span (s : SpanRef) : Agent SpanState := do pure ((← get).spans[s]?.getD default)

/-- Changes a span. -/
def setSpan (s : SpanRef) (v : SpanState) : Agent Unit :=
  modify fun w => { w with spans := w.spans.set! s v }

/-- A trace. -/
def trace (t : TraceRef) : Agent TraceObj := do pure ((← get).traces[t]?.getD default)

/-- The trace id of the span a trace writes into; none for a trace that does not record. -/
def traceId? (t : TraceRef) : Agent (Option TraceId) := do
  match (← trace t).span? with
  | some sp => pure (some (← span sp).traceId)
  | none => pure none

/-- Changes a trace. -/
def setTrace (t : TraceRef) (v : TraceObj) : Agent Unit :=
  modify fun w => { w with traces := w.traces.set! t v }

/-- Changes a trace by a function. -/
def modifyTrace (t : TraceRef) (f : TraceObj → TraceObj) : Agent Unit := do
  setTrace t (f (← trace t))

/-- An async context. -/
def asyncObj (a : AsyncRef) : Agent AsyncObj := do pure ((← get).asyncs[a]?.getD default)

/-- Changes an async context. -/
def setAsync (a : AsyncRef) (v : AsyncObj) : Agent Unit :=
  modify fun w => { w with asyncs := w.asyncs.set! a v }

/-- Adds a span under construction. -/
def newSpan (v : SpanState) : Agent SpanRef := do
  let w ← get
  set { w with spans := w.spans.push v }
  pure w.spans.size

/-- Adds a trace. -/
def newTrace (v : TraceObj) : Agent TraceRef := do
  let w ← get
  set { w with traces := w.traces.push v }
  pure w.traces.size

/-- Adds an async context with one reference. -/
def newAsync (v : AsyncKind) : Agent AsyncRef := do
  let w ← get
  set { w with asyncs := w.asyncs.push ⟨v, 1⟩ }
  pure w.asyncs.size

/-- The chain state of a thread. -/
def localOf (w : World) (th : Thread) : Option ChainLocal := w.locals.lookup th

/-- Replaces the chain state of a thread; an empty state is dropped. -/
def putLocal (th : Thread) (c : Option ChainLocal) : Agent Unit :=
  modify fun w =>
    let rest := w.locals.filter (fun p => p.1 != th)
    match c with
    | some c => if c.isEmpty then { w with locals := rest } else { w with locals := rest ++ [(th, c)] }
    | none => { w with locals := rest }

/-- Whether the current thread's chain storage can be reached. -/
def storageAvailable : Agent Bool := do
  let w ← get
  pure !(w.gone.contains w.here)

/-- Runs `f` on the current chain's state, creating it if needed; fails while the thread's
storage is torn down. -/
def withChain {α : Type} (f : ChainLocal → α × ChainLocal) : Agent (Except TraceError α) := do
  if !(← storageAvailable) then return .error .chainUnavailable
  let w ← get
  let (a, c) := f ((localOf w w.here).getD {})
  putLocal w.here (some c)
  pure (.ok a)

/-- Reads the current chain's state without creating it. -/
def readChain {α : Type} (f : Option ChainLocal → α) : Agent (Except TraceError α) := do
  if !(← storageAvailable) then return .error .chainUnavailable
  let w ← get
  pure (.ok (f (localOf w w.here)))

/-- Runs `k` on thread `th`, then returns to the current thread. -/
def onThread {α : Type} (th : Thread) (k : Agent α) : Agent α := do
  let back := (← get).here
  modify fun w => { w with here := th }
  tryCatch (do
      let a ← k
      modify fun w => { w with here := back }
      pure a)
    fun e => do
      modify fun w => { w with here := back }
      throw e

/-- The id of the scope with the given name, allocating the next id for a new name. -/
def scopeId (name : String) : Agent Nat := do
  let w ← get
  match w.scopeNames.lookup name with
  | some id => pure id
  | none =>
    let id := w.scopeNames.length + 1
    set { w with scopeNames := w.scopeNames ++ [(name, id)] }
    pure id

/-- Runs `k`, then `cleanup` whether `k` finished or panicked, as a guard does on unwinding. -/
def guarded {α : Type} (k : Agent α) (cleanup : Agent Unit) : Agent α :=
  tryCatch (do
      let a ← k
      cleanup
      pure a)
    fun e => do
      cleanup
      throw e

end Agent

end TraceAgent
