import TraceAgent.Agent.Spans

/-!
# Writing into a trace

* `blockBegin` opens a frame on a recording, open trace: the frame gets the span's next sequence
  number and the depth below it; past the maximum depth the frame is only counted.
* `blockEnd` seals the top frame into the span; on a closed trace it fails with `closed`, on an
  empty stack with `emptyCallStack`.
* An `EventRecorder` writes into the top frame; nothing is written on a disabled or closed trace,
  with no frame open, or while a counted frame is on top.
* `recordRoot` writes the root record of a recording trace that is not an async branch.
* `closeTrace` seals the trace once: frames still open are sealed with a warning, and the
  synchronous side gives its hold on the span back.
* `discardTrace` closes the trace and throws its span away.
* Trace scopes are named nesting counters carried by the trace itself.
-/

namespace TraceAgent
namespace Agent

/-- A recorder for the top frame of a trace; `active` when it may write at all. -/
structure EventRecorder where
  owner : TraceRef
  active : Bool
  deriving Inhabited

/-- Stores a sealed frame in a span. -/
def pushEvent (sp : SpanRef) (e : SpanEvent) : Agent Unit := do
  let (s, logs) := (← span sp).pushEvent e
  setSpan sp s
  emit logs

/-- Opens a new frame and returns a recorder for it. -/
def blockBegin (t : TraceRef) : Agent EventRecorder := do
  let o ← trace t
  match o.kind with
  | .disabled _ => pure ⟨t, false⟩
  | .recording sp br st =>
    if o.closed then
      log (.dbg "Trace.BlockBegin.Closed")
      pure ⟨t, false⟩
    else
      if st.isFull then
        setTrace t { o with kind := .recording sp br st.pushOverflow }
      else
        let (seq, s) := (← span sp).takeSequence
        setSpan sp s
        let e : SpanEvent := { sequence := seq, depth := st.depth + 1, asyncId := br }
        setTrace t { o with kind := .recording sp br (st.push e) }
      pure ⟨t, true⟩

/-- A recorder for the top frame, without opening one. -/
def currentRecorder (t : TraceRef) : Agent EventRecorder := do
  pure ⟨t, (← trace t).canSample⟩

/-- Changes the top frame if the recorder may write there; says whether it did. -/
def EventRecorder.withTop (r : EventRecorder) (f : SpanEvent → SpanEvent) : Agent Bool := do
  if !r.active then return false
  let o ← trace r.owner
  if o.closed then return false
  match o.kind with
  | .recording sp br st =>
    match st.top? with
    | some _ =>
      setTrace r.owner { o with kind := .recording sp br (st.updateTop f) }
      pure true
    | none => pure false
  | .disabled _ => pure false

/-- Records the method of the frame. -/
def EventRecorder.recordApi (r : EventRecorder) (d : MethodDescriptor) : Agent Unit := do
  let _ ← r.withTop fun e => { e with api := some d }

/-- Records the service type of the frame. -/
def EventRecorder.recordServiceType (r : EventRecorder) (s : ServiceType) : Agent Unit := do
  let _ ← r.withTop fun e => { e with serviceType := s }

/-- Records the first error of the frame; `none` is ignored. -/
def EventRecorder.recordException (r : EventRecorder) : Option ExceptionInfo → Agent Unit
  | some x => do let _ ← r.withTop fun e => e.noteException x
  | none => pure ()

/-- Adds an attribute to the frame. -/
def EventRecorder.recordAttr (r : EventRecorder) (a : Attr) : Agent Unit := do
  let _ ← r.withTop fun e => { e with annotations := e.annotations ++ [a] }

/-- Records the span id handed to a remote callee. -/
def EventRecorder.recordNextSpanId (r : EventRecorder) (s : SpanId) : Agent Unit := do
  let _ ← r.withTop fun e => { e with nextSpanId := some s }

/-- Records the logical name of the remote destination. -/
def EventRecorder.recordDestinationId (r : EventRecorder) (s : String) : Agent Unit := do
  let _ ← r.withTop fun e => { e with destinationId := some s }

/-- Records the address of the remote destination. -/
def EventRecorder.recordEndPoint (r : EventRecorder) (s : String) : Agent Unit := do
  let _ ← r.withTop fun e => { e with endPoint := some s }

/-- The next async id. -/
def nextAsyncId : Agent AsyncId := do
  let w ← get
  let (a, ids) := w.ids.nextAsync
  set { w with ids }
  pure a

/-- Starts an async hand-off from the top frame: the frame takes a hold on the span and records
the new async id. Without a frame to write into, or on a span that is no longer open, the
context resumes disabled traces only. -/
def EventRecorder.nextAsync (r : EventRecorder) : Agent AsyncRef := do
  if !r.active then return ← newAsync .disabled
  let o ← trace r.owner
  let taken : Option (SpanRef × TraceId × AsyncId) ← (do
    if o.closed then return none
    match o.kind with
    | .recording sp br st =>
      match st.top? with
      | none => pure none
      | some _ =>
        match (← span sp).acquire with
        | none => pure none
        | some s =>
          setSpan sp s
          let aid ← nextAsyncId
          setTrace r.owner { o with kind := .recording sp br (st.updateTop fun e => { e with nextAsyncId := some aid }) }
          pure (some (sp, s.traceId, aid))
    | .disabled _ => pure none)
  match taken with
  | some (sp, tid, aid) => newAsync (.recording sp tid aid 0 {})
  | none =>
    log (.dbg "SpanEventRecorder.NextAsyncContext.NoFrame")
    newAsync .disabled

/-- Seals the top frame into the span. -/
def blockEnd (t : TraceRef) : Agent (Except TraceError Unit) := do
  let o ← trace t
  match o.kind with
  | .disabled _ => pure (.ok ())
  | .recording sp br st =>
    if o.closed then return .error .closed
    match st.pop with
    | .ok (some e, st) =>
      setTrace t { o with kind := .recording sp br st }
      pushEvent sp e
      pure (.ok ())
    | .ok (none, st) =>
      setTrace t { o with kind := .recording sp br st }
      pure (.ok ())
    | .error err =>
      log (.err "Trace.BlockEnd.EmptyCallStack")
      pure (.error err)

/-- The span whose root record a trace writes: that of a recording trace that is not a branch. -/
def rootSpan? (t : TraceRef) : Agent (Option SpanRef) := do
  match (← trace t).kind with
  | .recording sp none _ => pure (some sp)
  | _ => pure none

/-- Changes the root record through a trace's span recorder. -/
def recordRoot (t : TraceRef) (f : RootRecord → RootRecord) : Agent Unit := do
  match ← rootSpan? t with
  | some sp => setSpan sp ((← span sp).updateRoot f)
  | none => pure ()

/-- Seals the trace; the second call does nothing. -/
def closeTrace (t : TraceRef) : Agent Unit := do
  let o ← trace t
  if o.closed then return
  match o.kind with
  | .disabled _ => setTrace t { o with closed := true }
  | .recording sp br st =>
    let (frames, st) := st.drain
    setTrace t { o with closed := true, kind := .recording sp br st }
    if !frames.isEmpty then
      log (.warn "Trace.Close.UnbalancedFrames")
      for e in frames do pushEvent sp e
    if br.isNone then releaseSpan sp

/-- Closes the trace and throws its span away. -/
def discardTraceObj (t : TraceRef) : Agent Unit := do
  let o ← trace t
  match o.kind with
  | .disabled _ => setTrace t { o with closed := true }
  | .recording sp br st =>
    setTrace t { o with closed := true, kind := .recording sp br st.drain.2 }
    let (thrown, s) := (← span sp).discard
    setSpan sp s
    if thrown then log (.warn "Trace.Discarded")

/-- Enters the named trace scope, creating it; `true` for the outermost entry. -/
def traceScopeEnter (t : TraceRef) (name : String) : Agent Bool := do
  let o ← trace t
  match o.scope? name with
  | some s =>
    setTrace t { o with scopes := o.scopes.map fun x => if x.name == name then { x with depth := x.depth + 1 } else x }
    pure (s.depth == 0)
  | none =>
    setTrace t { o with scopes := o.scopes ++ [{ name, depth := 1 }] }
    pure true

/-- Leaves the named trace scope: `none` when the trace has no such scope, else whether the
outermost entry left. A leave without entry is ignored with a warning. -/
def traceScopeLeave (t : TraceRef) (name : String) : Agent (Option Bool) := do
  let o ← trace t
  match o.scope? name with
  | none => pure none
  | some s =>
    if s.depth == 0 then
      log (.warn "TraceScope.Leave.Underflow")
      pure (some false)
    else
      setTrace t { o with scopes := o.scopes.map fun x => if x.name == name then { x with depth := x.depth - 1 } else x }
      pure (some (s.depth == 1))

end Agent
end TraceAgent
