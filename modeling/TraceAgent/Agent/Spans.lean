import TraceAgent.Agent.World

/-!
# Finishing spans

A span is finished when its last pending hold is given back (`Agent.releaseSpan`); it is then
handed to the pipeline (`Agent.handOver`). A processor whose exporter panics makes the hand-over
panic.

A span is *reachable* while some live trace writes into it or some async context keeps it
pinned (`Agent.spanReachable`). A trace is live while a handle, a chain (bound or detached) or a
scope attachment refers to it. Only reachable spans can be resumed by an async context.
-/

namespace TraceAgent

/-- The traces an attachment refers to. -/
def Attachment.traces : Attachment → List TraceRef
  | .trace t => [t]
  | _ => []

/-- The traces a chain state refers to. -/
def ChainLocal.traces (c : ChainLocal) : List TraceRef :=
  c.trace.toList ++ c.slots.flatMap (fun p => (p.2.attachment.map Attachment.traces).getD [])

namespace Agent

/-- Hands a finished span to every processor. -/
def handOver (fs : FinishedSpan) : Agent Unit := do
  let w ← get
  let (logs, panicked, pl) := w.pipeline.onEnd fs
  set { w with pipeline := pl }
  emit logs
  match panicked with
  | some text => panicWith text
  | none => pure ()

/-- Gives back a pending hold on a span, finishing it on the last one. -/
def releaseSpan (s : SpanRef) : Agent Unit := do
  let (v, done, logs) := (← span s).release
  setSpan s v
  emit logs
  match done with
  | some fs => handOver fs
  | none => pure ()

/-- The traces something of the run still refers to. -/
def liveTraces (w : World) : List TraceRef :=
  w.handles.flatMap (fun p => match p.2 with
    | .trace t => [t]
    | _ => []) ++
  w.locals.flatMap (fun p => p.2.traces) ++
  w.detached.flatMap (fun p => (p.2.map ChainLocal.traces).getD [])

/-- Whether a span can still be reached: a live trace writes into it or an async context pins it. -/
def spanReachable (s : SpanRef) : Agent Bool := do
  let w ← get
  let byTrace := (liveTraces w).any fun t =>
    match w.traces[t]? with
    | some o => o.span? == some s
    | none => false
  let byAsync := w.asyncs.any fun a =>
    a.refs > 0 && match a.kind with
      | .recording sp _ _ _ h => sp == s && h.pinned
      | .disabled => false
  pure (byTrace || byAsync)

end Agent
end TraceAgent
