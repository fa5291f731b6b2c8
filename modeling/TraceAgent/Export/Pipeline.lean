import TraceAgent.Export.Simple
import TraceAgent.Export.Batch

/-!
# Processors and the pipeline

A processor is simple or batching (`Processor`); a pipeline hands every finished span to each of
its processors in order, flushes them all, and shuts them all down once. A batch processor's worker
runs promptly here: once a span is offered or the exporter released, it takes every message it can
before the caller goes on (`BatchProcessor.drain`).

* A span finished after the pipeline's shutdown is dropped with a debug event.
* A processor whose exporter panics stops the hand-over: later processors do not get the span, and
  the panic text is returned.
* Flush and shutdown go to every processor; each failure is logged as a warning and the first is
  returned. A second shutdown fails without reaching the processors.

Main statement: `Pipeline.onEnd_after_shutdown` — a shut pipeline changes no processor.
-/

namespace TraceAgent

/-- A span processor. -/
inductive Processor (α : Type) where
  | simple (p : SimpleProcessor α)
  | batch (p : BatchProcessor α)
  deriving Inhabited

namespace Processor

variable {α : Type}

/-- The processor's exporter. -/
def exporter : Processor α → MemoryExporter α
  | simple p => p.exporter
  | batch p => p.exporter

/-- Whether the processor batches. -/
def isBatch : Processor α → Bool
  | simple _ => false
  | batch _ => true

/-- A finished span offered to the processor: the events logged and the text of a panic. -/
def onEnd (p : Processor α) (span : α) : List LogEvent × Option String × Processor α :=
  match p with
  | simple s =>
    let (logs, panicked, s) := s.onEnd span
    (logs, panicked, simple s)
  | batch b =>
    let (logs, b) := b.onEnd span
    (logs, none, batch b.drain)

/-- Exports what the processor holds. -/
def forceFlush (p : Processor α) : Except ExportError Unit × Processor α :=
  match p with
  | simple _ => (.ok (), p)
  | batch b =>
    let (r, b) := b.forceFlush
    (r, batch b)

/-- Shuts the processor down. -/
def shutdown (p : Processor α) : List LogEvent × Except ExportError Unit × Processor α :=
  match p with
  | simple s => ([], s.shutdown, p)
  | batch b =>
    let (logs, r, b) := b.shutdown
    (logs, r, batch b)

/-- Forgets what the exporter stored. -/
def resetExporter : Processor α → Processor α
  | simple s => simple { s with exporter := s.exporter.reset }
  | batch b => batch { b with exporter := b.exporter.reset }

/-- Holds or releases the exporter of a batch processor. -/
def setHeld (p : Processor α) (held : Bool) : Processor α :=
  match p with
  | simple _ => p
  | batch b => batch (b.setHeld held).drain

/-- Moves a batch processor's time on. -/
def advance (p : Processor α) (ms : Nat) : Processor α :=
  match p with
  | simple _ => p
  | batch b => batch (b.advance ms)

/-- The processor dropped without shutdown. -/
def release (p : Processor α) : Processor α :=
  match p with
  | simple _ => p
  | batch b => batch b.release

end Processor

/-- The processors of one trace context. -/
structure Pipeline (α : Type) where
  processors : List (Processor α)
  isShutdown : Bool := false
  deriving Inhabited

namespace Pipeline

variable {α : Type}

/-- Hands the span to processors in order, stopping at a panic. -/
def handOver (span : α) : List (Processor α) → List LogEvent × Option String × List (Processor α)
  | [] => ([], none, [])
  | p :: rest =>
    match p.onEnd span with
    | (logs, some text, p) => (logs, some text, p :: rest)
    | (logs, none, p) =>
      let (more, panicked, rest) := handOver span rest
      (logs ++ more, panicked, p :: rest)

/-- A finished span handed to every processor. -/
def onEnd (pl : Pipeline α) (span : α) : List LogEvent × Option String × Pipeline α :=
  if pl.isShutdown then ([.dbg "SpanPipeline.OnEnd.AfterShutdown"], none, pl)
  else
    let (logs, panicked, ps) := handOver span pl.processors
    (logs, panicked, { pl with processors := ps })

/-- Flushes every processor, warning of each failure; the first failure is returned. -/
def flushAll : List (Processor α) → List LogEvent × Except ExportError Unit × List (Processor α)
  | [] => ([], .ok (), [])
  | p :: rest =>
    let (r, p) := p.forceFlush
    let (logs, r2, rest) := flushAll rest
    match r with
    | .ok () => (logs, r2, p :: rest)
    | .error e => (LogEvent.warn "SpanPipeline.ForceFlush.Error" :: logs, .error e, p :: rest)

/-- Flushes every processor. -/
def forceFlush (pl : Pipeline α) : List LogEvent × Except ExportError Unit × Pipeline α :=
  let (logs, r, ps) := flushAll pl.processors
  (logs, r, { pl with processors := ps })

/-- Shuts every processor down, warning of each failure; the first failure is returned. -/
def shutdownAll : List (Processor α) → List LogEvent × Except ExportError Unit × List (Processor α)
  | [] => ([], .ok (), [])
  | p :: rest =>
    let (logs, r, p) := p.shutdown
    let logs := match r with
      | .ok () => logs
      | .error _ => logs ++ [LogEvent.warn "SpanPipeline.Shutdown.Error"]
    let (more, r2, rest) := shutdownAll rest
    let r := match r with
      | .ok () => r2
      | .error e => .error e
    (logs ++ more, r, p :: rest)

/-- Shuts the pipeline down once. -/
def shutdown (pl : Pipeline α) : List LogEvent × Except ExportError Unit × Pipeline α :=
  if pl.isShutdown then ([], .error .alreadyShutdown, pl)
  else
    let (logs, r, ps) := shutdownAll pl.processors
    (logs, r, { processors := ps, isShutdown := true })

theorem onEnd_after_shutdown (pl : Pipeline α) (span : α) (h : pl.isShutdown = true) :
    (pl.onEnd span).2.2 = pl := by
  simp [onEnd, h]

end Pipeline

end TraceAgent
