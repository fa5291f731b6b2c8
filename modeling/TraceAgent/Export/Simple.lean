import TraceAgent.Export.Exporter
import TraceAgent.Log

/-!
# Simple processors

A simple processor exports every finished span at once, as a batch of one, on the caller's side.
Its exporter sits behind a lock: an exporter that panics leaves the lock *poisoned*. The panic
reaches the caller; afterwards every export is skipped with a debug event and shutting down fails.

Main statement: `onEnd_poisoned` — a poisoned processor exports nothing more.
-/

namespace TraceAgent

/-- A processor that exports each span as it finishes. -/
structure SimpleProcessor (α : Type) where
  exporter : MemoryExporter α
  poisoned : Bool := false
  deriving Inhabited

namespace SimpleProcessor

variable {α : Type}

/-- The event logged when an export fails or is skipped. -/
def exportFailed : LogEvent := .dbg "SimpleProcessor.OnEnd.Error"

/-- The failure of shutting down a poisoned processor. -/
def poisonedAtShutdown : ExportError := .failure "SimpleSpanProcessor mutex poison at shutdown"

/-- Exports one finished span: the events logged, the text of a panic if the exporter panicked,
and the processor after it. -/
def onEnd (p : SimpleProcessor α) (span : α) : List LogEvent × Option String × SimpleProcessor α :=
  if p.poisoned then ([exportFailed], none, p)
  else
    match p.exporter.deliver [span] with
    | (.done, e) => ([], none, { p with exporter := e })
    | (.failed _, e) => ([exportFailed], none, { p with exporter := e })
    | (.panicked text, e) => ([], some text, { p with exporter := e, poisoned := true })

/-- Shuts the exporter down; it may be called again. -/
def shutdown (p : SimpleProcessor α) : Except ExportError Unit :=
  if p.poisoned then .error poisonedAtShutdown else p.exporter.close

theorem onEnd_poisoned (p : SimpleProcessor α) (span : α) (h : p.poisoned = true) :
    (p.onEnd span).2.2 = p := by
  simp [onEnd, h]

end SimpleProcessor

end TraceAgent
