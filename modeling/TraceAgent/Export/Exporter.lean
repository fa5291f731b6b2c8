import TraceAgent.Error

/-!
# In-memory exporters

An exporter receives batches of finished spans and keeps them, in the order received, so that a
caller can read back what was exported. Three flags make it misbehave on purpose:

* `failExport`: keep the batch, then report a failure with the given text;
* `failShutdown`: report a failure with the given text when shut down;
* `panicExport`: panic with `exporter panic` before keeping anything.

Export calls may also fail one by one: `script` gives the outcome of each coming call in order (a
text fails that call after keeping its batch), and the calls past the script follow `failExport`.

An exporter may also be *held*: a holder keeps it waiting at the start of every export until it is
released. Holding changes nothing here; the batch processor looks at `held` before it calls
`deliver` (see `Export.Batch`).

Main statement: `deliver_stored` — a delivery that does not panic appends the batch to what is
stored.
-/

namespace TraceAgent

/-- How an exporter misbehaves. -/
structure ExporterFlags where
  failExport : Option String := none
  failShutdown : Option String := none
  panicExport : Bool := false
  deriving Repr, Inhabited

/-- The outcome of one export call. -/
inductive Delivery where
  | done
  | failed (e : ExportError)
  | panicked (text : String)
  deriving Repr, Inhabited

/-- An exporter that keeps what it receives. -/
structure MemoryExporter (α : Type) where
  flags : ExporterFlags := {}
  stored : List α := []
  held : Bool := false
  script : List (Option String) := []
  deriving Inhabited

namespace MemoryExporter

variable {α : Type}

/-- The text of an exporter's panic. -/
def panicText : String := "exporter panic"

/-- The failure text of the next export call, if it fails. -/
def nextFailure (e : MemoryExporter α) : Option String := e.script.headD e.flags.failExport

/-- Exports one batch. -/
def deliver (e : MemoryExporter α) (batch : List α) : Delivery × MemoryExporter α :=
  if e.flags.panicExport then (.panicked panicText, e)
  else
    let failure := e.nextFailure
    let e := { e with stored := e.stored ++ batch, script := e.script.tail }
    match failure with
    | some msg => (.failed (.failure msg), e)
    | none => (.done, e)

/-- Shuts the exporter down. -/
def close (e : MemoryExporter α) : Except ExportError Unit :=
  match e.flags.failShutdown with
  | some msg => .error (.failure msg)
  | none => .ok ()

/-- Forgets what was stored. -/
def reset (e : MemoryExporter α) : MemoryExporter α := { e with stored := [] }

theorem deliver_stored (e : MemoryExporter α) (batch : List α) (h : e.flags.panicExport = false) :
    (e.deliver batch).2.stored = e.stored ++ batch := by
  unfold deliver
  simp only [h, Bool.false_eq_true, if_false]
  cases e.nextFailure <;> rfl

end MemoryExporter

end TraceAgent
