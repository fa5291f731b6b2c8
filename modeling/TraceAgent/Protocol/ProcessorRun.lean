import TraceAgent.Protocol.Probe
import TraceAgent.Export.Pipeline

/-!
# Driving one processor

The `processor` operation drives a simple or batch processor directly with a list of steps; a
span is named by its sequence number. Steps: `{"span": n}`, `"flush"`, `"shutdown"`, `"exported"`
(the sequences the exporter holds), `"reset"`, `"block"` and `"unblock"` (hold and release the
exporter), `{"sleep_ms": n}` (at most 50 ms) and `"drop"` (drop the processor without shutdown;
later spans, flushes and shutdowns answer `"dropped"`).

The batch settings default to a queue of 16 (at least 1), batches of 4, an hour's delay and a
30 s timeout; the batch size is then cut to the queue size.
-/

namespace TraceAgent
namespace Protocol

/-- Reads exporter flags. -/
def readExporterFlags (d : Doc) : Read ExporterFlags := do
  let failExport ← optString d "fail_export"
  let failShutdown ← optString d "fail_shutdown"
  let panicExport ← flag d "panic_export"
  pure { failExport, failShutdown, panicExport }

/-- The batch settings of the `processor` operation. -/
def readDrivenBatch (b : Doc) : Read BatchConfig := do
  let c ← applyBatchSettings b ⟨16, ⟨3600000⟩, 4, ⟨30000⟩⟩
  pure { c with maxQueueSize := max 1 c.maxQueueSize }.finish

/-- The document of an export result. -/
def exportResultDoc : Except ExportError Unit → Doc
  | .ok () => .str "ok"
  | .error e => .obj [("error", .str e.kind), ("message", .str e.message)]

/-- A driven processor: the processor, whether it was dropped, and the events logged so far. -/
structure Driven where
  processor : Processor Nat
  dropped : Bool := false
  logs : List LogEvent := []

/-- Runs one step. -/
def drivenStep (s : Driven) (step : Doc) : Read (Doc × Driven) :=
  let live (k : Unit → Doc × Driven) : Read (Doc × Driven) :=
    if s.dropped then pure (.str "dropped", s) else pure (k ())
  match step with
  | .str "flush" => live fun _ =>
    let (r, p) := s.processor.forceFlush
    (exportResultDoc r, { s with processor := p })
  | .str "shutdown" => live fun _ =>
    let (logs, r, p) := s.processor.shutdown
    (exportResultDoc r, { s with processor := p, logs := s.logs ++ logs })
  | .str "exported" => pure (.arr (s.processor.exporter.stored.map Doc.nat), s)
  | .str "reset" => pure (.null, { s with processor := s.processor.resetExporter })
  | .str "block" => pure (.null, { s with processor := s.processor.setHeld true })
  | .str "unblock" => pure (.null, { s with processor := s.processor.setHeld false })
  | .str "drop" => live fun _ => (.null, { s with processor := s.processor.release, dropped := true })
  | d@(.obj _) =>
    match d.field? "span", d.field? "sleep_ms" with
    | some v, _ => do
      let n ← intIn 0 (Int.pow 2 64 - 1) "span" v
      live fun _ =>
        let (logs, panicked, p) := s.processor.onEnd n.toNat
        let answer := match panicked with
          | some text => Doc.obj [("error", .str "Panic"), ("message", .str text)]
          | none => .null
        (answer, { s with processor := p, logs := s.logs ++ logs })
    | _, some v => do
      let n ← intIn 0 (Int.pow 2 64 - 1) "sleep_ms" v
      pure (.null, { s with processor := s.processor.advance (min 50 n.toNat) })
    | _, _ => refuse "steps"
  | _ => refuse "steps"

/-- Runs the steps in order. -/
def drivenSteps (s : Driven) : List Doc → Read (List Doc × Driven)
  | [] => pure ([], s)
  | step :: rest => do
    let (d, s) ← drivenStep s step
    let (ds, s) ← drivenSteps s rest
    pure (d :: ds, s)

/-- `processor`: a simple or batch processor driven step by step. -/
def processorProbe (req : Doc) : Outcome :=
  withRead (do
      let kind ← reqString req "kind"
      let flags ← readExporterFlags ((optField req "exporter").getD (.obj []))
      let config ← readDrivenBatch ((optField req "batch").getD (.obj []))
      let processor ← match kind with
        | "simple" => pure (Processor.simple { exporter := { flags } })
        | "batch" => pure (Processor.batch (BatchProcessor.create config { flags }))
        | _ => refuse "kind"
      let steps ← optList req "steps"
      drivenSteps { processor } steps) fun (answers, s) =>
    Outcome.ok (.arr answers) s.logs

end Protocol
end TraceAgent
