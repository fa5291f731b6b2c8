import TraceAgent.Agent.World
import TraceAgent.Protocol.ProcessorRun

/-!
# The context of a scripted run

A run's configuration names the agent and application, the sampler, how root span ids are made,
the limits, the processors of the export pipeline and whether log events are reported.

* `"id_generator"`: `"increment"` counts root span ids from 1, `"default"` draws them at random.
* `"processors"`: `"simple"`, `{"simple": flags}`, `{"batch_default": flags}` (the default batch
  settings) or `{"batch": {...}}` (queue size at least 1, default 64; batch size default 512;
  scheduled delay default one hour; `"exporter"` flags). Each processor has its own exporter.

`startWorld` is the state of a fresh run; its start time is hidden from answers as `START`.
-/

namespace TraceAgent
namespace Scenario

open Protocol

/-- What a run is configured with. -/
structure RunConfig where
  settings : Settings
  idKind : SpanIdKind
  processors : List (Processor FinishedSpan)
  logs : Bool
  deriving Inhabited

/-- The agent's start time in a scripted run. -/
def startTime : UInt64 := 1734567890123

/-- Reads how root span ids are made. -/
def readIdKind : Option String → Read SpanIdKind
  | none => pure .increment
  | some "increment" => pure .increment
  | some "default" => pure .random
  | some _ => refuse "id_generator"

/-- Reads the settings of a configured batch processor. -/
def readBatchSpec (b : Doc) : Read (Processor FinishedSpan) := do
  let queue ← optNat b "max_queue_size" (Nat.pow 2 64)
  let batch ← optNat b "max_export_batch_size" (Nat.pow 2 64)
  let delay ← optNat b "scheduled_delay_ms" (Nat.pow 2 64)
  let flags ← readExporterFlags ((optField b "exporter").getD (.obj []))
  let config : BatchConfig :=
    { maxQueueSize := max 1 (queue.getD 64), scheduledDelay := ⟨delay.getD 3600000⟩,
      maxExportBatchSize := batch.getD 512, maxExportTimeout := ⟨30000⟩ }
  pure (.batch (BatchProcessor.create config.finish { flags }))

/-- Reads one processor of the pipeline. -/
def readProcessor : Doc → Read (Processor FinishedSpan)
  | .str "simple" => pure (.simple { exporter := {} })
  | d@(.obj _) =>
    match d.field? "simple", d.field? "batch_default", d.field? "batch" with
    | some f, _, _ => do pure (.simple { exporter := { flags := ← readExporterFlags f } })
    | _, some f, _ => do
      pure (.batch (BatchProcessor.create BatchConfig.defaults { flags := ← readExporterFlags f }))
    | _, _, some b => readBatchSpec b
    | _, _, _ => refuse "processors"
  | _ => refuse "processors"

/-- Reads a run's configuration. -/
def readRunConfig (c : Doc) : Read RunConfig := do
  let agentId := (← optString c "agent_id").getD "agent"
  let applicationName := (← optString c "application_name").getD "app"
  let sampler ← match optField c "sampler" with
    | some d => readSampler "sampler" d
    | none => pure .alwaysOn
  let idKind ← readIdKind (← optString c "id_generator")
  let depth ← optNat c "max_call_stack_depth" (Nat.pow 2 32)
  let events ← optNat c "max_span_events" (Nat.pow 2 64)
  let capacity ← optNat c "registry_capacity" (Nat.pow 2 64)
  let processors ← match optField c "processors" with
    | some (.arr xs) => xs.mapM readProcessor
    | some _ => refuse "processors"
    | none => pure [.simple { exporter := {} }]
  let logs ← flag c "logs"
  let settings : Settings :=
    { agentId := agentId, applicationName := applicationName, startTime := startTime,
      maxCallStackDepth := depth.getD 64, maxSpanEvents := events.getD 5000,
      registryCapacity := capacity.getD 8192, sampler := sampler }
  pure { settings := settings, idKind := idKind, processors := processors, logs := logs }

/-- The state of a fresh run. -/
def startWorld (c : RunConfig) : World :=
  { settings := c.settings, ids := { kind := c.idKind }, pipeline := { processors := c.processors },
    masks := { start := some c.settings.startTime },
    reported := { exported := c.processors.map fun _ => 0 } }

end Scenario
end TraceAgent
