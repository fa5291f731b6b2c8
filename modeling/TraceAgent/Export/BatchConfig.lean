import TraceAgent.Error
import TraceAgent.Decimal.Read

/-!
# Batch export settings

A batch processor queues at most `maxQueueSize` spans, exports them in batches of at most
`maxExportBatchSize`, every `scheduledDelay`, and waits at most `maxExportTimeout` for a flush.
The defaults are 2048 spans, 512 per batch, 5 s and 30 s.

The environment (`CALLTRACE_BSP_MAX_QUEUE_SIZE`, `CALLTRACE_BSP_SCHEDULE_DELAY`,
`CALLTRACE_BSP_MAX_EXPORT_BATCH_SIZE`, `CALLTRACE_BSP_EXPORT_TIMEOUT`, unsigned decimals) overrides
the defaults, and the batch size read there is cut to the queue size. Explicit settings come after
the environment; finishing (`BatchConfig.finish`) cuts the batch size to the queue size again.

Main statement: `finish_batch_le` — a finished configuration never batches more than it queues.
-/

namespace TraceAgent

/-- The settings of a batch processor. -/
structure BatchConfig where
  maxQueueSize : Nat
  scheduledDelay : Millis
  maxExportBatchSize : Nat
  maxExportTimeout : Millis
  deriving Repr, Inhabited

namespace BatchConfig

/-- The defaults. -/
def defaults : BatchConfig := ⟨2048, ⟨5000⟩, 512, ⟨30000⟩⟩

/-- A variable of the environment. -/
def lookup (env : List (String × String)) (name : String) : Option String :=
  (env.find? (fun p => p.1 == name)).map Prod.snd

/-- The defaults overridden by the environment. -/
def ofEnv (env : List (String × String)) : BatchConfig :=
  let c := defaults
  let c := match (lookup env "CALLTRACE_BSP_MAX_QUEUE_SIZE").bind Decimal.readU64 with
    | some n => { c with maxQueueSize := n }
    | none => c
  let c := match (lookup env "CALLTRACE_BSP_SCHEDULE_DELAY").bind Decimal.readU64 with
    | some n => { c with scheduledDelay := ⟨n⟩ }
    | none => c
  let c := match (lookup env "CALLTRACE_BSP_MAX_EXPORT_BATCH_SIZE").bind Decimal.readU64 with
    | some n => { c with maxExportBatchSize := n }
    | none => c
  let c := if c.maxExportBatchSize > c.maxQueueSize then { c with maxExportBatchSize := c.maxQueueSize } else c
  match (lookup env "CALLTRACE_BSP_EXPORT_TIMEOUT").bind Decimal.readU64 with
  | some n => { c with maxExportTimeout := ⟨n⟩ }
  | none => c

/-- The final settings: the batch size cut to the queue size. -/
def finish (c : BatchConfig) : BatchConfig :=
  { c with maxExportBatchSize := min c.maxExportBatchSize c.maxQueueSize }

theorem finish_batch_le (c : BatchConfig) : c.finish.maxExportBatchSize ≤ c.finish.maxQueueSize :=
  Nat.min_le_right _ _

end BatchConfig

end TraceAgent
