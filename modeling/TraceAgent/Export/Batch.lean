import TraceAgent.Export.Exporter
import TraceAgent.Export.BatchConfig
import TraceAgent.Log

/-!
# Batch processors

A batch processor hands finished spans to a worker through a bounded queue; the worker gathers
them in a buffer and exports the buffer in batches of at most `maxExportBatchSize` spans (at least
one) when the buffer is full, when `scheduledDelay` has passed since the last export, on a flush
and on shutdown.

The worker is modelled by the messages it has not taken yet and the place it is in:

* `waiting`: it takes the queued messages one at a time and in order (`work`), at its own pace, so
  the queue may fill up to its capacity in front of it. With nothing queued it is blocked on the
  queue and takes a message straight from the sender, even from a queue of capacity 0;
* `exporting batches closing`: it waits in front of the first of `batches` because the exporter is
  held; the queue fills up to its capacity meanwhile. Once released it exports them, then shuts the
  exporter and exits if `closing`, else waits again;
* `exited`: after a shutdown, after a panicking export, or once the processor is dropped and the
  queue is empty. Nothing can be sent to it any more.

Time is a count of milliseconds that moves only when a caller sleeps or waits for an answer
(`BatchProcessor.advance`).

Callers see:

* `onEnd`: never waits. A span that cannot be queued is dropped and counted, with a warning at the
  first drop; after shutdown it is dropped with a debug event.
* `forceFlush`: the first export error of the flush, or a timeout when the worker cannot answer
  in time, or a failure when the message cannot be queued. The caller waits while the worker takes
  what was queued before the flush (`settle`).
* `shutdown`: as `forceFlush`, then the exporter's own shutdown; a second call fails. The caller
  waits for room in the queue rather than fail.

Main statement: `chunks_join` — the batches of a buffer are its spans in order.
-/

namespace TraceAgent

/-- The batches of at most `size` items of a list, in order. -/
def chunks {α : Type} (size : Nat) (xs : List α) : List (List α) :=
  go xs.length xs
where
  /-- Cuts `xs` with one step of fuel per batch. -/
  go : Nat → List α → List (List α)
    | 0, _ => []
    | _, [] => []
    | fuel + 1, xs@(_ :: _) => xs.take size :: go fuel (xs.drop size)

/-- A message from callers to the worker. -/
inductive BatchMessage (α : Type) where
  | span (s : α)
  | flush
  | shutdown
  deriving Inhabited

/-- Where the worker is. -/
inductive WorkerPhase (α : Type) where
  | waiting
  | exporting (batches : List (List α)) (closing : Bool)
  | exited
  deriving Inhabited

/-- How a caller's flush or shutdown ends on the worker's side. -/
inductive WorkerAnswer where
  | replied (result : Except ExportError Unit)
  /-- The worker is held: the caller waits its whole timeout. -/
  | pending
  /-- The worker panicked with the message: the caller stops waiting at once. -/
  | lost
  deriving Inhabited

/-- A batch processor with its worker. -/
structure BatchProcessor (α : Type) where
  config : BatchConfig
  exporter : MemoryExporter α
  queue : List (BatchMessage α) := []
  buffer : List α := []
  phase : WorkerPhase α := .waiting
  isShutdown : Bool := false
  droppedSpans : Nat := 0
  senderGone : Bool := false
  now : Nat := 0
  lastExport : Nat := 0
  deriving Inhabited

namespace BatchProcessor

variable {α : Type}

/-- A fresh processor. -/
def create (config : BatchConfig) (exporter : MemoryExporter α) : BatchProcessor α :=
  { config, exporter }

/-- How a run of batches ends. -/
inductive BatchRun (α : Type) where
  | finished (firstError : Option ExportError)
  | held (rest : List (List α))
  | panicked

/-- Exports batches in order, keeping the first error, until the exporter is found held or panics. -/
def runBatches (p : BatchProcessor α) : List (List α) → Option ExportError → BatchRun α × BatchProcessor α
  | [], err => (.finished err, p)
  | b :: rest, err =>
    if p.exporter.held then (.held (b :: rest), p)
    else
      match p.exporter.deliver b with
      | (.done, e) => runBatches { p with exporter := e } rest err
      | (.failed x, e) => runBatches { p with exporter := e } rest (err <|> some x)
      | (.panicked _, e) => (.panicked, { p with exporter := e })

/-- The buffer cut into export batches. -/
def pendingBatches (p : BatchProcessor α) : List (List α) :=
  chunks (max 1 p.config.maxExportBatchSize) p.buffer

/-- The worker after a panicking export: gone, with its buffer and queue. -/
def die (p : BatchProcessor α) : BatchProcessor α :=
  { p with phase := .exited, buffer := [], queue := [] }

/-- Exports the whole buffer; `closing` when the worker shuts the exporter and exits afterwards.
Gives the result, or `none` when the worker is held or has panicked. -/
def exportBuffer (p : BatchProcessor α) (closing : Bool) : WorkerAnswer × BatchProcessor α :=
  let batches := p.pendingBatches
  let p := { p with buffer := [] }
  match p.runBatches batches none with
  | (.finished err, p) =>
    let result : Except ExportError Unit := match err with
      | some e => .error e
      | none => if closing then p.exporter.close else .ok ()
    let p := if closing then { p with phase := .exited, queue := [] } else { p with lastExport := p.now }
    (.replied result, p)
  | (.held rest, p) => (.pending, { p with phase := .exporting rest closing })
  | (.panicked, p) => (.lost, p.die)

/-- The waiting worker takes one message. -/
def take (p : BatchProcessor α) : BatchMessage α → WorkerAnswer × BatchProcessor α
  | .span s =>
    let p := { p with buffer := p.buffer ++ [s] }
    if p.buffer.length ≥ p.config.maxExportBatchSize ∨ p.config.scheduledDelay.count ≤ p.now - p.lastExport then
      p.exportBuffer false
    else (.replied (.ok ()), p)
  | .flush => p.exportBuffer false
  | .shutdown => p.exportBuffer true

/-- The waiting worker takes the first queued message: its answer and the processor after, or
`none` when the worker is not waiting or nothing is queued. -/
def work (p : BatchProcessor α) : Option (WorkerAnswer × BatchProcessor α) :=
  match p.phase, p.queue with
  | .waiting, m :: rest => some ({ p with queue := rest }.take m)
  | _, _ => none

/-- What the sender of the last queued message hears: the worker's answer `a` to the last message
it took once nothing is left queued, else nothing yet. -/
def answerOnceTaken (a : WorkerAnswer) (p : BatchProcessor α) : WorkerAnswer × BatchProcessor α :=
  if p.queue.isEmpty then (a, p) else (.pending, p)

/-- The worker takes queued messages while it is waiting, and answers the sender of the last one. -/
def settle (p : BatchProcessor α) : WorkerAnswer × BatchProcessor α :=
  go p.queue.length (.replied (.ok ())) p
where
  /-- One step of fuel per queued message; `a` is the answer to the last message taken. -/
  go : Nat → WorkerAnswer → BatchProcessor α → WorkerAnswer × BatchProcessor α
    | fuel + 1, a, p =>
      match p.work with
      | some r => go fuel r.1 r.2
      | none => answerOnceTaken a p
    | 0, a, p => answerOnceTaken a p

/-- The worker takes queued messages while it is waiting; a dropped processor's worker then exits. -/
def drain (p : BatchProcessor α) : BatchProcessor α :=
  let p := p.settle.2
  match p.phase, p.queue with
  | .waiting, [] => if p.senderGone then { p with phase := .exited, buffer := [] } else p
  | _, _ => p

/-- Moves time on by `ms` milliseconds; a waiting worker exports when the delay has passed. -/
def advance (p : BatchProcessor α) (ms : Nat) : BatchProcessor α :=
  let p := { p with now := p.now + ms }
  match p.phase with
  | .waiting =>
    if p.config.scheduledDelay.count ≤ p.now - p.lastExport then
      if p.buffer.isEmpty then { p with lastExport := p.now } else (p.exportBuffer false).2
    else p
  | _ => p

/-- Holds or releases the exporter. A released worker finishes its export, then exits if it was
closing and waits again otherwise. -/
def setHeld (p : BatchProcessor α) (held : Bool) : BatchProcessor α :=
  let p := { p with exporter := { p.exporter with held } }
  if held then p
  else
    match p.phase with
    | .exporting batches closing =>
      match p.runBatches batches none with
      | (.finished _, p) =>
        if closing then { p with phase := .exited, queue := [] }
        else { p with phase := .waiting, lastExport := p.now }
      | (.held rest, p) => { p with phase := .exporting rest closing }
      | (.panicked, p) => p.die
    | _ => p

/-- Sends a message without waiting for room: `none` when the queue is full or the worker gone.
A waiting worker takes a message straight from the sender, so it has room for one even behind a
queue of capacity 0. -/
def trySend (p : BatchProcessor α) (m : BatchMessage α) : Option (BatchProcessor α) :=
  match p.phase with
  | .waiting =>
    if p.queue.length < max 1 p.config.maxQueueSize then some { p with queue := p.queue ++ [m] }
    else none
  | .exporting _ _ =>
    if p.queue.length < p.config.maxQueueSize then some { p with queue := p.queue ++ [m] }
    else none
  | .exited => none

/-- The answer a waiting caller gets, with the time its wait took. -/
def await (p : BatchProcessor α) : WorkerAnswer × BatchProcessor α → Except ExportError Unit × BatchProcessor α
  | (.replied r, q) => (r, q)
  | (.pending, q) => (.error (.timeout p.config.maxExportTimeout), q.advance p.config.maxExportTimeout.count)
  | (.lost, q) => (.error (.timeout p.config.maxExportTimeout), q)

/-- A finished span offered to the processor. -/
def onEnd (p : BatchProcessor α) (span : α) : List LogEvent × BatchProcessor α :=
  if p.isShutdown then ([.dbg "BatchSpanProcessor.OnEnd.AfterShutdown"], p)
  else
    match p.trySend (.span span) with
    | some q => ([], q)
    | none =>
      let q := { p with droppedSpans := p.droppedSpans + 1 }
      if p.droppedSpans == 0 then ([.warn "BatchSpanProcessor.SpanDroppingStarted"], q) else ([], q)

/-- Exports everything queued so far. -/
def forceFlush (p : BatchProcessor α) : Except ExportError Unit × BatchProcessor α :=
  if p.isShutdown then (.error .alreadyShutdown, p)
  else
    match p.trySend .flush with
    | some q => p.await q.settle
    | none => (.error (.failure "Failed to send ForceFlush message"), p)

/-- Exports everything queued so far, then shuts the exporter and the worker down. The message is
queued even when the queue is full: the caller waits for room. -/
def shutdown (p : BatchProcessor α) : List LogEvent × Except ExportError Unit × BatchProcessor α :=
  if p.isShutdown then ([], .error .alreadyShutdown, p)
  else
    let logs := if p.droppedSpans > 0 then [LogEvent.warn "BatchSpanProcessor.Shutdown.DroppedSpans"] else []
    let p := { p with isShutdown := true }
    match p.phase with
    | .exited => (logs, .error (.failure "Failed to send Shutdown message"), p)
    | _ => (logs, p.await { p with queue := p.queue ++ [BatchMessage.shutdown] }.settle)

/-- The processor dropped without shutdown: its worker takes what is queued, then exits and loses
its buffer. -/
def release (p : BatchProcessor α) : BatchProcessor α :=
  drain { p with senderGone := true }

theorem chunks_go_join (size : Nat) (h : 0 < size) :
    ∀ (fuel : Nat) (xs : List α), xs.length ≤ fuel → (chunks.go size fuel xs).flatten = xs
  | 0, xs, hl => by
    cases xs with
    | nil => rfl
    | cons _ _ => simp at hl
  | fuel + 1, [], _ => rfl
  | fuel + 1, x :: xs, hl => by
    simp only [chunks.go, List.flatten_cons]
    rw [chunks_go_join size h fuel]
    · exact List.take_append_drop size (x :: xs)
    · simp only [List.length_drop, List.length_cons] at hl ⊢
      omega

theorem chunks_join (size : Nat) (h : 0 < size) (xs : List α) : (chunks size xs).flatten = xs :=
  chunks_go_join size h xs.length xs (Nat.le_refl _)

end BatchProcessor

end TraceAgent
