import Mathlib
import TraceAgent.Export.Batch

/-!
# Batch export delivers every accepted span once, in order

A span handed to a batch processor travels from the queue to the worker's buffer, from the buffer
into export batches, and from a batch into the exporter. `inFlight` lists, in the order the worker
will export them, the spans that have left the caller and not yet reached the exporter: those of
the batches the worker is in the middle of exporting, then its buffer, then the queued messages.

`Delivering acc p` is the invariant: what the exporter holds, followed by what is in flight, is
`acc`, and the batches in the middle of export are non-empty and no longer than the batch size.
It holds of a new processor, and every step keeps it, or leaves the worker exited (`Keeps`); until
the caller flushes, only spans are queued. Offering a span extends `acc` by the span exactly when
the queue takes it. The worker takes the queued messages at its own pace (`Feed.work`), so the
queue may fill in front of a worker that is not held.

The export calls are summed up by the closed form of an export run (`runBatches_eq`): a held
exporter keeps every batch waiting, a panicking one takes none, and any other takes them all in
order, each call failing or not as the exporter's script says (`MemoryExporter.outcomes`), the run
keeping the first failure.

Main statements:

* `feedAll_keeps` — any sequence of offered spans, steps of the worker, passing time and holds of
  the exporter keeps the invariant, with the accepted spans appended;
* `settle_stored` — a flush or shutdown queued behind spans is answered `replied` only once the
  exporter holds everything accepted;
* `forceFlush_stored`, `shutdown_stored` — a flush or shutdown that returns `ok` leaves the exporter
  holding exactly what it held plus the accepted spans, in order;
* `batch_export_delivers_once` — the above from a new processor, with the batch sizes, the export
  run under failing calls, and what a shut down processor does.
-/

namespace TraceAgent

variable {α : Type}

/-- The span a message carries, if any. -/
def BatchMessage.span? : BatchMessage α → Option α
  | .span s => some s
  | _ => none

/-- A queued message that carries a span is that span. -/
theorem BatchMessage.eq_span_of_isSome {m : BatchMessage α} (h : m.span?.isSome) :
    ∃ s, m = .span s := by
  cases m with
  | span s => exact ⟨s, rfl⟩
  | flush => simp [BatchMessage.span?] at h
  | shutdown => simp [BatchMessage.span?] at h

/-- The batches a worker is in the middle of exporting. -/
def WorkerPhase.batches : WorkerPhase α → List (List α)
  | .exporting bs _ => bs
  | _ => []

@[simp] theorem WorkerPhase.batches_waiting : (WorkerPhase.waiting : WorkerPhase α).batches = [] := rfl

@[simp] theorem WorkerPhase.batches_exited : (WorkerPhase.exited : WorkerPhase α).batches = [] := rfl

@[simp] theorem WorkerPhase.batches_exporting (bs : List (List α)) (c : Bool) :
    (WorkerPhase.exporting bs c).batches = bs := rfl

/-! ## Batches -/

theorem chunks_go_fit (size : Nat) (h : 0 < size) :
    ∀ (fuel : Nat) (xs : List α), ∀ b ∈ chunks.go size fuel xs, b ≠ [] ∧ b.length ≤ size
  | 0, _, b, hb => by simp [chunks.go] at hb
  | _ + 1, [], b, hb => by simp [chunks.go] at hb
  | fuel + 1, x :: xs, b, hb => by
    simp only [chunks.go, List.mem_cons] at hb
    rcases hb with rfl | hb
    · refine ⟨?_, List.length_take_le _ _⟩
      cases size with
      | zero => omega
      | succ n => simp
    · exact chunks_go_fit size h fuel _ b hb

/-- Every batch is non-empty and no longer than the batch size. -/
theorem chunks_fit (size : Nat) (h : 0 < size) (xs : List α) :
    ∀ b ∈ chunks size xs, b ≠ [] ∧ b.length ≤ size :=
  chunks_go_fit size h xs.length xs

@[simp] theorem chunks_nil (size : Nat) : chunks size ([] : List α) = [] := rfl

/-! ## The outcomes of export calls -/

namespace MemoryExporter

/-- The outcomes of the next `n` export calls, in order: the failure text of each call that fails.
Call `i` follows the `i`-th entry of the script, or `failExport` past its end. -/
def outcomes (e : MemoryExporter α) (n : Nat) : List (Option String) :=
  (List.range n).map fun i => e.script.getD i e.flags.failExport

@[simp] theorem outcomes_zero (e : MemoryExporter α) : e.outcomes 0 = [] := rfl

/-- The next call fails as the head of the script says; the later ones follow the rest of it. -/
theorem outcomes_succ (e : MemoryExporter α) (n : Nat) :
    e.outcomes (n + 1) = e.nextFailure :: { e with script := e.script.tail }.outcomes n := by
  unfold outcomes nextFailure
  rw [List.range_succ_eq_map, List.map_cons, List.map_map]
  cases e.script <;> rfl

/-- An exporter without a script fails every call as `failExport` says. -/
theorem outcomes_of_script_nil {e : MemoryExporter α} (h : e.script = []) (n : Nat) :
    e.outcomes n = List.replicate n e.flags.failExport := by
  simp [outcomes, h, List.map_const']

end MemoryExporter

namespace BatchProcessor

/-- The batches of the buffer, read back in order, are the buffer, whatever the batch size. -/
theorem pendingBatches_flatten (p : BatchProcessor α) : p.pendingBatches.flatten = p.buffer :=
  chunks_join _ (Nat.lt_of_lt_of_le Nat.zero_lt_one (Nat.le_max_left _ _)) _

theorem pendingBatches_fit (p : BatchProcessor α) :
    ∀ b ∈ p.pendingBatches, b ≠ [] ∧ b.length ≤ max 1 p.config.maxExportBatchSize :=
  chunks_fit _ (Nat.lt_of_lt_of_le Nat.zero_lt_one (Nat.le_max_left _ _)) _

theorem pendingBatches_eq_nil {p : BatchProcessor α} : p.pendingBatches = [] ↔ p.buffer = [] := by
  constructor
  · intro h
    rw [← p.pendingBatches_flatten, h, List.flatten_nil]
  · intro h
    simp [pendingBatches, h]

/-! ## An export run -/

/-- An exporter that is neither held nor panicking takes every batch in order, one call per batch,
using up as much of its script; the run keeps the first error, then the first failure among the
calls. -/
theorem runBatches_of_ready {p : BatchProcessor α} (hh : p.exporter.held = false)
    (hp : p.exporter.flags.panicExport = false) (bs : List (List α)) (err : Option ExportError) :
    p.runBatches bs err =
      (.finished (err <|> ((p.exporter.outcomes bs.length).findSome? id).map .failure),
        { p with exporter := { p.exporter with stored := p.exporter.stored ++ bs.flatten,
                                               script := p.exporter.script.drop bs.length } }) := by
  induction bs generalizing p err with
  | nil => simp [runBatches]
  | cons b rest ih =>
    -- the exporter takes the batch and moves on in its script; the rest of the run follows
    rw [List.length_cons, MemoryExporter.outcomes_succ]
    cases hf : p.exporter.nextFailure with
    | none =>
      simp only [runBatches, hh, hp, MemoryExporter.deliver, hf, Bool.false_eq_true, if_false]
      refine (ih ?_ ?_ err).trans ?_
      · rfl
      · exact hp
      · simp [MemoryExporter.outcomes, List.drop_tail]
    | some msg =>
      simp only [runBatches, hh, hp, MemoryExporter.deliver, hf, Bool.false_eq_true, if_false]
      refine (ih ?_ ?_ _).trans ?_
      · rfl
      · exact hp
      · cases err <;> simp [MemoryExporter.outcomes, List.drop_tail]

/-- An export run in closed form: a held exporter keeps every batch waiting, a panicking one takes
none, and any other takes them all (`runBatches_of_ready`). -/
theorem runBatches_eq (p : BatchProcessor α) (bs : List (List α)) (err : Option ExportError) :
    p.runBatches bs err =
      if bs = [] then (.finished err, p)
      else if p.exporter.held then (.held bs, p)
      else if p.exporter.flags.panicExport then (.panicked, p)
      else (.finished (err <|> ((p.exporter.outcomes bs.length).findSome? id).map .failure),
        { p with exporter := { p.exporter with stored := p.exporter.stored ++ bs.flatten,
                                               script := p.exporter.script.drop bs.length } }) := by
  cases bs with
  | nil => rfl
  | cons b rest =>
    by_cases hh : p.exporter.held
    · simp [runBatches, hh]
    by_cases hp : p.exporter.flags.panicExport
    · simp [runBatches, hh, hp, MemoryExporter.deliver]
    rw [if_neg (List.cons_ne_nil b rest), if_neg hh, if_neg hp]
    exact runBatches_of_ready (by simpa using hh) (by simpa using hp) _ _

/-! ## The delivery invariant -/

/-- The spans of the queued messages, in the order sent. -/
def queuedSpans (p : BatchProcessor α) : List α := p.queue.filterMap BatchMessage.span?

/-- The spans the worker has been handed and has not exported, in the order it will export them. -/
def inFlight (p : BatchProcessor α) : List α := p.phase.batches.flatten ++ p.buffer ++ p.queuedSpans

/-- The delivery invariant: what the exporter holds, followed by what is in flight, is `acc`; the
batches in the middle of export fit the batch size. -/
structure Delivering (acc : List α) (p : BatchProcessor α) : Prop where
  stream : p.exporter.stored ++ p.inFlight = acc
  fit : ∀ b ∈ p.phase.batches, b ≠ [] ∧ b.length ≤ max 1 p.config.maxExportBatchSize

/-- Only spans are queued: the caller's flush or shutdown has not been sent. -/
def SpansQueued (p : BatchProcessor α) : Prop := ∀ m ∈ p.queue, m.span?.isSome

/-- The delivery invariant with only spans queued, unless the worker is gone. -/
def Keeps (acc : List α) (p : BatchProcessor α) : Prop :=
  p.phase = .exited ∨ (Delivering acc p ∧ p.SpansQueued)

/-- A step of the worker that panicked: its caller hears nothing, and it is gone with its queue. -/
def Died (r : WorkerAnswer × BatchProcessor α) : Prop :=
  r.1 = .lost ∧ r.2.phase = .exited ∧ r.2.queue = []

/-- The settings and the shutdown flag, which only a caller's shutdown changes. -/
def SameSetup (p q : BatchProcessor α) : Prop := q.config = p.config ∧ q.isShutdown = p.isShutdown

theorem SameSetup.trans {p q r : BatchProcessor α} (h : SameSetup p q) (h' : SameSetup q r) :
    SameSetup p r :=
  ⟨h'.1.trans h.1, h'.2.trans h.2⟩

variable {acc : List α} {p : BatchProcessor α}

/-- A new processor holds nothing in flight. -/
theorem keeps_create (c : BatchConfig) (e : MemoryExporter α) : Keeps e.stored (create c e) :=
  Or.inr ⟨⟨by simp [create, inFlight, queuedSpans], by simp [create]⟩, by simp [create, SpansQueued]⟩

theorem delivering_of_waiting (hw : p.phase = .waiting) :
    Delivering (p.exporter.stored ++ p.buffer ++ p.queuedSpans) p where
  stream := by simp [inFlight, hw]
  fit := by simp [hw]

/-- A message joins the queue behind everything in flight. -/
theorem delivering_enqueue (hd : Delivering acc p) (m : BatchMessage α) :
    Delivering (acc ++ m.span?.toList) { p with queue := p.queue ++ [m] } where
  stream := by
    rw [← hd.stream]
    cases m <;> simp [inFlight, queuedSpans, List.filterMap_append, BatchMessage.span?]
  fit := hd.fit

/-- The invariant reads only the phase, the exporter's spans, the buffer, the queue and the
settings. -/
theorem Keeps.of_eq {q : BatchProcessor α} (h : Keeps acc p) (hph : q.phase = p.phase)
    (hst : q.exporter.stored = p.exporter.stored) (hb : q.buffer = p.buffer) (hq : q.queue = p.queue)
    (hc : q.config = p.config) : Keeps acc q := by
  rcases h with hex | ⟨hd, hsq⟩
  · exact Or.inl (hph.trans hex)
  · refine Or.inr ⟨⟨?_, ?_⟩, ?_⟩
    · simpa [inFlight, queuedSpans, hph, hst, hb, hq] using hd.stream
    · simpa [hph, hc] using hd.fit
    · simpa [SpansQueued, hq] using hsq

/-! ## Steps of the worker -/

theorem exportBuffer_setup (p : BatchProcessor α) (closing : Bool) :
    SameSetup p (p.exportBuffer closing).2 ∧ (p.exportBuffer closing).2.exporter.held = p.exporter.held := by
  dsimp only [exportBuffer]
  rw [runBatches_eq]
  by_cases hb : p.pendingBatches = [] <;> by_cases hh : p.exporter.held <;>
    by_cases hp : p.exporter.flags.panicExport <;> cases closing <;>
    simp [hb, hh, hp, die, SameSetup]

/-- Exporting the buffer of a waiting worker keeps the stream: the buffer goes to the exporter, or
waits as batches in front of the queue while the exporter is held, and the queue stays; or the
export panics. -/
theorem exportBuffer_delivering (hw : p.phase = .waiting) :
    Died (p.exportBuffer false) ∨
      (Delivering (p.exporter.stored ++ p.buffer ++ p.queuedSpans) (p.exportBuffer false).2 ∧
        (p.exportBuffer false).2.queue = p.queue) := by
  have hflat := p.pendingBatches_flatten
  dsimp only [exportBuffer]
  rw [runBatches_eq]
  by_cases hb : p.pendingBatches = []
  · have hbuf : p.buffer = [] := pendingBatches_eq_nil.1 hb
    right
    exact ⟨⟨by simp [inFlight, queuedSpans, hb, hbuf, hw], by simp [hb, hw]⟩, by simp [hb]⟩
  by_cases hh : p.exporter.held
  · -- a held exporter: every batch waits in front of the queue
    right
    refine ⟨⟨?_, ?_⟩, by simp [hb, hh]⟩
    · simp [inFlight, queuedSpans, hb, hh, hflat]
    · simpa [hb, hh] using p.pendingBatches_fit
  by_cases hp : p.exporter.flags.panicExport
  · left
    simp [Died, hb, hh, hp, die]
  · right
    exact ⟨⟨by simp [inFlight, queuedSpans, hb, hh, hp, hflat, hw], by simp [hb, hh, hp, hw]⟩,
      by simp [hb, hh, hp]⟩

/-- An export of the buffer that answers has handed the whole buffer to the exporter. -/
theorem exportBuffer_stored_of_replied {closing : Bool} {r : Except ExportError Unit}
    (h : (p.exportBuffer closing).1 = .replied r) :
    (p.exportBuffer closing).2.exporter.stored = p.exporter.stored ++ p.buffer := by
  have hflat := p.pendingBatches_flatten
  revert h
  dsimp only [exportBuffer]
  rw [runBatches_eq]
  by_cases hb : p.pendingBatches = []
  · have hbuf : p.buffer = [] := pendingBatches_eq_nil.1 hb
    cases closing <;> simp [hb, hbuf]
  by_cases hh : p.exporter.held
  · simp [hb, hh]
  by_cases hp : p.exporter.flags.panicExport
  · simp [hb, hh, hp]
  · cases closing <;> simp [hb, hh, hp, hflat]

/-- An export leaves an empty queue empty, whether the worker goes on, waits or exits. -/
theorem exportBuffer_queue_nil (hq : p.queue = []) (closing : Bool) :
    (p.exportBuffer closing).2.queue = [] := by
  dsimp only [exportBuffer]
  rw [runBatches_eq]
  by_cases hb : p.pendingBatches = [] <;> by_cases hh : p.exporter.held <;>
    by_cases hp : p.exporter.flags.panicExport <;> cases closing <;>
    simp [hb, hh, hp, hq, die]

theorem take_setup (p : BatchProcessor α) (m : BatchMessage α) :
    SameSetup p (p.take m).2 ∧ (p.take m).2.exporter.held = p.exporter.held := by
  cases m with
  | span s =>
    simp only [take]
    split
    · exact exportBuffer_setup _ false
    · exact ⟨⟨rfl, rfl⟩, rfl⟩
  | flush => exact exportBuffer_setup p false
  | shutdown => exact exportBuffer_setup p true

/-- A waiting worker takes a span: it joins the buffer after what is there, ahead of what is still
queued, and goes out with the buffer if the buffer is full or the delay is over. -/
theorem take_span_delivering (hw : p.phase = .waiting) (s : α) :
    Died (p.take (.span s)) ∨
      (Delivering (p.exporter.stored ++ p.buffer ++ [s] ++ p.queuedSpans) (p.take (.span s)).2 ∧
        (p.take (.span s)).2.queue = p.queue) := by
  have hw' : ({ p with buffer := p.buffer ++ [s] } : BatchProcessor α).phase = .waiting := hw
  simp only [take]
  split
  · simpa [queuedSpans] using exportBuffer_delivering hw'
  · right
    exact ⟨by simpa [queuedSpans] using delivering_of_waiting hw', rfl⟩

/-- The waiting worker takes the span at the head of the queue: the stream is kept, with the rest
of the queue behind, unless the export panics. -/
theorem take_head_delivering (hw : p.phase = .waiting) (hd : Delivering acc p) {s : α}
    {rest : List (BatchMessage α)} (hq : p.queue = .span s :: rest) :
    Died ({ p with queue := rest }.take (.span s)) ∨
      (Delivering acc ({ p with queue := rest }.take (.span s)).2 ∧
        ({ p with queue := rest }.take (.span s)).2.queue = rest) := by
  let p₁ : BatchProcessor α := { p with queue := rest }
  rcases take_span_delivering (p := p₁) hw s with hdied | ⟨hd', hq'⟩
  · exact Or.inl hdied
  · have hacc : p₁.exporter.stored ++ p₁.buffer ++ [s] ++ p₁.queuedSpans = acc := by
      rw [← hd.stream]
      simp [p₁, inFlight, queuedSpans, hw, hq, BatchMessage.span?]
    rw [hacc] at hd'
    exact Or.inr ⟨hd', hq'⟩

/-- A message without a span is a flush or a shutdown: the worker takes it by exporting its
buffer. -/
theorem take_eq_exportBuffer {m : BatchMessage α} (hm : m.span? = none) (p : BatchProcessor α) :
    ∃ closing, p.take m = p.exportBuffer closing := by
  cases m with
  | span s => simp [BatchMessage.span?] at hm
  | flush => exact ⟨false, rfl⟩
  | shutdown => exact ⟨true, rfl⟩

theorem work_setup {r : WorkerAnswer × BatchProcessor α} (h : p.work = some r) : SameSetup p r.2 := by
  unfold work at h
  split at h
  next m rest _ _ =>
    obtain rfl := Option.some.inj h
    exact SameSetup.trans ⟨rfl, rfl⟩ (take_setup _ m).1
  · cases h

/-- The worker takes the first queued message, a span: the invariant holds after, with what is
still queued behind. -/
theorem work_keeps (h : Keeps acc p) {r : WorkerAnswer × BatchProcessor α} (hr : p.work = some r) :
    Keeps acc r.2 := by
  unfold work at hr
  split at hr
  next m rest hph hq =>
    obtain rfl := Option.some.inj hr
    rcases h with hex | ⟨hd, hsq⟩
    · rw [hph] at hex
      cases hex
    obtain ⟨s, rfl⟩ := BatchMessage.eq_span_of_isSome (hsq m (by simp [hq]))
    rcases take_head_delivering hph hd hq with hdied | ⟨hd', hq'⟩
    · exact Or.inl hdied.2.1
    · refine Or.inr ⟨hd', fun m' hm' => hsq m' ?_⟩
      rw [hq'] at hm'
      rw [hq]
      exact List.mem_cons_of_mem _ hm'
  · cases hr

theorem setHeld_setup (p : BatchProcessor α) (held : Bool) : SameSetup p (p.setHeld held) := by
  cases held
  case true => exact ⟨rfl, rfl⟩
  case false =>
    simp only [setHeld, Bool.false_eq_true, if_false]
    split
    next bs closing hph =>
      rw [runBatches_eq]
      by_cases hb : bs = [] <;> by_cases hp : p.exporter.flags.panicExport <;> cases closing <;>
        simp only [hb, hp, Bool.false_eq_true, if_false, if_true] <;> exact ⟨rfl, rfl⟩
    all_goals exact ⟨rfl, rfl⟩

/-- Holding the exporter changes nothing in flight; releasing it lets the worker finish the batches
it was exporting, then wait with its queue as it was. -/
theorem setHeld_keeps (h : Keeps acc p) (held : Bool) : Keeps acc (p.setHeld held) := by
  cases held
  case true => exact h.of_eq rfl rfl rfl rfl rfl
  case false =>
    simp only [setHeld, Bool.false_eq_true, if_false]
    split
    next bs closing hph =>
      rcases h with hex | ⟨hd, hsq⟩
      · rw [hph] at hex
        cases hex
      have hs : p.exporter.stored ++ (bs.flatten ++ p.buffer ++ p.queuedSpans) = acc := by
        simpa [inFlight, hph] using hd.stream
      rw [runBatches_eq]
      by_cases hb : bs = [] <;> by_cases hp : p.exporter.flags.panicExport <;> cases closing <;>
        simp only [hb, hp, Bool.false_eq_true, if_false, if_true]
      -- a closing worker exits; otherwise the worker, done with the batches, waits with its queue
      all_goals first
        | exact Or.inl rfl
        | exact Or.inr ⟨⟨by simpa [inFlight, queuedSpans, hb] using hs, by simp⟩, hsq⟩
    all_goals exact h.of_eq rfl rfl rfl rfl rfl

theorem advance_setup (p : BatchProcessor α) (ms : Nat) : SameSetup p (p.advance ms) := by
  simp only [advance]
  split
  · split
    · split
      · exact ⟨rfl, rfl⟩
      · exact (exportBuffer_setup _ false).1
    · exact ⟨rfl, rfl⟩
  · exact ⟨rfl, rfl⟩

/-- Time passing: a waiting worker exports its buffer once the delay is over. -/
theorem advance_keeps (h : Keeps acc p) (ms : Nat) : Keeps acc (p.advance ms) := by
  let p₁ : BatchProcessor α := { p with now := p.now + ms }
  have h₁ : Keeps acc p₁ := h.of_eq rfl rfl rfl rfl rfl
  simp only [advance]
  split
  next hw =>
    have hw₁ : p₁.phase = .waiting := hw
    split
    · split
      · exact h₁.of_eq rfl rfl rfl rfl rfl
      · -- the delay is over: the buffer goes out, ahead of what is queued
        obtain ⟨hd, hsq⟩ := h₁.resolve_left (by rw [hw₁]; exact fun h => nomatch h)
        rcases exportBuffer_delivering hw₁ with hdied | ⟨hd', hq'⟩
        · exact Or.inl hdied.2.1
        · have hacc : p₁.exporter.stored ++ p₁.buffer ++ p₁.queuedSpans = acc := by
            simpa [inFlight, hw₁] using hd.stream
          rw [hacc] at hd'
          refine Or.inr ⟨hd', fun m hm => hsq m ?_⟩
          have hm' : m ∈ (p₁.exportBuffer false).2.queue := hm
          rwa [hq'] at hm'
    · exact h₁
  · exact h₁

/-! ## A caller's messages -/

/-- A message the queue takes joins its end; nothing else changes, and the worker is not gone. -/
theorem trySend_eq {m : BatchMessage α} {q : BatchProcessor α} (h : p.trySend m = some q) :
    q = { p with queue := p.queue ++ [m] } ∧ p.phase ≠ .exited := by
  unfold trySend at h
  split at h
  next hph =>
    split at h
    · exact ⟨(Option.some.inj h).symm, by simp [hph]⟩
    · cases h
  next hph =>
    split at h
    · exact ⟨(Option.some.inj h).symm, by simp [hph]⟩
    · cases h
  next => cases h

theorem trySend_setup {m : BatchMessage α} {q : BatchProcessor α} (hsend : p.trySend m = some q) :
    SameSetup p q := by
  obtain ⟨rfl, _⟩ := trySend_eq hsend
  exact ⟨rfl, rfl⟩

/-- A span that the queue takes joins what is in flight, behind everything else. -/
theorem trySend_keeps (h : Keeps acc p) {s : α} {q : BatchProcessor α}
    (hsend : p.trySend (.span s) = some q) : Keeps (acc ++ [s]) q := by
  obtain ⟨rfl, hlive⟩ := trySend_eq hsend
  rcases h with hex | ⟨hd, hsq⟩
  · exact absurd hex hlive
  · refine Or.inr ⟨by simpa [BatchMessage.span?] using delivering_enqueue hd (.span s), ?_⟩
    intro m hm
    rcases List.mem_append.1 hm with hm | hm
    · exact hsq m hm
    · simp [List.mem_singleton.1 hm, BatchMessage.span?]

/-- Whether `onEnd` hands the span to the worker: the processor is not shut down and the queue
takes it. -/
def accepts (p : BatchProcessor α) (s : α) : Bool := !p.isShutdown && (p.trySend (.span s)).isSome

theorem onEnd_setup (p : BatchProcessor α) (s : α) : SameSetup p (p.onEnd s).2 := by
  unfold onEnd
  split
  · exact ⟨rfl, rfl⟩
  · split
    next q hsend => exact trySend_setup hsend
    next => split <;> exact ⟨rfl, rfl⟩

/-- A finished span offered to the processor joins what is in flight exactly when it is accepted. -/
theorem onEnd_keeps (h : Keeps acc p) (s : α) :
    Keeps (acc ++ if p.accepts s then [s] else []) (p.onEnd s).2 := by
  unfold onEnd accepts
  by_cases hsd : p.isShutdown
  · simpa [hsd] using h
  · cases hsend : p.trySend (.span s) with
    | some q => simpa [hsd, hsend] using trySend_keeps h hsend
    | none =>
      simp only [hsd, Bool.false_eq_true, if_false, Option.isSome_none, Bool.not_false,
        Bool.and_false, List.append_nil]
      split <;> exact h.of_eq rfl rfl rfl rfl rfl

/-! ## A caller's sequence of spans, then a flush or a shutdown -/

/-- What happens to a processor between its creation and a caller's flush: a finished span is
offered, the worker takes its next message, time passes, or the exporter is held or released. -/
inductive Feed (α : Type) where
  | offer (s : α)
  | work
  | wait (ms : Nat)
  | hold (held : Bool)

/-- One event: the spans it hands to the worker, and the processor after it. -/
def Feed.run : Feed α → BatchProcessor α → List α × BatchProcessor α
  | .offer s, p => (if p.accepts s then [s] else [], (p.onEnd s).2)
  | .work, p =>
    match p.work with
    | some r => ([], r.2)
    | none => ([], p)
  | .wait ms, p => ([], p.advance ms)
  | .hold held, p => ([], p.setHeld held)

/-- A sequence of events: the spans handed to the worker, in order, and the processor after it. -/
def feedAll : List (Feed α) → BatchProcessor α → List α × BatchProcessor α
  | [], p => ([], p)
  | f :: fs, p =>
    let r := f.run p
    let rs := feedAll fs r.2
    (r.1 ++ rs.1, rs.2)

theorem Feed.run_setup (p : BatchProcessor α) (f : Feed α) : SameSetup p (f.run p).2 := by
  cases f with
  | offer s => exact onEnd_setup p s
  | work =>
    simp only [Feed.run]
    split
    next r hr => exact work_setup hr
    next => exact ⟨rfl, rfl⟩
  | wait ms => exact advance_setup p ms
  | hold held => exact setHeld_setup p held

theorem Feed.run_keeps (h : Keeps acc p) (f : Feed α) : Keeps (acc ++ (f.run p).1) (f.run p).2 := by
  cases f with
  | offer s => exact onEnd_keeps h s
  | work =>
    simp only [Feed.run]
    split
    next r hr => simpa using work_keeps h hr
    next => simpa using h
  | wait ms => simpa [Feed.run] using advance_keeps h ms
  | hold held => simpa [Feed.run] using setHeld_keeps h held

theorem feedAll_setup (p : BatchProcessor α) (fs : List (Feed α)) : SameSetup p (feedAll fs p).2 := by
  induction fs generalizing p with
  | nil => exact ⟨rfl, rfl⟩
  | cons f fs ih => exact (f.run_setup p).trans (ih _)

/-- Every sequence of events keeps the invariant, the accepted spans appended in the order offered. -/
theorem feedAll_keeps (h : Keeps acc p) (fs : List (Feed α)) :
    Keeps (acc ++ (feedAll fs p).1) (feedAll fs p).2 := by
  induction fs generalizing acc p with
  | nil => simpa [feedAll] using h
  | cons f fs ih => simpa [feedAll, List.append_assoc] using ih (f.run_keeps h)

/-! ## The answer to a flush or a shutdown -/

@[simp] theorem answerOnceTaken_snd (a : WorkerAnswer) (p : BatchProcessor α) :
    (answerOnceTaken a p).2 = p := by
  unfold answerOnceTaken
  split <;> rfl

theorem answerOnceTaken_of_queue_ne_nil (hq : p.queue ≠ []) (a : WorkerAnswer) :
    answerOnceTaken a p = (.pending, p) := by
  simp [answerOnceTaken, hq]

theorem work_of_queue_nil (hq : p.queue = []) : p.work = none := by
  unfold work
  split
  next m rest _ hq' => simp [hq] at hq'
  · rfl

/-- With nothing queued, the worker's last answer stands. -/
theorem settle_go_of_queue_nil (hq : p.queue = []) (fuel : Nat) (a : WorkerAnswer) :
    settle.go fuel a p = (a, p) := by
  cases fuel <;> simp [settle.go, work_of_queue_nil hq, answerOnceTaken, hq]

theorem settle_go_setup (fuel : Nat) (a : WorkerAnswer) (p : BatchProcessor α) :
    SameSetup p (settle.go fuel a p).2 := by
  induction fuel generalizing a p with
  | zero =>
    rw [settle.go, answerOnceTaken_snd]
    exact ⟨rfl, rfl⟩
  | succ fuel ih =>
    rw [settle.go]
    split
    next r hr => exact (work_setup hr).trans (ih _ _)
    next =>
      rw [answerOnceTaken_snd]
      exact ⟨rfl, rfl⟩

/-- The worker answers a flush or a shutdown queued behind spans only after it has taken every span
before it and exported its whole buffer: an answer `replied` comes with the exporter holding
everything accepted. The induction follows the worker through the queue: each span it takes keeps
the invariant with the rest still queued, and the answer is that of the last message. -/
theorem settle_go_stored {last : BatchMessage α} (hlast : last.span? = none) (fuel : Nat) :
    ∀ (a : WorkerAnswer) (p : BatchProcessor α) (acc : List α) (r : Except ExportError Unit),
      Delivering acc p → (∃ ms, p.queue = ms ++ [last] ∧ ∀ m ∈ ms, m.span?.isSome) →
      (settle.go fuel a p).1 = .replied r → (settle.go fuel a p).2.exporter.stored = acc := by
  induction fuel with
  | zero =>
    rintro a p acc r - ⟨ms, hq, -⟩ hr
    simp [settle.go, answerOnceTaken_of_queue_ne_nil (p := p) (by simp [hq])] at hr
  | succ fuel ih =>
    rintro a p acc r hd ⟨ms, hq, hms⟩ hr
    have hne : p.queue ≠ [] := by simp [hq]
    cases hph : p.phase with
    | waiting =>
      cases ms with
      | nil =>
        -- the caller's message is next: the worker exports its buffer and answers it
        let p₀ : BatchProcessor α := { p with queue := [] }
        have hacc : p₀.exporter.stored ++ p₀.buffer = acc := by
          rw [← hd.stream]
          simp [p₀, inFlight, queuedSpans, hph, hq, hlast]
        obtain ⟨closing, htake⟩ := take_eq_exportBuffer hlast p₀
        have hwork : p.work = some (p₀.exportBuffer closing) := by
          rw [← htake]
          simp [work, hph, hq, p₀]
        have hnil : (p₀.exportBuffer closing).2.queue = [] := exportBuffer_queue_nil (p := p₀) rfl closing
        simp only [settle.go, hwork, settle_go_of_queue_nil hnil] at hr ⊢
        rw [← hacc]
        exact exportBuffer_stored_of_replied hr
      | cons m ms =>
        -- a span is next: the worker takes it, and the caller's message is still last
        obtain ⟨s, rfl⟩ := BatchMessage.eq_span_of_isSome (hms m (List.mem_cons_self ..))
        have hq₁ : p.queue = .span s :: (ms ++ [last]) := hq
        have hwork : p.work = some ({ p with queue := ms ++ [last] }.take (.span s)) := by
          simp [work, hph, hq₁]
        simp only [settle.go, hwork] at hr ⊢
        rcases take_head_delivering hph hd hq₁ with hdied | ⟨hd', hq'⟩
        · rw [settle_go_of_queue_nil hdied.2.2, hdied.1] at hr
          cases hr
        · exact ih _ _ acc r hd' ⟨ms, hq', fun m' hm' => hms m' (List.mem_cons_of_mem _ hm')⟩ hr
    | exporting _ _ | exited =>
      -- a worker that is held or gone takes nothing: the caller is still waiting
      have hwork : p.work = none := by simp [work, hph]
      simp [settle.go, hwork, answerOnceTaken_of_queue_ne_nil hne] at hr

/-- The caller's flush or shutdown, sent behind the spans in flight, is answered `replied` only
once the exporter holds everything accepted. -/
theorem settle_stored {last : BatchMessage α} (hlast : last.span? = none) (hd : Delivering acc p)
    (hsq : p.SpansQueued) {r : Except ExportError Unit}
    (hr : ({ p with queue := p.queue ++ [last] } : BatchProcessor α).settle.1 = .replied r) :
    ({ p with queue := p.queue ++ [last] } : BatchProcessor α).settle.2.exporter.stored = acc := by
  have hd' : Delivering acc { p with queue := p.queue ++ [last] } := by
    simpa [hlast] using delivering_enqueue hd last
  exact settle_go_stored hlast _ _ _ _ r hd' ⟨p.queue, rfl, hsq⟩ hr

/-- A caller's wait ends in `ok` only on the worker's own `ok` answer, and then changes nothing. -/
theorem await_eq_ok {x : WorkerAnswer × BatchProcessor α} (h : (p.await x).1 = .ok ()) :
    x.1 = .replied (.ok ()) ∧ (p.await x).2 = x.2 := by
  obtain ⟨a, q⟩ := x
  cases a <;> simp_all [await]

/-- A flush that returns `ok` was answered by the worker after it took every span queued before
it and handed its whole buffer to the exporter: the exporter then holds exactly the accepted
spans. -/
theorem forceFlush_stored (h : Keeps acc p) (hok : p.forceFlush.1 = .ok ()) :
    p.forceFlush.2.exporter.stored = acc := by
  unfold forceFlush at hok ⊢
  by_cases hsd : p.isShutdown
  · simp [hsd] at hok
  simp only [hsd, Bool.false_eq_true, if_false] at hok ⊢
  cases hs : p.trySend .flush with
  | none => simp [hs] at hok
  | some q =>
    simp only [hs] at hok ⊢
    obtain ⟨hans, hq⟩ := await_eq_ok hok
    rw [hq]
    obtain ⟨rfl, hlive⟩ := trySend_eq hs
    rcases h with hex | ⟨hd, hsq⟩
    · exact absurd hex hlive
    · exact settle_stored rfl hd hsq hans

/-- A shutdown that returns `ok` was answered by the worker after it took every span queued before
it and handed its whole buffer to the exporter, before closing it. -/
theorem shutdown_stored (h : Keeps acc p) (hok : p.shutdown.2.1 = .ok ()) :
    p.shutdown.2.2.exporter.stored = acc := by
  unfold shutdown at hok ⊢
  by_cases hsd : p.isShutdown
  · simp [hsd] at hok
  simp only [hsd, Bool.false_eq_true, if_false] at hok ⊢
  rcases h with hex | ⟨hd, hsq⟩
  · simp [hex] at hok
  -- the worker is waiting or held: the shutdown is queued behind the spans
  have hd₁ : Delivering acc { p with isShutdown := true } := ⟨hd.stream, hd.fit⟩
  have key : ∀ r, ({ p with isShutdown := true, queue := p.queue ++ [BatchMessage.shutdown] } :
      BatchProcessor α).settle.1 = .replied r →
      ({ p with isShutdown := true, queue := p.queue ++ [BatchMessage.shutdown] } :
        BatchProcessor α).settle.2.exporter.stored = acc :=
    fun r hr => settle_stored rfl hd₁ hsq hr
  cases hph : p.phase with
  | exited => simp [hph] at hok
  | waiting | exporting _ _ =>
    simp only [hph] at hok key ⊢
    obtain ⟨hans, hq⟩ := await_eq_ok hok
    rw [hq]
    exact key _ hans

/-! ## After shutdown -/

theorem await_setup (x : WorkerAnswer × BatchProcessor α) : SameSetup x.2 (p.await x).2 := by
  obtain ⟨a, q⟩ := x
  cases a with
  | replied r => exact ⟨rfl, rfl⟩
  | pending => exact advance_setup q _
  | lost => exact ⟨rfl, rfl⟩

/-- A shutdown marks the processor shut down, whatever its worker answers. -/
theorem shutdown_isShutdown (p : BatchProcessor α) : p.shutdown.2.2.isShutdown = true := by
  unfold shutdown
  by_cases hsd : p.isShutdown
  · simp [hsd]
  simp only [hsd, Bool.false_eq_true, if_false]
  split
  · rfl
  · exact ((await_setup _).2.trans (settle_go_setup _ _ _).2)

/-- A shut down processor takes no span, and its flush and shutdown fail at once. -/
theorem accepts_of_isShutdown (h : p.isShutdown = true) (s : α) : p.accepts s = false := by
  simp [accepts, h]

theorem forceFlush_of_isShutdown (h : p.isShutdown = true) :
    p.forceFlush = (.error .alreadyShutdown, p) := by
  simp [forceFlush, h]

theorem shutdown_of_isShutdown (h : p.isShutdown = true) :
    p.shutdown = ([], .error .alreadyShutdown, p) := by
  simp [shutdown, h]

/-- After a shutdown, no sequence of events hands a span to the worker. -/
theorem feedAll_of_isShutdown (h : p.isShutdown = true) (fs : List (Feed α)) :
    (feedAll fs p).1 = [] ∧ (feedAll fs p).2.isShutdown = true := by
  induction fs generalizing p with
  | nil => exact ⟨rfl, h⟩
  | cons f fs ih =>
    have hf : (f.run p).1 = [] := by
      cases f with
      | offer s => simp [Feed.run, accepts_of_isShutdown h s]
      | work => simp only [Feed.run]; split <;> rfl
      | wait ms => rfl
      | hold held => rfl
    have h₁ : (f.run p).2.isShutdown = true := (f.run_setup p).2.trans h
    simp only [feedAll, hf, List.nil_append]
    exact ih h₁

/-! ## Batch export, start to end -/

/-- Batch export delivers every accepted span once and in order. From a new processor with any
settings and any exporter, after any sequence of offered spans, steps of a worker that takes its
messages when it gets to them, passing time and holds of the exporter: a flush or a shutdown that
returns `ok` leaves the exporter holding exactly the spans the queue accepted, in the order offered,
after what it held before. Every batch is non-empty and at most the batch size cut to the queue
size, and at least one; batching covers the whole buffer for every batch size, 0 included. An export
run hands every batch over once whichever of its calls fail, and keeps the first failure. Once shut
down, the processor takes no span, and its flush and shutdown fail at once. -/
theorem batch_export_delivers_once (c : BatchConfig) (e : MemoryExporter α) (fs : List (Feed α)) :
    ((feedAll fs (create c.finish e)).2.forceFlush.1 = .ok () →
      (feedAll fs (create c.finish e)).2.forceFlush.2.exporter.stored =
        e.stored ++ (feedAll fs (create c.finish e)).1) ∧
    ((feedAll fs (create c.finish e)).2.shutdown.2.1 = .ok () →
      (feedAll fs (create c.finish e)).2.shutdown.2.2.exporter.stored =
        e.stored ++ (feedAll fs (create c.finish e)).1) ∧
    (∀ b ∈ (feedAll fs (create c.finish e)).2.pendingBatches ++
        (feedAll fs (create c.finish e)).2.phase.batches,
      b ≠ [] ∧ b.length ≤ max 1 (min c.maxExportBatchSize c.maxQueueSize)) ∧
    (∀ (n : Nat) (xs : List α), (chunks (max 1 n) xs).flatten = xs) ∧
    (∀ (p : BatchProcessor α) (bs : List (List α)) (err : Option ExportError),
      p.exporter.held = false → p.exporter.flags.panicExport = false →
      p.runBatches bs err =
        (.finished (err <|> ((p.exporter.outcomes bs.length).findSome? id).map .failure),
          { p with exporter := { p.exporter with stored := p.exporter.stored ++ bs.flatten,
                                                 script := p.exporter.script.drop bs.length } })) ∧
    (∀ p : BatchProcessor α, p.shutdown.2.2.isShutdown = true) ∧
    (∀ (p : BatchProcessor α) (gs : List (Feed α)), p.isShutdown = true →
      (feedAll gs p).1 = [] ∧ (feedAll gs p).2.forceFlush = (.error .alreadyShutdown, (feedAll gs p).2) ∧
        (feedAll gs p).2.shutdown = ([], .error .alreadyShutdown, (feedAll gs p).2)) := by
  have hkeeps := feedAll_keeps (keeps_create c.finish e) fs
  have hsetup := feedAll_setup (create c.finish e) fs
  refine ⟨forceFlush_stored hkeeps, shutdown_stored hkeeps, ?_, ?_,
    fun p bs err hh hp => runBatches_of_ready hh hp bs err, shutdown_isShutdown, ?_⟩
  · -- the batches still to go are cut from the buffer; those in the middle of export fit by the invariant
    intro b hb
    have hc : (feedAll fs (create c.finish e)).2.config = c.finish := hsetup.1
    have hfit : ∀ b' ∈ (feedAll fs (create c.finish e)).2.pendingBatches ++
        (feedAll fs (create c.finish e)).2.phase.batches,
        b' ≠ [] ∧ b'.length ≤ max 1 (feedAll fs (create c.finish e)).2.config.maxExportBatchSize := by
      intro b' hb'
      rcases List.mem_append.1 hb' with hb' | hb'
      · exact pendingBatches_fit _ b' hb'
      · rcases hkeeps with hex | ⟨hd, _⟩
        · simp [hex] at hb'
        · exact hd.fit b' hb'
    rw [hc] at hfit
    exact hfit b hb
  · intro n xs
    exact chunks_join _ (Nat.lt_of_lt_of_le Nat.zero_lt_one (Nat.le_max_left _ _)) xs
  · intro p gs h
    obtain ⟨hnone, hsd⟩ := feedAll_of_isShutdown h gs
    exact ⟨hnone, forceFlush_of_isShutdown hsd, shutdown_of_isShutdown hsd⟩

/-- Four spans offered with a queue of two, batches of two and an exporter whose first call fails;
the worker takes its first message only after the third span. The third span finds the queue full
and is dropped, the first batch is kept although its call fails, and the flush returns `ok` with
the three accepted spans delivered in order. -/
theorem batch_export_three_of_four_spans :
    (feedAll [.offer 1, .offer 2, .offer 3, .work, .work, .offer 4]
      (create (⟨2, ⟨3600000⟩, 2, ⟨30000⟩⟩ : BatchConfig).finish
        ({ script := [some "down"] } : MemoryExporter Nat))).1 = [1, 2, 4] ∧
    (feedAll [.offer 1, .offer 2, .offer 3, .work, .work, .offer 4]
      (create (⟨2, ⟨3600000⟩, 2, ⟨30000⟩⟩ : BatchConfig).finish
        ({ script := [some "down"] } : MemoryExporter Nat))).2.forceFlush.1 = .ok () ∧
    (feedAll [.offer 1, .offer 2, .offer 3, .work, .work, .offer 4]
      (create (⟨2, ⟨3600000⟩, 2, ⟨30000⟩⟩ : BatchConfig).finish
        ({ script := [some "down"] } : MemoryExporter Nat))).2.forceFlush.2.exporter.stored = [1, 2, 4] := by
  have hacc : (feedAll [.offer 1, .offer 2, .offer 3, .work, .work, .offer 4]
      (create (⟨2, ⟨3600000⟩, 2, ⟨30000⟩⟩ : BatchConfig).finish
        ({ script := [some "down"] } : MemoryExporter Nat))).1 = [1, 2, 4] := rfl
  have hok : (feedAll [.offer 1, .offer 2, .offer 3, .work, .work, .offer 4]
      (create (⟨2, ⟨3600000⟩, 2, ⟨30000⟩⟩ : BatchConfig).finish
        ({ script := [some "down"] } : MemoryExporter Nat))).2.forceFlush.1 = .ok () := rfl
  refine ⟨hacc, hok, ?_⟩
  rw [(batch_export_delivers_once _ _ _).1 hok, hacc]
  rfl

end BatchProcessor

end TraceAgent
