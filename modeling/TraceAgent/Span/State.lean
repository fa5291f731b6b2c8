import TraceAgent.Span.Event
import TraceAgent.Log

/-!
# Spans under construction

A span under construction is shared by the trace that opened it and by every async branch that
writes into it. A count of *pending holds* says who may still write: the synchronous side holds
one from the start, each resumed branch holds one, and an async context holds one from its
creation until its first branch finishes. When the last hold is given back the span is finished:
its frames, sorted by sequence, and its root record are handed over once, and nothing more is
written into it. A discarded span is never handed over.

* `acquire` takes a hold, unless the span is no longer open or has no hold left;
* `release` gives one back and finishes the span on the last one;
* `pushEvent` keeps a sealed frame, or only counts it past `maxEvents`.

Main statements:

* `acquire_pending` — a hold taken adds one to the count;
* `release_acquire` — giving back a hold just taken changes nothing and finishes nothing.
-/

namespace TraceAgent

/-- Whether a span is still written, was handed over, or was thrown away. -/
inductive SpanStatus where
  | recording
  | finished
  | discarded
  deriving Repr, DecidableEq, Inhabited

namespace SpanStatus

/-- The number the debug form shows: 0, 1 and 2. -/
def code : SpanStatus → Nat
  | recording => 0
  | finished => 1
  | discarded => 2

end SpanStatus

/-- A span under construction. -/
structure SpanState where
  traceId : TraceId
  nextSequence : UInt32 := 0
  pending : Nat := 1
  status : SpanStatus := .recording
  root : RootRecord := {}
  events : List SpanEvent := []
  dropped : UInt32 := 0
  maxEvents : Nat
  deriving Inhabited

namespace SpanState

/-- Whether frames may still be written. -/
def isOpen (s : SpanState) : Bool := s.status == .recording

/-- Hands out the next frame sequence number. -/
def takeSequence (s : SpanState) : Nat × SpanState :=
  (s.nextSequence.toNat, { s with nextSequence := s.nextSequence + 1 })

/-- Takes a pending hold; `none` once the span is finished, discarded or without holds. -/
def acquire (s : SpanState) : Option SpanState :=
  if s.pending == 0 || !s.isOpen then none else some { s with pending := s.pending + 1 }

/-- The span as handed to processors. -/
def finishedSpan (s : SpanState) : FinishedSpan :=
  ⟨s.traceId, s.root, s.events.mergeSort (fun a b => a.sequence ≤ b.sequence), s.dropped⟩

/-- Finishes the span: an open span is handed over once, with its frames taken out. -/
def finish (s : SpanState) : SpanState × Option FinishedSpan :=
  if s.isOpen then ({ s with status := .finished, events := [], root := {} }, some s.finishedSpan)
  else (s, none)

/-- Gives back a pending hold; the last one finishes the span. -/
def release (s : SpanState) : SpanState × Option FinishedSpan × List LogEvent :=
  match s.pending with
  | 0 => (s, none, [.warn "Span.Release.Underflow"])
  | 1 =>
    let (s, done) := { s with pending := 0 }.finish
    (s, done, [])
  | n + 2 => ({ s with pending := n + 1 }, none, [])

/-- Keeps a sealed frame, or counts it when the span is full; ignored once the span is not open. -/
def pushEvent (s : SpanState) (e : SpanEvent) : SpanState × List LogEvent :=
  if !s.isOpen then (s, [.dbg "Span.PushEvent.NotOpen"])
  else if s.events.length ≥ s.maxEvents then ({ s with dropped := s.dropped + 1 }, [])
  else ({ s with events := s.events ++ [e] }, [])

/-- Throws the span away; `false` if it was already finished or discarded. -/
def discard (s : SpanState) : Bool × SpanState :=
  if s.isOpen then (true, { s with status := .discarded, events := [] }) else (false, s)

/-- Changes the root record while the span is open. -/
def updateRoot (s : SpanState) (f : RootRecord → RootRecord) : SpanState :=
  if s.isOpen then { s with root := f s.root } else s

theorem acquire_pending (s t : SpanState) (h : s.acquire = some t) : t.pending = s.pending + 1 := by
  unfold acquire at h
  split at h
  · cases h
  · cases h
    rfl

theorem release_acquire (s t : SpanState) (h : s.acquire = some t) : t.release = (s, none, []) := by
  unfold acquire at h
  split at h
  · cases h
  · cases h
    rename_i hp
    simp only [Bool.or_eq_true, beq_iff_eq, Bool.not_eq_true', not_or] at hp
    obtain ⟨hp, _⟩ := hp
    obtain ⟨n, hn⟩ : ∃ n, s.pending = n + 1 := Nat.exists_eq_succ_of_ne_zero hp
    cases s
    simp_all [release]

end SpanState

end TraceAgent
