import Mathlib
import TraceAgent.Proofs.Stack.Metadata
import TraceAgent.Proofs.Holds.Ledger

/-!
# Frames offered to a shared span

A span is written by several traces at once: the synchronous trace that opened it and every
branch resumed from its async contexts. Each trace keeps its own stack of frames; all of them draw
their sequence numbers from the span's one 32-bit counter, and offer their sealed frames to the
span, which keeps the first `maxEvents` of them and counts the rest in a 32-bit counter.

`Writers` is the specification of such a span and of the traces writing into it: each trace is a
`Writer` with its logical stack while it is open, and an operation (`SpanWork`) is a call into one
trace's frames, the close or the discard of one trace, or a hold on the span given back. Each step
reports its `Effect`: the frames it opened, the frames it offered, those of them offered while the
span was open, and the span handed over.

What a step does to the span is said once (`step_span`): it draws the numbers of the frames it
opens, offers its frames, and then keeps the span, gives a hold back, or throws it away. From that:

* `run_numbers` — the frames are numbered in opening order by consecutive values of the counter,
  taken modulo `2^32`;
* `run_numbers_subperm` — the numbers of the frames offered and of those still open are among the
  numbers of the frames open at the start and of those opened, each at most as often;
* `run_exports` — the span is handed over at most once, holding the first `maxEvents` frames
  offered while it was open, sorted by number, with the rest counted modulo `2^32`;
* `run_of_not_open` — once the span is finished or discarded nothing is kept, counted or handed
  over.
-/

open List

namespace TraceAgent

open LogicalStack

namespace SpanState

variable {s : SpanState} {past : List SpanEvent}

/-- An open span that was offered the frames `past`, in order: it keeps the first `maxEvents` of
them and counts the others in its 32-bit counter. -/
structure Logged (s : SpanState) (past : List SpanEvent) : Prop where
  events : s.events = past.take s.maxEvents
  dropped : s.dropped.toNat = (past.length - s.maxEvents) % UInt32.size

/-- The span once the frames `es` are offered to it, in order. -/
def offerAll (s : SpanState) (es : List SpanEvent) : SpanState :=
  es.foldl (fun s e => (s.pushEvent e).1) s

/-- The span once `k` sequence numbers are drawn from it. -/
def draws (s : SpanState) : Nat → SpanState
  | 0 => s
  | k + 1 => (s.draws k).takeSequence.2

@[simp] theorem pushEvent_maxEvents (s : SpanState) (e : SpanEvent) :
    (s.pushEvent e).1.maxEvents = s.maxEvents := by
  unfold pushEvent
  split
  · rfl
  · split <;> rfl

@[simp] theorem pushEvent_nextSequence (s : SpanState) (e : SpanEvent) :
    (s.pushEvent e).1.nextSequence = s.nextSequence := by
  unfold pushEvent
  split
  · rfl
  · split <;> rfl

@[simp] theorem pushEvent_traceId (s : SpanState) (e : SpanEvent) :
    (s.pushEvent e).1.traceId = s.traceId := by
  unfold pushEvent
  split
  · rfl
  · split <;> rfl

theorem pushEvent_of_not_open (h : s.isOpen = false) (e : SpanEvent) : (s.pushEvent e).1 = s := by
  simp [pushEvent, h]

/-- A frame offered to an open span is kept while there is room, and counted once there is not. -/
theorem Logged.pushEvent (h : s.Logged past) (ho : s.isOpen = true) (e : SpanEvent) :
    (s.pushEvent e).1.Logged (past ++ [e]) := by
  have hlen : s.events.length = min s.maxEvents past.length := by rw [h.events, List.length_take]
  by_cases hfull : s.events.length ≥ s.maxEvents
  · -- full: the frame is only counted
    have hle : s.maxEvents ≤ past.length := by omega
    have hpush : (s.pushEvent e).1 = { s with dropped := s.dropped + 1 } := by
      simp [SpanState.pushEvent, ho, hfull]
    rw [hpush]
    constructor
    · exact h.events.trans (List.take_append_of_le_length hle).symm
    · change (s.dropped + 1).toNat = _
      rw [UInt32.toNat_add, h.dropped, UInt32.toNat_one, List.length_append, List.length_singleton]
      change ((past.length - s.maxEvents) % UInt32.size + 1) % UInt32.size = _
      rw [Nat.mod_add_mod, show past.length - s.maxEvents + 1 = past.length + 1 - s.maxEvents by omega]
  · -- room left: the frame is kept, and nothing was counted yet
    have hlt : past.length < s.maxEvents := by omega
    have hpush : (s.pushEvent e).1 = { s with events := s.events ++ [e] } := by
      simp [SpanState.pushEvent, ho, hfull]
    rw [hpush]
    constructor
    · change s.events ++ [e] = _
      rw [h.events, List.take_of_length_le hlt.le, List.take_of_length_le (by simp; omega)]
    · change s.dropped.toNat = _
      rw [h.dropped, List.length_append, List.length_singleton,
        Nat.sub_eq_zero_of_le hlt.le, Nat.sub_eq_zero_of_le hlt]

@[simp] theorem offerAll_nil (s : SpanState) : s.offerAll [] = s := rfl

theorem offerAll_cons (s : SpanState) (e : SpanEvent) (es : List SpanEvent) :
    s.offerAll (e :: es) = (s.pushEvent e).1.offerAll es := rfl

@[simp] theorem offerAll_isOpen (s : SpanState) (es : List SpanEvent) :
    (s.offerAll es).isOpen = s.isOpen := by
  induction es generalizing s with
  | nil => rfl
  | cons e es ih => rw [offerAll_cons, ih, pushEvent_isOpen]

@[simp] theorem offerAll_maxEvents (s : SpanState) (es : List SpanEvent) :
    (s.offerAll es).maxEvents = s.maxEvents := by
  induction es generalizing s with
  | nil => rfl
  | cons e es ih => rw [offerAll_cons, ih, pushEvent_maxEvents]

@[simp] theorem offerAll_nextSequence (s : SpanState) (es : List SpanEvent) :
    (s.offerAll es).nextSequence = s.nextSequence := by
  induction es generalizing s with
  | nil => rfl
  | cons e es ih => rw [offerAll_cons, ih, pushEvent_nextSequence]

@[simp] theorem offerAll_traceId (s : SpanState) (es : List SpanEvent) :
    (s.offerAll es).traceId = s.traceId := by
  induction es generalizing s with
  | nil => rfl
  | cons e es ih => rw [offerAll_cons, ih, pushEvent_traceId]

@[simp] theorem offerAll_pending (s : SpanState) (es : List SpanEvent) :
    (s.offerAll es).pending = s.pending := by
  induction es generalizing s with
  | nil => rfl
  | cons e es ih => rw [offerAll_cons, ih, pushEvent_pending]

theorem offerAll_of_not_open (h : s.isOpen = false) (es : List SpanEvent) : s.offerAll es = s := by
  induction es with
  | nil => rfl
  | cons e es ih => rw [offerAll_cons, pushEvent_of_not_open h, ih]

/-- Frames offered to an open span extend what it was offered. -/
theorem Logged.offerAll (h : s.Logged past) (ho : s.isOpen = true) (es : List SpanEvent) :
    (s.offerAll es).Logged (past ++ es) := by
  induction es generalizing s past with
  | nil => simpa using h
  | cons e es ih =>
    rw [offerAll_cons, List.append_cons]
    exact ih (h.pushEvent ho e) (by rw [pushEvent_isOpen, ho])

@[simp] theorem draws_zero (s : SpanState) : s.draws 0 = s := rfl

theorem draws_nextSequence (s : SpanState) (k : Nat) :
    (s.draws k).nextSequence.toNat = (s.nextSequence.toNat + k) % UInt32.size := by
  induction k with
  | zero => exact (Nat.mod_eq_of_lt s.nextSequence.toNat_lt).symm
  | succ k ih =>
    change ((s.draws k).nextSequence + 1).toNat = _
    rw [UInt32.toNat_add, ih, UInt32.toNat_one]
    change ((s.nextSequence.toNat + k) % UInt32.size + 1) % UInt32.size = _
    rw [Nat.mod_add_mod, Nat.add_assoc]

/-- Drawing numbers changes nothing but the counter. -/
theorem draws_eq (s : SpanState) (k : Nat) : s.draws k = { s with nextSequence := (s.draws k).nextSequence } := by
  induction k with
  | zero => rfl
  | succ k ih =>
    change (s.draws k).takeSequence.2 = _
    rw [ih]
    rfl

@[simp] theorem draws_isOpen (s : SpanState) (k : Nat) : (s.draws k).isOpen = s.isOpen := by
  rw [draws_eq]
  rfl

@[simp] theorem draws_maxEvents (s : SpanState) (k : Nat) : (s.draws k).maxEvents = s.maxEvents := by
  rw [draws_eq]

@[simp] theorem draws_traceId (s : SpanState) (k : Nat) : (s.draws k).traceId = s.traceId := by
  rw [draws_eq]

@[simp] theorem draws_events (s : SpanState) (k : Nat) : (s.draws k).events = s.events := by
  rw [draws_eq]

@[simp] theorem draws_dropped (s : SpanState) (k : Nat) : (s.draws k).dropped = s.dropped := by
  rw [draws_eq]

theorem Logged.draws (h : s.Logged past) (k : Nat) : (s.draws k).Logged past := by
  rw [draws_eq]
  exact ⟨h.events, h.dropped⟩

/-- A release gives one hold back, and the last hold of an open span finishes it: its frames are
taken out with its root record. -/
theorem release_fst (s : SpanState) : s.release.1 =
    if s.isOpen = true ∧ s.pending = 1 then { s with pending := 0, status := .finished, events := [], root := {} }
    else { s with pending := s.pending - 1 } := by
  unfold release
  split <;> rename_i hp
  · cases s
    simp_all
  · have ho : ({ s with pending := 0 } : SpanState).isOpen = s.isOpen := rfl
    simp only [finish, ho]
    by_cases h : s.isOpen = true <;> simp [h, hp]
  · simp [hp]

/-- A release hands over an open span as it stands, if anything. -/
theorem release_handed_eq {fs : FinishedSpan} (h : s.release.2.1 = some fs) :
    s.isOpen = true ∧ fs = s.finishedSpan := by
  unfold release at h
  split at h
  · cases h
  · simp only [finish] at h
    split at h
    · cases h
      exact ⟨by assumption, rfl⟩
    · cases h
  · cases h

end SpanState

/-- How an operation leaves the span once its frames are offered: as it is, with one hold given
back, or thrown away; only a hold given back may hand the span over. -/
inductive Settle where
  | keep
  | release
  | discard

namespace Settle

/-- The span a settle leaves, and the span it hands over. -/
def apply : Settle → SpanState → SpanState × Option FinishedSpan
  | keep, s => (s, none)
  | release, s => (s.release.1, s.release.2.1)
  | discard, s => (s.discard.2, none)

variable {s : SpanState}

theorem apply_isOpen (z : Settle) (s : SpanState) : (z.apply s).1.isOpen = true → s.isOpen = true := by
  cases z with
  | keep => exact id
  | release =>
    intro h
    change s.release.1.isOpen = true at h
    rw [SpanState.release_isOpen, Bool.and_eq_true] at h
    exact h.1
  | discard =>
    intro h
    change s.discard.2.isOpen = true at h
    rw [SpanState.discard_isOpen] at h
    cases h

theorem apply_maxEvents (z : Settle) (s : SpanState) : (z.apply s).1.maxEvents = s.maxEvents := by
  cases z with
  | keep => rfl
  | release =>
    change s.release.1.maxEvents = _
    rw [SpanState.release_fst]
    split <;> rfl
  | discard =>
    change s.discard.2.maxEvents = _
    unfold SpanState.discard
    split <;> rfl

theorem apply_nextSequence (z : Settle) (s : SpanState) : (z.apply s).1.nextSequence = s.nextSequence := by
  cases z with
  | keep => rfl
  | release =>
    change s.release.1.nextSequence = _
    rw [SpanState.release_fst]
    split <;> rfl
  | discard =>
    change s.discard.2.nextSequence = _
    unfold SpanState.discard
    split <;> rfl

theorem apply_traceId (z : Settle) (s : SpanState) : (z.apply s).1.traceId = s.traceId := by
  cases z with
  | keep => rfl
  | release =>
    change s.release.1.traceId = _
    rw [SpanState.release_fst]
    split <;> rfl
  | discard =>
    change s.discard.2.traceId = _
    unfold SpanState.discard
    split <;> rfl

/-- A span that stays open keeps what it holds. -/
theorem apply_logged {past : List SpanEvent} (z : Settle) (h : s.Logged past) (ho : (z.apply s).1.isOpen = true) :
    (z.apply s).1.Logged past := by
  cases z with
  | keep => exact h
  | release =>
    have hkeep : s.release.1 = { s with pending := s.pending - 1 } := by
      rw [SpanState.release_fst, if_neg]
      rintro ⟨-, hp⟩
      change s.release.1.isOpen = true at ho
      rw [SpanState.release_isOpen, Bool.and_eq_true, bne_iff_ne] at ho
      exact ho.2 hp
    change s.release.1.Logged past
    rw [hkeep]
    exact ⟨h.events, h.dropped⟩
  | discard =>
    change s.discard.2.isOpen = true at ho
    rw [SpanState.discard_isOpen] at ho
    cases ho

/-- Once a span is not open, settling it keeps its frames and its count, and hands nothing over. -/
theorem apply_of_not_open (z : Settle) (h : s.isOpen = false) :
    (z.apply s).1.events = s.events ∧ (z.apply s).1.dropped = s.dropped ∧ (z.apply s).1.isOpen = false ∧
      (z.apply s).2 = none := by
  cases z with
  | keep => exact ⟨rfl, rfl, h, rfl⟩
  | release =>
    have hkeep : s.release.1 = { s with pending := s.pending - 1 } := by
      rw [SpanState.release_fst, if_neg]
      rintro ⟨ho, -⟩
      rw [h] at ho
      cases ho
    refine ⟨by simp [apply, hkeep], by simp [apply, hkeep], ?_, ?_⟩
    · change s.release.1.isOpen = false
      rw [hkeep]
      exact h
    · change s.release.2.1 = none
      cases hr : s.release.2.1 with
      | none => rfl
      | some fs =>
        rw [(SpanState.release_handed_eq hr).1] at h
        cases h
  | discard =>
    have hd : s.discard = (false, s) := by simp [SpanState.discard, h]
    simp [apply, hd, h]

/-- Only a hold given back hands a span over: an open span, as it stands, which is then no longer
open. -/
theorem apply_handed {z : Settle} {fs : FinishedSpan} (h : (z.apply s).2 = some fs) :
    s.isOpen = true ∧ fs = s.finishedSpan ∧ (z.apply s).1.isOpen = false := by
  cases z with
  | keep => cases h
  | release =>
    obtain ⟨ho, rfl⟩ := SpanState.release_handed_eq h
    exact ⟨ho, rfl, SpanState.release_closes h⟩
  | discard => cases h

end Settle

theorem List.flatMap_update_perm {α β γ : Type} [DecidableEq α] {l : List α} (hl : l.Nodup) {a : α}
    (ha : a ∈ l) (g : α → γ) (c : γ) (h : γ → List β) :
    (l.flatMap (fun x => h (Function.update g a c x)) ++ h (g a)).Perm (l.flatMap (fun x => h (g x)) ++ h c) := by
  induction l with
  | nil => cases ha
  | cons x l ih =>
    rw [List.nodup_cons] at hl
    simp only [List.flatMap_cons, List.append_assoc]
    by_cases hx : x = a
    · subst hx
      -- `a` is listed once, so the other entries are unchanged
      have hrest : l.flatMap (fun y => h (Function.update g x c y)) = l.flatMap (fun y => h (g y)) :=
        List.flatMap_congr fun y hy => by
          rw [Function.update_of_ne (by rintro rfl; exact hl.1 hy)]
      rw [Function.update_self, hrest]
      calc h c ++ (l.flatMap (fun y => h (g y)) ++ h (g x))
          _ ~ (l.flatMap (fun y => h (g y)) ++ h (g x)) ++ h c := List.perm_append_comm
          _ ~ (h (g x) ++ l.flatMap (fun y => h (g y))) ++ h c := List.perm_append_comm.append_right _
          _ = h (g x) ++ (l.flatMap (fun y => h (g y)) ++ h c) := List.append_assoc _ _ _
    · have ha' : a ∈ l := (List.mem_cons.1 ha).resolve_left (Ne.symm hx)
      rw [Function.update_of_ne hx]
      exact (ih hl.2 ha').append_left _

/-- A trace writing into a shared span, as the span sees it: the number of levels its call stack
is limited to, the branch it records as (none for the synchronous side), and its logical stack
while it is open. -/
structure Writer where
  limit : Nat
  branch : Option LocalAsyncId
  frames : Option LogicalStack

namespace Writer

/-- The recorded frames the writer holds open, innermost first. -/
def openFrames (wr : Writer) : List SpanEvent := (wr.frames.map recorded).getD []

end Writer

/-- An operation on the traces writing into a span. -/
inductive SpanWork where
  /-- A begin, an end or a write on the frames of trace `t`. -/
  | call (t : TraceRef) (c : FrameCall)
  /-- Closing trace `t`. -/
  | close (t : TraceRef)
  /-- Throwing trace `t` away with its span. -/
  | discard (t : TraceRef)
  /-- A hold on the span given back: a branch's finish, or an async context's last reference. -/
  | release

namespace SpanWork

/-- Whether the operation works on one of the traces `refs`, or on the span alone. -/
def within (refs : List TraceRef) : SpanWork → Bool
  | call t _ => refs.contains t
  | close t => refs.contains t
  | discard t => refs.contains t
  | release => true

end SpanWork

/-- What operations did to a span: the frames they opened, in order, the frames they offered to
it, those of them offered while it was open, and the spans they handed over. -/
structure Effect where
  opened : List SpanEvent := []
  offered : List SpanEvent := []
  kept : List SpanEvent := []
  exported : List FinishedSpan := []

namespace Effect

/-- Frames offered to the span `s`, kept in view while `s` is open. -/
def offer (s : SpanState) (es : List SpanEvent) : Effect :=
  { offered := es, kept := if s.isOpen then es else [] }

/-- One effect, then another. -/
def append (a b : Effect) : Effect :=
  ⟨a.opened ++ b.opened, a.offered ++ b.offered, a.kept ++ b.kept, a.exported ++ b.exported⟩

end Effect

namespace FrameWrite

@[simp] theorem apply_sequence (fw : FrameWrite) (e : SpanEvent) : (fw.apply e).sequence = e.sequence := by
  cases fw
  case exception x =>
    cases x with
    | none => rfl
    | some x => rw [apply, SpanEvent.noteException_eq]
  all_goals rfl

end FrameWrite

@[simp] theorem LogicalStack.recorded_nil : recorded [] = [] := rfl

theorem LogicalStack.recorded_cons (x : Option SpanEvent) (L : LogicalStack) :
    recorded (x :: L) = x.toList ++ recorded L := by
  cases x <;> rfl

/-- A write into the top frame keeps the numbers of the recorded frames. -/
theorem LogicalStack.recorded_write_sequence (fw : FrameWrite) (L : LogicalStack) :
    (recorded (write fw.apply L)).map SpanEvent.sequence = (recorded L).map SpanEvent.sequence := by
  match L with
  | [] => rfl
  | none :: rest => rfl
  | some e :: rest =>
    rw [write_cons, recorded_cons, recorded_cons]
    simp

namespace FrameCall

/-- What a call on the frames `L` of a trace limited to `limit` levels, recording as `br`, does to
the span `s`: a begin within the limit opens a frame numbered by the span's counter, an end offers
the top frame when it is recorded, a write does nothing to the span. -/
def effect (limit : Nat) (br : Option LocalAsyncId) (s : SpanState) (L : LogicalStack) : FrameCall → Effect
  | blockBegin => { opened := (opened limit s.nextSequence.toNat br L).toList }
  | blockEnd => Effect.offer s (recorded (L.take 1))
  | write _ => {}

/-- A call changes the recorded frames of its trace by the frame it opens and the frame it offers;
a write on the top frame keeps its number. -/
theorem numbers_perm (limit : Nat) (br : Option LocalAsyncId) (s : SpanState) (L : LogicalStack)
    (c : FrameCall) :
    ((recorded (FrameMachine.step limit br c.toStack ⟨L, s⟩).2.stack ++ (c.effect limit br s L).offered).map
        SpanEvent.sequence).Perm ((recorded L ++ (c.effect limit br s L).opened).map SpanEvent.sequence) := by
  cases c with
  | blockBegin =>
    simp only [toStack, FrameMachine.step, effect, recorded_cons, List.append_nil, List.map_append]
    exact List.perm_append_comm
  | blockEnd =>
    cases L with
    | nil => exact List.Perm.refl _
    | cons x rest =>
      simp only [toStack, FrameMachine.step, effect, Effect.offer, List.take_succ_cons, List.take_zero,
        recorded_cons, recorded_nil, List.append_nil, List.map_append]
      exact List.perm_append_comm
  | write fw =>
    simp only [toStack, FrameMachine.step, effect, List.append_nil]
    rw [recorded_write_sequence]

end FrameCall

/-- A span and the traces `refs` writing into it, each described by `writer`. -/
structure Writers where
  refs : List TraceRef
  refs_nodup : refs.Nodup
  writer : TraceRef → Writer
  span : SpanState

namespace Writers

/-- The writers with trace `t` described by `wr`, and the span `s`. -/
def update (Q : Writers) (t : TraceRef) (wr : Writer) (s : SpanState) : Writers :=
  { Q with writer := Function.update Q.writer t wr, span := s }

/-- The recorded frames the writers hold open. -/
def allOpen (Q : Writers) : List SpanEvent := Q.refs.flatMap fun t => (Q.writer t).openFrames

/-- One operation: what it did to the span, and the writers it leaves. A closed trace takes no
call and no second close. -/
def step (Q : Writers) : SpanWork → Effect × Writers
  | .call t c =>
    match (Q.writer t).frames with
    | none => ({}, Q)
    | some L =>
      let q := (FrameMachine.step (Q.writer t).limit (Q.writer t).branch c.toStack ⟨L, Q.span⟩).2
      (c.effect (Q.writer t).limit (Q.writer t).branch Q.span L,
        Q.update t { Q.writer t with frames := some q.stack } q.span)
  | .close t =>
    match (Q.writer t).frames with
    | none => ({}, Q)
    | some L =>
      -- the frames still open are sealed, and the synchronous side then gives its hold back
      let z : Settle := if (Q.writer t).branch.isNone then .release else .keep
      let r := z.apply (FrameMachine.close ⟨L, Q.span⟩).span
      ({ Effect.offer Q.span (recorded L) with exported := r.2.toList },
        Q.update t { Q.writer t with frames := none } r.1)
  | .discard t => ({}, Q.update t { Q.writer t with frames := none } Q.span.discard.2)
  | .release => ({ exported := Q.span.release.2.1.toList }, { Q with span := Q.span.release.1 })

/-- Operations in order: what they did to the span, one after another, and the writers they
leave. -/
def run (Q : Writers) : List SpanWork → Effect × Writers
  | [] => ({}, Q)
  | op :: ops => ((Q.step op).1.append ((Q.step op).2.run ops).1, ((Q.step op).2.run ops).2)

theorem step_refs (Q : Writers) (op : SpanWork) : (Q.step op).2.refs = Q.refs := by
  cases op with
  | call t c => cases hf : (Q.writer t).frames <;> simp [step, hf, update]
  | close t => cases hf : (Q.writer t).frames <;> simp [step, hf, update]
  | discard t => rfl
  | release => rfl

theorem allOpen_update (Q : Writers) {t : TraceRef} (ht : t ∈ Q.refs) (wr : Writer) (s : SpanState) :
    ((Q.update t wr s).allOpen ++ (Q.writer t).openFrames).Perm (Q.allOpen ++ wr.openFrames) :=
  List.flatMap_update_perm Q.refs_nodup ht Q.writer wr Writer.openFrames

/-- What one step does to the span, said once: it draws the numbers of the frames it opens from
the span's counter, offers its frames, keeping them in view while the span is open, and settles
the span, which it hands over only when a hold given back is the last. -/
theorem step_span (Q : Writers) (op : SpanWork) :
    ∃ z : Settle,
      (Q.step op).2.span = (z.apply ((Q.span.draws (Q.step op).1.opened.length).offerAll (Q.step op).1.offered)).1 ∧
      (Q.step op).1.exported =
        (z.apply ((Q.span.draws (Q.step op).1.opened.length).offerAll (Q.step op).1.offered)).2.toList ∧
      (Q.step op).1.kept = (if Q.span.isOpen then (Q.step op).1.offered else []) ∧
      (Q.step op).1.opened.map SpanEvent.sequence =
        (List.range (Q.step op).1.opened.length).map fun j => (Q.span.nextSequence.toNat + j) % UInt32.size := by
  have hn : Q.span.nextSequence.toNat % UInt32.size = Q.span.nextSequence.toNat :=
    Nat.mod_eq_of_lt Q.span.nextSequence.toNat_lt
  cases op with
  | call t c =>
    cases hf : (Q.writer t).frames with
    | none => exact ⟨.keep, by simp [step, hf, Settle.apply]⟩
    | some L =>
      cases c with
      | blockBegin =>
        refine ⟨.keep, ?_⟩
        by_cases hroom : L.length < (Q.writer t).limit
        · simp [step, hf, FrameCall.effect, FrameCall.toStack, FrameMachine.step, opened, hroom, Settle.apply,
            update, SpanState.draws, hn]
        · simp [step, hf, FrameCall.effect, FrameCall.toStack, FrameMachine.step, opened, hroom, Settle.apply,
            update]
      | blockEnd =>
        refine ⟨.keep, ?_⟩
        cases L with
        | nil => simp [step, hf, FrameCall.effect, FrameCall.toStack, FrameMachine.step, Effect.offer,
            Settle.apply, update, recorded]
        | cons x rest =>
          cases x <;> simp [step, hf, FrameCall.effect, FrameCall.toStack, FrameMachine.step,
            FrameMachine.sealFrame, Effect.offer, Settle.apply, update, recorded, SpanState.offerAll]
      | write fw =>
        exact ⟨.keep, by simp [step, hf, FrameCall.effect, FrameCall.toStack, FrameMachine.step,
          Settle.apply, update]⟩
  | close t =>
    cases hf : (Q.writer t).frames with
    | none => exact ⟨.keep, by simp [step, hf, Settle.apply]⟩
    | some L =>
      refine ⟨if (Q.writer t).branch.isNone then .release else .keep, ?_⟩
      simp [step, hf, Effect.offer, FrameMachine.close, update, SpanState.offerAll]
  | discard t => exact ⟨.discard, by simp [step, Settle.apply, update]⟩
  | release =>
    refine ⟨.release, ?_⟩
    cases hr : Q.span.release.2.1 <;> simp [step, Settle.apply, hr]

/-- What one step does to the frames held open: the numbers of the frames it leaves open and of
those it offered are among the numbers of the frames open before and of the frame it opened. -/
theorem step_subperm (Q : Writers) {op : SpanWork} (hop : op.within Q.refs = true) :
    ((Q.step op).2.allOpen ++ (Q.step op).1.offered).map SpanEvent.sequence <+~
      (Q.allOpen ++ (Q.step op).1.opened).map SpanEvent.sequence := by
  rw [List.subperm_iff_count]
  intro x
  cases op with
  | call t c =>
    have ht : t ∈ Q.refs := by simpa [SpanWork.within] using hop
    cases hf : (Q.writer t).frames with
    | none => simp [step, hf]
    | some L =>
      simp only [step, hf, List.map_append, List.count_append]
      have hc := (FrameCall.numbers_perm (Q.writer t).limit (Q.writer t).branch Q.span L c).count_eq x
      set q := (FrameMachine.step (Q.writer t).limit (Q.writer t).branch c.toStack ⟨L, Q.span⟩).2
      have hu := ((Q.allOpen_update ht { Q.writer t with frames := some q.stack } q.span).map
        SpanEvent.sequence).count_eq x
      simp only [List.map_append, List.count_append, Writer.openFrames, hf, Option.map_some,
        Option.getD_some] at hu hc
      omega
  | close t =>
    have ht : t ∈ Q.refs := by simpa [SpanWork.within] using hop
    cases hf : (Q.writer t).frames with
    | none => simp [step, hf]
    | some L =>
      have hu := ((Q.allOpen_update ht { Q.writer t with frames := none }
        ((if (Q.writer t).branch.isNone then Settle.release else Settle.keep).apply
          (FrameMachine.close ⟨L, Q.span⟩).span).1).map SpanEvent.sequence).count_eq x
      simp only [List.map_append, List.count_append, Writer.openFrames, hf, Option.map_some,
        Option.map_none, Option.getD_some, Option.getD_none, List.map_nil, List.count_nil] at hu
      simp only [step, hf, Effect.offer, List.map_append, List.count_append, List.map_nil, List.count_nil]
      omega
  | discard t =>
    have ht : t ∈ Q.refs := by simpa [SpanWork.within] using hop
    have hu := ((Q.allOpen_update ht { Q.writer t with frames := none } Q.span.discard.2).map
      SpanEvent.sequence).count_eq x
    simp only [List.map_append, List.count_append, Writer.openFrames, Option.map_none, Option.getD_none,
      List.map_nil, List.count_nil] at hu
    simp only [step, List.map_append, List.count_append, List.map_nil, List.count_nil]
    omega
  | release => simp [step, allOpen]

/-! ### What one step keeps -/

section Step

variable (Q : Writers) (op : SpanWork) {past : List SpanEvent}

theorem step_nextSequence :
    (Q.step op).2.span.nextSequence.toNat =
      (Q.span.nextSequence.toNat + (Q.step op).1.opened.length) % UInt32.size := by
  obtain ⟨z, hspan, -⟩ := Q.step_span op
  rw [hspan, Settle.apply_nextSequence, SpanState.offerAll_nextSequence, SpanState.draws_nextSequence]

theorem step_maxEvents : (Q.step op).2.span.maxEvents = Q.span.maxEvents := by
  obtain ⟨z, hspan, -⟩ := Q.step_span op
  rw [hspan, Settle.apply_maxEvents, SpanState.offerAll_maxEvents, SpanState.draws_maxEvents]

theorem step_traceId : (Q.step op).2.span.traceId = Q.span.traceId := by
  obtain ⟨z, hspan, -⟩ := Q.step_span op
  rw [hspan, Settle.apply_traceId, SpanState.offerAll_traceId, SpanState.draws_traceId]

/-- A span that is not open is never opened again. -/
theorem step_isOpen : (Q.step op).2.span.isOpen = true → Q.span.isOpen = true := by
  obtain ⟨z, hspan, -⟩ := Q.step_span op
  intro h
  rw [hspan] at h
  simpa using Settle.apply_isOpen z _ h

/-- A step that hands the span over leaves it no longer open. -/
theorem step_exported_not_open {fs : FinishedSpan} (hfs : fs ∈ (Q.step op).1.exported) :
    (Q.step op).2.span.isOpen = false := by
  obtain ⟨z, hspan, hexp, -⟩ := Q.step_span op
  rw [hexp, Option.mem_toList] at hfs
  rw [hspan]
  exact (Settle.apply_handed hfs).2.2

theorem step_kept_sublist : (Q.step op).1.kept <+ (Q.step op).1.offered := by
  obtain ⟨z, -, -, hkept, -⟩ := Q.step_span op
  rw [hkept]
  split
  · exact List.Sublist.refl _
  · exact List.nil_sublist _

theorem step_exported_length : (Q.step op).1.exported.length ≤ 1 := by
  obtain ⟨z, -, hexp, -⟩ := Q.step_span op
  rw [hexp]
  cases (z.apply _).2 <;> simp

/-- An open span that stays open has kept the first frames offered while it was open. -/
theorem step_logged (hQ : Q.span.isOpen = true → Q.span.Logged past) :
    (Q.step op).2.span.isOpen = true → (Q.step op).2.span.Logged (past ++ (Q.step op).1.kept) := by
  obtain ⟨z, hspan, -, hkept, -⟩ := Q.step_span op
  intro ho
  have hopen := Q.step_isOpen op ho
  rw [hkept, if_pos hopen]
  rw [hspan] at ho ⊢
  exact z.apply_logged (((hQ hopen).draws _).offerAll (by simpa using hopen) _) ho

/-- A step hands the span over only when it is open, and then as it stands once the step's frames
are offered; it is not open afterwards. -/
theorem step_exported (hQ : Q.span.isOpen = true → Q.span.Logged past) {fs : FinishedSpan}
    (hfs : fs ∈ (Q.step op).1.exported) :
    Q.span.isOpen = true ∧ (Q.step op).2.span.isOpen = false ∧ fs.traceId = Q.span.traceId ∧
      fs.events = ((past ++ (Q.step op).1.kept).take Q.span.maxEvents).mergeSort
        (fun a b => a.sequence ≤ b.sequence) ∧
      fs.droppedEvents.toNat = ((past ++ (Q.step op).1.kept).length - Q.span.maxEvents) % UInt32.size := by
  obtain ⟨z, hspan, hexp, hkept, -⟩ := Q.step_span op
  rw [hexp, Option.mem_toList] at hfs
  obtain ⟨hopen, rfl, hclosed⟩ := Settle.apply_handed hfs
  have hopen₀ : Q.span.isOpen = true := by simpa using hopen
  have hlog := ((hQ hopen₀).draws (Q.step op).1.opened.length).offerAll (by simpa using hopen₀) (Q.step op).1.offered
  rw [hkept, if_pos hopen₀, hspan]
  refine ⟨hopen₀, hclosed, by simp [SpanState.finishedSpan], ?_, ?_⟩
  · simp only [SpanState.finishedSpan, hlog.events, SpanState.offerAll_maxEvents, SpanState.draws_maxEvents]
  · simp only [SpanState.finishedSpan, hlog.dropped, SpanState.offerAll_maxEvents, SpanState.draws_maxEvents]

/-- Once the span is finished or discarded, a step keeps nothing more in view, leaves the span's
frames and count as they are, and hands nothing over. -/
theorem step_of_not_open (h : Q.span.isOpen = false) :
    (Q.step op).2.span.events = Q.span.events ∧ (Q.step op).2.span.dropped = Q.span.dropped ∧
      (Q.step op).2.span.isOpen = false ∧ (Q.step op).1.kept = [] ∧ (Q.step op).1.exported = [] := by
  obtain ⟨z, hspan, hexp, hkept, -⟩ := Q.step_span op
  have hd : (Q.span.draws (Q.step op).1.opened.length).isOpen = false := by simpa using h
  obtain ⟨he, hdr, ho, hn⟩ := Settle.apply_of_not_open z hd
  rw [SpanState.offerAll_of_not_open hd] at hspan hexp
  rw [hspan, he, hdr, hexp, hn, hkept, if_neg (by simp [h])]
  exact ⟨by simp, by simp, ho, rfl, rfl⟩

end Step

/-! ### What a run keeps -/

@[simp] theorem run_nil (Q : Writers) : Q.run [] = ({}, Q) := rfl

theorem run_cons (Q : Writers) (op : SpanWork) (ops : List SpanWork) :
    Q.run (op :: ops) = ((Q.step op).1.append ((Q.step op).2.run ops).1, ((Q.step op).2.run ops).2) := rfl

theorem run_append (Q : Writers) (xs ys : List SpanWork) :
    Q.run (xs ++ ys) = ((Q.run xs).1.append ((Q.run xs).2.run ys).1, ((Q.run xs).2.run ys).2) := by
  induction xs generalizing Q with
  | nil => simp [Effect.append]
  | cons op xs ih => simp [run_cons, ih, Effect.append]

theorem run_refs (Q : Writers) (ops : List SpanWork) : (Q.run ops).2.refs = Q.refs := by
  induction ops generalizing Q with
  | nil => rfl
  | cons op ops ih => rw [run_cons, ih, step_refs]

/-- The frames are numbered in opening order by consecutive values of the span's counter, taken
modulo `2^32`, and the counter ends past the last of them. -/
theorem run_numbers (Q : Writers) (ops : List SpanWork) :
    (Q.run ops).1.opened.map SpanEvent.sequence =
        (List.range (Q.run ops).1.opened.length).map (fun j => (Q.span.nextSequence.toNat + j) % UInt32.size) ∧
      (Q.run ops).2.span.nextSequence.toNat =
        (Q.span.nextSequence.toNat + (Q.run ops).1.opened.length) % UInt32.size := by
  induction ops generalizing Q with
  | nil => simp [Nat.mod_eq_of_lt Q.span.nextSequence.toNat_lt]
  | cons op ops ih =>
    obtain ⟨-, -, -, -, hnum⟩ := Q.step_span op
    obtain ⟨ih₁, ih₂⟩ := ih (Q.step op).2
    rw [step_nextSequence] at ih₁ ih₂
    simp only [run_cons, Effect.append, List.map_append, List.length_append, hnum, ih₁, ih₂,
      List.range_add, List.map_map]
    refine ⟨congrArg _ (List.map_congr_left fun j _ => ?_), ?_⟩
    · simp only [Function.comp_apply, Nat.mod_add_mod, Nat.add_assoc]
    · rw [Nat.mod_add_mod, Nat.add_assoc]

/-- Below the counter's wrap the frames are numbered `n, n + 1, …` in opening order. -/
theorem run_numbers_below_wrap (Q : Writers) (ops : List SpanWork)
    (hroom : Q.span.nextSequence.toNat + (Q.run ops).1.opened.length ≤ UInt32.size) :
    (Q.run ops).1.opened.map SpanEvent.sequence =
      (List.range (Q.run ops).1.opened.length).map (Q.span.nextSequence.toNat + ·) := by
  rw [(Q.run_numbers ops).1]
  refine List.map_congr_left fun j hj => Nat.mod_eq_of_lt ?_
  rw [List.mem_range] at hj
  omega

/-- The numbers of the frames offered and of those still open are among the numbers of the frames
open at the start and of those opened, none more often. -/
theorem run_numbers_subperm (Q : Writers) {ops : List SpanWork} (hops : ∀ op ∈ ops, op.within Q.refs = true) :
    ((Q.run ops).2.allOpen ++ (Q.run ops).1.offered).map SpanEvent.sequence <+~
      (Q.allOpen ++ (Q.run ops).1.opened).map SpanEvent.sequence := by
  induction ops generalizing Q with
  | nil => exact List.Subperm.refl _
  | cons op ops ih =>
    have h₁ := Q.step_subperm (hops op List.mem_cons_self)
    have h₂ := ih (Q.step op).2 fun o ho => by
      rw [step_refs]
      exact hops o (List.mem_cons_of_mem _ ho)
    rw [List.subperm_iff_count] at h₁ h₂ ⊢
    intro x
    have c₁ := h₁ x
    have c₂ := h₂ x
    simp only [run_cons, Effect.append, List.map_append, List.count_append] at c₁ c₂ ⊢
    omega

theorem run_kept_sublist (Q : Writers) (ops : List SpanWork) : (Q.run ops).1.kept <+ (Q.run ops).1.offered := by
  induction ops generalizing Q with
  | nil => exact List.Sublist.refl _
  | cons op ops ih => exact (Q.step_kept_sublist op).append (ih _)

/-- Once the span is finished or discarded, nothing more is kept or counted, and nothing is handed
over. -/
theorem run_of_not_open (Q : Writers) (ops : List SpanWork) (h : Q.span.isOpen = false) :
    (Q.run ops).2.span.events = Q.span.events ∧ (Q.run ops).2.span.dropped = Q.span.dropped ∧
      (Q.run ops).1.kept = [] ∧ (Q.run ops).1.exported = [] := by
  induction ops generalizing Q with
  | nil => exact ⟨rfl, rfl, rfl, rfl⟩
  | cons op ops ih =>
    obtain ⟨he, hd, ho, hk, hx⟩ := Q.step_of_not_open op h
    obtain ⟨he', hd', hk', hx'⟩ := ih (Q.step op).2 ho
    simp [run_cons, Effect.append, he', hd', hk', hx', he, hd, hk, hx]

/-- The span is handed over at most once, holding the first `maxEvents` frames offered while it
was open, sorted by number, and counting the others modulo `2^32`. -/
theorem run_exports (Q : Writers) (ops : List SpanWork) {past : List SpanEvent}
    (hQ : Q.span.isOpen = true → Q.span.Logged past) :
    (Q.run ops).1.exported.length ≤ 1 ∧
      ∀ fs ∈ (Q.run ops).1.exported, fs.traceId = Q.span.traceId ∧
        fs.events = ((past ++ (Q.run ops).1.kept).take Q.span.maxEvents).mergeSort
          (fun a b => a.sequence ≤ b.sequence) ∧
        fs.droppedEvents.toNat = ((past ++ (Q.run ops).1.kept).length - Q.span.maxEvents) % UInt32.size := by
  induction ops generalizing Q past with
  | nil => simp
  | cons op ops ih =>
    simp only [run_cons, Effect.append]
    cases hx : (Q.step op).1.exported with
    | nil =>
      -- nothing handed over yet: the rest of the run goes on from what the step kept
      obtain ⟨hlen, hcontent⟩ := ih (Q.step op).2 (Q.step_logged op hQ)
      rw [step_maxEvents, step_traceId, List.append_assoc] at hcontent
      exact ⟨hlen, hcontent⟩
    | cons fs rest =>
      -- handed over now: the span is closed for the rest of the run
      obtain ⟨-, hclosed, htid, hev, hdr⟩ := Q.step_exported op hQ (hx ▸ List.mem_cons_self)
      obtain ⟨-, -, hk, hx'⟩ := (Q.step op).2.run_of_not_open ops hclosed
      have hlen := Q.step_exported_length op
      rw [hx] at hlen
      rw [hk, hx', List.append_nil, List.append_nil]
      refine ⟨hlen, fun fs' hfs' => ?_⟩
      obtain rfl : rest = [] := List.length_eq_zero_iff.1 (by simpa using hlen)
      rw [List.mem_singleton] at hfs'
      subst hfs'
      exact ⟨htid, hev, hdr⟩

/-- A span that is not open is never opened again. -/
theorem run_isOpen (Q : Writers) (ops : List SpanWork) : (Q.run ops).2.span.isOpen = true → Q.span.isOpen = true := by
  induction ops generalizing Q with
  | nil => exact id
  | cons op ops ih => exact fun h => Q.step_isOpen op (ih _ h)

/-- A span handed over is no longer open at the end of the run. -/
theorem run_exported_not_open (Q : Writers) (ops : List SpanWork) {fs : FinishedSpan}
    (hfs : fs ∈ (Q.run ops).1.exported) : (Q.run ops).2.span.isOpen = false := by
  induction ops generalizing Q with
  | nil => simp at hfs
  | cons op ops ih =>
    simp only [run_cons, Effect.append, List.mem_append] at hfs ⊢
    rcases hfs with hfs | hfs
    · -- handed over by the first step, and closed from then on
      have hclosed := Q.step_exported_not_open op hfs
      exact Bool.eq_false_iff.2 fun ho => by simpa [hclosed] using (Q.step op).2.run_isOpen ops ho
    · exact ih _ hfs

/-- A discarded span is never handed over. -/
theorem run_discard (Q : Writers) (t : TraceRef) (ops : List SpanWork) :
    (Q.run (.discard t :: ops)).1.exported = [] := by
  have hclosed : (Q.step (.discard t)).2.span.isOpen = false := SpanState.discard_isOpen Q.span
  rw [run_cons]
  exact ((Q.step (.discard t)).2.run_of_not_open ops hclosed).2.2.2

/-- A span discarded while open is never handed over, neither before the discard nor after it. -/
theorem run_discarded (Q : Writers) {pre rest : List SpanWork} {t : TraceRef}
    (hopen : (Q.run pre).2.span.isOpen = true) : (Q.run (pre ++ .discard t :: rest)).1.exported = [] := by
  have hpre : (Q.run pre).1.exported = [] :=
    List.eq_nil_iff_forall_not_mem.2 fun fs hfs => by simp [Q.run_exported_not_open pre hfs] at hopen
  simp only [run_append, Effect.append, hpre, run_discard, List.append_nil]

/-- Below the counter's wrap no number is given twice. If the frames offered before (`past`) and
those open at the start carry distinct numbers below the counter, and the counter has room for
every frame opened, then the frames offered before, those offered by the run and those still
open all carry distinct numbers: each frame is offered at most once, and a frame still open was
not offered. -/
theorem run_nodup (Q : Writers) {ops : List SpanWork} (hops : ∀ op ∈ ops, op.within Q.refs = true)
    {past : List SpanEvent} (hnum : ((past ++ Q.allOpen).map SpanEvent.sequence).Nodup)
    (hlt : ∀ e ∈ past ++ Q.allOpen, e.sequence < Q.span.nextSequence.toNat)
    (hroom : Q.span.nextSequence.toNat + (Q.run ops).1.opened.length ≤ UInt32.size) :
    ((past ++ (Q.run ops).1.offered ++ (Q.run ops).2.allOpen).map SpanEvent.sequence).Nodup := by
  have hall : ((past ++ Q.allOpen).map SpanEvent.sequence ++ (Q.run ops).1.opened.map SpanEvent.sequence).Nodup := by
    rw [List.nodup_append, Q.run_numbers_below_wrap ops hroom]
    refine ⟨hnum, List.Nodup.map (fun a b (h : _ + a = _ + b) => by omega) List.nodup_range, ?_⟩
    intro a ha b hb
    obtain ⟨e, he, rfl⟩ := List.mem_map.1 ha
    obtain ⟨j, -, rfl⟩ := List.mem_map.1 hb
    have := hlt e he
    omega
  -- the numbers offered and still open are among those of `hall`
  have hsub : (past.map SpanEvent.sequence ++ ((Q.run ops).2.allOpen ++ (Q.run ops).1.offered).map SpanEvent.sequence) <+~
      ((past ++ Q.allOpen).map SpanEvent.sequence ++ (Q.run ops).1.opened.map SpanEvent.sequence) := by
    simpa only [List.map_append, List.append_assoc] using
      (List.subperm_append_left (past.map SpanEvent.sequence)).2 (Q.run_numbers_subperm hops)
  obtain ⟨l, hp, hs⟩ := hsub
  refine (List.Perm.nodup_iff ?_).1 (hp.nodup_iff.1 (hs.nodup hall))
  simp only [List.map_append, List.append_assoc]
  exact List.Perm.append_left _ List.perm_append_comm

end Writers

/-- Frames with distinct numbers, sorted by number, stand in strictly increasing order. -/
theorem SpanEvent.mergeSort_sequence_lt {l : List SpanEvent} (hn : (l.map SpanEvent.sequence).Nodup) :
    (l.mergeSort fun a b => a.sequence ≤ b.sequence).Pairwise fun a b => a.sequence < b.sequence := by
  have hle : (l.mergeSort fun a b => a.sequence ≤ b.sequence).Pairwise
      fun a b => decide (a.sequence ≤ b.sequence) = true :=
    List.pairwise_mergeSort (fun a b c hab hbc => by simp at hab hbc ⊢; omega)
      (fun a b => by simp; omega) l
  have hne : (l.mergeSort fun a b => a.sequence ≤ b.sequence).Pairwise fun a b => a.sequence ≠ b.sequence :=
    List.pairwise_map.1 (((List.mergeSort_perm l _).map SpanEvent.sequence).nodup_iff.2 hn)
  exact (hle.and hne).imp fun h => Nat.lt_of_le_of_ne (by simpa using h.1) h.2

/-- Below the counter's wrap the span handed over lists its frames by strictly increasing number. -/
theorem Writers.run_exported_sorted (Q : Writers) {ops : List SpanWork} (hops : ∀ op ∈ ops, op.within Q.refs = true)
    {past : List SpanEvent} (hQ : Q.span.isOpen = true → Q.span.Logged past)
    (hnum : ((past ++ Q.allOpen).map SpanEvent.sequence).Nodup)
    (hlt : ∀ e ∈ past ++ Q.allOpen, e.sequence < Q.span.nextSequence.toNat)
    (hroom : Q.span.nextSequence.toNat + (Q.run ops).1.opened.length ≤ UInt32.size) :
    ∀ fs ∈ (Q.run ops).1.exported, fs.events.Pairwise fun a b => a.sequence < b.sequence := by
  intro fs hfs
  rw [((Q.run_exports ops hQ).2 fs hfs).2.1]
  apply SpanEvent.mergeSort_sequence_lt
  -- the frames kept were offered, and the frames offered carry distinct numbers
  have hsub : (past ++ (Q.run ops).1.kept).take Q.span.maxEvents <+
      past ++ (Q.run ops).1.offered ++ (Q.run ops).2.allOpen :=
    (List.take_sublist _ _).trans
      (((Q.run_kept_sublist ops).append_left past).trans (List.sublist_append_left _ _))
  exact (Q.run_nodup hops hnum hlt hroom).sublist (hsub.map _)

end TraceAgent
