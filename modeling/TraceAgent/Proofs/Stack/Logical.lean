import Mathlib
import TraceAgent.Span.Stack

/-!
# Call stacks as stacks of logical frames

A trace nests frames without bound but records only the first `maxDepth` levels. Its logical stack
lists every open frame, innermost first: the event recorded for the frame, or `none` for a frame
opened past the limit. A frame's depth is its position counted from the bottom, starting at 1;
the frame at depth `k` is recorded exactly when `k ≤ maxDepth`, and its event says depth `k`
(`LogicalStack.Sound`).

A `CallStack` stores the recorded frames and only counts the others. `CallStack.view` rebuilds
the logical stack from the two, and the representation invariant `CallStack.WellFormed` is that
the view is sound. It bounds what is stored: at most `maxDepth` frames, and exactly that many once
a frame is only counted (`WellFormed.frames_le`, `WellFormed.frames_eq_of_overflow`).

Each operation of the stack acts on the view as the plain stack operation acts on the logical
stack: opening a frame pushes one, recorded exactly when it lies within the limit
(`view_pushOverflow_of_isFull`, `view_push_of_isFull_eq_false`); `pop` removes the top
(`pop_of_view_eq_cons`, `pop_of_view_eq_nil`); `updateTop` changes the top when it is recorded
(`view_updateTop`); `drain` hands out the recorded frames innermost first and leaves nothing open
(`drain_fst`, `view_drain_snd`). Every one of them keeps the invariant.
-/

namespace TraceAgent

/-- The open frames of a trace, innermost first: the event recorded for each, or `none` for a
frame opened past the depth limit. -/
abbrev LogicalStack := List (Option SpanEvent)

namespace LogicalStack

/-- What the frame at depth `k` of a stack limited to `limit` is: recorded with depth `k` within
the limit, only counted past it. -/
def FrameAt (limit k : Nat) : Option SpanEvent → Prop
  | some e => k ≤ limit ∧ e.depth = k
  | none => limit < k

/-- Every frame of the stack is what its depth makes it. -/
def Sound (limit : Nat) : LogicalStack → Prop
  | [] => True
  | x :: rest => FrameAt limit (rest.length + 1) x ∧ Sound limit rest

/-- The frame a begin opens on top of `L`: the event numbered `seq` one level deeper, if that
level is within `limit`. -/
def opened (limit seq : Nat) (br : Option LocalAsyncId) (L : LogicalStack) : Option SpanEvent :=
  if L.length < limit then some { sequence := seq, depth := L.length + 1, asyncId := br } else none

/-- Whether the top frame is recorded, so that a write lands in it. -/
def writable : LogicalStack → Bool
  | some _ :: _ => true
  | _ => false

/-- A write into the top frame; it takes effect only on a recorded frame. -/
def write (f : SpanEvent → SpanEvent) : LogicalStack → LogicalStack
  | some e :: rest => some (f e) :: rest
  | L => L

/-- The recorded frames, innermost first. -/
def recorded (L : LogicalStack) : List SpanEvent := L.filterMap id

variable {limit : Nat} {L : LogicalStack}

@[simp] theorem sound_nil : Sound limit [] := trivial

@[simp] theorem sound_cons {x : Option SpanEvent} :
    Sound limit (x :: L) ↔ FrameAt limit (L.length + 1) x ∧ Sound limit L := Iff.rfl

@[simp] theorem frameAt_some {k : Nat} {e : SpanEvent} : FrameAt limit k (some e) ↔ k ≤ limit ∧ e.depth = k :=
  Iff.rfl

@[simp] theorem frameAt_none {k : Nat} : FrameAt limit k none ↔ limit < k := Iff.rfl

theorem frameAt_opened (seq : Nat) (br : Option LocalAsyncId) (L : LogicalStack) :
    FrameAt limit (L.length + 1) (opened limit seq br L) := by
  unfold opened
  split <;> simp <;> omega

/-- A change that keeps the depth of an event keeps what a frame is. -/
theorem FrameAt.map {k : Nat} {x : Option SpanEvent} (h : FrameAt limit k x) {f : SpanEvent → SpanEvent}
    (hf : ∀ e, (f e).depth = e.depth) : FrameAt limit k (x.map f) := by
  cases x with
  | none => exact h
  | some e => exact ⟨h.1, (hf e).trans h.2⟩

/-- A begin keeps the stack sound. -/
theorem Sound.opened (h : Sound limit L) (seq : Nat) (br : Option LocalAsyncId) :
    Sound limit (LogicalStack.opened limit seq br L :: L) :=
  ⟨frameAt_opened seq br L, h⟩

/-- A write that keeps the depth of the event keeps the stack sound. -/
theorem Sound.write {f : SpanEvent → SpanEvent} (hf : ∀ e, (f e).depth = e.depth) (h : Sound limit L) :
    Sound limit (LogicalStack.write f L) := by
  match L, h with
  | [], h => exact h
  | none :: _, h => exact h
  | some e :: rest, ⟨⟨hle, hd⟩, hrest⟩ => exact ⟨⟨hle, by rw [hf, hd]⟩, hrest⟩

/-- Frames past the limit can only stand above a stack filled up to it. -/
theorem sound_replicate_append {n : Nat} :
    Sound limit (List.replicate n none ++ L) ↔ (0 < n → limit ≤ L.length) ∧ Sound limit L := by
  induction n with
  | zero => simp
  | succ n ih =>
    rw [List.replicate_succ, List.cons_append, sound_cons, ih, frameAt_none, List.length_append,
      List.length_replicate]
    constructor
    · rintro ⟨hlt, hle, hL⟩
      refine ⟨fun _ => ?_, hL⟩
      rcases Nat.eq_zero_or_pos n with rfl | hn
      · omega
      · exact hle hn
    · rintro ⟨hle, hL⟩
      have := hle (Nat.succ_pos n)
      exact ⟨by omega, fun _ => this, hL⟩

/-- A stack of recorded frames is no deeper than the limit. -/
theorem length_le_of_sound_map_some {frames : List SpanEvent} (h : Sound limit (frames.map some)) :
    frames.length ≤ limit := by
  cases frames with
  | nil => exact Nat.zero_le _
  | cons e rest =>
    simp only [List.map_cons, sound_cons, frameAt_some, List.length_map] at h
    simpa using h.1.1

/-- On a sound stack, the top frame is writable exactly when some frame is open within the
limit. -/
theorem Sound.writable_iff (h : Sound limit L) (hne : L ≠ []) :
    writable L = true ↔ L.length ≤ limit := by
  match L, h with
  | some e :: rest, ⟨⟨hle, _⟩, _⟩ => simpa [writable] using hle
  | none :: rest, ⟨hlt, _⟩ =>
    simp only [frameAt_none] at hlt
    simp only [writable, List.length_cons, Bool.false_eq_true, false_iff, not_le]
    exact hlt

theorem write_of_writable_eq_false {f : SpanEvent → SpanEvent} (h : writable L = false) :
    write f L = L := by
  match L, h with
  | [], _ => rfl
  | none :: _, _ => rfl

@[simp] theorem write_cons (f : SpanEvent → SpanEvent) (x : Option SpanEvent) (L : LogicalStack) :
    write f (x :: L) = x.map f :: L := by
  cases x <;> rfl

@[simp] theorem write_nil (f : SpanEvent → SpanEvent) : write f [] = [] := rfl

@[simp] theorem length_write (f : SpanEvent → SpanEvent) (L : LogicalStack) :
    (write f L).length = L.length := by
  cases L <;> simp

@[simp] theorem write_id (L : LogicalStack) : write id L = L := by
  cases L <;> simp

theorem write_comp (f g : SpanEvent → SpanEvent) (L : LogicalStack) :
    write g (write f L) = write (g ∘ f) L := by
  cases L <;> simp [Option.map_map]

/-- A write only reaches the top frame. -/
theorem write_cons_append (f : SpanEvent → SpanEvent) (x : Option SpanEvent) (P L : LogicalStack) :
    write f ((x :: P) ++ L) = write f (x :: P) ++ L := by
  simp

end LogicalStack

namespace CallStack

open LogicalStack

/-- The logical stack a call stack stands for: its counted frames above its recorded ones. -/
def view (s : CallStack) : LogicalStack := List.replicate s.overflow none ++ s.frames.map some

/-- The representation invariant: the view is a sound logical stack for the stack's limit. -/
def WellFormed (s : CallStack) : Prop := Sound s.maxDepth s.view

variable {s : CallStack}

@[simp] theorem length_view (s : CallStack) : s.view.length = s.depth := by
  simp [view, depth, Nat.add_comm]

/-- A fresh stack is well formed. -/
theorem wellFormed_empty (m : Nat) : ({ maxDepth := m } : CallStack).WellFormed := by
  simp [WellFormed, view]

theorem wellFormed_iff : s.WellFormed ↔
    (0 < s.overflow → s.maxDepth ≤ s.frames.length) ∧ Sound s.maxDepth (s.frames.map some) := by
  rw [WellFormed, view, sound_replicate_append, List.length_map]

theorem WellFormed.frames_le (h : s.WellFormed) : s.frames.length ≤ s.maxDepth :=
  length_le_of_sound_map_some (wellFormed_iff.1 h).2

/-- Once a frame is only counted, every level within the limit holds a recorded frame. -/
theorem WellFormed.frames_eq_of_overflow (h : s.WellFormed) (ho : 0 < s.overflow) :
    s.frames.length = s.maxDepth :=
  Nat.le_antisymm h.frames_le ((wellFormed_iff.1 h).1 ho)

/-- On a well-formed stack, a new frame is only counted exactly when the stack is as deep as its
limit. -/
theorem WellFormed.isFull_iff (h : s.WellFormed) : s.isFull = true ↔ s.maxDepth ≤ s.depth := by
  have hle := h.frames_le
  by_cases ho : 0 < s.overflow
  · have := h.frames_eq_of_overflow ho
    simp [isFull, depth, ho]
    omega
  · simp [isFull, depth, Nat.eq_zero_of_not_pos ho]

theorem overflow_eq_zero_of_isFull_eq_false (hf : s.isFull = false) : s.overflow = 0 := by
  simp only [isFull, Bool.or_eq_false_iff, decide_eq_false_iff_not] at hf
  omega

theorem view_pushOverflow (s : CallStack) : s.pushOverflow.view = none :: s.view := by
  simp [pushOverflow, view, List.replicate_succ]

theorem view_push (e : SpanEvent) (ho : s.overflow = 0) : (s.push e).view = some e :: s.view := by
  simp [push, view, ho]

/-- Opening a frame on a full stack pushes a counted frame: the frame the logical stack opens. -/
theorem view_pushOverflow_of_isFull (h : s.WellFormed) (hf : s.isFull = true) (seq : Nat)
    (br : Option LocalAsyncId) : s.pushOverflow.view = opened s.maxDepth seq br s.view :: s.view := by
  have hdeep := h.isFull_iff.1 hf
  rw [view_pushOverflow, opened, if_neg (by simpa using hdeep)]

/-- Opening a frame below the limit records it at the next depth. -/
theorem view_push_of_isFull_eq_false (h : s.WellFormed) (hf : s.isFull = false) (seq : Nat)
    (br : Option LocalAsyncId) :
    (s.push { sequence := seq, depth := s.depth + 1, asyncId := br }).view =
      opened s.maxDepth seq br s.view :: s.view := by
  have hroom : s.depth < s.maxDepth := by
    have := mt h.isFull_iff.2
    simp only [hf, Bool.false_eq_true, not_false_eq_true, forall_const, not_le] at this
    exact this
  rw [view_push _ (overflow_eq_zero_of_isFull_eq_false hf), opened, if_pos (by simpa using hroom), length_view]

theorem wellFormed_of_view {s' : CallStack} (hm : s'.maxDepth = s.maxDepth) {L : LogicalStack}
    (hv : s'.view = L) (hL : Sound s.maxDepth L) : s'.WellFormed := by
  rw [WellFormed, hm, hv]
  exact hL

/-- Sealing on a stack with no frame open fails. -/
theorem pop_of_view_eq_nil (hv : s.view = []) : s.pop = .error .emptyCallStack := by
  simp only [view, List.append_eq_nil_iff, List.replicate_eq_nil_iff, List.map_eq_nil_iff] at hv
  simp [pop, hv.1, hv.2]

/-- Sealing removes the top of the logical stack and hands it out. -/
theorem pop_of_view_eq_cons {x : Option SpanEvent} {rest : LogicalStack} (hv : s.view = x :: rest) :
    ∃ s', s.pop = .ok (x, s') ∧ s'.view = rest ∧ s'.maxDepth = s.maxDepth := by
  obtain ⟨frames, overflow, m⟩ := s
  -- a counted frame is on top exactly when some are counted
  cases overflow with
  | succ n =>
    simp only [view, List.replicate_succ, List.cons_append, List.cons.injEq] at hv
    exact ⟨⟨frames, n, m⟩, by simp [pop, hv.1], by simp [view, ← hv.2], rfl⟩
  | zero =>
    cases frames with
    | nil => simp [view] at hv
    | cons e frames =>
      simp only [view, List.replicate_zero, List.nil_append, List.map_cons, List.cons.injEq] at hv
      exact ⟨⟨frames, 0, m⟩, by simp [pop, ← hv.1], by simp [view, ← hv.2], rfl⟩

/-- Writing into the top frame writes into the top of the logical stack. -/
theorem view_updateTop (s : CallStack) (f : SpanEvent → SpanEvent) :
    (s.updateTop f).view = write f s.view := by
  obtain ⟨frames, overflow, m⟩ := s
  cases overflow with
  | succ n => simp [updateTop, view, List.replicate_succ, write]
  | zero => cases frames <;> simp [updateTop, view, write]

theorem maxDepth_updateTop (s : CallStack) (f : SpanEvent → SpanEvent) :
    (s.updateTop f).maxDepth = s.maxDepth := by
  unfold updateTop
  split
  · rfl
  · split <;> rfl

/-- The recorded top frame is the one a write lands in. -/
theorem top?_isSome (s : CallStack) : s.top?.isSome = writable s.view := by
  obtain ⟨frames, overflow, m⟩ := s
  cases overflow with
  | succ n => simp [top?, view, List.replicate_succ, writable]
  | zero => cases frames <;> simp [top?, view, writable]

/-- Draining hands out the recorded frames of the logical stack, innermost first. -/
theorem drain_fst (s : CallStack) : s.drain.1 = recorded s.view := by
  simp [drain, view, recorded, List.filterMap_append, List.filterMap_map]

theorem view_drain_snd (s : CallStack) : s.drain.2.view = [] := by
  simp [drain, view]

end CallStack

end TraceAgent
