import Mathlib.Tactic
import TraceAgent.Proofs.Runs

/-!
# The hold ledger

A span under construction counts its *pending holds*; the count is correct when it equals what
the span is owed:

* one for its synchronous side while the trace that opened it is not closed
  (`TraceObj.syncHold`);
* from each live recording async context writing into it, the creation hold while the context
  keeps it, and one per branch started and not yet finished (`AsyncObj.owes`).

The part of a world these counts read is its `Ledger`: the spans, the traces and the async
contexts. The invariant is split in two:

* `Ledger.Sound` — every object refers to an existing span, every context keeps
  `finished ≤ started` and, while it has a live clone, is pinned exactly while it is not
  settled, an open span has a hold outstanding, and at most one open synchronous side;
* `Ledger.BalancedBut l sp k` — every open span's count equals what it is owed, except that span
  `sp` counts `k` more. Inside an operation the count and the holds are updated one after the
  other, and `k` records how far apart they are at that point; `Ledger.Balanced` is `k = 0`.

Main statements: the sums over an updated table (`Array.sum_map_set_add`), how each change of
a span moves its count (`SpanState.release_pending`, `SpanState.acquire_some`, …), what each
object holds (`Holds.owed_unpin`, `AsyncObj.owes_of_refs_zero`, `TraceObj.syncHold_closed`, …)
and the ledger updates that mirror the world's primitives (`Ledger.setSpan`, `Ledger.pushAsync`,
…). `Proofs.Holds.Invariant` says how the invariants move under them.
-/

namespace TraceAgent

/-- What hold accounting reads of a world. -/
structure Ledger where
  spans : Array SpanState
  traces : Array TraceObj
  asyncs : Array AsyncObj

/-- The ledger of a world. -/
def World.ledger (w : World) : Ledger := ⟨w.spans, w.traces, w.asyncs⟩

namespace Holds

/-- The holds a context owes its span: the creation hold while it keeps it, and one per branch
started and not yet finished. -/
def owed (h : Holds) : Nat := h.creation.toNat + (h.started - h.finished)

/-- A context's holds are consistent: no branch finishes that was not started, and while the
context has a live clone it pins the span exactly while it owes something. -/
def Sound (h : Holds) (live : Bool) : Prop :=
  h.finished ≤ h.started ∧ (live = true → h.pinned = !h.settled)

end Holds

namespace AsyncObj

/-- The span a recording context writes into. -/
def span? (o : AsyncObj) : Option SpanRef :=
  match o.kind with
  | .recording sp _ _ _ _ => some sp
  | .disabled => none

/-- Whether some clone of the context is still alive. -/
def live (o : AsyncObj) : Bool := 0 < o.refs

/-- What the context owes span `s`; a context without live clones owes nothing. -/
def owes (o : AsyncObj) (s : SpanRef) : Nat :=
  match o.kind with
  | .recording sp _ _ _ h => if sp = s ∧ o.live = true then h.owed else 0
  | .disabled => 0

/-- The context's holds are consistent. -/
def Sound (o : AsyncObj) : Prop :=
  match o.kind with
  | .recording _ _ _ _ h => h.Sound o.live
  | .disabled => True

end AsyncObj

namespace TraceObj

/-- One for the open synchronous side of span `s`. -/
def syncHold (t : TraceObj) (s : SpanRef) : Nat :=
  match t.kind with
  | .recording sp none _ => if sp = s ∧ t.closed = false then 1 else 0
  | _ => 0

end TraceObj

namespace Ledger

/-- What the live async contexts owe span `s`. -/
def owed (l : Ledger) (s : SpanRef) : Nat := (l.asyncs.toList.map (·.owes s)).sum

/-- The open synchronous sides of span `s`: one until its trace is closed. -/
def openSync (l : Ledger) (s : SpanRef) : Nat := (l.traces.toList.map (·.syncHold s)).sum

/-- The span at an index, a default one past the end, as the world reads it. -/
def span (l : Ledger) (s : SpanRef) : SpanState := l.spans[s]?.getD default

/-- Every open span's count equals what it is owed, except that span `sp` counts `k` more. -/
def BalancedBut (l : Ledger) (sp : SpanRef) (k : ℤ) : Prop :=
  ∀ s < l.spans.size, (l.span s).isOpen = true →
    ((l.span s).pending : ℤ) = l.openSync s + l.owed s + if s = sp then k else 0

/-- Every open span's count equals what it is owed. -/
def Balanced (l : Ledger) : Prop :=
  ∀ s < l.spans.size, (l.span s).isOpen = true → (l.span s).pending = l.openSync s + l.owed s

/-- The invariants that hold at every step of every operation. -/
structure Sound (l : Ledger) : Prop where
  traces_in : ∀ t ∈ l.traces, ∀ sp : Nat, t.span? = some sp → sp < l.spans.size
  asyncs_in : ∀ o ∈ l.asyncs, ∀ sp : Nat, o.span? = some sp → sp < l.spans.size
  holds : ∀ o ∈ l.asyncs, o.Sound
  open_held : ∀ s < l.spans.size, (l.span s).isOpen = true → 0 < (l.span s).pending
  /-- A span has at most one synchronous side: the trace that opened it. -/
  sync_le_one : ∀ s, l.openSync s ≤ 1

theorem balancedBut_zero_iff (l : Ledger) (sp : SpanRef) : l.BalancedBut sp 0 ↔ l.Balanced := by
  unfold BalancedBut Balanced
  refine forall_congr' fun s => forall_congr' fun _ => forall_congr' fun _ => ?_
  simp only [ite_self, add_zero]
  omega

end Ledger

/-! ## What each object holds -/

namespace Holds

theorem settled_eq_false {h : Holds} (hne : h.started ≠ h.finished) : h.settled = false := by
  simp [settled, hne]

@[simp] theorem settled_pinned (h : Holds) (p : Bool) : { h with pinned := p }.settled = h.settled :=
  rfl

/-- A settled context owes nothing. -/
theorem owed_eq_zero {h : Holds} (hs : h.settled = true) : h.owed = 0 := by
  simp only [settled, Bool.and_eq_true, Bool.not_eq_true', beq_iff_eq] at hs
  simp [owed, hs.1, hs.2]

/-- Unpinning a context once it is settled keeps its debt. -/
theorem owed_unpin (h : Holds) :
    (if h.settled = true then { h with pinned := false } else h).owed = h.owed := by
  split <;> rfl

/-- A pinned context that is unpinned once settled pins exactly while it owes. -/
theorem sound_unpin {h : Holds} (hf : h.finished ≤ h.started) (hp : h.pinned = true) :
    (if h.settled = true then { h with pinned := false } else h).Sound true := by
  split <;> rename_i hs
  · exact ⟨hf, fun _ => by simp [settled_pinned, hs]⟩
  · exact ⟨hf, fun _ => by simp [hp, hs]⟩


end Holds

namespace AsyncObj


variable {o : AsyncObj} {sp : SpanRef} {tid : TraceId} {aid : AsyncId} {br : UInt32} {h : Holds}

/-- A context without live clones owes nothing. -/
theorem owes_of_refs_zero (hr : o.refs = 0) (s : SpanRef) : o.owes s = 0 := by
  unfold owes
  split
  · simp [live, hr]
  · rfl

theorem owes_of_kind (hk : o.kind = .recording sp tid aid br h) (s : SpanRef) :
    o.owes s = if sp = s ∧ 0 < o.refs then h.owed else 0 := by
  simp [owes, hk, live]

theorem sound_of_kind (hk : o.kind = .recording sp tid aid br h) :
    o.Sound ↔ h.Sound (0 < o.refs) := by
  simp [AsyncObj.Sound, hk, live]


end AsyncObj

namespace TraceObj


variable {o : TraceObj} {sp : SpanRef} {br : Option LocalAsyncId} {st : CallStack}

/-- Changing the call stack of a recording trace leaves the hold it has. -/
theorem syncHold_restack (hk : o.kind = .recording sp br st) (st' : CallStack) (s : SpanRef) :
    ({ o with kind := .recording sp br st' } : TraceObj).syncHold s = o.syncHold s := by
  simp only [syncHold, hk]
  cases br <;> rfl

/-- A recording trace holds no span but its own. -/
theorem syncHold_ne (hk : o.kind = .recording sp br st) {s : SpanRef} (hs : s ≠ sp) :
    o.syncHold s = 0 := by
  unfold syncHold
  rw [hk]
  split
  · rename_i h
    simp only [TraceKind.recording.injEq] at h
    simp [h.1 ▸ Ne.symm hs]
  · rfl

/-- A disabled trace holds nothing. -/
theorem syncHold_disabled {a : Bool} (hk : o.kind = .disabled a) (s : SpanRef) :
    o.syncHold s = 0 := by
  simp [syncHold, hk]

/-- A closed trace holds nothing. -/
theorem syncHold_closed (k : TraceKind) (sc : List TraceScope) (s : SpanRef) :
    ({ kind := k, closed := true, scopes := sc } : TraceObj).syncHold s = 0 := by
  unfold syncHold
  split <;> simp


end TraceObj

/-! ## Sums over an updated table -/

theorem List.sum_map_set_add {α : Type} (f : α → Nat) :
    ∀ (l : List α) (i : Nat) (h : i < l.length) (v : α),
      ((l.set i v).map f).sum + f l[i] = (l.map f).sum + f v
  | _ :: _, 0, _, _ => by
    simp only [List.set_cons_zero, List.map_cons, List.sum_cons, List.getElem_cons_zero]
    omega
  | x :: xs, i + 1, h, v => by
    have ih := List.sum_map_set_add f xs i (by simpa using h) v
    simp only [List.set_cons_succ, List.map_cons, List.sum_cons, List.getElem_cons_succ]
    omega

theorem Array.sum_map_set_add {α : Type} (f : α → Nat) (xs : Array α) (i : Nat)
    (h : i < xs.size) (v : α) :
    ((xs.set! i v).toList.map f).sum + f xs[i] = (xs.toList.map f).sum + f v := by
  rw [Array.toList_set!, ← Array.getElem_toList]
  exact List.sum_map_set_add f xs.toList i (by simpa using h) v

/-! ## How each change of a span moves its count -/

namespace SpanState

@[simp] theorem release_pending (s : SpanState) : s.release.1.pending = s.pending - 1 := by
  unfold release
  split
  · simp_all
  · simp only [finish]
    split <;> simp_all
  · simp_all

/-- A released span stays open unless that was its last hold. -/
theorem release_isOpen (s : SpanState) :
    s.release.1.isOpen = (s.isOpen && s.pending != 1) := by
  unfold release
  split <;> rename_i hp
  · simp [hp]
  · simp only [finish]
    split <;> simp_all [isOpen]
  · simp [isOpen, hp]

/-- The last hold of an open span finishes it; any other release leaves its status. -/
theorem release_status (s : SpanState) :
    s.release.1.status = if s.isOpen = true ∧ s.pending = 1 then .finished else s.status := by
  unfold release
  split <;> rename_i hp
  · simp [hp]
  · simp only [finish]
    split <;> simp_all [isOpen]
  · simp [hp]

/-- A release hands the span over, with its trace id, exactly when it gives back the last hold of
an open span. -/
theorem release_handed (s : SpanState) :
    s.release.2.1.map FinishedSpan.traceId =
      if s.isOpen = true ∧ s.pending = 1 then some s.traceId else none := by
  unfold release
  split <;> rename_i hp
  · simp [hp]
  · simp only [finish]
    split <;> simp_all [isOpen, finishedSpan]
  · simp [hp]

@[simp] theorem release_traceId (s : SpanState) : s.release.1.traceId = s.traceId := by
  unfold release
  split
  · rfl
  · simp only [finish]
    split <;> rfl
  · rfl

/-- A hold is only taken on an open span that has one, and adds one to its count. -/
theorem acquire_some {s t : SpanState} (h : s.acquire = some t) :
    s.isOpen = true ∧ 0 < s.pending ∧ t.isOpen = true ∧ t.pending = s.pending + 1 := by
  unfold acquire at h
  split at h
  · cases h
  · cases h
    rename_i hp
    simp only [Bool.or_eq_true, beq_iff_eq, Bool.not_eq_true', not_or, Bool.not_eq_false] at hp
    exact ⟨hp.2, Nat.pos_of_ne_zero hp.1, hp.2, rfl⟩

/-- A hold taken changes nothing but the count. -/
theorem acquire_eq {s t : SpanState} (h : s.acquire = some t) : t = { s with pending := s.pending + 1 } := by
  unfold acquire at h
  split at h
  · cases h
  · exact (Option.some.inj h).symm

/-- A span is handed over only by the release that closes it. -/
theorem release_closes {s : SpanState} {fs : FinishedSpan} (h : s.release.2.1 = some fs) :
    s.release.1.isOpen = false := by
  unfold release at h ⊢
  split at h
  · cases h
  · simp only [finish] at h ⊢
    split <;> simp_all [isOpen]
  · cases h

@[simp] theorem pushEvent_pending (s : SpanState) (e : SpanEvent) :
    (s.pushEvent e).1.pending = s.pending := by
  unfold pushEvent
  split
  · rfl
  · split <;> rfl

@[simp] theorem pushEvent_isOpen (s : SpanState) (e : SpanEvent) :
    (s.pushEvent e).1.isOpen = s.isOpen := by
  unfold pushEvent
  split
  · rfl
  · split <;> rfl

@[simp] theorem takeSequence_pending (s : SpanState) : s.takeSequence.2.pending = s.pending := rfl

@[simp] theorem takeSequence_isOpen (s : SpanState) : s.takeSequence.2.isOpen = s.isOpen := rfl

@[simp] theorem discard_isOpen (s : SpanState) : s.discard.2.isOpen = false := by
  unfold discard
  split <;> simp_all [isOpen]

end SpanState

/-! ## Updates of the ledger -/

namespace Ledger

/-- The trace at an index, as the world reads it. -/
def trace (l : Ledger) (t : TraceRef) : TraceObj := l.traces[t]?.getD default

/-- The async context at an index, as the world reads it. -/
def async (l : Ledger) (a : AsyncRef) : AsyncObj := l.asyncs[a]?.getD default

/-- One span replaced. -/
def setSpan (l : Ledger) (s : SpanRef) (v : SpanState) : Ledger := { l with spans := l.spans.set! s v }

/-- One trace replaced. -/
def setTrace (l : Ledger) (t : TraceRef) (v : TraceObj) : Ledger :=
  { l with traces := l.traces.set! t v }

/-- One async context replaced. -/
def setAsync (l : Ledger) (a : AsyncRef) (v : AsyncObj) : Ledger :=
  { l with asyncs := l.asyncs.set! a v }

/-- A span added. -/
def pushSpan (l : Ledger) (v : SpanState) : Ledger := { l with spans := l.spans.push v }

/-- A trace added. -/
def pushTrace (l : Ledger) (v : TraceObj) : Ledger := { l with traces := l.traces.push v }

/-- An async context added. -/
def pushAsync (l : Ledger) (v : AsyncObj) : Ledger := { l with asyncs := l.asyncs.push v }

@[simp] theorem size_setSpan (l : Ledger) (s : SpanRef) (v : SpanState) :
    (l.setSpan s v).spans.size = l.spans.size := by simp [setSpan]

@[simp] theorem openSync_setSpan (l : Ledger) (s : SpanRef) (v : SpanState) (s' : SpanRef) :
    (l.setSpan s v).openSync s' = l.openSync s' := rfl

@[simp] theorem owed_setSpan (l : Ledger) (s : SpanRef) (v : SpanState) (s' : SpanRef) :
    (l.setSpan s v).owed s' = l.owed s' := rfl

/-- Past the end of the table nothing is replaced. -/
theorem setSpan_of_le {l : Ledger} {s : SpanRef} (v : SpanState) (h : l.spans.size ≤ s) :
    l.setSpan s v = l := by
  simp [setSpan, Array.setIfInBounds, Nat.not_lt.2 h]

theorem span_setSpan_self {l : Ledger} {s : SpanRef} (v : SpanState) (h : s < l.spans.size) :
    (l.setSpan s v).span s = v := by
  simp [span, setSpan, h]

theorem span_setSpan_ne {l : Ledger} {s s' : SpanRef} (v : SpanState) (h : s' ≠ s) :
    (l.setSpan s v).span s' = l.span s' := by
  simp [span, setSpan, Ne.symm h]

@[simp] theorem size_pushSpan (l : Ledger) (v : SpanState) :
    (l.pushSpan v).spans.size = l.spans.size + 1 := Array.size_push v

theorem span_pushSpan_lt {l : Ledger} {s : SpanRef} (v : SpanState) (h : s < l.spans.size) :
    (l.pushSpan v).span s = l.span s := by
  simp [span, pushSpan, Array.getElem?_push, h, Nat.ne_of_lt h]

theorem span_pushSpan_size (l : Ledger) (v : SpanState) : (l.pushSpan v).span l.spans.size = v := by
  simp [span, pushSpan]

theorem openSync_setTrace {l : Ledger} {t : TraceRef} (h : t < l.traces.size) (v : TraceObj)
    (s : SpanRef) : (l.setTrace t v).openSync s + (l.trace t).syncHold s = l.openSync s + v.syncHold s := by
  have hget : l.trace t = l.traces[t] := by simp [trace, h]
  rw [hget]
  exact Array.sum_map_set_add (·.syncHold s) l.traces t h v

theorem owed_setAsync {l : Ledger} {a : AsyncRef} (h : a < l.asyncs.size) (v : AsyncObj)
    (s : SpanRef) : (l.setAsync a v).owed s + (l.async a).owes s = l.owed s + v.owes s := by
  have hget : l.async a = l.asyncs[a] := by simp [async, h]
  rw [hget]
  exact Array.sum_map_set_add (·.owes s) l.asyncs a h v

theorem openSync_pushTrace (l : Ledger) (v : TraceObj) (s : SpanRef) :
    (l.pushTrace v).openSync s = l.openSync s + v.syncHold s := by
  simp [openSync, pushTrace]

theorem owed_pushAsync (l : Ledger) (v : AsyncObj) (s : SpanRef) :
    (l.pushAsync v).owed s = l.owed s + v.owes s := by
  simp [owed, pushAsync]

variable {l : Ledger}

theorem async_mem {a : AsyncRef} (h : a < l.asyncs.size) : l.async a ∈ l.asyncs := by
  simp [async, h]

@[simp] theorem spans_setAsync (l : Ledger) (a : AsyncRef) (v : AsyncObj) :
    (l.setAsync a v).spans = l.spans := rfl

@[simp] theorem size_setAsync (l : Ledger) (a : AsyncRef) (v : AsyncObj) :
    (l.setAsync a v).asyncs.size = l.asyncs.size := by simp [setAsync]

theorem async_setAsync_self {a : AsyncRef} (v : AsyncObj) (h : a < l.asyncs.size) :
    (l.setAsync a v).async a = v := by
  simp [async, setAsync, h]

theorem trace_mem {t : TraceRef} (h : t < l.traces.size) : l.trace t ∈ l.traces := by
  simp [trace, h]

end Ledger

end TraceAgent
