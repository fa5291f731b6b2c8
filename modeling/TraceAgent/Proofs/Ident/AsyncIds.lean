import Mathlib
import TraceAgent.IdSource

/-!
# Async ids at the counter limit

An id source hands out async ids from a 32-bit counter: a call at counter `c` moves the counter on
by one and answers `c + 1` modulo `2^32`, with `1` in place of `0` (`nextAsync`). So the ids of a
run of consecutive calls are the counters after each call, each read through that patch
(`asyncRun_values`).

The patch keeps `0` out of every run, but it does not skip `0`: the call that wraps the counter
answers `1`, and so does the call after it. A run is free of repeats exactly when it neither passes
that point nor goes once round the counter (`asyncRun_nodup_iff`), and a fresh source reaches the
point after `2^32 - 1` calls (`async_id_one_handed_out_twice`).

Main statement: `async_ids_nonzero_and_distinct_until_wrap`.
-/

namespace TraceAgent

namespace IdSource

/-- The ids of `n` consecutive async calls on a source, and the source after them. -/
def asyncRun (s : IdSource) : Nat → List AsyncId × IdSource
  | 0 => ([], s)
  | n + 1 =>
    let rest := s.nextAsync.2.asyncRun n
    (s.nextAsync.1 :: rest.1, rest.2)

/-- The id answered when the counter reaches `v` (taken modulo `2^32`): `1` in place of `0`. -/
def patched (v : Nat) : Nat := if v % UInt32.size = 0 then 1 else v % UInt32.size

theorem patched_mod_add (v k : Nat) : patched (v % UInt32.size + k) = patched (v + k) := by
  simp only [patched, Nat.mod_add_mod]

theorem patched_pos (v : Nat) : 0 < patched v := by
  unfold patched
  split <;> omega

/-- The call that wraps the counter and the call after it answer alike. -/
theorem patched_wrap : patched UInt32.size = patched (UInt32.size + 1) := by
  decide

@[simp] theorem asyncRun_zero (s : IdSource) : s.asyncRun 0 = ([], s) := rfl

@[simp] theorem asyncRun_succ (s : IdSource) (n : Nat) :
    s.asyncRun (n + 1) = (s.nextAsync.1 :: (s.nextAsync.2.asyncRun n).1,
      (s.nextAsync.2.asyncRun n).2) := rfl

@[simp] theorem asyncRun_length (s : IdSource) (n : Nat) : (s.asyncRun n).1.length = n := by
  induction n generalizing s with
  | zero => rfl
  | succ n ih => simp [ih]

theorem nextAsync_counter (s : IdSource) :
    s.nextAsync.2.asyncCounter.toNat = (s.asyncCounter.toNat + 1) % UInt32.size := by
  simp [nextAsync, UInt32.toNat_add]

theorem nextAsync_value (s : IdSource) :
    s.nextAsync.1.value.toNat = patched (s.asyncCounter.toNat + 1) := by
  have hsum : (s.asyncCounter + 1).toNat = (s.asyncCounter.toNat + 1) % UInt32.size := by
    simp [UInt32.toNat_add]
  by_cases hz : s.asyncCounter + 1 = 0
  · have hmod : (s.asyncCounter.toNat + 1) % UInt32.size = 0 := by
      rw [← hsum, hz, UInt32.toNat_zero]
    simp [nextAsync, hz, patched, hmod]
  · have hmod : (s.asyncCounter.toNat + 1) % UInt32.size ≠ 0 := by
      rwa [← hsum, ne_eq, ← UInt32.toNat_zero, UInt32.toNat_inj]
    simp [nextAsync, hz, patched, hmod, hsum]

/-- The `i`-th call of a run answers the counter it moves to, patched. -/
theorem asyncRun_values (s : IdSource) (n : Nat) :
    (s.asyncRun n).1.map (fun a => a.value.toNat) =
      (List.range n).map fun i => patched (s.asyncCounter.toNat + i + 1) := by
  induction n generalizing s with
  | zero => rfl
  | succ n ih =>
    -- the rest of the run starts one counter further on
    have hrest : ∀ i, patched (s.nextAsync.2.asyncCounter.toNat + i + 1) =
        patched (s.asyncCounter.toNat + (i + 1) + 1) := by
      intro i
      rw [nextAsync_counter, Nat.add_assoc, patched_mod_add]
      congr 1
      omega
    simp only [asyncRun_succ, List.map_cons, ih, List.range_succ_eq_map, List.map_map,
      nextAsync_value]
    congr 1
    exact List.map_congr_left fun i _ => hrest i

theorem asyncRun_ne_zero (s : IdSource) (n : Nat) : ∀ a ∈ (s.asyncRun n).1, a.value ≠ 0 := by
  induction n generalizing s with
  | zero => simp
  | succ n ih =>
    intro a ha
    rcases List.mem_cons.1 ha with rfl | ha
    · exact nextAsync_ne_zero s
    · exact ih _ a ha

theorem asyncId_value_toNat_injective : Function.Injective fun a : AsyncId => a.value.toNat := by
  rintro ⟨a⟩ ⟨b⟩ h
  simpa [UInt32.toNat_inj] using h

/-- Two calls of a run at positions `i < j` answer alike exactly when the counters they move to
are the wrap and the one after it, or the first and the wrap once round. -/
theorem patched_eq_iff {c i j : Nat} (hc : c < UInt32.size) (hij : i < j)
    (hj : j < UInt32.size) :
    patched (c + i + 1) = patched (c + j + 1) ↔
      (c + i + 1 = UInt32.size ∧ j = i + 1) ∨ (c = 0 ∧ i = 0 ∧ j = UInt32.size - 1) := by
  unfold patched
  simp only [UInt32.size] at *
  split_ifs <;> omega

/-- A run of calls repeats no id exactly when it does not pass the wrap of the counter, nor go
once round it. -/
theorem asyncRun_nodup_iff (s : IdSource) (n : Nat) :
    (s.asyncRun n).1.Nodup ↔ n < UInt32.size ∧ s.asyncCounter.toNat + n ≤ UInt32.size := by
  have hc := s.asyncCounter.toNat_lt_size
  rw [← List.nodup_map_iff asyncId_value_toNat_injective, asyncRun_values,
    List.nodup_map_iff_inj_on List.nodup_range]
  simp only [List.mem_range]
  constructor
  · intro hinj
    by_contra hout
    -- two calls of the run that answer `1`
    obtain ⟨i, j, hi, hj, hne, heq⟩ : ∃ i j, i < n ∧ j < n ∧ i ≠ j ∧
        patched (s.asyncCounter.toNat + i + 1) = patched (s.asyncCounter.toNat + j + 1) := by
      by_cases hwrap : UInt32.size < s.asyncCounter.toNat + n
      · refine ⟨UInt32.size - 1 - s.asyncCounter.toNat, UInt32.size - s.asyncCounter.toNat,
          by omega, by omega, by omega, ?_⟩
        rw [show s.asyncCounter.toNat + (UInt32.size - 1 - s.asyncCounter.toNat) + 1 =
            UInt32.size by omega,
          show s.asyncCounter.toNat + (UInt32.size - s.asyncCounter.toNat) + 1 =
            UInt32.size + 1 by omega]
        exact patched_wrap
      · refine ⟨0, UInt32.size - 1, by omega, by omega, by decide, ?_⟩
        rw [show s.asyncCounter.toNat = 0 by omega]
        decide
    exact hne (hinj i hi j hj heq)
  · rintro ⟨hn, hcn⟩ i hi j hj heq
    rcases lt_trichotomy i j with hij | rfl | hji
    · have := (patched_eq_iff hc hij (by omega)).1 heq
      omega
    · rfl
    · have := (patched_eq_iff hc hji (by omega)).1 heq.symm
      omega

/-- Every id of a run of async calls is nonzero, and the run repeats no id exactly when it stays
within one turn of the counter before its wrap: from counter `c`, a run of `n` calls is free of
repeats iff `n < 2^32` and `c + n ≤ 2^32`. -/
theorem async_ids_nonzero_and_distinct_until_wrap (s : IdSource) (n : Nat) :
    (∀ a ∈ (s.asyncRun n).1, a.value ≠ 0) ∧
      ((s.asyncRun n).1.Nodup ↔ n < UInt32.size ∧ s.asyncCounter.toNat + n ≤ UInt32.size) :=
  ⟨asyncRun_ne_zero s n, asyncRun_nodup_iff s n⟩

/-- The source after a run: the counter moved on by the number of calls, all else kept. -/
theorem asyncRun_snd (s : IdSource) (n : Nat) :
    (s.asyncRun n).2 = { s with asyncCounter := s.asyncCounter + UInt32.ofNat n } := by
  induction n generalizing s with
  | zero => simp
  | succ n ih =>
    rw [asyncRun_succ, ih]
    simp only [nextAsync, IdSource.mk.injEq, true_and]
    simp [UInt32.ofNat_add, add_assoc, add_comm]

/-- A fresh source that has handed out `2^32 - 1` async ids answers `1` to the next two calls. -/
theorem async_id_one_handed_out_twice :
    ((({ kind := .increment } : IdSource).asyncRun (UInt32.size - 1)).2.asyncRun 2).1 =
      [⟨1⟩, ⟨1⟩] := by
  rw [asyncRun_snd]
  rfl

end IdSource

end TraceAgent
