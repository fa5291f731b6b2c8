import TraceAgent.Ident.Span

/-!
# Id sources

An id source hands out transaction sequence numbers, span ids and async ids.

* Sequence numbers count `1, 2, 3, …` (64 bits, wrapping).
* Async ids count `1, 2, 3, …` in 32 bits and answer `1` in place of `0` when the counter wraps.
* Span ids come either from a counter (`increment`: `1, 2, 3, …`) or from the threads' random
  generators (`random`). `RandomSpans` holds the generator's draws as data: a draw takes values
  until one is neither `-1` nor an excluded id, which a generator that comes round to every value
  again always finds.

`reset` starts all counters again (the random stream goes on).

Main statements: `RandomSpans.draw_spec` — a draw hands out the first acceptable value;
`nextAsync_ne_zero` — an async id is never `0`.
-/

namespace TraceAgent

/-- How span ids are made. -/
inductive SpanIdKind where
  | increment
  | random
  deriving Repr, DecidableEq, Inhabited

/-- The counters of an id source. -/
structure IdSource where
  kind : SpanIdKind
  spanCounter : UInt64 := 0
  sequence : UInt64 := 0
  asyncCounter : UInt32 := 0
  deriving Repr, Inhabited

/-- Searches from `m` on for an index where `p` holds, every index from `n` to below `m` having
failed; one from `n` on exists. -/
def searchFrom (p : Nat → Bool) (n : Nat) (h : ∃ k, n ≤ k ∧ p k = true) (m : Nat)
    (hm : ∀ j, n ≤ j → j < m → p j = false) : Nat :=
  if hp : p m = true then m
  else searchFrom p n h (m + 1) fun j h₁ h₂ => by
    rcases Nat.lt_succ_iff_lt_or_eq.1 h₂ with h₂ | rfl
    · exact hm j h₁ h₂
    · simpa using hp
termination_by Classical.choose h + 1 - m
decreasing_by
  have ⟨hn, hk⟩ := Classical.choose_spec h
  have : m ≤ Classical.choose h := Nat.not_lt.1 fun hlt => by simp [hm _ hn hlt] at hk
  omega

/-- The first index from `n` on where `p` holds, given that there is one. -/
def firstFrom (p : Nat → Bool) (n : Nat) (h : ∃ k, n ≤ k ∧ p k = true) : Nat :=
  searchFrom p n h n fun _ h₁ h₂ => absurd h₂ (Nat.not_lt.2 h₁)

theorem searchFrom_spec (p : Nat → Bool) (n : Nat) (h : ∃ k, n ≤ k ∧ p k = true) (m : Nat)
    (hm : ∀ j, n ≤ j → j < m → p j = false) (hnm : n ≤ m) :
    p (searchFrom p n h m hm) = true ∧ n ≤ searchFrom p n h m hm ∧ ∀ j, n ≤ j → j < searchFrom p n h m hm → p j = false := by
  fun_induction searchFrom p n h m hm with
  | case1 m hm hp => exact ⟨hp, hnm, hm⟩
  | case2 m hm hp ih => exact ih (by omega)

theorem firstFrom_spec (p : Nat → Bool) (n : Nat) (h : ∃ k, n ≤ k ∧ p k = true) :
    p (firstFrom p n h) = true ∧ n ≤ firstFrom p n h :=
  have hgo := searchFrom_spec p n h n _ (Nat.le_refl n)
  ⟨hgo.1, hgo.2.1⟩

theorem firstFrom_min (p : Nat → Bool) (n : Nat) (h : ∃ k, n ≤ k ∧ p k = true) {j : Nat}
    (hn : n ≤ j) (hj : j < firstFrom p n h) : p j = false :=
  (searchFrom_spec p n h n _ (Nat.le_refl n)).2.2 j hn hj

namespace RandomSpans

/-- The draws the driver runs with: an odd multiple of the index plus a constant, modulo `2^64`,
which passes through every value once in every `2^64` draws. -/
def affine (k : Nat) : Int64 := Int64.ofNat k * 0x5851F42D4C957F2D + 0x14057B7EF767814F

theorem int64_ofNat_add_size_mul (a n : Nat) : Int64.ofNat (a + UInt64.size * n) = Int64.ofNat a := by
  apply Int64.toBitVec_inj.1
  apply BitVec.eq_of_toNat_eq
  simp [BitVec.toNat_ofNat]

theorem affine_recurs (v : Int64) (n : Nat) : ∃ k, n ≤ k ∧ affine k = v := by
  -- the multiplier is odd, so it has an inverse modulo `2^64`: solve for the index and go round
  -- as many times as it takes to pass `n`
  let x : Int64 := (v - 0x14057B7EF767814F) * 0xC097EF87329E28A5
  refine ⟨x.toBitVec.toNat + UInt64.size * n, ?_, ?_⟩
  · have : UInt64.size = 18446744073709551616 := rfl
    rw [this]; omega
  · have hx : Int64.ofNat x.toBitVec.toNat = x := by
      rw [Int64.ofNat_bitVecToNat, Int64.ofBitVec_toBitVec]
    have hinv : (0xC097EF87329E28A5 : Int64) * 0x5851F42D4C957F2D = 1 := by decide
    simp only [affine, int64_ofNat_add_size_mul, hx, x]
    grind

end RandomSpans

/-- The span ids the threads' random generators hand out, drawn one at a time: `value k` is the
`k`-th 64-bit draw, and `drawn` of them are taken. A generator of long period comes round to every
value again (`recurs`); that is all the search for an acceptable id needs of it. -/
structure RandomSpans where
  value : Nat → Int64
  drawn : Nat := 0
  recurs : ∀ (v : Int64) (n : Nat), ∃ k, n ≤ k ∧ value k = v

/-- The generator the driver runs with, before its first draw. -/
def RandomSpans.standard : RandomSpans := { value := RandomSpans.affine, recurs := RandomSpans.affine_recurs }

instance : Inhabited RandomSpans := ⟨.standard⟩

namespace RandomSpans

/-- Whether a drawn value may be handed out: it is not the id of no span, nor an excluded id. -/
def acceptable (excluded : List SpanId) (v : Int64) : Bool :=
  !(SpanId.mk v).isNone && !excluded.contains ⟨v⟩

/-- A value is acceptable when it is among `0`, `1`, `2` and not excluded. -/
theorem acceptable_small {excluded : List SpanId} {v : Int64} (hv : v = 0 ∨ v = 1 ∨ v = 2)
    (hx : ⟨v⟩ ∉ excluded) : acceptable excluded v = true := by
  have hnone : (SpanId.mk v).isNone = false := by
    rcases hv with rfl | rfl | rfl <;> decide
  simp [acceptable, hnone, hx]

/-- At most two excluded ids leave one of `0`, `1`, `2` acceptable. -/
theorem exists_acceptable {excluded : List SpanId} (h : excluded.length ≤ 2) :
    ∃ v, acceptable excluded v = true := by
  rcases excluded with _ | ⟨a, _ | ⟨b, _ | ⟨c, rest⟩⟩⟩
  · exact ⟨0, by decide⟩
  · by_cases ha : a = ⟨0⟩
    · exact ⟨1, acceptable_small (by simp) (by simp [ha])⟩
    · exact ⟨0, acceptable_small (by simp) (by simpa [eq_comm] using ha)⟩
  · by_cases h0 : a ≠ ⟨0⟩ ∧ b ≠ ⟨0⟩
    · exact ⟨0, acceptable_small (by simp) (by grind)⟩
    by_cases h1 : a ≠ ⟨1⟩ ∧ b ≠ ⟨1⟩
    · exact ⟨1, acceptable_small (by simp) (by grind)⟩
    · exact ⟨2, acceptable_small (by simp) (by grind)⟩
  · simp at h

/-- From any position on, the generator comes to an acceptable value, at most two ids excluded. -/
theorem exists_acceptable_draw (r : RandomSpans) {excluded : List SpanId} (h : excluded.length ≤ 2) :
    ∃ k, r.drawn ≤ k ∧ acceptable excluded (r.value k) = true :=
  have ⟨v, hv⟩ := exists_acceptable h
  have ⟨k, hk, hval⟩ := r.recurs v r.drawn
  ⟨k, hk, hval ▸ hv⟩

/-- Draws until the value is acceptable, and hands it out as a span id. -/
def draw (r : RandomSpans) (excluded : List SpanId) (h : excluded.length ≤ 2) : SpanId × RandomSpans :=
  let k := firstFrom (fun k => acceptable excluded (r.value k)) r.drawn (r.exists_acceptable_draw h)
  (⟨r.value k⟩, { r with drawn := k + 1 })

/-- A random span id, never the id of no span. -/
def random (r : RandomSpans) : SpanId × RandomSpans := r.draw [] (Nat.zero_le 2)

/-- A random span id for a child hop, distinct from the current span and its parent. -/
def nextSpanId (r : RandomSpans) (span parent : SpanId) : SpanId × RandomSpans :=
  r.draw [span, parent] (Nat.le_refl 2)

/-- A draw hands out the first acceptable value from the generator's position on, and moves the
position past it. -/
theorem draw_spec (r : RandomSpans) (excluded : List SpanId) (h : excluded.length ≤ 2) :
    ∃ k, r.drawn ≤ k ∧ r.draw excluded h = (⟨r.value k⟩, { r with drawn := k + 1 }) ∧
      acceptable excluded (r.value k) = true ∧
      ∀ j, r.drawn ≤ j → j < k → acceptable excluded (r.value j) = false :=
  have hspec := firstFrom_spec _ _ (r.exists_acceptable_draw h)
  ⟨_, hspec.2, rfl, hspec.1, fun _ => firstFrom_min _ _ (r.exists_acceptable_draw h)⟩

/-- A drawn id is neither the id of no span nor an excluded id. -/
theorem draw_fresh (r : RandomSpans) (excluded : List SpanId) (h : excluded.length ≤ 2) :
    (r.draw excluded h).1 ≠ SpanId.none ∧ (r.draw excluded h).1 ∉ excluded := by
  obtain ⟨k, -, hdraw, hacc, -⟩ := r.draw_spec excluded h
  rw [hdraw]
  simp only [acceptable, Bool.and_eq_true, Bool.not_eq_true', SpanId.isNone, beq_eq_false_iff_ne,
    List.contains_eq_mem, decide_eq_false_iff_not] at hacc
  exact hacc

/-- A child hop's id is none of the id of no span, the current span and its parent. -/
theorem nextSpanId_fresh (r : RandomSpans) (span parent : SpanId) :
    (r.nextSpanId span parent).1 ≠ SpanId.none ∧ (r.nextSpanId span parent).1 ≠ span ∧
      (r.nextSpanId span parent).1 ≠ parent := by
  obtain ⟨hnone, hex⟩ := r.draw_fresh [span, parent] (Nat.le_refl 2)
  simp only [List.mem_cons, List.not_mem_nil, or_false, not_or] at hex
  exact ⟨hnone, hex.1, hex.2⟩

end RandomSpans

namespace IdSource

/-- The next transaction sequence number. -/
def nextSequence (s : IdSource) : UInt64 × IdSource :=
  (s.sequence + 1, { s with sequence := s.sequence + 1 })

/-- The next async id: one more than the counter, `1` in place of `0`. -/
def nextAsync (s : IdSource) : AsyncId × IdSource :=
  let id := s.asyncCounter + 1
  (⟨if id == 0 then 1 else id⟩, { s with asyncCounter := s.asyncCounter + 1 })

/-- The next span id of a counting source (random sources draw from `RandomSpans`). -/
def nextCountedSpan (s : IdSource) : SpanId × IdSource :=
  (⟨(s.spanCounter + 1).toInt64⟩, { s with spanCounter := s.spanCounter + 1 })

/-- All counters back to zero. -/
def reset (s : IdSource) : IdSource := { s with spanCounter := 0, sequence := 0, asyncCounter := 0 }

/-- The debug form of the source. -/
def debug (s : IdSource) : String :=
  let inner := "DefaultIdGenerator \x7b transaction_sequence: " ++ toString s.sequence.toNat ++
    ", async_id: " ++ toString s.asyncCounter.toNat ++ " \x7d"
  match s.kind with
  | .increment => "IncrementIdGenerator \x7b span_id: " ++ toString s.spanCounter.toNat ++ ", inner: " ++
      inner ++ " \x7d"
  | .random => inner

theorem nextAsync_ne_zero (s : IdSource) : (s.nextAsync.1).value ≠ 0 := by
  simp only [nextAsync]
  split <;> simp_all

end IdSource

end TraceAgent
