import Mathlib
import TraceAgent.Config
import TraceAgent.Proofs.Headers.RoundTrip

/-!
# The counting sampler's law

A counting sampler of rate `r` and all its clones share one counter of 64 bits, which wraps.
Rates 0 and 1 decide without touching it: 0 never samples, 1 always does. Any other rate samples
the decision that finds the counter at a multiple of `r`, and moves the counter on by one. The
draws a percent sampler would take from the thread's generator play no part.

A decision is therefore fixed by how many decisions came before it, in whatever order the
sampler and its clones make them: the `k`-th finds the counter at `k mod 2^64`
(`countingDecision`). From a fresh counter:

* `decideMany_counting` — the decisions, one by one;
* `count_decideMany_counting` — among the first `n ≤ 2^64` decisions exactly `⌈n / r⌉` are
  taken when `r ≥ 1`, and none when `r = 0`;
* `ofEnv_sampler_counting` — the configuration builds this sampler from
  `CALLTRACE_SAMPLER=counting` and the rate's decimal text.

Past `2^64` decisions the counter has wrapped, and for a rate that does not divide `2^64` the
index and the counter no longer agree modulo the rate (`counting_three_wraps_early`).

Main statement: `counting_sampler_law`.
-/

namespace TraceAgent
namespace Sampler

/-- The decision of a counting sampler of rate `r` after `k` decisions, when its counter holds
`k mod 2^64`. -/
def countingDecision (r : UInt64) (k : Nat) : Bool :=
  r.toNat == 1 || (2 ≤ r.toNat && k % UInt64.size % r.toNat == 0)

/-- The counter after one decision of a counting sampler: moved on only past rate 1. -/
def countingNext (r c : UInt64) : UInt64 := if 2 ≤ r.toNat then c + 1 else c

/-- Rates 0 and 1 decide the same way every time. -/
theorem countingDecision_of_lt_two {r : UInt64} (hr : r.toNat < 2) (k : Nat) :
    countingDecision r k = (r.toNat == 1) := by
  simp [countingDecision, Nat.not_le.2 hr]

/-- Only the counter's value matters. -/
theorem countingDecision_congr (r : UInt64) {k k' : Nat} (h : k % UInt64.size = k' % UInt64.size) :
    countingDecision r k = countingDecision r k' := by
  simp only [countingDecision, h]

/-- One decision reads the counter and leaves `countingNext r` of it; the generator's draws are
not touched. -/
theorem decide_counting_eq (r : UInt64) (st : State) :
    (counting r).decide st = (countingDecision r st.counter.toNat, { st with counter := countingNext r st.counter }) := by
  by_cases hr : 2 ≤ r.toNat
  · have hc : st.counter.toNat % UInt64.size = st.counter.toNat := Nat.mod_eq_of_lt st.counter.toNat_lt
    have h1 : (r.toNat == 1) = false := beq_eq_false_iff_ne.2 (by omega)
    have hmod : (st.counter % r == 0) = (st.counter.toNat % r.toNat == 0) := by
      rw [Bool.eq_iff_iff, beq_iff_eq, beq_iff_eq, ← UInt64.toNat_inj, UInt64.toNat_mod, UInt64.toNat_zero]
    rw [decide_counting r st hr]
    simp [countingDecision, countingNext, hr, hc, h1, hmod]
  · have h0 : r = 0 ∨ r = 1 := by
      rcases Nat.lt_succ_iff.1 (Nat.not_le.1 hr) |>.lt_or_eq with h | h
      · exact .inl (UInt64.toNat_inj.1 (by simpa using h))
      · exact .inr (UInt64.toNat_inj.1 (by simpa using h))
    rcases h0 with rfl | rfl <;> rfl

/-- The counter left by one decision stands where the next decision of the count expects it. -/
theorem countingDecision_next (r c : UInt64) (i : Nat) :
    countingDecision r ((countingNext r c).toNat + i) = countingDecision r (c.toNat + (i + 1)) := by
  by_cases hr : 2 ≤ r.toNat
  · apply countingDecision_congr
    simp only [countingNext, hr, if_true, UInt64.toNat_add, UInt64.toNat_one]
    rw [Nat.mod_add_mod, Nat.add_right_comm, Nat.add_assoc]
  · rw [countingDecision_of_lt_two (Nat.not_le.1 hr), countingDecision_of_lt_two (Nat.not_le.1 hr)]

/-- `n` decisions from the counter `c`: the `i`-th after `c + i` decisions. -/
theorem decideMany_counting (r : UInt64) (st : State) (n : Nat) :
    ((counting r).decideMany n st).1 = (List.range n).map fun i => countingDecision r (st.counter.toNat + i) := by
  induction n generalizing st with
  | zero => rfl
  | succ n ih =>
    simp only [decideMany, decide_counting_eq, ih, List.range_succ_eq_map, List.map_cons,
      List.map_map, Nat.add_zero]
    congr 1
    exact List.map_congr_left fun i _ => countingDecision_next r st.counter i

example : ((counting 4).decideMany 8 {}).1 = [true, false, false, false, true, false, false, false] := by
  decide

/-- Of the first `n` numbers, `⌈n / r⌉` are multiples of `r`. -/
theorem countP_range_dvd {r : Nat} (hr : 0 < r) (n : Nat) :
    (List.range n).countP (fun i => i % r == 0) = (n + r - 1) / r := by
  induction n with
  | zero => simp [Nat.div_eq_of_lt (Nat.sub_lt hr Nat.one_pos)]
  | succ n ih =>
    rw [List.range_succ, List.countP_append, ih]
    -- one more multiple exactly when `n` is one
    have hstep : (n + r) / r = (n + r - 1) / r + if r ∣ n then 1 else 0 := by
      have hsucc := Nat.succ_div (a := n + r - 1) (b := r)
      rw [show n + r - 1 + 1 = n + r by omega] at hsucc
      simpa only [Nat.dvd_add_self_right] using hsucc
    rw [show n + 1 + r - 1 = n + r by omega, hstep]
    simp [Nat.dvd_iff_mod_eq_zero]

/-- How many of the first `n ≤ 2^64` decisions of a fresh counting sampler are taken. -/
theorem count_decideMany_counting (r : UInt64) (st : State) {n : Nat} (hn : n ≤ UInt64.size) :
    ((counting r).decideMany n { st with counter := 0 }).1.count true = if r.toNat = 0 then 0 else (n + r.toNat - 1) / r.toNat := by
  rw [decideMany_counting, List.count_eq_countP, List.countP_map]
  have hidx : ∀ i ∈ List.range n, ((fun b => b == true) ∘ fun i => countingDecision r (UInt64.toNat 0 + i)) i =
      (r.toNat == 1 || (2 ≤ r.toNat && i % r.toNat == 0)) := by
    intro i hi
    have hi' : i % UInt64.size = i := Nat.mod_eq_of_lt (by simp at hi; omega)
    simp [countingDecision, hi']
  rw [List.countP_congr (fun i hi => by rw [hidx i hi])]
  rcases Nat.lt_or_ge r.toNat 2 with hr | hr
  · -- rate 0 takes none, rate 1 all
    interval_cases h : r.toNat <;> simp
  · have h1 : (r.toNat == 1) = false := beq_eq_false_iff_ne.2 (by omega)
    have h0 : r.toNat ≠ 0 := by omega
    simp only [h1, Bool.false_or, hr, decide_true, Bool.true_and, h0, if_false]
    exact countP_range_dvd (by omega) n

end Sampler

namespace Config

/-- The configuration reads `CALLTRACE_SAMPLER=counting` with a rate's decimal text as a counting
sampler of that rate, whatever the other variables say. -/
theorem ofEnv_sampler_counting (r : UInt64) {env : List (String × String)}
    (hs : lookup env "CALLTRACE_SAMPLER" = some "counting")
    (ha : lookup env "CALLTRACE_SAMPLER_ARG" = some (toString r.toNat)) :
    (ofEnv env).1.sampler = .counting r := by
  have hread : Decimal.readU64 (toString r.toNat) = some r.toNat :=
    Decimal.readUnsigned_repr (UInt64.toNat_lt r)
  simp only [ofEnv, hs, ha, samplerOf, Option.bind_some, hread, Nat.toUInt64_eq, UInt64.ofNat_toNat]

end Config

namespace Sampler

/-- The law of a fresh counting sampler of rate `r`: its decisions, made in any order by it and
its clones over one shared counter, are taken for rate 1 and, for a rate `r ≥ 2`, at the indices
that are multiples of `r` once reduced modulo `2^64`, the width of the counter. So exactly
`⌈n / r⌉` of the first `n ≤ 2^64` decisions are taken when `r ≥ 1`, and none when `r = 0`; and
the configuration builds the same sampler from `CALLTRACE_SAMPLER=counting` and the rate's
decimal text. -/
theorem counting_sampler_law (r : UInt64) (n : Nat) (st : State) :
    ((counting r).decideMany n { st with counter := 0 }).1 =
        (List.range n).map (fun i => r.toNat == 1 || (2 ≤ r.toNat && i % UInt64.size % r.toNat == 0)) ∧
      (n ≤ UInt64.size → ((counting r).decideMany n { st with counter := 0 }).1.count true =
        if r.toNat = 0 then 0 else (n + r.toNat - 1) / r.toNat) ∧
      ∀ env : List (String × String), Config.lookup env "CALLTRACE_SAMPLER" = some "counting" →
        Config.lookup env "CALLTRACE_SAMPLER_ARG" = some (toString r.toNat) →
        (Config.ofEnv env).1.sampler = counting r := by
  refine ⟨?_, fun hn => count_decideMany_counting r st hn, fun env hs ha => Config.ofEnv_sampler_counting r hs ha⟩
  rw [decideMany_counting]
  simp [countingDecision]

/-- A sampler of rate 4 configured from the environment, over eight decisions. -/
theorem counting_sampler_rate_four :
    (8 ≤ UInt64.size ∧ ((counting 4).decideMany 8 {}).1.count true = 2) ∧
      (Config.lookup [("CALLTRACE_SAMPLER", "counting"), ("CALLTRACE_SAMPLER_ARG", "4")] "CALLTRACE_SAMPLER" =
          some "counting" ∧
        Config.lookup [("CALLTRACE_SAMPLER", "counting"), ("CALLTRACE_SAMPLER_ARG", "4")] "CALLTRACE_SAMPLER_ARG" =
          some (toString (4 : UInt64).toNat) ∧
        (Config.ofEnv [("CALLTRACE_SAMPLER", "counting"), ("CALLTRACE_SAMPLER_ARG", "4")]).1.sampler =
          counting 4) := by
  have h := counting_sampler_law 4 8 {}
  have hn : 8 ≤ UInt64.size := by decide
  have hs : Config.lookup [("CALLTRACE_SAMPLER", "counting"), ("CALLTRACE_SAMPLER_ARG", "4")] "CALLTRACE_SAMPLER" =
      some "counting" := by decide
  have ha : Config.lookup [("CALLTRACE_SAMPLER", "counting"), ("CALLTRACE_SAMPLER_ARG", "4")] "CALLTRACE_SAMPLER_ARG" =
      some (toString (4 : UInt64).toNat) := by decide
  exact ⟨⟨hn, (h.2.1 hn).trans (by decide)⟩, hs, ha, h.2.2 _ hs ha⟩

/-- Past `2^64` decisions the shared counter has wrapped: decision number `2^64` of a fresh
sampler of rate 3 is taken, although `2^64` is no multiple of 3. -/
theorem counting_three_wraps_early :
    ((counting 3).decideMany (UInt64.size + 1) {}).1[UInt64.size]? = some true ∧ UInt64.size % 3 = 1 := by
  refine ⟨?_, by decide⟩
  rw [decideMany_counting, List.getElem?_map, List.getElem?_range (Nat.lt_succ_self _)]
  simp [countingDecision]

end Sampler
end TraceAgent
