import TraceAgent.Decimal.Notation

/-!
# Samplers

A sampler decides for each new transaction whether it is recorded.

* `alwaysOn`, `alwaysOff`.
* `counting r`: rate `0` never samples, rate `1` always does; otherwise the `i`-th decision
  (counting from 0, over the sampler and all its clones, which share one counter) samples iff
  `i % r = 0`.
* `percent p`: `p ≥ 100` always samples; `p ≤ 0` or not-a-number never does. Strictly between,
  the thread's random generator draws a value in `[0, 100)` and the decision is whether it is
  below `p`; `Sampler.isDeterministic` is false.

The counter and the generator's draws are the sampler's state (`Sampler.State`), kept apart from
its kind (`Sampler.decide` takes and returns it), so clones sharing the counter are the same value
here.

Main statements: `decide_counting` — the counting law above, one decision at a time.
-/

namespace TraceAgent

/-- A sampler kind. -/
inductive Sampler where
  | alwaysOn
  | alwaysOff
  | counting (rate : UInt64)
  | percent (p : Float)
  deriving Inhabited

namespace Sampler

/-- Whether every decision of the sampler is determined (a percentage strictly between 0 and
100 is random). -/
def isDeterministic : Sampler → Bool
  | percent p => !(0.0 < p && p < 100.0)
  | _ => true

/-- What a sampler's decisions read and move on: the counter a counting sampler shares with its
clones, and for a percent sampler the draws of the thread's random generator in `[0, 100)`,
`uniform k` being the `k`-th, of which `used` are taken. (The driver refuses random samplers and
never reads the draws.) -/
structure State where
  counter : UInt64 := 0
  uniform : Nat → Float := fun _ => 0.0
  used : Nat := 0

instance : Inhabited State := ⟨{}⟩

/-- One decision; returns the decision and the state moved on. -/
def decide : Sampler → State → Bool × State
  | alwaysOn, st => (true, st)
  | alwaysOff, st => (false, st)
  | counting r, st =>
    if r == 0 then (false, st)
    else if r == 1 then (true, st)
    else (st.counter % r == 0, { st with counter := st.counter + 1 })
  | percent p, st =>
    if 100.0 ≤ p then (true, st)
    else if p ≤ 0.0 || p.isNaN then (false, st)
    else (st.uniform st.used < p, { st with used := st.used + 1 })

/-- `n` decisions in a row. -/
def decideMany (s : Sampler) : Nat → State → List Bool × State
  | 0, st => ([], st)
  | n + 1, st =>
    let (b, st₁) := s.decide st
    let (bs, st₂) := s.decideMany n st₁
    (b :: bs, st₂)

/-- The debug form of a counting sampler. -/
def countingDebug (r : UInt64) : String := "CountingSampler \x7b rate: " ++ toString r.toNat ++ " \x7d"

/-- The debug form. -/
def debug : Sampler → String
  | alwaysOn => "AlwaysOn"
  | alwaysOff => "AlwaysOff"
  | counting r => "Counting(" ++ countingDebug r ++ ")"
  | percent p => "Percent(" ++ Decimal.Notation.general p ++ ")"

theorem decide_counting (r : UInt64) (st : State) (h : 2 ≤ r.toNat) :
    (counting r).decide st = (st.counter % r == 0, { st with counter := st.counter + 1 }) := by
  have h0 : (r == 0) = false := by
    cases hr : r == 0 <;> simp_all [UInt64.toNat_ofNat]
  have h1 : (r == 1) = false := by
    cases hr : r == 1 <;> simp_all [UInt64.toNat_ofNat]
  simp [decide, h0, h1]

end Sampler

end TraceAgent
