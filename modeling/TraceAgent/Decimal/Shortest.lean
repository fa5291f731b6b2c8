/-!
# Shortest decimal digits of a binary float

A finite double `m · 2 ^ e` stands for every real number that rounds to it: the interval
reaching half way to each neighbour, ends included when `m` is even (a tie goes to the even
significand). The shortest decimal form of the double is found by trying coarser grids first:
on the grid `10 ^ k`, the only candidates are the two grid points around the value, and the first
grid on which one of them lies in the interval gives the fewest digits. Of two hits the nearer
one wins, and an exact tie goes to the even digit string.

Main statements: `Binary.classify` splits a double into sign, significand and exponent, and
`Binary.shortest` returns the digits `d` and exponent `k` with value `d · 10 ^ k`.
-/

namespace TraceAgent
namespace Decimal

/-- A finite nonnegative binary number `mantissa · 2 ^ exponent`, with the flag telling whether
its lower neighbour is nearer than its upper one (the smallest significand of a binade). -/
structure Binary where
  mantissa : Nat
  exponent : Int
  lowerGapHalved : Bool
  deriving Repr, DecidableEq

/-- The kinds of IEEE doubles. -/
inductive FloatClass where
  | nan
  | infinite (negative : Bool)
  | finite (negative : Bool) (value : Binary)
  deriving Repr

namespace Binary

/-- The parts of a double read from its bits: one sign bit, eleven exponent bits, fifty-two
fraction bits; an exponent field of zero holds subnormal numbers. -/
def classify (x : Float) : FloatClass :=
  let bits : Nat := x.toBits.toNat
  let negative : Bool := bits / Nat.pow 2 63 % 2 == 1
  let field : Nat := bits / Nat.pow 2 52 % Nat.pow 2 11
  let fraction : Nat := bits % Nat.pow 2 52
  if field == 2047 then
    if fraction == 0 then .infinite negative else .nan
  else if field == 0 then
    .finite negative ⟨fraction, -1074, false⟩
  else
    .finite negative ⟨fraction + Nat.pow 2 52, (field : Int) - 1075, fraction == 0 && field > 1⟩

/-- A rational number `num / den` with natural parts. -/
structure Ratio where
  num : Nat
  den : Nat

/-- `x ≤ y` on ratios with positive denominators. -/
def Ratio.le (x y : Ratio) : Bool := x.num * y.den ≤ y.num * x.den

/-- `x < y` on ratios with positive denominators. -/
def Ratio.lt (x y : Ratio) : Bool := x.num * y.den < y.num * x.den

/-- `n · 2 ^ (exponent - 2)`: the value, its interval ends and the distances all live on this
grid of quarter units. -/
def quarter (b : Binary) (n : Nat) : Ratio :=
  let shift := b.exponent - 2
  if 0 ≤ shift then ⟨n * Nat.pow 2 shift.toNat, 1⟩ else ⟨n, Nat.pow 2 (-shift).toNat⟩

/-- `c · 10 ^ k` as a ratio. -/
def gridPoint (c : Nat) (k : Int) : Ratio :=
  if 0 ≤ k then ⟨c * Nat.pow 10 k.toNat, 1⟩ else ⟨c, Nat.pow 10 (-k).toNat⟩

/-- The value in quarter units. -/
def value (b : Binary) : Ratio := b.quarter (4 * b.mantissa)

/-- The lower end of the rounding interval. -/
def low (b : Binary) : Ratio := b.quarter (4 * b.mantissa - if b.lowerGapHalved then 1 else 2)

/-- The upper end of the rounding interval. -/
def high (b : Binary) : Ratio := b.quarter (4 * b.mantissa + 2)

/-- Whether a ratio reads back as this binary number. -/
def readsBack (b : Binary) (r : Ratio) : Bool :=
  if b.mantissa % 2 == 0 then b.low.le r && r.le b.high else b.low.lt r && r.lt b.high

/-- The largest `c` with `c · 10 ^ k ≤ value`. -/
def floorOnGrid (b : Binary) (k : Int) : Nat :=
  let v := b.value
  let g := gridPoint 1 k
  -- c ≤ v / g  ⟺  c ≤ (v.num * g.den) / (v.den * g.num)
  (v.num * g.den) / (v.den * g.num)

/-- A decimal estimate of the position of the leading digit, never below the true one. -/
def startGrid (b : Binary) : Int :=
  let bitsUp : Int := (Nat.log2 b.mantissa : Int) + 1 + b.exponent
  bitsUp * 30103 / 100000 + 2

/-- The distance between two ratios. -/
def Ratio.dist (x y : Ratio) : Ratio :=
  let a := x.num * y.den
  let c := y.num * x.den
  ⟨if a ≤ c then c - a else a - c, x.den * y.den⟩

/-- On grid `k`, the grid point that reads back and lies nearest the value, if any. -/
def hitOnGrid (b : Binary) (k : Int) : Option Nat :=
  let c := b.floorOnGrid k
  let down := b.readsBack (gridPoint c k)
  let up := b.readsBack (gridPoint (c + 1) k)
  if down && up then
    let dd := (gridPoint c k).dist b.value
    let du := (gridPoint (c + 1) k).dist b.value
    if dd.lt du then some c
    else if du.lt dd then some (c + 1)
    else if c % 2 == 0 then some c else some (c + 1)
  else if down then some c
  else if up then some (c + 1)
  else none

/-- Tries the grids `k, k - 1, …` for at most `fuel` steps. -/
def searchGrids (b : Binary) : Nat → Int → Option (Nat × Int)
  | 0, _ => none
  | fuel + 1, k =>
    match b.hitOnGrid k with
    | some c => if c == 0 then b.searchGrids fuel (k - 1) else some (c, k)
    | none => b.searchGrids fuel (k - 1)

/-- Removes trailing zero digits, moving them into the exponent. -/
def trimZeros : Nat → Nat × Int → Nat × Int
  | 0, p => p
  | fuel + 1, (d, k) => if d != 0 && d % 10 == 0 then trimZeros fuel (d / 10, k + 1) else (d, k)

/-- The shortest digits `d` and exponent `k` with `d · 10 ^ k` reading back as the number;
zero for a zero significand. -/
def shortest (b : Binary) : Nat × Int :=
  if b.mantissa == 0 then (0, 0)
  else
    match b.searchGrids 800 b.startGrid with
    | some p => trimZeros 40 p
    | none => (b.mantissa, 0)

end Binary

end Decimal
end TraceAgent
