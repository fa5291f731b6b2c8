import TraceAgent.Decimal.Shortest

/-!
# Writing floats

Every float text here starts from the shortest digits that read back (`Binary.shortest`); the
formats differ only in where the decimal point goes and how the special values are spelled.

* `Notation.plain`: positional always, an integral value without a point (`1e21` is written
  `1000000000000000000000`, `1e-7` is `0.0000001`), `-0` for negative zero.
* `Notation.general`: positional with at least one fraction digit (`100.0`) while
  `1e-4 ≤ |x| < 1e16`, and `d.ddde±x` outside that range (`1e16`, `1.5e-5`); zero is `0.0`.
  The same text is a JSON number that reads back as the float.

Not-a-number is `NaN` and the infinities are `inf` and `-inf` in both.
-/

namespace TraceAgent
namespace Decimal

/-- The decimal digits of a natural number. -/
def digitsOf (n : Nat) : String := toString n

/-- `n` zero characters. -/
def zeros (n : Nat) : String := String.ofList (List.replicate n '0')

/-- Digits `d` scaled by `10 ^ k`, written without exponent; `minFraction` is the least number of
fraction digits (padding with zeros). -/
def positional (d : Nat) (k : Int) (minFraction : Nat) : String :=
  let s := digitsOf d
  if 0 ≤ k then
    s ++ zeros k.toNat ++ (if minFraction == 0 then "" else "." ++ zeros minFraction)
  else
    let frac := (-k).toNat
    let whole := if s.length > frac then String.ofList (s.toList.take (s.length - frac)) else "0"
    let fracDigits :=
      if s.length > frac then String.ofList (s.toList.drop (s.length - frac))
      else zeros (frac - s.length) ++ s
    let fracDigits := if fracDigits.length < minFraction then
        fracDigits ++ zeros (minFraction - fracDigits.length) else fracDigits
    whole ++ "." ++ fracDigits

/-- Digits `d` scaled by `10 ^ k`, written as `d.ddde±x` with the exponent of the leading digit. -/
def scientific (d : Nat) (k : Int) : String :=
  let s := digitsOf d
  let lead := (s.length : Int) - 1 + k
  let mant := match s.toList with
    | c :: rest => if rest.isEmpty then String.singleton c else String.singleton c ++ "." ++ String.ofList rest
    | [] => "0"
  mant ++ "e" ++ toString lead

namespace Notation

/-- Positional text without exponent or superfluous point. -/
def plain (x : Float) : String :=
  match Binary.classify x with
  | .nan => "NaN"
  | .infinite neg => if neg then "-inf" else "inf"
  | .finite neg b =>
    let (d, k) := b.shortest
    (if neg then "-" else "") ++ positional d k 0

/-- Positional text with a fraction digit in `[1e-4, 1e16)`, exponent form outside it. -/
def general (x : Float) : String :=
  match Binary.classify x with
  | .nan => "NaN"
  | .infinite neg => if neg then "-inf" else "inf"
  | .finite neg b =>
    let sign := if neg then "-" else ""
    if b.mantissa == 0 then sign ++ "0.0"
    else
      let (d, k) := b.shortest
      let lead := ((digitsOf d).length : Int) - 1 + k
      if lead < -4 || 16 ≤ lead then sign ++ scientific d k else sign ++ positional d k 1

end Notation

end Decimal
end TraceAgent
