/-!
# Reading numbers from text

Numbers in headers and environment variables are read by a strict grammar: no blanks, an
optional sign, ASCII digits only.

* `readUnsigned bound s`: an optional `+`, one or more digits, a value below `bound`
  (so `+7` and `007` are read, `-0`, ` 8`, `1e3` and the empty text are not).
* `readSigned lo hi s`: an optional `+` or `-`, one or more digits, a value in `[lo, hi]`.
* `readFloat s`: an optional sign, then `inf`, `infinity` or `nan` in any case, or digits with an
  optional point (`1.`, `.5`, but not `.`) and an optional exponent `e`/`E`, sign, digits. The value
  is the nearest double.
-/

namespace TraceAgent
namespace Decimal

/-- One more digit after the value read so far; `none` once a character is not a digit. -/
def digitStep (acc : Option Nat) (c : Char) : Option Nat :=
  acc.bind fun n => if c.isDigit then some (10 * n + (c.toNat - '0'.toNat)) else none

/-- The value of a list of ASCII digits, most significant first; `none` for any other character. -/
def digitsValue (cs : List Char) : Option Nat := cs.foldl digitStep (some 0)

/-- One or more ASCII digits, read as a number. -/
def readDigits (cs : List Char) : Option Nat :=
  if cs.isEmpty then none else digitsValue cs

/-- The characters without one leading `+`. -/
def dropPlus : List Char → List Char
  | '+' :: rest => rest
  | cs => cs

/-- The characters without one leading sign, and whether the sign was `-`. -/
def splitSign : List Char → Bool × List Char
  | '+' :: rest => (false, rest)
  | '-' :: rest => (true, rest)
  | cs => (false, cs)

/-- An unsigned number below `bound`, with an optional leading `+`. -/
def readUnsigned (bound : Nat) (s : String) : Option Nat :=
  match readDigits (dropPlus s.toList) with
  | some n => if n < bound then some n else none
  | none => none

/-- A signed number in `[lo, hi]`, with an optional leading `+` or `-`. -/
def readSigned (lo hi : Int) (s : String) : Option Int :=
  let (neg, body) := splitSign s.toList
  match readDigits body with
  | some n =>
    let v : Int := if neg then -(n : Int) else n
    if lo ≤ v ∧ v ≤ hi then some v else none
  | none => none

/-- An unsigned 64-bit number. -/
def readU64 (s : String) : Option Nat := readUnsigned (Nat.pow 2 64) s

/-- An unsigned 16-bit number. -/
def readU16 (s : String) : Option Nat := readUnsigned (Nat.pow 2 16) s

/-- A signed 64-bit number. -/
def readI64 (s : String) : Option Int := readSigned (-Int.pow 2 63) (Int.pow 2 63 - 1) s

/-- The double nearest to `m · 10 ^ e`. Exponents far outside the range of doubles give zero or
infinity directly. -/
def scaled (m : Nat) (e : Int) : Float :=
  if m == 0 then 0.0
  else
    let width : Int := (toString m).length
    if width + e > 400 then Float.ofScientific 1 false 400
    else if width + e < -400 then 0.0
    else if 0 ≤ e then Float.ofScientific m false e.toNat
    else Float.ofScientific m true (-e).toNat

/-- The text of a decimal float split at its point and exponent: digits before and after the
point, and the exponent value. -/
def splitDecimal (cs : List Char) : Option (List Char × List Char × Int) :=
  let whole := cs.takeWhile Char.isDigit
  let rest := cs.dropWhile Char.isDigit
  let (frac, rest) := match rest with
    | '.' :: r => (r.takeWhile Char.isDigit, r.dropWhile Char.isDigit)
    | _ => ([], rest)
  if whole.isEmpty && frac.isEmpty then none
  else
    match rest with
    | [] => some (whole, frac, 0)
    | c :: exp =>
      if c == 'e' || c == 'E' then
        let (neg, digits) := splitSign exp
        match readDigits digits with
        | some n => some (whole, frac, if neg then -(n : Int) else n)
        | none => none
      else none

/-- Case-insensitive comparison with an ASCII word. -/
def sameWord (cs : List Char) (word : String) : Bool :=
  cs.map Char.toLower == word.toList

/-- A float in the strict grammar described above. -/
def readFloat (s : String) : Option Float :=
  let (neg, body) := splitSign s.toList
  let sign (x : Float) : Float := if neg then -x else x
  if sameWord body "inf" || sameWord body "infinity" then some (sign (Float.ofScientific 1 false 400))
  else if sameWord body "nan" then some (0.0 / 0.0)
  else
    match splitDecimal body with
    | some (whole, frac, e) =>
      match digitsValue (whole ++ frac) with
      | some m => some (sign (scaled m (e - frac.length)))
      | none => none
    | none => none

end Decimal
end TraceAgent
