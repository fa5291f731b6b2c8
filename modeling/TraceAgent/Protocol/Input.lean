import TraceAgent.Doc.Basic
import TraceAgent.Decimal.Read

/-!
# Reading request fields

A request is a JSON object; each operation reads its fields with the readers here. A field that
is missing or of the wrong shape refuses the request with `Refusal.badInput`, naming the field.
An optional field may also be `null`.

Floats are read from JSON numbers or from the strings `NaN`, `inf`, `-inf` and `-0`.
-/

namespace TraceAgent
namespace Protocol

/-- Why a request, or one step of it, is refused before the library runs. -/
inductive Refusal where
  | badInput (message : String)
  | nondeterministic
  | unknownHandle (name : String)
  | wrongHandle (name : String)
  | unknownInterceptor (name : String)
  | chainBusy (name : String)
  deriving Repr, Inhabited

namespace Refusal

/-- The kind of the refusal. -/
def kind : Refusal → String
  | badInput _ => "BadInput"
  | nondeterministic => "Nondeterministic"
  | unknownHandle _ => "UnknownHandle"
  | wrongHandle _ => "WrongHandle"
  | unknownInterceptor _ => "UnknownInterceptor"
  | chainBusy _ => "DriverChainBusy"

/-- The text of the refusal. -/
def message : Refusal → String
  | badInput m => m
  | nondeterministic => "percent sampler strictly between 0 and 100 is random"
  | unknownHandle n => n
  | wrongHandle n => n
  | unknownInterceptor n => n
  | chainBusy n => n

end Refusal

/-- A reading that may refuse. -/
abbrev Read := Except Refusal

/-- Refuses, naming a field. -/
def refuse {α : Type} (field : String) : Read α := .error (.badInput field)

/-- The float a document stands for. -/
def floatOf? : Doc → Option Float
  | .int n => some (if n < 0 then -(Decimal.scaled n.natAbs 0) else Decimal.scaled n.natAbs 0)
  | .dec m s =>
    let x := Decimal.scaled m.natAbs (-(s : Int))
    some (if m < 0 then -x else x)
  | .str "NaN" => some (0.0 / 0.0)
  | .str "inf" => some (Decimal.scaled 1 400)
  | .str "-inf" => some (-(Decimal.scaled 1 400))
  | .str "-0" => some (-0.0)
  | _ => none

/-- A field that may be missing or null. -/
def optField (d : Doc) (key : String) : Option Doc :=
  match d.field? key with
  | some .null => none
  | other => other

/-- A required string field. -/
def reqString (d : Doc) (key : String) : Read String :=
  match optField d key with
  | some (.str s) => pure s
  | _ => refuse key

/-- An optional string field. -/
def optString (d : Doc) (key : String) : Read (Option String) :=
  match optField d key with
  | some (.str s) => pure (some s)
  | none => pure none
  | _ => refuse key

/-- An optional boolean field. -/
def optBool (d : Doc) (key : String) : Read (Option Bool) :=
  match optField d key with
  | some (.bool b) => pure (some b)
  | none => pure none
  | _ => refuse key

/-- A boolean field that defaults to `false`. -/
def flag (d : Doc) (key : String) : Read Bool := do
  pure ((← optBool d key).getD false)

/-- An integer document within `[lo, hi]`. -/
def intIn (lo hi : Int) (key : String) : Doc → Read Int
  | .int n => if lo ≤ n ∧ n ≤ hi then pure n else refuse key
  | _ => refuse key

/-- A required integer field within `[lo, hi]`. -/
def reqInt (d : Doc) (key : String) (lo hi : Int) : Read Int :=
  match optField d key with
  | some v => intIn lo hi key v
  | none => refuse key

/-- An optional integer field within `[lo, hi]`. -/
def optInt (d : Doc) (key : String) (lo hi : Int) : Read (Option Int) :=
  match optField d key with
  | some v => some <$> intIn lo hi key v
  | none => pure none

/-- A required natural number field below `bound`. -/
def reqNat (d : Doc) (key : String) (bound : Nat) : Read Nat := do
  pure (← reqInt d key 0 (bound - 1 : Nat)).toNat

/-- An optional natural number field below `bound`. -/
def optNat (d : Doc) (key : String) (bound : Nat) : Read (Option Nat) := do
  pure ((← optInt d key 0 (bound - 1 : Nat)).map Int.toNat)

/-- A required list field. -/
def reqList (d : Doc) (key : String) : Read (List Doc) :=
  match optField d key with
  | some (.arr xs) => pure xs
  | _ => refuse key

/-- An optional list field. -/
def optList (d : Doc) (key : String) : Read (List Doc) :=
  match optField d key with
  | some (.arr xs) => pure xs
  | none => pure []
  | _ => refuse key

/-- A required float field. -/
def reqFloat (d : Doc) (key : String) : Read Float :=
  match (optField d key).bind floatOf? with
  | some x => pure x
  | none => refuse key

/-- An object field, as a list of string members; other members refuse. -/
def stringMap (d : Doc) (key : String) : Read (List (String × String)) :=
  match optField d key with
  | some (.obj ms) => ms.mapM fun m => match m.2 with
    | .str s => pure (m.1, s)
    | _ => refuse key
  | none => pure []
  | _ => refuse key

/-- A list of strings. -/
def stringList (key : String) (xs : List Doc) : Read (List String) :=
  xs.mapM fun x => match x with
    | .str s => pure s
    | _ => refuse key

end Protocol
end TraceAgent
