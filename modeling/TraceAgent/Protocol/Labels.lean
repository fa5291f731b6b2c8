import TraceAgent.Ident.Span
import TraceAgent.Doc.Basic
import TraceAgent.Protocol.Input

/-!
# Stable names for varying values

Two values of a run differ from run to run: random span ids and the agent's start time. Answers
name them instead:

* a random span id gets the label `rand:N` when first shown (N counts from 1 in one request),
  and every later span id equal to it is written as the label (`Masks.spanDoc`);
* the agent's start time is written `START` inside transaction ids and header values.

A request may name a labelled span id by its label (`Masks.readSpanId`).
-/

namespace TraceAgent
namespace Protocol

/-- The labels given so far and the start time to hide. -/
structure Masks where
  labels : List (SpanId × Nat) := []
  start : Option UInt64 := none
  deriving Inhabited

namespace Masks

/-- The label of a span id, if it has one. -/
def labelOf? (m : Masks) (s : SpanId) : Option Nat :=
  (m.labels.find? (fun p => p.1 == s)).map Prod.snd

/-- Gives a span id the next label, unless it has one. -/
def label (m : Masks) (s : SpanId) : Masks :=
  match m.labelOf? s with
  | some _ => m
  | none => { m with labels := m.labels ++ [(s, m.labels.length + 1)] }

/-- The text of a span id: its label or its number. -/
def spanText (m : Masks) (s : SpanId) : String :=
  match m.labelOf? s with
  | some n => "rand:" ++ toString n
  | none => s.display

/-- A span id as a document: its label or its number. -/
def spanDoc (m : Masks) (s : SpanId) : Doc :=
  match m.labelOf? s with
  | some n => .str ("rand:" ++ toString n)
  | none => .int s.toInt

/-- The text of a transaction id, with the agent's start time written `START`. -/
def txidText (m : Masks) (t : TransactionId) : String :=
  if m.start == some t.startTime then t.agentId ++ "^START^" ++ toString t.sequence.toNat
  else t.display

/-- A header value: a number equal to a labelled span id is written as the label, and
`^start^` as `^START^`. -/
def headerText (m : Masks) (v : String) : String :=
  match Decimal.readI64 v with
  | some n =>
    match m.labelOf? (SpanId.ofInt n) with
    | some k => "rand:" ++ toString k
    | none => v
  | none =>
    match m.start with
    | some st => v.replace ("^" ++ toString st.toNat ++ "^") "^START^"
    | none => v

/-- Replaces every whole-number occurrence of the start time in a text by `START`. -/
def hideStart (m : Masks) (text : String) : String :=
  match m.start with
  | none => text
  | some st =>
    let digits := (toString st.toNat).toList
    let rec go : Nat → List Char → List Char → List Char
      | 0, _, rest => rest
      | _, _, [] => []
      | fuel + 1, prev, cs@(c :: rest) =>
        let prevDigit := match prev with
          | p :: _ => p.isDigit
          | [] => false
        if !prevDigit && digits.isPrefixOf cs &&
            !((cs.drop digits.length).head?.any Char.isDigit) then
          "START".toList ++ go fuel (digits.reverse ++ prev) (cs.drop digits.length)
        else c :: go fuel (c :: prev) rest
    String.ofList (go (text.length + 1) [] text.toList)

/-- Reads a span id: a signed 64-bit integer, or the label of a span id shown before. -/
def readSpanId (m : Masks) (key : String) : Doc → Read SpanId
  | .int n =>
    if -Int.pow 2 63 ≤ n ∧ n < Int.pow 2 63 then pure (SpanId.ofInt n) else refuse key
  | .str s =>
    if s.startsWith "rand:" then
      match Decimal.readU64 (String.ofList (s.toList.drop 5)) with
      | some k =>
        match m.labels.find? (fun p => p.2 == k) with
        | some p => pure p.1
        | none => .error (.badInput "unknown span label")
      | none => .error (.badInput "unknown span label")
    else refuse key
  | _ => refuse key

end Masks

end Protocol
end TraceAgent
