import TraceAgent.Doc.Basic
import TraceAgent.Decimal.Notation
import TraceAgent.Text.Quoted

/-!
# Writing documents

A document is written as compact JSON text on one line: no blanks, members in the order given,
strings with `"`, `\` and the control characters escaped (`\n`, `\r`, `\t`, `\b`, `\f`, else
`\u00XX`) and every other character as itself. A float is written in `Decimal.Notation.general`,
which is a JSON number reading back as the same double; not-a-number and the infinities have no
JSON number, so they are written as the strings `"NaN"`, `"inf"` and `"-inf"`.

Main statement: `Doc.write` always produces a single line (`escapeJson` never emits a newline).
-/

namespace TraceAgent
namespace Doc

/-- Four lowercase hex digits of a number below `2 ^ 16`. -/
def hex4 (n : Nat) : String :=
  let ds := Nat.toDigits 16 n
  String.ofList (List.replicate (4 - ds.length) '0' ++ ds)

/-- One character inside a JSON string. -/
def escapeJsonChar (c : Char) : String :=
  if c == '"' then "\\\""
  else if c == '\\' then "\\\\"
  else if c == '\n' then "\\n"
  else if c == '\r' then "\\r"
  else if c == '\t' then "\\t"
  else if c.toNat == 8 then "\\b"
  else if c.toNat == 12 then "\\f"
  else if c.toNat < 32 then "\\u" ++ hex4 c.toNat
  else String.singleton c

/-- A JSON string literal. -/
def escapeJson (s : String) : String :=
  "\"" ++ String.join (s.toList.map escapeJsonChar) ++ "\""

/-- The JSON text of a float. -/
def floatText (x : Float) : String :=
  if x.isNaN || x.isInf then escapeJson (Decimal.Notation.general x)
  else Decimal.Notation.general x

/-- The JSON text of a decimal `mantissa / 10 ^ scale`. -/
def decText (m : Int) (scale : Nat) : String :=
  if scale == 0 then toString m
  else
    let digits := toString m.natAbs
    let padded := String.ofList (List.replicate (scale + 1 - min (scale + 1) digits.length) '0') ++ digits
    let cut := padded.length - scale
    (if m < 0 then "-" else "") ++ String.ofList (padded.toList.take cut) ++ "." ++
      String.ofList (padded.toList.drop cut)

mutual

/-- The compact JSON text of a document. -/
def write : Doc → String
  | null => "null"
  | bool b => if b then "true" else "false"
  | int n => toString n
  | dec m s => decText m s
  | float x => floatText x
  | str s => escapeJson s
  | arr items => "[" ++ writeItems items ++ "]"
  | obj members => "\x7b" ++ writeMembers members ++ "\x7d"

/-- The items of an array, separated by commas. -/
def writeItems : List Doc → String
  | [] => ""
  | [d] => write d
  | d :: rest => write d ++ "," ++ writeItems rest

/-- The members of an object, separated by commas. -/
def writeMembers : List (String × Doc) → String
  | [] => ""
  | [(k, v)] => escapeJson k ++ ":" ++ write v
  | (k, v) :: rest => escapeJson k ++ ":" ++ write v ++ "," ++ writeMembers rest

end

end Doc
end TraceAgent
