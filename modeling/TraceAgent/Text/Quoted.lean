import TraceAgent.Text.Escaped

/-!
# Quoted text

The debug form of a string: the text between double quotes, with a backslash before `"` and `\`,
the short escapes `\t`, `\r`, `\n` and `\0`, and `\u{hex}` (lowercase hex digits, no leading zeros)
for every other character in the escaped class (`Text.isEscaped`). Every other character stands
for itself.

Main statements: `escapeChar_plain` — a character outside the escaped class, other than quote and
backslash, is written as itself.
-/

namespace TraceAgent
namespace Text

/-- Lowercase hexadecimal digits of a number, without leading zeros. -/
def hexDigits (n : Nat) : String :=
  String.ofList (Nat.toDigits 16 n)

/-- The escape text of one character inside quotes. -/
def escapeChar (c : Char) : String :=
  if c == '"' then "\\\""
  else if c == '\\' then "\\\\"
  else if c == '\t' then "\\t"
  else if c == '\r' then "\\r"
  else if c == '\n' then "\\n"
  else if c == '\x00' then "\\0"
  else if isEscaped c then "\\u\x7b" ++ hexDigits c.toNat ++ "\x7d"
  else String.singleton c

/-- The quoted debug form of a string. -/
def quote (s : String) : String :=
  "\"" ++ String.join (s.toList.map escapeChar) ++ "\""

theorem escapeChar_plain (c : Char) (h1 : c ≠ '"') (h2 : c ≠ '\\') (h3 : isEscaped c = false)
    (h4 : c ≠ '\t') (h5 : c ≠ '\r') (h6 : c ≠ '\n') (h7 : c ≠ '\x00') :
    escapeChar c = String.singleton c := by
  simp [escapeChar, h1, h2, h3, h4, h5, h6, h7]

end Text
end TraceAgent
