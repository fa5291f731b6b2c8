/-!
# Blank characters

The Unicode white space class: the ASCII blanks `\t \n \x0b \x0c \r` and space, the next line
control U+0085, the no-break spaces U+00A0 and U+202F, the ogham space mark, the spaces
U+2000 to U+200A, the line and paragraph separators, the medium mathematical space and the
ideographic space.

`trimBlank` removes blank characters from both ends of a text.

Main statement: `isBlankChar_of_isWhitespace` — every character that core's `Char.isWhitespace`
accepts is blank here.
-/

namespace TraceAgent
namespace Text

/-- Whether a character is Unicode white space. -/
def isBlankChar (c : Char) : Bool :=
  let n := c.toNat
  (9 ≤ n && n ≤ 13) || n == 32 || n == 0x85 || n == 0xA0 || n == 0x1680 ||
    (0x2000 ≤ n && n ≤ 0x200A) || n == 0x2028 || n == 0x2029 || n == 0x202F || n == 0x205F ||
    n == 0x3000

/-- The text without blank characters at either end. -/
def trimBlank (s : String) : String :=
  String.ofList ((s.toList.dropWhile isBlankChar).reverse.dropWhile isBlankChar).reverse

/-- Whether a text has only blank characters. -/
def isBlank (s : String) : Bool := s.toList.all isBlankChar

theorem isBlankChar_of_isWhitespace (c : Char) (h : c.isWhitespace = true) : isBlankChar c = true := by
  simp only [Char.isWhitespace, Bool.or_eq_true, decide_eq_true_eq] at h
  simp only [isBlankChar]
  rcases h with ((h | h) | h) | h <;> simp [h]

end Text
end TraceAgent
