/-
Blanks and line breaks: the two character classes by which texts are cut into words
and lines.

A blank separates words: the controls tab to carriage return, the information
separators U+001C to U+001F, the space, the next-line control U+0085, the no-break
space, and the spaces and separators of Unicode (U+1680, U+2000 to U+200A, U+2028,
U+2029, U+202F, U+205F, U+3000).  The zero-width space U+200B is not a blank.

A line break ends a line: line feed, vertical tab, form feed, carriage return, the
separators U+001C to U+001E, next line U+0085, and the line and paragraph separators
U+2028 and U+2029.  A carriage return followed by a line feed is one break; that pair
is handled where texts are cut into lines.
-/
import StubGen.Text.Point

namespace StubGen.Text

/-- Whether `c` separates words. -/
def isBlank (c : Point) : Bool :=
  let n := c.val
  (9 ≤ n && n ≤ 13) || (28 ≤ n && n ≤ 32) || n == 0x85 || n == 0xa0 || n == 0x1680 ||
  (0x2000 ≤ n && n ≤ 0x200a) || n == 0x2028 || n == 0x2029 || n == 0x202f ||
  n == 0x205f || n == 0x3000

/-- Whether `c` ends a line. -/
def isLineBreak (c : Point) : Bool :=
  let n := c.val
  (10 ≤ n && n ≤ 13) || (28 ≤ n && n ≤ 30) || n == 0x85 || n == 0x2028 || n == 0x2029

theorem isBlank_of_isLineBreak {c : Point} (h : isLineBreak c = true) : isBlank c = true := by
  simp only [isLineBreak, isBlank, Bool.or_eq_true, Bool.and_eq_true, decide_eq_true_eq,
    beq_iff_eq] at h ⊢
  omega

end StubGen.Text
