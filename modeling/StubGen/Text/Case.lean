/-
Letter case of whole texts: lower, upper and title case, and the test for a text
written in capitals.

Every character maps by its full case map, with one rule that depends on context:
a capital sigma becomes the final sigma when it ends a word, that is when a cased
character stands before it and none after it, case-ignorable characters (apostrophes,
combining marks) being skipped on both sides.  Title case puts the first character of
each run of cased characters in title case and lowers the rest of the run.
-/
import StubGen.Text.Cased
import StubGen.Text.CaseMap

namespace StubGen.Text

/-- Whether a capital sigma between `before` (nearest character first) and `after` ends a
word: skipping case-ignorable characters, a cased character precedes it and none follows. -/
def endsWord (before after : List Point) : Bool :=
  (match before.dropWhile isCaseIgnorable with
   | c :: _ => isCased c
   | [] => false) &&
  (match after.dropWhile isCaseIgnorable with
   | c :: _ => !isCased c
   | [] => true)

/-- The lower case of `c` standing between `before` (nearest character first) and `after`. -/
def lowerAt (before : List Point) (c : Point) (after : List Point) : List Point :=
  if c = .char 'Σ' then [.char (if endsWord before after then 'ς' else 'σ')] else lowerOf c

/-- Lower case of the text `s` that follows `before` (nearest character first). -/
def lowerFrom (before : List Point) : List Point → List Point
  | [] => []
  | c :: after => lowerAt before c after ++ lowerFrom (c :: before) after

/-- The lower case of a text. -/
def lower (s : List Point) : List Point := lowerFrom [] s

/-- The upper case of a text. -/
def upper (s : List Point) : List Point := s.flatMap upperOf

/-- Title case of the text `s` that follows `before` (nearest character first); `cased`
tells whether the character just before is cased. -/
def titleFrom (cased : Bool) (before : List Point) : List Point → List Point
  | [] => []
  | c :: after =>
    (if cased then lowerAt before c after else titleOf c) ++
      titleFrom (isCased c) (c :: before) after

/-- The title case of a text: each run of cased characters starts in title case and goes
on in lower case. -/
def title (s : List Point) : List Point := titleFrom false [] s

/-- Whether a text is written in capitals.  A single character is so when it is uppercase;
a longer text when it has an uppercase character and no lowercase or title-case one. -/
def isCapitals : List Point → Bool
  | [c] => isUppercase c
  | s => s.any isUppercase && !s.any (fun c => isLowercase c || isTitlecase c)

end StubGen.Text
