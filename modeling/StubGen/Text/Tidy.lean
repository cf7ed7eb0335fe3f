/-
Tidy texts: the form in which generated files are written.

Each line keeps its leading blanks, as that many spaces, and has every other run of
blanks made one space, with trailing blanks gone; every line ends with a line feed.
Empty lines go, except that where empty lines stood between two kept lines one empty
line stays.  A line of blanks only is not empty: it is kept, as spaces.
-/
import StubGen.Text.Split

namespace StubGen.Text

/-- A line tidied: its leading blanks as spaces, then its words joined by single spaces. -/
def tidyLine (l : List Point) : List Point :=
  List.replicate (indent l) (.char ' ') ++ [.char ' '].intercalate (words l)

/-- Tidies lines; `gap` tells whether empty lines were dropped since the last line kept
(or since the start). -/
def tidyLines : Bool → List (List Point) → List Point
  | _, [] => []
  | gap, l :: ls =>
    if l.isEmpty then tidyLines true ls
    else (if gap then [.char '\n'] else []) ++ tidyLine l ++ .char '\n' :: tidyLines false ls

/-- The tidy form of a text. -/
def tidy (s : List Point) : List Point := tidyLines false (lines s)

/-- A line in tidy form: `k` spaces, then `m` words joined by single spaces, with
`k + m ≥ 1`; a word is a non-empty run of characters that are not blanks. -/
def IsTidyLine (l : List Point) : Prop :=
  ∃ k ws, l = List.replicate k (.char ' ') ++ [.char ' '].intercalate ws ∧ 0 < k + ws.length ∧
    ∀ w ∈ ws, w ≠ [] ∧ ∀ c ∈ w, isBlank c = false

/-- Lines in tidy form: each empty or tidy, no two empty lines in a row, and the last one
not empty. -/
def TidyLines : List (List Point) → Prop
  | [] => True
  | [l] => IsTidyLine l
  | l :: m :: rest => (l = [] ∨ IsTidyLine l) ∧ (l = [] → m ≠ []) ∧ TidyLines (m :: rest)

/-- A text in tidy form: tidy lines, each ended by a line feed. -/
def IsTidy (s : List Point) : Prop :=
  ∃ ls, TidyLines ls ∧ s = ls.flatMap (· ++ [.char '\n'])

end StubGen.Text
