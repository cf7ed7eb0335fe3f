/-
# `StubGen.Proofs.Text.Layout` — tidying keeps the lines and the words of a text

`Text.tidy` rewrites a text line by line.  Read against the text it came from, it keeps
the text's layout:

* cut at its line feeds, the tidy text has as lines that are not empty exactly the lines
  of the text that are not empty, in order, each laid out as its leading blanks made
  spaces and then its words joined by single spaces (`laidOut`);
* an empty line stands just before a kept line exactly when empty lines stood before
  that line since the last kept line, or since the start.  The lines of every text are
  runs (`Run`), each some empty lines and then a line that is not empty, and after the
  last run empty lines only (`exists_runs`); a run is written as one empty line if it had
  any, then its line laid out, and the empty lines after the last run are dropped;
* the tidy text has the words of the text, in order: none is lost, added or merged.

## What is proved

    tidy_keeps_layout :
      (splitOn '\n' (tidy s)).filter (· ≠ []) = ((lines s).filter (· ≠ [])).map laidOut ∧
      (∃ rs t, lines s = rs.flatMap Run.toLines ++ replicate t []) ∧
      (∀ rs t, lines s = rs.flatMap Run.toLines ++ replicate t [] →
        splitOn '\n' (tidy s) = rs.flatMap Run.tidied ++ [[]]) ∧
      words (tidy s) = words s

The last piece of the cut, `[]`, is what follows the final line feed.

## Why it holds

Every line break is a blank, so cutting a text into lines cuts no word
(`words_eq_flatMap_lines`), and a tidied line has the words of its line
(`words_tidyLine`).  A tidied line holds no line feed, so cutting the tidy text at its line
feeds gives back the lines that `tidyForm` lists (`splitOn_tidy`); and `tidyForm` spends
the empty lines of a run on one empty line before the run's line (`tidyForm_runs`).
-/
import StubGen.Proofs.Text.Tidy

namespace StubGen.Text

/-! ## Words across lines

Cutting a text into lines cuts no word, since a line break is a blank; so the words of a
text are the words of its lines, and tidying, which rewrites each line on its own, keeps
the words in order. -/

theorem words_headD_append_tail (ls : List (List Point)) :
    words (ls.headD []) ++ ls.tail.flatMap words = ls.flatMap words := by
  cases ls with
  | nil => simp
  | cons l ls => simp

theorem words_append_eq_lines (s : List Point) :
    ∀ x : List Point, words (x ++ s) =
      words (x ++ (lines s).headD []) ++ (lines s).tail.flatMap words := by
  induction s using lines.induct with
  | case1 =>
      intro x
      simp [lines]
  | case2 rest ih =>
      -- a carriage return and a line feed: two blanks and one break
      intro x
      have hrest := ih []
      rw [List.nil_append, List.nil_append, words_headD_append_tail] at hrest
      rw [lines, words_append_of_isBlank (by decide) _ x, words_cons_of_isBlank (by decide),
        hrest]
      simp
  | case3 c rest hcr hc ih =>
      intro x
      have hrest := ih []
      rw [List.nil_append, List.nil_append, words_headD_append_tail] at hrest
      rw [lines.eq_3 c rest hcr, if_pos hc, words_append_of_isBlank (isBlank_of_isLineBreak hc),
        hrest]
      simp
  | case4 c rest _ hc piece more hl ih =>
      -- `c` joins the first line of the rest
      intro x
      have hc' : isLineBreak c = false := by simpa using hc
      have h := ih (x ++ [c])
      rw [hl, List.append_assoc, List.singleton_append, List.append_assoc,
        List.singleton_append] at h
      rw [lines_cons_of_not_isLineBreak hc' hl, h]
      rfl
  | case5 c rest hcr hc hl ih =>
      -- `c` is a line of its own, the last one
      intro x
      have h := ih (x ++ [c])
      rw [hl, List.append_assoc, List.singleton_append] at h
      rw [lines.eq_3 c rest hcr, if_neg hc, hl, h]
      simp

/-- The words of a text are the words of its lines, in order. -/
theorem words_eq_flatMap_lines (s : List Point) : words s = (lines s).flatMap words := by
  have h := words_append_eq_lines s []
  rwa [List.nil_append, List.nil_append, words_headD_append_tail] at h

theorem words_flatMap_newline :
    ∀ ls : List (List Point), words (ls.flatMap (· ++ [.char '\n'])) = ls.flatMap words
  | [] => by simp
  | l :: ls => by
      rw [List.flatMap_cons, List.append_assoc, List.singleton_append,
        words_append_of_isBlank (by decide) _ l, words_flatMap_newline ls, List.flatMap_cons]

/-- A tidied line has the words of its line. -/
theorem words_tidyLine (l : List Point) : words (tidyLine l) = words l := by
  rw [tidyLine, words_replicate_append, words_intercalate fun w hw => isWord_of_mem_words hw]

theorem flatMap_words_tidyForm (gap : Bool) (ls : List (List Point)) :
    (tidyForm gap ls).flatMap words = ls.flatMap words := by
  induction ls generalizing gap with
  | nil => rfl
  | cons l ls ih =>
      rw [tidyForm]
      split
      · rename_i hl
        rw [ih, List.flatMap_cons, List.isEmpty_iff.mp hl, words_nil, List.nil_append]
      · cases gap <;> simp [ih, words_tidyLine]

theorem words_tidy (s : List Point) : words (tidy s) = words s := by
  rw [tidy, tidyLines_eq_flatMap, words_flatMap_newline, flatMap_words_tidyForm,
    ← words_eq_flatMap_lines]

/-! ## Lines cut at line feeds

A tidy text is lines each ended by a line feed, none holding one; cut at its line feeds
it gives those lines and the empty text after the last feed. -/

theorem splitOn_flatMap_newline :
    ∀ {ls : List (List Point)}, (∀ l ∈ ls, Point.char '\n' ∉ l) →
      splitOn (.char '\n') (ls.flatMap (· ++ [.char '\n'])) = ls ++ [[]]
  | [], _ => rfl
  | l :: ls, h => by
      have hrest := splitOn_flatMap_newline fun l' hl' => h l' (List.mem_cons_of_mem l hl')
      rw [splitOn_eq_listSplitOn] at hrest ⊢
      rw [List.flatMap_cons, List.append_assoc, List.singleton_append,
        List.splitOn_append_cons_self_of_not_mem (h l List.mem_cons_self), hrest]
      rfl

/-- Cut at its line feeds, a tidy text gives the lines that `tidyForm` lists, then the
empty text after the last feed. -/
theorem splitOn_tidy (s : List Point) :
    splitOn (.char '\n') (tidy s) = tidyForm false (lines s) ++ [[]] := by
  rw [tidy, tidyLines_eq_flatMap]
  apply splitOn_flatMap_newline
  intro l hl hn
  have h := (tidyLines_tidyForm false (lines s)).unbroken l hl _ hn
  exact absurd h (by decide)

/-! ## Kept lines

A kept line keeps its leading blanks as spaces, then its words joined by single spaces.
The lines that tidying writes and that are not empty are the given lines that are not
empty, each tidied. -/

/-- A line as it is kept: as many spaces as it has blanks before its first word (what
trimming its start removes), then its words joined by single spaces. -/
def laidOut (l : List Point) : List Point :=
  List.replicate (l.length - (trimStart l).length) (.char ' ') ++
    [.char ' '].intercalate (words l)

theorem indent_add_length_trimStart (l : List Point) :
    indent l + (trimStart l).length = l.length := by
  rw [indent, trimStart, ← List.length_append, List.takeWhile_append_dropWhile]

theorem tidyLine_eq_laidOut (l : List Point) : tidyLine l = laidOut l := by
  rw [tidyLine, laidOut, ← indent_add_length_trimStart l, Nat.add_sub_cancel]

theorem filter_tidyForm (gap : Bool) (ls : List (List Point)) :
    (tidyForm gap ls).filter (· ≠ []) = (ls.filter (· ≠ [])).map tidyLine := by
  induction ls generalizing gap with
  | nil => rfl
  | cons l ls ih =>
      rw [tidyForm]
      split
      · rename_i hl
        rw [ih, List.isEmpty_iff.mp hl]
        simp
      · rename_i hl
        have hne : l ≠ [] := by simpa using hl
        have htidy : tidyLine l ≠ [] := (isTidyLine_tidyLine hne).ne_nil
        rw [List.filter_append, List.filter_cons_of_pos (by simpa using htidy), ih false,
          List.filter_cons_of_pos (by simpa using hne), List.map_cons]
        cases gap <;> rfl

/-! ## Runs of lines

Every list of lines is runs (empty lines, then one that is not empty) followed by empty
lines.  Tidying writes a run as one empty line if it had any and its line tidied, and
drops the empty lines after the last run: this is the layout tidying keeps. -/

/-- A run of lines: `gap` empty lines, then a line that is not empty. -/
structure Run where
  gap : Nat
  line : List Point
  line_ne : line ≠ []

/-- The lines of a run. -/
def Run.toLines (r : Run) : List (List Point) := List.replicate r.gap [] ++ [r.line]

/-- A run as tidying writes it: one empty line if the run had any, then its line as it is
kept. -/
def Run.tidied (r : Run) : List (List Point) :=
  (if 0 < r.gap then [[]] else []) ++ [laidOut r.line]

/-- Every list of lines is runs, then empty lines. -/
theorem exists_runs :
    ∀ ls : List (List Point), ∃ (rs : List Run) (t : Nat),
      ls = rs.flatMap Run.toLines ++ List.replicate t []
  | [] => ⟨[], 0, rfl⟩
  | l :: ls => by
      obtain ⟨rs, t, h⟩ := exists_runs ls
      by_cases hl : l = []
      · -- an empty line joins the first run, or the empty lines at the end
        subst hl
        cases rs with
        | nil => exact ⟨[], t + 1, by simp [h, List.replicate_succ]⟩
        | cons r rs =>
            exact ⟨⟨r.gap + 1, r.line, r.line_ne⟩ :: rs, t,
              by simp [h, Run.toLines, List.replicate_succ]⟩
      · exact ⟨⟨0, l, hl⟩ :: rs, t, by simp [h, Run.toLines]⟩

theorem tidyForm_replicate_append (gap : Bool) (k : Nat) (more : List (List Point)) :
    tidyForm gap (List.replicate k [] ++ more) = tidyForm (gap || decide (0 < k)) more := by
  induction k generalizing gap with
  | zero => simp
  | succ k ih =>
      rw [List.replicate_succ, List.cons_append, tidyForm_nil_cons, ih]
      simp

/-- Tidying writes each run as one empty line if it had any and its line tidied, and drops
the empty lines after the last run. -/
theorem tidyForm_runs :
    ∀ (rs : List Run) (t : Nat),
      tidyForm false (rs.flatMap Run.toLines ++ List.replicate t []) = rs.flatMap Run.tidied
  | [], t => by
      rw [List.flatMap_nil, List.nil_append, ← List.append_nil (List.replicate t []),
        tidyForm_replicate_append]
      rfl
  | r :: rs, t => by
      have hline : r.line.isEmpty = false := by simpa using r.line_ne
      simp only [List.flatMap_cons]
      rw [Run.toLines, List.append_assoc, List.append_assoc,
        tidyForm_replicate_append, List.singleton_append, tidyForm, if_neg (by simp [hline]),
        tidyForm_runs rs t, Run.tidied, tidyLine_eq_laidOut]
      simp

/-! ## The layout kept

One text, with a carriage return among its breaks, read into runs and tidied: each gap
of one or two empty lines becomes one empty line, and the empty line at the end goes. -/

theorem tidy_keeps_layout (s : List Point) :
    (splitOn (.char '\n') (tidy s)).filter (· ≠ []) = ((lines s).filter (· ≠ [])).map laidOut ∧
    (∃ (rs : List Run) (t : Nat), lines s = rs.flatMap Run.toLines ++ List.replicate t []) ∧
    (∀ (rs : List Run) (t : Nat), lines s = rs.flatMap Run.toLines ++ List.replicate t [] →
      splitOn (.char '\n') (tidy s) = rs.flatMap Run.tidied ++ [[]]) ∧
    words (tidy s) = words s := by
  refine ⟨?_, exists_runs (lines s), fun rs t hs => ?_, words_tidy s⟩
  · rw [splitOn_tidy, List.filter_append, filter_tidyForm]
    simp [tidyLine_eq_laidOut]
  · rw [splitOn_tidy, hs, tidyForm_runs]

/-- A text that opens with an empty line, has two empty lines before its last kept line (the
second ended by a carriage return and a line feed), and ends with an empty line: its runs
have gaps of one and two lines, and one empty line follows them. -/
theorem tidy_keeps_layout_gaps :
    lines (lit "\n  a \t b\n\n\r\nc\n\n") =
        [⟨1, lit "  a \t b", by decide⟩, ⟨2, lit "c", by decide⟩].flatMap Run.toLines ++
          List.replicate 1 [] ∧
      splitOn (.char '\n') (tidy (lit "\n  a \t b\n\n\r\nc\n\n")) =
        [⟨1, lit "  a \t b", by decide⟩, ⟨2, lit "c", by decide⟩].flatMap Run.tidied ++ [[]] := by
  have hs : lines (lit "\n  a \t b\n\n\r\nc\n\n") =
      [⟨1, lit "  a \t b", by decide⟩, ⟨2, lit "c", by decide⟩].flatMap Run.toLines ++
        List.replicate 1 [] := by decide
  exact ⟨hs, (tidy_keeps_layout _).2.2.1 _ _ hs⟩

end StubGen.Text
