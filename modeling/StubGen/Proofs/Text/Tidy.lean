/-
# `StubGen.Proofs.Text.Tidy` — the tidy form is a normal form

`Text.tidy` keeps the leading blanks of each line as spaces, makes every other run of
blanks one space, drops empty lines, and keeps one empty line where empty lines stood
before a kept line.  `Text.IsTidy` says what such a text looks like without mentioning
`tidy`: lines, each ended by a line feed, each empty or `k` spaces and then `m` words
joined by single spaces with `k + m ≥ 1`, no two empty lines in a row, and the last line
not empty (so the empty text is tidy).

## What is proved

    tidy_image_eq_fixed_points :
      (∀ r, (∃ s, tidy s = r) ↔ IsTidy r) ∧ (∀ r, tidy r = r ↔ IsTidy r) ∧
        ∀ s, tidy (tidy s) = tidy s

The texts that `tidy` writes are exactly the tidy texts, and these are exactly the
texts it leaves as they are; so tidying twice is tidying once.  Two facts carry it:
`isTidy_tidy`, what `tidy` writes is tidy, and `tidy_of_isTidy`, a tidy text is its own
tidy form.  `lines_tidy` says which lines `tidy` writes; the layout of generated headers
is read off it.

## Why it holds

Every line break is a blank (`isBlank_of_isLineBreak`), so a tidied line, made of spaces
and words, holds no break, and the lines that `tidy` writes are read back as themselves
(`lines_flatMap`).  The flag that carries dropped empty lines is set only by an empty line
and spent only on a kept one, so an empty line is written only just before a kept line:
`tidyForm` lists the lines written, and it grows a tidy list of lines only in the two
ways `TidyLines.cons_line` and `TidyLines.cons_gap`.
-/
import StubGen.Text.Tidy
import StubGen.Proofs.Text.Split

namespace StubGen.Text

/-! ## The lines that tidying writes

`tidyLines` carries whether empty lines were dropped since the last kept line; its lines
are those of `tidyForm`, each ended by a line feed.  A kept line resets the gap, so lines
that end in a kept line are tidied on their own, and every line written is empty or a line
of the text, tidied. -/

/-- The lines that `tidyLines gap` writes, without their line feeds: each empty line is
dropped, and a kept line is tidied, after one empty line if empty lines were dropped
since the last kept line (`gap`). -/
def tidyForm : Bool → List (List Point) → List (List Point)
  | _, [] => []
  | gap, l :: ls =>
      if l.isEmpty then tidyForm true ls
      else (if gap then [[]] else []) ++ tidyLine l :: tidyForm false ls

theorem tidyLines_eq_flatMap (gap : Bool) (ls : List (List Point)) :
    tidyLines gap ls = (tidyForm gap ls).flatMap (· ++ [.char '\n']) := by
  induction ls generalizing gap with
  | nil => rfl
  | cons l ls ih =>
      simp only [tidyLines, tidyForm]
      split
      · exact ih true
      · cases gap <;> simp [ih]

theorem tidyForm_nil_cons (gap : Bool) (ls : List (List Point)) :
    tidyForm gap ([] :: ls) = tidyForm true ls := rfl

theorem tidyForm_kept_append {gap : Bool} :
    ∀ {ls : List (List Point)}, ls ≠ [] → (∀ l ∈ ls, l ≠ []) → ∀ more : List (List Point),
      tidyForm gap (ls ++ more) =
        (if gap then [[]] else []) ++ ls.map tidyLine ++ tidyForm false more
  | [l], _, h, more => by
      rw [List.singleton_append, tidyForm, if_neg (by simpa using h l List.mem_cons_self)]
      simp
  | l :: m :: rest, _, h, more => by
      have ih := @tidyForm_kept_append false (m :: rest) (List.cons_ne_nil m rest)
        (fun x hx => h x (List.mem_cons_of_mem l hx)) more
      rw [List.cons_append, tidyForm, if_neg (by simpa using h l List.mem_cons_self), ih]
      simp

theorem tidyForm_append_of_kept {l : List Point} (hl : l ≠ []) (more : List (List Point)) :
    ∀ (gap : Bool) (ls : List (List Point)),
      tidyForm gap (ls ++ l :: more) = tidyForm gap (ls ++ [l]) ++ tidyForm false more
  | gap, [] => by
      rw [List.nil_append, List.nil_append, tidyForm, tidyForm, if_neg (by simpa using hl)]
      simp [tidyForm, hl]
  | gap, a :: ls => by
      rw [List.cons_append, List.cons_append, tidyForm, tidyForm]
      split
      · exact tidyForm_append_of_kept hl more true ls
      · rw [tidyForm_append_of_kept hl more false ls]
        simp

theorem mem_tidyForm {m : List Point} :
    ∀ {gap : Bool} {ls : List (List Point)}, m ∈ tidyForm gap ls →
      m = [] ∨ ∃ l ∈ ls, m = tidyLine l
  | _, [], h => by cases h
  | gap, l :: ls, h => by
      rw [tidyForm] at h
      split at h
      · obtain hm | ⟨l', hl', rfl⟩ := mem_tidyForm h
        · exact .inl hm
        · exact .inr ⟨l', List.mem_cons_of_mem l hl', rfl⟩
      · rcases List.mem_append.mp h with hgap | h
        · cases gap <;> simp_all
        · rcases List.mem_cons.mp h with rfl | h
          · exact .inr ⟨l, List.mem_cons_self, rfl⟩
          · obtain hm | ⟨l', hl', rfl⟩ := mem_tidyForm h
            · exact .inl hm
            · exact .inr ⟨l', List.mem_cons_of_mem l hl', rfl⟩

theorem tidyLine_mem_tidyForm {l : List Point} (hl : l ≠ []) :
    ∀ {gap : Bool} {ls : List (List Point)}, l ∈ ls → tidyLine l ∈ tidyForm gap ls
  | _, [], h => by cases h
  | gap, a :: ls, h => by
      rw [tidyForm]
      rcases List.mem_cons.mp h with rfl | h
      · rw [if_neg (by simpa using hl)]
        simp
      · split
        · exact tidyLine_mem_tidyForm hl h
        · exact List.mem_append_right _ (List.mem_cons_of_mem _ (tidyLine_mem_tidyForm hl h))

theorem tidyLine_cons_of_not_isBlank {c : Point} (hc : isBlank c = false) (s : List Point) :
    ∃ r, tidyLine (c :: s) = c :: r := by
  rw [tidyLine, indent_cons_of_not_isBlank hc, words_cons_of_not_isBlank hc]
  exact ⟨_, List.intercalate_cons_cons_left⟩

theorem tidyLine_replicate_append (k : Nat) {s : List Point} (hs : indent s = 0) :
    tidyLine (List.replicate k (.char ' ') ++ s) =
      List.replicate k (.char ' ') ++ [.char ' '].intercalate (words s) := by
  rw [tidyLine, indent_replicate_append, hs, Nat.add_zero, words_replicate_append]

/-! ## Tidy lines

A tidy line is spaces, then words joined by single spaces.  It holds no line break, and
it is its own tidy form. -/

theorem IsTidyLine.ne_nil {l : List Point} (h : IsTidyLine l) : l ≠ [] := by
  obtain ⟨k, ws, rfl, hpos, hws⟩ := h
  cases k with
  | succ k => simp [List.replicate_succ]
  | zero =>
      obtain ⟨w, rest, rfl⟩ := List.exists_cons_of_ne_nil
        (List.ne_nil_of_length_pos (by simpa using hpos))
      have hw := (hws w List.mem_cons_self).1
      cases rest with
      | nil => simpa using hw
      | cons w' rest => simp [List.intercalate_cons_cons, hw]

theorem IsTidyLine.unbroken {l : List Point} (h : IsTidyLine l) :
    ∀ c ∈ l, isLineBreak c = false := by
  obtain ⟨k, ws, rfl, -, hws⟩ := h
  intro c hc
  rcases List.mem_append.mp hc with hc | hc
  · rw [List.eq_of_mem_replicate hc]
    decide
  · rcases mem_intercalate hc with rfl | ⟨w, hw, hcw⟩
    · decide
    · cases hb : isLineBreak c
      · rfl
      · have := (hws w hw).2 c hcw
        rw [isBlank_of_isLineBreak hb] at this
        cases this

theorem isTidyLine_tidyLine {l : List Point} (hl : l ≠ []) : IsTidyLine (tidyLine l) := by
  refine ⟨indent l, words l, rfl, ?_, fun w hw => isWord_of_mem_words hw⟩
  obtain ⟨c, t, rfl⟩ := List.exists_cons_of_ne_nil hl
  cases hc : isBlank c with
  | true =>
      simp only [indent, List.takeWhile_cons, hc, if_true, List.length_cons]
      omega
  | false =>
      have := List.length_pos_iff.mpr (words_ne_nil_of_head hc t)
      omega

theorem isTidyLine_intercalate {ws : List (List Point)} (hne : ws ≠ []) (hws : ∀ w ∈ ws, IsWord w) :
    IsTidyLine ([.char ' '].intercalate ws) :=
  ⟨0, ws, rfl, by simpa using List.length_pos_iff.mpr hne, hws⟩

theorem tidyLine_of_isTidyLine {l : List Point} (h : IsTidyLine l) : tidyLine l = l := by
  obtain ⟨k, ws, rfl, -, hws⟩ := h
  have hwords : words (List.replicate k (.char ' ') ++ [.char ' '].intercalate ws) = ws := by
    rw [words_replicate_append, words_intercalate hws]
  have hindent : indent (List.replicate k (.char ' ') ++ [.char ' '].intercalate ws) = k := by
    rw [indent_replicate_append, indent_intercalate hws, Nat.add_zero]
  rw [tidyLine, hwords, hindent]

/-! ## Tidy lists of lines

A tidy list holds tidy lines and empty lines, never two empty lines in a row, and ends with
a tidy line.  The lines that tidying writes form one, and a tidy list is written as it
is. -/

namespace TidyLines

theorem head {l : List Point} {ls : List (List Point)} (h : TidyLines (l :: ls)) :
    l = [] ∨ IsTidyLine l := by
  cases ls with
  | nil => exact .inr h
  | cons m rest => exact h.1

theorem tail {l : List Point} {ls : List (List Point)} (h : TidyLines (l :: ls)) :
    TidyLines ls := by
  cases ls with
  | nil => trivial
  | cons m rest => exact h.2.2

theorem next_of_nil {ls : List (List Point)} (h : TidyLines ([] :: ls)) :
    ∃ m rest, ls = m :: rest ∧ IsTidyLine m := by
  cases ls with
  | nil => exact absurd rfl (IsTidyLine.ne_nil h)
  | cons m rest =>
      refine ⟨m, rest, rfl, ?_⟩
      rcases h.2.2.head with hm | hm
      · exact absurd hm (h.2.1 rfl)
      · exact hm

/-- A tidy line may start a tidy list of lines. -/
theorem cons_line {l : List Point} {ls : List (List Point)} (hl : IsTidyLine l)
    (h : TidyLines ls) : TidyLines (l :: ls) := by
  cases ls with
  | nil => exact hl
  | cons m rest => exact ⟨.inr hl, fun hn => absurd hn hl.ne_nil, h⟩

/-- One empty line may stand before a tidy line. -/
theorem cons_gap {l : List Point} {ls : List (List Point)} (hl : IsTidyLine l)
    (h : TidyLines (l :: ls)) : TidyLines ([] :: l :: ls) :=
  ⟨.inl rfl, fun _ => hl.ne_nil, h⟩

theorem unbroken : ∀ {ls : List (List Point)}, TidyLines ls →
    ∀ l ∈ ls, ∀ c ∈ l, isLineBreak c = false
  | [], _ => fun _ hl => by cases hl
  | l :: ls, h => by
      intro l' hl'
      rcases List.mem_cons.mp hl' with rfl | hl'
      · rcases h.head with rfl | hl
        · intro c hc
          cases hc
        · exact hl.unbroken
      · exact unbroken h.tail l' hl'

end TidyLines

theorem tidyLines_tidyForm (gap : Bool) (ls : List (List Point)) :
    TidyLines (tidyForm gap ls) := by
  induction ls generalizing gap with
  | nil => trivial
  | cons l ls ih =>
      simp only [tidyForm]
      split
      · exact ih true
      · rename_i hl
        have htidy := isTidyLine_tidyLine (by simpa using hl)
        have hrest := TidyLines.cons_line htidy (ih false)
        cases gap with
        | false => exact hrest
        | true => exact TidyLines.cons_gap htidy hrest

theorem tidyForm_of_tidyLines : ∀ (ls : List (List Point)), TidyLines ls → tidyForm false ls = ls
  | [], _ => rfl
  | [l], h => by
      simp [tidyForm, h.ne_nil, tidyLine_of_isTidyLine h]
  | l :: m :: rest, h => by
      rcases TidyLines.head h with rfl | hl
      · -- the empty line is spent on the tidy line after it
        obtain ⟨m', rest', he, hm⟩ := TidyLines.next_of_nil h
        cases he
        have hrest := tidyForm_of_tidyLines rest h.tail.tail
        simp [tidyForm, hm.ne_nil, tidyLine_of_isTidyLine hm, hrest]
      · have hrest := tidyForm_of_tidyLines (m :: rest) h.tail
        rw [tidyForm, if_neg (by simpa using hl.ne_nil), tidyLine_of_isTidyLine hl, hrest]
        rfl

/-! ## The normal form

So `tidy` writes a tidy text, and a tidy text is its own tidy form: tidying is a normal
form. -/

/-- What `tidy` writes is tidy. -/
theorem isTidy_tidy (s : List Point) : IsTidy (tidy s) :=
  ⟨tidyForm false (lines s), tidyLines_tidyForm false _, tidyLines_eq_flatMap false _⟩

/-- The lines of a tidied text are the lines that `tidyForm` lists. -/
theorem lines_tidy (s : List Point) : lines (tidy s) = tidyForm false (lines s) := by
  rw [tidy, tidyLines_eq_flatMap]
  exact lines_flatMap (tidyLines_tidyForm false _).unbroken

/-- A tidy text is its own tidy form. -/
theorem tidy_of_isTidy {r : List Point} (h : IsTidy r) : tidy r = r := by
  obtain ⟨ls, hls, rfl⟩ := h
  rw [tidy, lines_flatMap hls.unbroken, tidyLines_eq_flatMap, tidyForm_of_tidyLines ls hls]

theorem tidy_image_eq_fixed_points :
    (∀ r, (∃ s, tidy s = r) ↔ IsTidy r) ∧ (∀ r, tidy r = r ↔ IsTidy r) ∧
      ∀ s, tidy (tidy s) = tidy s := by
  refine ⟨fun r => ⟨?_, fun h => ⟨r, tidy_of_isTidy h⟩⟩, fun r => ⟨?_, tidy_of_isTidy⟩,
    fun s => tidy_of_isTidy (isTidy_tidy s)⟩
  · rintro ⟨s, rfl⟩
    exact isTidy_tidy s
  · intro h
    rw [← h]
    exact isTidy_tidy r

end StubGen.Text
