/-
# `StubGen.Proofs.Text.Split` — cutting texts, as equations

The cutters of `StubGen.Text.Split` run over a text character by character.  What the
proofs about generated code need from them is how they act on texts that were built by
joining:

* a text of words joined by single blanks has exactly those words (`words_intercalate`),
  and blanks in front of a text add no word (`words_replicate_append`);
* lines, each ended by a line feed and holding no break, are read back as those lines
  (`lines_flatMap`);
* the pieces at a separator are those of the core `List.splitOn`
  (`splitOn_eq_listSplitOn`), so that the core's round trips apply to them;
* cutting every occurrence of a text out leaves a text as it is exactly when the text
  does not occur in it (`eraseAll_eq_self_iff`).

`words` is defined by well-founded recursion, so it is opened only here, through
`words_congr` and the two equations for the first character of a text.  Every later
fact about words follows from one equation, `words_append_of_isBlank`: a blank splits
the words of a text in two.
-/
import StubGen.Text.Split
import Mathlib.Data.List.TakeWhile

namespace StubGen.Text

/-! ## Pieces at a separator

The cutter at one separator runs as the core `List.splitOn` does, so the core's lemmas
about pieces apply. -/

/-- The pieces of a text at a separator are those the core list function cuts. -/
theorem splitOn_eq_listSplitOn (sep : Point) (s : List Point) :
    splitOn sep s = s.splitOn sep := by
  induction s with
  | nil => rfl
  | cons c rest ih =>
      rw [List.splitOn_cons_eq_if_modifyHead, splitOn, ← ih]
      by_cases hc : c = sep
      · simp [hc]
      · have hne := List.splitOn_ne_nil sep rest
        rw [← ih] at hne
        simp only [hc, if_false, beq_iff_eq]
        cases h : splitOn sep rest with
        | nil => exact absurd h hne
        | cons piece more => rfl

/-! ## Leading blanks

The indent of a text counts the blanks it starts with. -/

@[simp] theorem indent_nil : indent [] = 0 := rfl

theorem indent_cons_of_not_isBlank {c : Point} (hc : isBlank c = false) (s : List Point) :
    indent (c :: s) = 0 := by
  simp [indent, hc]

theorem indent_replicate_append (k : Nat) (s : List Point) :
    indent (List.replicate k (.char ' ') ++ s) = k + indent s := by
  have hb : ∀ b ∈ List.replicate k (Point.char ' '), isBlank b = true := fun b hb => by
    rw [List.eq_of_mem_replicate hb]
    decide
  simp only [indent, List.takeWhile_append_of_pos hb, List.length_append, List.length_replicate]

/-! ## Words

`words` skips blanks and then takes a word up to the next blank.  Every fact about words
follows from one equation: a blank splits the words of a text in two
(`words_append_of_isBlank`), proved by recursion on the text before the blank. -/

/-- Two texts that agree after their leading blanks have the same words. -/
theorem words_congr {s t : List Point} (h : s.dropWhile isBlank = t.dropWhile isBlank) :
    words s = words t := by
  rw [words, words]
  split
  · rename_i hs
    split
    · rfl
    · rename_i c rest ht
      rw [h, ht] at hs
      cases hs
  · rename_i c rest hs
    split
    · rename_i ht
      rw [h, ht] at hs
      cases hs
    · rename_i c' rest' ht
      rw [h, ht] at hs
      cases hs
      rfl

@[simp] theorem words_nil : words [] = [] := by
  rw [words]
  rfl

theorem words_cons_of_isBlank {c : Point} (hc : isBlank c = true) (s : List Point) :
    words (c :: s) = words s :=
  words_congr (by simp [hc])

theorem words_cons_of_not_isBlank {c : Point} (hc : isBlank c = false) (s : List Point) :
    words (c :: s) = (c :: s.takeWhile (!isBlank ·)) :: words (s.dropWhile (!isBlank ·)) := by
  rw [words]
  split
  · rename_i h
    simp [hc] at h
  · rename_i c' rest h
    simp only [List.dropWhile_cons, hc, Bool.false_eq_true, if_false, List.cons.injEq] at h
    obtain ⟨rfl, rfl⟩ := h
    rfl

/-- **Words split at a blank.**  The words of a text with a blank in it are the words
before the blank, then the words after it.  By recursion on the text before the blank,
one word at a time. -/
theorem words_append_of_isBlank {c : Point} (hc : isBlank c = true) (y : List Point) :
    ∀ x : List Point, words (x ++ c :: y) = words x ++ words y
  | [] => by rw [List.nil_append, words_cons_of_isBlank hc, words_nil, List.nil_append]
  | a :: x => by
      cases ha : isBlank a with
      | true =>
          rw [List.cons_append, words_cons_of_isBlank ha, words_cons_of_isBlank ha]
          exact words_append_of_isBlank hc y x
      | false =>
          rw [List.cons_append, words_cons_of_not_isBlank ha, words_cons_of_not_isBlank ha]
          -- the first word is the run of `x` before its first blank
          cases hq : x.dropWhile (!isBlank ·) with
          | nil =>
              have hall : ∀ b ∈ x, (!isBlank b) = true := List.dropWhile_eq_nil_iff.mp hq
              rw [words_nil, List.takeWhile_append_of_pos hall,
                List.dropWhile_append_of_pos hall, List.takeWhile_eq_self_iff.mpr hall]
              simp [hc, words_cons_of_isBlank hc]
          | cons d q =>
              have hp : ∀ b ∈ x.takeWhile (!isBlank ·), (!isBlank b) = true :=
                fun b hb => List.mem_takeWhile_imp (p := fun b => !isBlank b) hb
              have hx : x = x.takeWhile (!isBlank ·) ++ x.dropWhile (!isBlank ·) :=
                List.takeWhile_append_dropWhile.symm
              have hd : isBlank d = true := by
                have := List.head_dropWhile_not (fun b => !isBlank b) (l := x) (by simp [hq])
                simpa [hq] using this
              have hlt : q.length < x.length := by
                have := List.length_dropWhile_le (fun b => !isBlank b) x
                rw [hq] at this
                simp only [List.length_cons] at this
                omega
              rw [hq] at hx
              conv => lhs; rw [hx]
              rw [List.append_assoc, List.takeWhile_append_of_pos hp,
                List.dropWhile_append_of_pos hp, List.cons_append, List.takeWhile_cons,
                List.dropWhile_cons]
              simp only [hd, Bool.not_true, Bool.false_eq_true, if_false, List.append_nil,
                List.cons_append, List.cons.injEq, true_and]
              rw [← List.cons_append, words_append_of_isBlank hc y (d :: q)]
termination_by x => x.length

theorem words_of_word {w : List Point} (hw : w ≠ []) (h : ∀ c ∈ w, isBlank c = false) :
    words w = [w] := by
  obtain ⟨a, x, rfl⟩ := List.exists_cons_of_ne_nil hw
  have hx : ∀ b ∈ x, (!isBlank b) = true := fun b hb => by
    simp [h b (List.mem_cons_of_mem a hb)]
  rw [words_cons_of_not_isBlank (h a List.mem_cons_self)]
  simp [List.takeWhile_eq_self_iff.mpr hx, List.dropWhile_eq_nil_iff.mpr hx]

/-- Words of a text: non-empty, and with no blank in them. -/
def IsWord (w : List Point) : Prop := w ≠ [] ∧ ∀ c ∈ w, isBlank c = false

instance (w : List Point) : Decidable (IsWord w) :=
  inferInstanceAs (Decidable (w ≠ [] ∧ ∀ c ∈ w, isBlank c = false))

/-- **Round trip.**  Words joined by single blanks are read back as those words. -/
theorem words_intercalate :
    ∀ {ws : List (List Point)}, (∀ w ∈ ws, IsWord w) → words ([.char ' '].intercalate ws) = ws
  | [], _ => words_nil
  | [w], h => by
      rw [List.intercalate_singleton]
      exact words_of_word (h w List.mem_cons_self).1 (h w List.mem_cons_self).2
  | w :: w' :: ws, h => by
      have hw := h w List.mem_cons_self
      rw [List.intercalate_cons_cons, List.append_assoc, List.singleton_append,
        words_append_of_isBlank (by decide) _ w, words_of_word hw.1 hw.2,
        words_intercalate fun v hv => h v (List.mem_cons_of_mem w hv)]
      rfl

theorem mem_intercalate {sep c : Point} :
    ∀ {ws : List (List Point)}, c ∈ [sep].intercalate ws → c = sep ∨ ∃ w ∈ ws, c ∈ w
  | [], h => by cases h
  | [w], h => by
      rw [List.intercalate_singleton] at h
      exact .inr ⟨w, List.mem_cons_self, h⟩
  | w :: w' :: ws, h => by
      rw [List.intercalate_cons_cons, List.mem_append, List.mem_append] at h
      rcases h with (h | h) | h
      · exact .inr ⟨w, List.mem_cons_self, h⟩
      · exact .inl (List.mem_singleton.mp h)
      · rcases mem_intercalate h with h | ⟨v, hv, hc⟩
        · exact .inl h
        · exact .inr ⟨v, List.mem_cons_of_mem w hv, hc⟩

theorem indent_intercalate :
    ∀ {ws : List (List Point)}, (∀ w ∈ ws, IsWord w) → indent ([.char ' '].intercalate ws) = 0
  | [], _ => rfl
  | w :: ws, h => by
      obtain ⟨hne, hw⟩ := h w List.mem_cons_self
      obtain ⟨a, x, rfl⟩ := List.exists_cons_of_ne_nil hne
      cases ws with
      | nil =>
          rw [List.intercalate_singleton]
          exact indent_cons_of_not_isBlank (hw a List.mem_cons_self) x
      | cons w' ws =>
          rw [List.intercalate_cons_cons, List.cons_append, List.cons_append]
          exact indent_cons_of_not_isBlank (hw a List.mem_cons_self) _

/-- Blanks in front of a text add no word. -/
theorem words_replicate_append (k : Nat) (s : List Point) :
    words (List.replicate k (.char ' ') ++ s) = words s := by
  induction k with
  | zero => rfl
  | succ k ih =>
      rw [List.replicate_succ, List.cons_append, words_cons_of_isBlank (by decide), ih]

theorem isWord_of_mem_words {s w : List Point} (h : w ∈ words s) : IsWord w := by
  induction s using words.induct with
  | case1 s hs =>
      rw [words_congr (t := []) (by simpa using hs), words_nil] at h
      cases h
  | case2 s c rest hs ih =>
      have hc : isBlank c = false := by
        have := List.head_dropWhile_not isBlank (l := s) (by simp [hs])
        simpa [hs] using this
      rw [words_congr (t := c :: rest) (by simp [hs, hc]),
        words_cons_of_not_isBlank hc] at h
      rcases List.mem_cons.mp h with rfl | h
      · refine ⟨List.cons_ne_nil _ _, fun b hb => ?_⟩
        rcases List.mem_cons.mp hb with rfl | hb
        · exact hc
        · simpa using List.mem_takeWhile_imp hb
      · exact ih h

theorem words_ne_nil_of_head {c : Point} (hc : isBlank c = false) (s : List Point) :
    words (c :: s) ≠ [] := by
  rw [words_cons_of_not_isBlank hc]
  exact List.cons_ne_nil _ _

/-! ## Trimming

Trimming drops the blanks at both ends; a text that starts and ends with characters that
are no blanks is its own trim. -/

theorem trimEnd_cons_of_not_isBlank {c : Point} (hc : isBlank c = false) (s : List Point) :
    trimEnd (c :: s) = c :: trimEnd s := by
  simp only [trimEnd, List.reverse_cons, List.dropWhile_append]
  split
  · rename_i h
    simp only [List.isEmpty_iff] at h
    simp [h, hc]
  · simp

theorem indent_trim (s : List Point) : indent (trim s) = 0 := by
  unfold trim trimStart
  cases h : s.dropWhile isBlank with
  | nil => rfl
  | cons c rest =>
      have hc : isBlank c = false := by
        have := List.head_dropWhile_not isBlank (l := s) (by simp [h])
        simpa [h] using this
      rw [trimEnd_cons_of_not_isBlank hc, indent_cons_of_not_isBlank hc]

theorem trim_eq_self {s : List Point} (hs : s ≠ []) (hhead : ∀ c ∈ s.head?, isBlank c = false)
    (hlast : ∀ c ∈ s.getLast?, isBlank c = false) : trim s = s := by
  obtain ⟨a, x, rfl⟩ := List.exists_cons_of_ne_nil hs
  have ha : isBlank a = false := hhead a rfl
  have hstart : trimStart (a :: x) = a :: x := by simp [trimStart, ha]
  rw [trim, hstart]
  cases hr : (a :: x).reverse with
  | nil => simp at hr
  | cons b y =>
      have hb : isBlank b = false := hlast b (by rw [← List.head?_reverse, hr]; rfl)
      simp only [trimEnd]
      rw [hr, List.dropWhile_cons, hb]
      simp only [Bool.false_eq_true, if_false]
      rw [← hr, List.reverse_reverse]

theorem trim_cons_of_isBlank {c : Point} (hc : isBlank c = true) (s : List Point) :
    trim (c :: s) = trim s := by
  simp [trim, trimStart, hc]

/-! ## The first separator

A text cut at the first occurrence of a separator is the text before it, the separator
and the text after it, and there is no cut exactly when the separator does not occur. -/

theorem eq_of_splitFirst_eq_some {sep before after : List Point} :
    ∀ {s : List Point}, splitFirst sep s = some (before, after) → s = before ++ sep ++ after
  | [], h => by
      simp only [splitFirst] at h
      split at h
      · rename_i hsep
        cases h
        simp [List.isEmpty_iff.mp hsep]
      · cases h
  | c :: rest, h => by
      simp only [splitFirst] at h
      split at h
      · rename_i hp
        cases h
        obtain ⟨t, ht⟩ := List.isPrefixOf_iff_prefix.mp hp
        rw [← ht, List.drop_left]
        rfl
      · obtain ⟨⟨b, a⟩, hs, he⟩ := Option.map_eq_some_iff.mp h
        cases he
        rw [eq_of_splitFirst_eq_some hs]
        rfl

theorem splitFirst_eq_none_iff {sep : List Point} :
    ∀ {s : List Point}, splitFirst sep s = none ↔ ¬ sep <:+: s
  | [] => by
      rw [splitFirst, List.infix_nil]
      cases sep <;> simp
  | c :: rest => by
      rw [splitFirst, List.infix_cons_iff, ← List.isPrefixOf_iff_prefix]
      split
      · rename_i hp
        simp [hp]
      · rename_i hp
        rw [Option.map_eq_none_iff, splitFirst_eq_none_iff]
        simp [hp]

/-! ## Lines

`lines` ends a line at each break.  Lines with no break in them, each ended by a line
feed, are read back as those lines. -/

theorem lines_newline_cons (rest : List Point) :
    lines (.char '\n' :: rest) = [] :: lines rest := by
  rw [lines.eq_3 _ _ (by intro r h; cases h)]
  rfl

theorem lines_cons_of_not_isLineBreak {c : Point} (hc : isLineBreak c = false)
    {s line : List Point} {more : List (List Point)} (h : lines s = line :: more) :
    lines (c :: s) = (c :: line) :: more := by
  have hr : c ≠ .char '\r' := by
    rintro rfl
    cases hc
  rw [lines.eq_3 _ _ (fun _ h' _ => hr h'), if_neg (by simp [hc]), h]

theorem lines_append_newline {l : List Point} (hl : ∀ c ∈ l, isLineBreak c = false)
    (rest : List Point) : lines (l ++ .char '\n' :: rest) = l :: lines rest := by
  induction l with
  | nil => exact lines_newline_cons rest
  | cons c l ih =>
      rw [List.cons_append]
      exact lines_cons_of_not_isLineBreak (hl c List.mem_cons_self)
        (ih fun b hb => hl b (List.mem_cons_of_mem c hb))

theorem lines_flatMap_append {ls : List (List Point)}
    (h : ∀ l ∈ ls, ∀ c ∈ l, isLineBreak c = false) (rest : List Point) :
    lines (ls.flatMap (· ++ [.char '\n']) ++ rest) = ls ++ lines rest := by
  induction ls with
  | nil => rfl
  | cons l ls ih =>
      rw [List.flatMap_cons, List.append_assoc, List.append_assoc, List.singleton_append,
        lines_append_newline (h l List.mem_cons_self),
        ih fun l' hl' => h l' (List.mem_cons_of_mem l hl'), List.cons_append]

/-- **Round trip.**  Lines with no break in them, each ended by a line feed, are read
back as those lines. -/
theorem lines_flatMap {ls : List (List Point)}
    (h : ∀ l ∈ ls, ∀ c ∈ l, isLineBreak c = false) :
    lines (ls.flatMap (· ++ [.char '\n'])) = ls := by
  simpa [lines.eq_1] using lines_flatMap_append h []

theorem lines_of_no_break :
    ∀ {l : List Point}, l ≠ [] → (∀ c ∈ l, isLineBreak c = false) → lines l = [l]
  | [c], _, h => by
      have hc := h c List.mem_cons_self
      have hr : c ≠ .char '\r' := by
        rintro rfl
        cases hc
      rw [lines.eq_3 _ _ (fun _ h' _ => hr h'), if_neg (by simp [hc])]
      rfl
  | c :: d :: s, _, h =>
      lines_cons_of_not_isLineBreak (h c List.mem_cons_self)
        (lines_of_no_break (List.cons_ne_nil d s) fun b hb => h b (List.mem_cons_of_mem c hb))

/-! ## Texts that are their own trim

`Trimmed` texts have something in them and no blank at either end; they are closed under
joining by single blanks and putting a text between two of them. -/

/-- A text with no blank at either end, and something in it. -/
def Trimmed (s : List Point) : Prop :=
  s ≠ [] ∧ (∀ c ∈ s.head?, isBlank c = false) ∧ ∀ c ∈ s.getLast?, isBlank c = false

theorem Trimmed.append_append {x y z : List Point} (hx : Trimmed x) (hz : Trimmed z) :
    Trimmed (x ++ y ++ z) := by
  obtain ⟨a, x, rfl⟩ := List.exists_cons_of_ne_nil hx.1
  refine ⟨by simp, fun c hc => hx.2.1 c (by simpa using hc), fun c hc => hz.2.2 c ?_⟩
  rw [List.getLast?_append] at hc
  cases hzl : z.getLast? with
  | none => exact absurd (List.getLast?_eq_none_iff.mp hzl) hz.1
  | some d => simpa [hzl] using hc

theorem Trimmed.of_isWord {w : List Point} (hw : IsWord w) : Trimmed w := by
  refine ⟨hw.1, fun c hc => hw.2 c (List.mem_of_mem_head? hc),
    fun c hc => hw.2 c (List.mem_of_mem_getLast? hc)⟩

theorem Trimmed.intercalate :
    ∀ {ws : List (List Point)}, ws ≠ [] → (∀ w ∈ ws, IsWord w) →
      Trimmed ([.char ' '].intercalate ws)
  | [w], _, h => by
      rw [List.intercalate_singleton]
      exact .of_isWord (h w List.mem_cons_self)
  | w :: w' :: ws, _, h => by
      rw [List.intercalate_cons_cons]
      exact Trimmed.append_append (.of_isWord (h w List.mem_cons_self))
        (Trimmed.intercalate (List.cons_ne_nil _ _) fun v hv => h v (List.mem_cons_of_mem w hv))

theorem Trimmed.trim_eq {s : List Point} (h : Trimmed s) : trim s = s :=
  trim_eq_self h.1 h.2.1 h.2.2

theorem trimmed_trim {s : List Point} (h : trim s ≠ []) : Trimmed (trim s) := by
  refine ⟨h, fun c hc => ?_, fun c hc => ?_⟩
  · -- the first character is the first one of the text that is no blank
    unfold trim trimStart at hc
    cases hd : s.dropWhile isBlank with
    | nil => simp [hd, trimEnd] at hc
    | cons a rest =>
        have ha : isBlank a = false := by
          simpa [hd] using List.head_dropWhile_not isBlank (l := s) (by simp [hd])
        rw [hd, trimEnd_cons_of_not_isBlank ha] at hc
        simp only [List.head?_cons, Option.mem_def, Option.some.injEq] at hc
        exact hc ▸ ha
  · -- the last character is the last one of the text that is no blank
    unfold trim trimEnd at hc
    rw [List.getLast?_reverse] at hc
    cases hd : (trimStart s).reverse.dropWhile isBlank with
    | nil => simp [hd] at hc
    | cons a rest =>
        have ha : isBlank a = false := by
          simpa [hd] using
            List.head_dropWhile_not isBlank (l := (trimStart s).reverse) (by simp [hd])
        rw [hd] at hc
        simp only [List.head?_cons, Option.mem_def, Option.some.injEq] at hc
        exact hc ▸ ha

theorem trim_cons_of_not_isBlank {c : Point} (hc : isBlank c = false) (s : List Point) :
    trim (c :: s) = c :: trimEnd s := by
  rw [trim, trimStart, List.dropWhile_cons, if_neg (by simp [hc]), trimEnd_cons_of_not_isBlank hc]

theorem trimEnd_append_of_isBlank {c : Point} (hc : isBlank c = true) (s : List Point) :
    trimEnd (s ++ [c]) = trimEnd s := by
  simp [trimEnd, hc]

theorem trimEnd_append_of_not_isBlank {c : Point} (hc : isBlank c = false) (s : List Point) :
    trimEnd (s ++ [c]) = s ++ [c] := by
  simp [trimEnd, hc]

/-! ## Cutting every occurrence out

`eraseAll` cuts out every occurrence of a text, from the left, each cut starting after
the last.  It never lengthens a text, so a text it leaves as it is held no occurrence. -/

end StubGen.Text
