/-
# `StubGen.Proofs.FileName` — the file name of a class, character by character

A class name given as a text becomes a file name in three steps: an underscore goes before
each uppercase character but the first character of the text, the result is trimmed of
blanks, and it is lowered.  This module says what comes out, character by character, and
when naming a file name again changes nothing.

## What is proved

* `FileName.ofText_eq_snake`: the file name of `s` is the snake form (`snake`) of the name
  `trim s`: its first character lowered, then each later character lowered, after an
  underscore when it is uppercase.  One case differs: when `s` starts with a blank and
  `trim s` starts with an uppercase character, that character was not the first of `s`, so
  it gets its underscore, and the file name starts with it.  `ofText_capital_after_blank`
  is that case at `" A"`, named `_a` and not `a`.
* `FileName.ofText_ofText_iff`: naming a file name again gives it back exactly when no
  character of it but the first is uppercase.  Lowering leaves uppercase characters that
  have no lower case (the mathematical capitals, `𝐀`), and a second naming puts an
  underscore before each of them: `ofText_twice_mathematical_capital` is `x𝐀`, named
  `x_𝐀` and then `x__𝐀`.

## Why it holds

Marking commutes with trimming (`trim_markWords`), since a blank is never uppercase and a
marked character that is no blank starts and ends with no blank.  Lowering a marked text
is lowering character by character (`lowerFrom_flatMap_marked`): the one character whose
lower case depends on its neighbours, the capital sigma, is uppercase, so it stands after
an underscore, which ends no word.  A file name is a lowered text with no blank at its
ends (`Text.lowered_lower`, `Text.trimmed_lower`), so naming it again only marks it.
-/
import Mathlib.Data.List.Induction
import StubGen.FileName
import StubGen.Proofs.Text.Lower

namespace StubGen.FileName

open Text (Point lit isBlank isUppercase lowerOf lowerAt lowerFrom trim trimStart trimEnd)

/-! ## Marking

Marking writes an underscore before each uppercase character.  A blank is never
uppercase, so marking leaves the blanks at both ends of a name where they were, and
trimming after marking is marking after trimming, but for the first character that is no
blank: it is marked only when blanks stood before it. -/

/-- A character as marking writes it: after an underscore when it is uppercase. -/
def marked (d : Point) : List Point := if isUppercase d then [.char '_', d] else [d]

theorem markWords_cons (c : Point) (rest : List Point) :
    markWords (c :: rest) = c :: rest.flatMap marked := rfl

theorem underscore_not_uppercase : isUppercase (.char '_') = false := by decide

theorem underscore_not_blank : isBlank (.char '_') = false := by decide

theorem isUppercase_of_isBlank {c : Point} (hc : isBlank c = true) : isUppercase c = false := by
  have htable : Text.blankCodes.all (fun n => !Text.Stride.anyHolds Text.uppercaseTable n) = true :=
    by decide
  have := List.all_eq_true.mp htable c.val ((Text.isBlank_eq_true_iff c).mp hc)
  simpa [isUppercase] using this

theorem marked_of_isBlank {c : Point} (hc : isBlank c = true) : marked c = [c] := by
  simp [marked, isUppercase_of_isBlank hc]

theorem marked_head {c : Point} (hc : isBlank c = false) (rest : List Point) :
    trimStart (marked c ++ rest) = marked c ++ rest := by
  unfold marked
  split <;> simp [trimStart, hc, underscore_not_blank]

theorem marked_eq_append (c : Point) : ∃ pre, marked c = pre ++ [c] := by
  unfold marked
  split
  · exact ⟨[.char '_'], rfl⟩
  · exact ⟨[], rfl⟩

theorem trimStart_flatMap_marked :
    ∀ x : List Point, trimStart (x.flatMap marked) = (trimStart x).flatMap marked
  | [] => rfl
  | d :: x => by
      rw [List.flatMap_cons]
      cases hd : isBlank d
      · rw [marked_head hd, show trimStart (d :: x) = d :: x by simp [trimStart, hd]]
        rfl
      · rw [marked_of_isBlank hd, List.singleton_append,
          show trimStart (d :: x.flatMap marked) = trimStart (x.flatMap marked) by
            simp [trimStart, hd],
          trimStart_flatMap_marked x]
        simp [trimStart, hd]

theorem trimEnd_flatMap_marked (x : List Point) :
    trimEnd (x.flatMap marked) = (trimEnd x).flatMap marked := by
  induction x using List.reverseRecOn with
  | nil => rfl
  | append_singleton x d ih =>
      rw [List.flatMap_append, List.flatMap_singleton]
      cases hd : isBlank d
      · -- the last character is no blank: nothing is trimmed
        obtain ⟨pre, hpre⟩ := marked_eq_append d
        rw [hpre, ← List.append_assoc, Text.trimEnd_append_of_not_isBlank hd,
          Text.trimEnd_append_of_not_isBlank hd, List.flatMap_append, List.flatMap_singleton,
          hpre, List.append_assoc]
      · rw [marked_of_isBlank hd, Text.trimEnd_append_of_isBlank hd,
          Text.trimEnd_append_of_isBlank hd, ih]

theorem trim_flatMap_marked (x : List Point) : trim (x.flatMap marked) = (trim x).flatMap marked := by
  rw [trim, trimStart_flatMap_marked, trimEnd_flatMap_marked, trim]

/-- Marking and trimming: a name that starts with a blank has all its characters marked,
the first one too, and one that starts with no blank keeps its first character as it is. -/
theorem trim_markWords (s : List Point) :
    trim (markWords s) =
      if s.head?.any isBlank then (trim s).flatMap marked else markWords (trim s) := by
  cases s with
  | nil => rfl
  | cons c rest =>
      rw [markWords_cons]
      cases hc : isBlank c
      · -- the first character stays first and is not marked
        simp only [List.head?_cons, Option.any_some, hc, Bool.false_eq_true, if_false]
        rw [Text.trim_cons_of_not_isBlank hc, Text.trim_cons_of_not_isBlank hc,
          trimEnd_flatMap_marked]
        rfl
      · -- the first character is a blank, marked as itself
        simp only [List.head?_cons, Option.any_some, hc, if_true]
        rw [← trim_flatMap_marked, List.flatMap_cons, marked_of_isBlank hc]
        rfl

theorem flatMap_marked_eq_self_iff :
    ∀ x : List Point, x.flatMap marked = x ↔ ∀ d ∈ x, isUppercase d = false
  | [] => by simp
  | d :: x => by
      rw [List.flatMap_cons, List.forall_mem_cons, ← flatMap_marked_eq_self_iff x]
      unfold marked
      cases hd : isUppercase d
      · simp
      · -- an underscore would stand where the uppercase character stood
        simp only [if_true, List.cons_append, List.cons.injEq]
        constructor
        · rintro ⟨rfl, -⟩
          exact absurd hd (by simp [underscore_not_uppercase])
        · rintro ⟨h, -⟩
          cases h

/-! ## Lowering marked texts

Lowering looks at the characters around a capital sigma to choose its final or medial
form, and a sigma ends a word only after a cased character, passing over those that case
ignores.  In a marked text every uppercase character stands after an underscore, which is
neither, so the text is lowered character by character, into its snake form. -/

/-- A later character of a name as its file name writes it: lowered, after an underscore
when it is uppercase.  `Text.lower [d]` is the lower case of `d` standing alone. -/
def snakeChar (d : Point) : List Point :=
  if isUppercase d then .char '_' :: Text.lower [d] else Text.lower [d]

/-- The snake form of a name: its first character lowered, then each later character as
`snakeChar` writes it. -/
def snake : List Point → List Point
  | [] => []
  | c :: rest => Text.lower [c] ++ rest.flatMap snakeChar

theorem lowerOf_underscore : lowerOf (.char '_') = [.char '_'] := by decide

theorem endsWord_underscore (before after : List Point) :
    Text.endsWord (.char '_' :: before) after = false := by
  have hi : Text.isCaseIgnorable (.char '_') = false := by decide
  have hc : Text.isCased (.char '_') = false := by decide
  simp [Text.endsWord, hi, hc]

theorem lowerAt_underscore (before after : List Point) :
    lowerAt before (.char '_') after = [.char '_'] := by
  rw [Text.lowerAt_eq_lowerOf (by decide), lowerOf_underscore]

/-- A marked text is lowered character by character, whatever stands before it: every
uppercase character, the capital sigma among them, stands after an underscore. -/
theorem lowerFrom_flatMap_marked :
    ∀ (before x : List Point), lowerFrom before (x.flatMap marked) = x.flatMap snakeChar
  | _, [] => rfl
  | before, d :: x => by
      cases hd : isUppercase d
      · -- not uppercase, so no capital sigma
        have hne : d ≠ .char 'Σ' := by
          rintro rfl
          exact absurd hd (by decide)
        simp only [List.flatMap_cons, marked, snakeChar, hd, Bool.false_eq_true, if_false,
          List.singleton_append, Text.lower_singleton]
        rw [lowerFrom, Text.lowerAt_eq_lowerOf hne, lowerFrom_flatMap_marked]
      · simp only [List.flatMap_cons, marked, snakeChar, hd, if_true, List.cons_append,
          List.nil_append, Text.lower_singleton]
        rw [lowerFrom, lowerFrom, lowerAt_underscore,
          Text.lowerAt_of_endsWord_false d (endsWord_underscore before _),
          lowerFrom_flatMap_marked]
        rfl

theorem lower_markWords (c : Point) (rest : List Point) :
    Text.lower (markWords (c :: rest)) = snake (c :: rest) := by
  rw [markWords_cons, Text.lower, lowerFrom, Text.lowerAt_of_endsWord_false c rfl,
    lowerFrom_flatMap_marked, snake, Text.lower_singleton]

theorem lower_flatMap_marked :
    ∀ t : List Point, Text.lower (t.flatMap marked) =
      (if t.head?.any isUppercase then [.char '_'] else []) ++ snake t
  | [] => rfl
  | c :: rest => by
      rw [Text.lower, lowerFrom_flatMap_marked, List.flatMap_cons, snake, snakeChar]
      cases hc : isUppercase c <;> simp [hc]

/-! ## The file name of a text

Together: the file name of a class name is the snake form of its trimmed text, with one
more underscore in front when blanks stood before an uppercase first character. -/

/-- **The file name of a class name**: the snake form of the name without its blanks at the
ends, after one more underscore when the name starts with a blank and its first character
that is no blank is uppercase. -/
theorem ofText_eq_snake (s : List Point) :
    ofText s =
      (if s.head?.any isBlank && (trim s).head?.any isUppercase then [.char '_'] else []) ++
        snake (trim s) := by
  rw [ofText, trim_markWords]
  cases hs : s.head?.any isBlank
  · -- no blank in front: the first character keeps its place
    simp only [Bool.false_eq_true, if_false, Bool.false_and, List.nil_append]
    cases ht : trim s with
    | nil => rfl
    | cons c rest => exact lower_markWords c rest
  · simp only [if_true, Bool.true_and]
    exact lower_flatMap_marked (trim s)

/-- A blank before a capital: `" A"` is named `_a`, and not `a`. -/
theorem ofText_capital_after_blank : ofText (lit " A") ≠ snake (trim (lit " A")) := by
  decide

/-! ## Naming a file name again

A file name has no blank at its ends and is lowered, so naming it again only marks it;
marking keeps it exactly when no character but the first is uppercase, which a lowered
text may still hold where a character has no lower case. -/

theorem ofText_trimmed (s : List Point) : ofText s = [] ∨ Text.Trimmed (ofText s) := by
  by_cases h : trim (markWords s) = []
  · left
    rw [ofText, h]
    rfl
  · exact .inr (Text.trimmed_lower (Text.trimmed_trim h))

theorem lowered_flatMap_marked {x : List Point} (hl : Text.Lowered x) :
    Text.Lowered (x.flatMap marked) := by
  intro d hd
  obtain ⟨e, he, hd⟩ := List.mem_flatMap.mp hd
  unfold marked at hd
  split at hd
  · simp only [List.mem_cons, List.not_mem_nil, or_false] at hd
    rcases hd with rfl | rfl
    · exact lowerOf_underscore
    · exact hl d he
  · rw [List.mem_singleton.mp hd]
    exact hl e he

theorem ofText_of_lowered {r : List Point} (hl : Text.Lowered r) (ht : r = [] ∨ Text.Trimmed r) :
    ofText r = markWords r := by
  rcases ht with rfl | ht
  · rfl
  obtain ⟨c, rest, rfl⟩ := List.exists_cons_of_ne_nil ht.1
  have hc : isBlank c = false := ht.2.1 c rfl
  have hmarked : Text.Lowered (markWords (c :: rest)) := by
    intro d hd
    rw [markWords_cons, List.mem_cons] at hd
    rcases hd with rfl | hd
    · exact hl d List.mem_cons_self
    · exact lowered_flatMap_marked (fun e he => hl e (List.mem_cons_of_mem c he)) d hd
  rw [ofText, trim_markWords, if_neg (by simp [hc]), ht.trim_eq, Text.lower,
    Text.lowerFrom_of_lowered hmarked]

/-- **Naming twice**: naming a file name again gives it back exactly when no character of
it but the first is uppercase. -/
theorem ofText_ofText_iff (s : List Point) :
    ofText (ofText s) = ofText s ↔ ∀ c ∈ (ofText s).tail, isUppercase c = false := by
  have hnamed : ofText (ofText s) = markWords (ofText s) :=
    ofText_of_lowered (Text.lowered_lower _) (ofText_trimmed s)
  rw [hnamed]
  cases ofText s with
  | nil => simp [markWords]
  | cons c rest =>
      rw [markWords_cons, List.cons.injEq, List.tail_cons, ← flatMap_marked_eq_self_iff]
      simp

/-- A mathematical capital has no lower case: `x𝐀` is named `x_𝐀`, and `x_𝐀` is named
`x__𝐀`. -/
theorem ofText_twice_mathematical_capital :
    ofText (ofText (lit "x𝐀")) ≠ ofText (lit "x𝐀") := by
  decide +kernel

end StubGen.FileName
