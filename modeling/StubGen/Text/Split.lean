/-
Cutting texts into words, lines and pieces, and trimming blanks off their ends.

Texts here are lists of code points.  A word is a maximal run of characters that are
not blanks; a line ends at a line break, a carriage return and line feed counting as
one break, and a break at the very end opens no further line.  Cutting at a
separator character keeps empty pieces, so a text with `k` separators has `k + 1`
pieces.
-/
import StubGen.Text.Blank

namespace StubGen.Text

/-- The text with its leading blanks removed. -/
def trimStart (s : List Point) : List Point := s.dropWhile isBlank

/-- The text with its trailing blanks removed. -/
def trimEnd (s : List Point) : List Point := ((s.reverse).dropWhile isBlank).reverse

/-- The text with blanks removed from both ends. -/
def trim (s : List Point) : List Point := trimEnd (trimStart s)

/-- How many blanks a text starts with. -/
def indent (s : List Point) : Nat := (s.takeWhile isBlank).length

theorem length_dropWhile_le {α : Type} (p : α → Bool) (s : List α) :
    (s.dropWhile p).length ≤ s.length := by
  induction s with
  | nil => simp
  | cons c rest ih =>
    simp only [List.dropWhile_cons]
    split
    · simp only [List.length_cons]; omega
    · simp

theorem length_trimEnd_le (s : List Point) : (trimEnd s).length ≤ s.length := by
  simp only [trimEnd, List.length_reverse]
  exact Nat.le_trans (length_dropWhile_le _ _) (by simp)

theorem length_trim_le (s : List Point) : (trim s).length ≤ s.length :=
  Nat.le_trans (length_trimEnd_le _) (length_dropWhile_le _ _)

set_option linter.unusedVariables false in
/-- The words of a text: its maximal runs of characters that are not blanks, in order. -/
def words (s : List Point) : List (List Point) :=
  match hs : s.dropWhile isBlank with
  | [] => []
  | c :: rest => (c :: rest.takeWhile (!isBlank ·)) :: words (rest.dropWhile (!isBlank ·))
termination_by s.length
decreasing_by
  have h1 := length_dropWhile_le (fun x => !isBlank x) rest
  have h2 := length_dropWhile_le isBlank s
  rw [hs] at h2
  simp only [List.length_cons] at h2
  omega

/-- The pieces of a text between occurrences of the separator `sep`, empty ones kept. -/
def splitOn (sep : Point) : List Point → List (List Point)
  | [] => [[]]
  | c :: rest =>
    if c = sep then [] :: splitOn sep rest
    else
      match splitOn sep rest with
      | piece :: more => (c :: piece) :: more
      | [] => [[c]]

/-- The text before the first occurrence of `sep` and the text after it, if `sep` occurs. -/
def splitFirst (sep : List Point) : List Point → Option (List Point × List Point)
  | [] => if sep.isEmpty then some ([], []) else none
  | c :: rest =>
    if sep.isPrefixOf (c :: rest) then some ([], (c :: rest).drop sep.length)
    else (splitFirst sep rest).map fun (before, after) => (c :: before, after)

/-- The number of places at which `sep` occurs in a text, overlapping ones included. -/
def occurrences (sep : List Point) : List Point → Nat
  | [] => if sep.isEmpty then 1 else 0
  | c :: rest => (if sep.isPrefixOf (c :: rest) then 1 else 0) + occurrences sep rest

/-- The text with every occurrence of `pat` removed, as replacing it by nothing does: the
leftmost occurrence first, and the search goes on after it.  An empty `pat` removes
nothing. -/
def eraseAll (pat : List Point) : List Point → List Point
  | [] => []
  | c :: rest =>
    if pat ≠ [] ∧ pat.isPrefixOf (c :: rest) = true then
      eraseAll pat ((c :: rest).drop pat.length)
    else c :: eraseAll pat rest
termination_by s => s.length
decreasing_by
  · rename_i h
    have hpos := List.length_pos_iff.mpr h.1
    simp only [List.length_drop, List.length_cons]
    omega
  · simp

/-- The lines of a text, without their breaks. -/
def lines : List Point → List (List Point)
  | [] => []
  | .char '\r' :: .char '\n' :: rest => [] :: lines rest
  | c :: rest =>
    if isLineBreak c then [] :: lines rest
    else
      match lines rest with
      | line :: more => (c :: line) :: more
      | [] => [[c]]

theorem length_le_of_mem_splitOn {sep : Point} {s piece : List Point}
    (h : piece ∈ splitOn sep s) : piece.length ≤ s.length := by
  induction s generalizing piece with
  | nil => simp [splitOn] at h; simp [h]
  | cons c rest ih =>
    simp only [splitOn] at h
    split at h
    · simp only [List.mem_cons] at h
      rcases h with h | h
      · simp [h]
      · have := ih h; simp only [List.length_cons]; omega
    · split at h
      · rename_i piece' more heq
        simp only [List.mem_cons] at h
        rcases h with h | h
        · subst h
          have := ih (heq ▸ List.mem_cons_self)
          simp only [List.length_cons]; omega
        · have := ih (heq ▸ List.mem_cons_of_mem _ h); simp only [List.length_cons]; omega
      · simp only [List.mem_singleton] at h; subst h; simp

theorem splitFirst_length {sep s before after : List Point}
    (h : splitFirst sep s = some (before, after)) :
    before.length + sep.length + after.length = s.length := by
  induction s generalizing before with
  | nil =>
    simp only [splitFirst] at h
    split at h
    · simp only [Option.some.injEq, Prod.mk.injEq] at h
      obtain ⟨rfl, rfl⟩ := h
      rename_i hs
      simp [List.isEmpty_iff.mp hs]
    · simp at h
  | cons c rest ih =>
    simp only [splitFirst] at h
    split at h
    · rename_i hp
      simp only [Option.some.injEq, Prod.mk.injEq] at h
      obtain ⟨rfl, rfl⟩ := h
      have hle := (List.isPrefixOf_iff_prefix.mp hp).length_le
      simp only [List.length_nil, List.length_drop, Nat.zero_add]
      omega
    · obtain ⟨⟨b, a⟩, hs, he⟩ := Option.map_eq_some_iff.mp h
      simp only [Prod.mk.injEq] at he
      obtain ⟨rfl, rfl⟩ := he
      have := ih hs
      simp only [List.length_cons]; omega

end StubGen.Text
