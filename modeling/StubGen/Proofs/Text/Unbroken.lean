/-
# `StubGen.Proofs.Text.Unbroken` — texts that stand on one line

A text is unbroken when no character of it is a line break: cut into lines, it is one
line.  Tidying cuts a generated header into lines, so every part of the header that the
layout puts on one line must be unbroken.  The parts are made from the texts of a
description by a few operations, and each keeps a text unbroken:

* taking characters of a text — its words, its trim, its pieces between separators —
  and joining unbroken texts (`Unbroken.of_subset`, `Unbroken.intercalate`);
* the case maps (`Unbroken.upper`, `Unbroken.title`): by their tables no character is
  sent to a line break (`caseImage_unbroken`);
* quoting (`quote_unbroken`): a line break is written as an escape, and an escape is
  made of ASCII characters none of which breaks a line, so a quoted text is unbroken
  whatever it held; the same holds of the decimal and hexadecimal digits of numbers
  (`toDigits_unbroken`).
-/
import StubGen.Proofs.Text.Split
import StubGen.Text.Case
import StubGen.Text.Quoted

namespace StubGen.Text

/-- A text that stands on one line: no character of it is a line break. -/
def Unbroken (s : List Point) : Prop := ∀ c ∈ s, isLineBreak c = false

instance (s : List Point) : Decidable (Unbroken s) :=
  inferInstanceAs (Decidable (∀ c ∈ s, isLineBreak c = false))

theorem isLineBreak_eq_true_iff (p : Point) :
    isLineBreak p = true ↔ (10 ≤ p.val ∧ p.val ≤ 13) ∨ (28 ≤ p.val ∧ p.val ≤ 30) ∨
      p.val = 0x85 ∨ p.val = 0x2028 ∨ p.val = 0x2029 := by
  simp [isLineBreak, or_assoc]

namespace Unbroken

variable {s t x y sep : List Point}

@[simp] theorem nil : Unbroken [] := fun _ h => nomatch h

@[simp] theorem append_iff : Unbroken (x ++ y) ↔ Unbroken x ∧ Unbroken y := by
  simp only [Unbroken, List.mem_append, or_imp, forall_and]

@[simp] theorem cons_iff {c : Point} :
    Unbroken (c :: s) ↔ isLineBreak c = false ∧ Unbroken s := by
  simp only [Unbroken, List.mem_cons, forall_eq_or_imp]

theorem append (hx : Unbroken x) (hy : Unbroken y) : Unbroken (x ++ y) :=
  append_iff.mpr ⟨hx, hy⟩

/-- Characters taken from an unbroken text make an unbroken text. -/
theorem of_subset (h : Unbroken s) (hts : ∀ c ∈ t, c ∈ s) : Unbroken t :=
  fun c hc => h c (hts c hc)

theorem flatten {ls : List (List Point)} (h : ∀ l ∈ ls, Unbroken l) : Unbroken ls.flatten := by
  intro c hc
  obtain ⟨l, hl, hcl⟩ := List.mem_flatten.mp hc
  exact h l hl c hcl

theorem intercalate (hsep : Unbroken sep) :
    ∀ {ls : List (List Point)}, (∀ l ∈ ls, Unbroken l) → Unbroken (sep.intercalate ls)
  | [], _ => nil
  | [l], h => by
      rw [List.intercalate_singleton]
      exact h l List.mem_cons_self
  | l :: m :: rest, h => by
      rw [List.intercalate_cons_cons]
      exact (h l List.mem_cons_self).append hsep |>.append
        (intercalate hsep fun k hk => h k (List.mem_cons_of_mem l hk))

theorem replicate {c : Point} (hc : isLineBreak c = false) (n : Nat) :
    Unbroken (List.replicate n c) := by
  intro d hd
  rw [List.eq_of_mem_replicate hd]
  exact hc

theorem trim (h : Unbroken s) : Unbroken (Text.trim s) := by
  refine h.of_subset fun c hc => ?_
  simp only [Text.trim, trimEnd, trimStart, List.mem_reverse] at hc
  exact (List.dropWhile_sublist _).subset
    (List.mem_reverse.mp ((List.dropWhile_sublist _).subset hc))

theorem take (h : Unbroken s) (n : Nat) : Unbroken (s.take n) :=
  h.of_subset fun _ hc => List.mem_of_mem_take hc

theorem drop (h : Unbroken s) (n : Nat) : Unbroken (s.drop n) :=
  h.of_subset fun _ hc => List.mem_of_mem_drop hc

end Unbroken

theorem mem_of_mem_words {s w : List Point} (h : w ∈ words s) {c : Point} (hc : c ∈ w) :
    c ∈ s := by
  induction s using words.induct with
  | case1 s hs =>
      rw [words_congr (t := []) (by simpa using hs), words_nil] at h
      cases h
  | case2 s d rest hs ih =>
      have hd : isBlank d = false := by
        have := List.head_dropWhile_not isBlank (l := s) (by simp [hs])
        simpa [hs] using this
      have hsub : ∀ e ∈ d :: rest, e ∈ s := fun e he =>
        (List.dropWhile_sublist isBlank).subset (hs ▸ he)
      rw [words_congr (t := d :: rest) (by simp [hs, hd]), words_cons_of_not_isBlank hd] at h
      rcases List.mem_cons.mp h with rfl | h
      · rcases List.mem_cons.mp hc with rfl | hc
        · exact hsub _ List.mem_cons_self
        · exact hsub _ (List.mem_cons_of_mem d ((List.takeWhile_sublist _).subset hc))
      · exact hsub _ (List.mem_cons_of_mem d ((List.dropWhile_sublist _).subset (ih h)))

theorem mem_of_mem_splitOn {sep : Point} :
    ∀ {s piece : List Point}, piece ∈ splitOn sep s → ∀ {c : Point}, c ∈ piece → c ∈ s
  | [], piece, h, c, hc => by
      simp only [splitOn, List.mem_singleton] at h
      subst h
      cases hc
  | d :: rest, piece, h, c, hc => by
      simp only [splitOn] at h
      split at h
      · rcases List.mem_cons.mp h with rfl | h
        · cases hc
        · exact List.mem_cons_of_mem d (mem_of_mem_splitOn h hc)
      · split at h
        · rename_i p more hpieces
          rcases List.mem_cons.mp h with rfl | h
          · rcases List.mem_cons.mp hc with rfl | hc
            · exact List.mem_cons_self
            · exact List.mem_cons_of_mem d (mem_of_mem_splitOn (hpieces ▸ List.mem_cons_self) hc)
          · exact List.mem_cons_of_mem d
              (mem_of_mem_splitOn (hpieces ▸ List.mem_cons_of_mem p h) hc)
        · rw [List.mem_singleton] at h
          subst h
          rw [List.mem_singleton] at hc
          subst hc
          exact List.mem_cons_self

theorem Unbroken.words {s : List Point} (h : Unbroken s) : ∀ w ∈ words s, Unbroken w :=
  fun _ hw => h.of_subset fun _ hc => mem_of_mem_words hw hc

theorem Unbroken.splitOn {s : List Point} (h : Unbroken s) (sep : Point) :
    ∀ p ∈ splitOn sep s, Unbroken p :=
  fun _ hp => h.of_subset fun _ hc => mem_of_mem_splitOn hp hc

/-! ## Case maps

A case map sends a character through tables of shifts.  When no shift sends a point to a
line break, the image of a character that is no line break is none; that each shift of
the tables avoids the breaks is checked once per shift, by its span of images. -/

theorem val_ofNat (n : Nat) : (Point.ofNat n).val = n ∨ (Point.ofNat n).val = 0 := by
  unfold Point.ofNat
  by_cases hs : 0xD800 ≤ n ∧ n < 0xE000
  · -- a surrogate unit keeps its number
    rw [dif_pos hs]
    left
    show 0xD800 + (n - 0xD800) = n
    omega
  · -- a scalar value keeps its number; any other number becomes the null character
    rw [dif_neg hs]
    show (Char.ofNat n).toNat = n ∨ (Char.ofNat n).toNat = 0
    unfold Char.ofNat
    by_cases hv : n.isValidChar
    · rw [dif_pos hv]
      exact .inl rfl
    · rw [dif_neg hv]
      exact .inr rfl

/-- The code points that break lines. -/
def breakCodes : List Nat := [10, 11, 12, 13, 28, 29, 30, 0x85, 0x2028, 0x2029]

theorem isLineBreak_ofNat {n : Nat} (h : n ∉ breakCodes) : isLineBreak (Point.ofNat n) = false := by
  rw [← Bool.not_eq_true, isLineBreak_eq_true_iff]
  simp only [breakCodes, List.mem_cons, List.not_mem_nil, or_false] at h
  rcases val_ofNat n with hv | hv <;> rw [hv] <;> omega

/-- A shift whose images avoid every line break. -/
def Shift.clear (s : Shift) : Bool :=
  breakCodes.all fun b => decide ((b : Int) < s.lo + s.delta) || decide (s.hi + s.delta < (b : Int))

/-- A shift whose images avoid the code points `codes`: its span of images lies wholly below
or wholly above each of them. -/
def Shift.avoids (codes : List Nat) (s : Shift) : Bool :=
  codes.all fun b => decide ((b : Int) < s.lo + s.delta) || decide (s.hi + s.delta < (b : Int))

theorem Shift.find?_eq_some {n m : Nat} :
    ∀ {shifts : List Shift}, Shift.find? shifts n = some m →
      ∃ s ∈ shifts, s.lo ≤ n ∧ n ≤ s.hi ∧ (n - s.lo) % s.step = 0 ∧
        m = ((n : Int) + s.delta).toNat
  | s :: rest, h => by
      simp only [Shift.find?] at h
      split at h
      · cases h
      · split at h
        · split at h
          · rename_i hstep
            cases h
            exact ⟨s, List.mem_cons_self, by omega, by omega, beq_iff_eq.mp hstep, rfl⟩
          · cases h
        · obtain ⟨s', hs', h⟩ := Shift.find?_eq_some h
          exact ⟨s', List.mem_cons_of_mem s hs', h⟩

theorem caseImage_avoids {codes : List Nat} {p : Point → Bool}
    (hp : ∀ {n : Nat}, n ∉ codes → p (Point.ofNat n) = false) (h0 : 0 ∉ codes)
    {several : List (Nat × List Nat)} {shifts : List Shift}
    (hsev : several.all (fun e => e.2.all fun n => !codes.contains n) = true)
    (hsh : shifts.all (Shift.avoids codes) = true) {c : Point} (hc : p c = false) :
    ∀ d ∈ caseImage several shifts c, p d = false := by
  unfold caseImage
  split
  · -- a character that maps to several: each is checked in the table
    rename_i ns hns
    obtain ⟨l₁, l₂, hsplit, -⟩ := List.lookup_eq_some_iff.mp hns
    have hmem : (c.val, ns) ∈ several := by
      rw [hsplit]
      exact List.mem_append_right l₁ List.mem_cons_self
    have hclear := List.all_eq_true.mp (List.all_eq_true.mp hsev _ hmem)
    intro d hd
    obtain ⟨n, hn, rfl⟩ := List.mem_map.mp hd
    refine hp fun hb => ?_
    have := hclear n hn
    simp [hb] at this
  · split
    · -- a shifted character: the shift's images avoid the codes
      rename_i m hm
      obtain ⟨s, hs, hlo, hhi, -, rfl⟩ := Shift.find?_eq_some hm
      have hclear := List.all_eq_true.mp (List.all_eq_true.mp hsh s hs)
      intro d hd
      rw [List.mem_singleton.mp hd]
      refine hp fun hb => ?_
      have hpos : 0 < ((c.val : Int) + s.delta).toNat :=
        Nat.pos_of_ne_zero fun h => h0 (h ▸ hb)
      have := hclear _ hb
      simp only [Bool.or_eq_true, decide_eq_true_eq] at this
      omega
    · intro d hd
      rw [List.mem_singleton.mp hd]
      exact hc

/-- A case map whose tables send no character to a line break keeps a character that is no
line break off the line breaks. -/
theorem caseImage_unbroken {several : List (Nat × List Nat)} {shifts : List Shift}
    (hsev : several.all (fun e => e.2.all fun n => !breakCodes.contains n) = true)
    (hsh : shifts.all Shift.clear = true) {c : Point} (hc : isLineBreak c = false) :
    Unbroken (caseImage several shifts c) :=
  caseImage_avoids isLineBreak_ofNat (by decide) hsev hsh hc

theorem upperSeveral_clear :
    upperSeveral.all (fun e => e.2.all fun n => !breakCodes.contains n) = true := by decide

theorem upperShifts_clear : upperShifts.all Shift.clear = true := by decide

theorem lowerSeveral_clear :
    lowerSeveral.all (fun e => e.2.all fun n => !breakCodes.contains n) = true := by decide

theorem lowerShifts_clear : lowerShifts.all Shift.clear = true := by decide

theorem titleSeveral_clear :
    titleSeveral.all (fun e => e.2.all fun n => !breakCodes.contains n) = true := by decide

theorem titleShifts_clear : titleShifts.all Shift.clear = true := by decide

namespace Unbroken

variable {s : List Point}

theorem upper (h : Unbroken s) : Unbroken (Text.upper s) := by
  refine flatten fun l hl => ?_
  obtain ⟨c, hc, rfl⟩ := List.mem_map.mp hl
  exact caseImage_unbroken upperSeveral_clear upperShifts_clear (h c hc)

theorem lowerAt {before after : List Point} {c : Point} (hc : isLineBreak c = false) :
    Unbroken (Text.lowerAt before c after) := by
  unfold Text.lowerAt
  split
  · exact cons_iff.mpr ⟨by split <;> rfl, nil⟩
  · exact caseImage_unbroken lowerSeveral_clear lowerShifts_clear hc

theorem lowerFrom : ∀ {s : List Point} (before : List Point), Unbroken s →
    Unbroken (Text.lowerFrom before s)
  | [], _, _ => nil
  | c :: after, before, h => by
      rw [Text.lowerFrom]
      exact (lowerAt (cons_iff.mp h).1).append (lowerFrom (c :: before) (cons_iff.mp h).2)

theorem lower (h : Unbroken s) : Unbroken (Text.lower s) := lowerFrom [] h

theorem titleFrom : ∀ {s : List Point} (cased : Bool) (before : List Point), Unbroken s →
    Unbroken (Text.titleFrom cased before s)
  | [], _, _, _ => nil
  | c :: after, cased, before, h => by
      rw [Text.titleFrom]
      refine append ?_ (titleFrom _ (c :: before) (cons_iff.mp h).2)
      split
      · exact lowerAt (cons_iff.mp h).1
      · exact caseImage_unbroken titleSeveral_clear titleShifts_clear (cons_iff.mp h).1

theorem title (h : Unbroken s) : Unbroken (Text.title s) := titleFrom false [] h

end Unbroken

/-! ## Digits and quoted forms

Digits are ASCII, and a quoted form writes every character that is not printable as an
escape; the line breaks beyond ASCII are not printable, so a quoted text breaks no line. -/

theorem digitChar_not_lineBreak :
    ∀ k : Nat, isLineBreak (.char (Nat.digitChar k)) = false
  | 0 | 1 | 2 | 3 | 4 | 5 | 6 | 7 | 8 | 9 | 10 | 11 | 12 | 13 | 14 | 15 | _ + 16 => by
      simp [Nat.digitChar, isLineBreak, Point.val]

theorem mem_toDigitsCore {b : Nat} :
    ∀ {fuel n : Nat} {ds : List Char} {d : Char}, d ∈ Nat.toDigitsCore b fuel n ds →
      d ∈ ds ∨ ∃ k, d = Nat.digitChar k
  | 0, _, _, _, h => .inl h
  | fuel + 1, n, ds, d, h => by
      simp only [Nat.toDigitsCore] at h
      split at h
      · rcases List.mem_cons.mp h with rfl | h
        · exact .inr ⟨_, rfl⟩
        · exact .inl h
      · rcases mem_toDigitsCore h with h | h
        · rcases List.mem_cons.mp h with rfl | h
          · exact .inr ⟨_, rfl⟩
          · exact .inl h
        · exact .inr h

/-- The digits of a number break no line. -/
theorem toDigits_unbroken (b n : Nat) : Unbroken ((Nat.toDigits b n).map .char) := by
  intro p hp
  obtain ⟨d, hd, rfl⟩ := List.mem_map.mp hp
  rcases mem_toDigitsCore hd with h | ⟨k, rfl⟩
  · cases h
  · exact digitChar_not_lineBreak k

theorem Unbroken.replicate_char {c : Char} (hc : isLineBreak (.char c) = false) (n : Nat) :
    Unbroken ((List.replicate n c).map .char) := by
  intro p hp
  obtain ⟨d, hd, rfl⟩ := List.mem_map.mp hp
  rw [List.eq_of_mem_replicate hd]
  exact hc

theorem codeEscape_unbroken (c : Point) : Unbroken ((codeEscape c).map .char) := by
  unfold codeEscape hexDigits
  dsimp only
  split
  · simp only [List.map_cons, List.map_append, Unbroken.cons_iff, Unbroken.append_iff]
    exact ⟨rfl, rfl, Unbroken.replicate_char rfl _, toDigits_unbroken _ _⟩
  · split
    · simp only [List.map_cons, List.map_append, Unbroken.cons_iff, Unbroken.append_iff]
      exact ⟨rfl, rfl, Unbroken.replicate_char rfl _, toDigits_unbroken _ _⟩
    · simp only [List.map_cons, List.map_append, Unbroken.cons_iff, Unbroken.append_iff]
      exact ⟨rfl, rfl, Unbroken.replicate_char rfl _, toDigits_unbroken _ _⟩

theorem not_lineBreak_of_shown {c : Char} (h : (0x20 ≤ c.toNat ∧ c.toNat < 0x7f) ∨
    (0x7f < c.toNat ∧ isPrintable (.char c) = true)) : isLineBreak (.char c) = false := by
  rw [← Bool.not_eq_true, isLineBreak_eq_true_iff]
  have h85 : Stride.anyHolds unprintableTable 0x85 = true := by decide +kernel
  have h2028 : Stride.anyHolds unprintableTable 0x2028 = true := by decide +kernel
  have h2029 : Stride.anyHolds unprintableTable 0x2029 = true := by decide +kernel
  have hval : (Point.char c).val = c.toNat := rfl
  rcases h with h | ⟨h, hp⟩
  · rw [hval]
    omega
  · have hp' : Stride.anyHolds unprintableTable c.toNat = false := by
      simpa [isPrintable, Point.val] using hp
    rw [hval]
    rintro (h' | h' | h' | h' | h')
    · omega
    · omega
    · rw [h', h85] at hp'
      cases hp'
    · rw [h', h2028] at hp'
      cases hp'
    · rw [h', h2029] at hp'
      cases hp'

theorem quoteChar_unbroken (asciiOnly : Bool) {q : Char} (hq : isLineBreak (.char q) = false) :
    ∀ p : Point, Unbroken ((quoteChar asciiOnly q p).map .char)
  | .surrogate o => codeEscape_unbroken _
  | .char c => by
      simp only [quoteChar]
      split
      · -- the quote or the backslash, after a backslash
        rename_i hqc
        simp only [Bool.or_eq_true, decide_eq_true_eq] at hqc
        simp only [List.map_cons, List.map_nil, Unbroken.cons_iff]
        refine ⟨rfl, ?_, Unbroken.nil⟩
        rcases hqc with rfl | rfl
        · exact hq
        · rfl
      split
      · simp [Unbroken, isLineBreak, Point.val]
      split
      · simp [Unbroken, isLineBreak, Point.val]
      split
      · simp [Unbroken, isLineBreak, Point.val]
      split
      · exact codeEscape_unbroken _
      split
      · -- ASCII and no control character: written as itself
        rename_i hctl hlow
        simp only [Bool.or_eq_true, decide_eq_true_eq, beq_iff_eq, not_or] at hctl
        refine Unbroken.cons_iff.mpr ⟨not_lineBreak_of_shown (.inl ⟨?_, hlow⟩), Unbroken.nil⟩
        omega
      split
      · exact codeEscape_unbroken _
      · -- beyond ASCII and printable: written as itself
        rename_i hctl hlow hshow
        simp only [Bool.or_eq_true, decide_eq_true_eq, beq_iff_eq, not_or] at hctl hshow
        refine Unbroken.cons_iff.mpr ⟨not_lineBreak_of_shown (.inr ⟨?_, ?_⟩), Unbroken.nil⟩
        · omega
        · simpa using hshow.2

theorem quoteFor_not_lineBreak (s : List Point) : isLineBreak (.char (quoteFor s)) = false := by
  unfold quoteFor
  split <;> rfl

theorem Unbroken.between_quotes {q : Char} (hq : isLineBreak (.char q) = false)
    {f : Point → List Char} (hf : ∀ p, Unbroken ((f p).map .char)) (s : List Point) :
    Unbroken ((q :: s.flatMap f ++ [q]).map .char) := by
  rw [List.map_append, List.map_cons, List.map_flatMap]
  refine append (cons_iff.mpr ⟨hq, flatten fun l hl => ?_⟩) (cons_iff.mpr ⟨hq, nil⟩)
  obtain ⟨p, -, rfl⟩ := List.mem_map.mp hl
  exact hf p

/-- A quoted text breaks no line, whatever the text: every line break in it is written as
an escape. -/
theorem quote_unbroken (s : List Point) : Unbroken ((quote s).map .char) :=
  Unbroken.between_quotes (quoteFor_not_lineBreak s)
    (quoteChar_unbroken false (quoteFor_not_lineBreak s)) s

theorem quoteAscii_unbroken (s : List Point) : Unbroken ((quoteAscii s).map .char) :=
  Unbroken.between_quotes (quoteFor_not_lineBreak s)
    (quoteChar_unbroken true (quoteFor_not_lineBreak s)) s

end StubGen.Text
