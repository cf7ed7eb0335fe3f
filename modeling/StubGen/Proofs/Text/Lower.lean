/-
# `StubGen.Proofs.Text.Lower` — lowering a lowered text changes nothing

A text is lowered character by character through the full lower-case map, a capital sigma
going to the final or the medial small sigma by what stands around it.  Every character
that lowering writes is its own lower case (`lowerOf_of_mem_lowerAt`), so the characters of
a lowered text are `Lowered`, and lowering such a text leaves each of them as it is
(`lowerFrom_of_lowered`): lowering twice is lowering once (`lower_lower`).  Lowering also
keeps blanks out: no character that is not a blank has a blank in its lower case
(`isBlank_of_mem_lowerAt`), so the lower case of a text without blanks at its ends has
none at its ends either (`trimmed_lower`).

Both are facts of the character tables, checked once per shift of the lower-case table.
The images of a shift form a stride of code points; `Shift.missAll` walks the table the
way a look-up does and finds no shift that holds a point of that stride
(`lowerShifts_settled`).  The blanks are kept out as the line breaks are, by the span of
the images of each shift (`Shift.avoids`).
-/
import StubGen.Proofs.Text.Unbroken

namespace StubGen.Text

/-! ## Blanks among code points

The blanks are 29 code points, listed once, so that a character is checked against them
by its code point. -/

/-- The code points of the blanks. -/
def blankCodes : List Nat :=
  [9, 10, 11, 12, 13, 28, 29, 30, 31, 32, 0x85, 0xa0, 0x1680, 0x2000, 0x2001, 0x2002, 0x2003,
    0x2004, 0x2005, 0x2006, 0x2007, 0x2008, 0x2009, 0x200a, 0x2028, 0x2029, 0x202f, 0x205f,
    0x3000]

theorem isBlank_eq_true_iff (p : Point) : isBlank p = true ↔ p.val ∈ blankCodes := by
  simp only [isBlank, blankCodes, Bool.or_eq_true, Bool.and_eq_true, decide_eq_true_eq,
    beq_iff_eq, List.mem_cons, List.not_mem_nil, or_false]
  omega

theorem isBlank_ofNat {n : Nat} (h : n ∉ blankCodes) : isBlank (Point.ofNat n) = false := by
  rw [← Bool.not_eq_true, isBlank_eq_true_iff]
  rcases val_ofNat n with hv | hv <;> rw [hv]
  · exact h
  · decide

/-! ## The images of a shift

The lower-case table is a list of shifts, each moving a stride of points by an offset.
That a table looks up none of the images of a shift is checked by walking the stride once
against the table, a shift at a time, rather than point by point. -/

namespace Shift

/-- The image of the point `n` under a shift. -/
def image (s : Shift) (n : Nat) : Nat := ((n : Int) + s.delta).toNat

/-- Whether the points `a`, `a + step`, … up to `b` are held by no shift of a table, each
shift tested as a look-up tests it: a shift that starts above `b` ends the walk, and one
that ends below `a` holds none of them.  A single point is tested against the shift's
stride; longer runs only against shifts they miss by parity (both strides of step two,
starting at points of different parity). -/
def missAll (a b step : Nat) : List Shift → Bool
  | [] => true
  | t :: ts =>
    if b < t.lo then true
    else
      (t.hi < a || (if a = b then (a - t.lo) % t.step != 0
        else step == 2 && t.step == 2 && (a + t.lo) % 2 == 1)) && missAll a b step ts

/-- Whether a table looks up none of the images of a shift, these being code points. -/
def settled (shifts : List Shift) (s : Shift) : Bool :=
  decide (0 ≤ (s.lo : Int) + s.delta) && missAll (s.image s.lo) (s.image s.hi) s.step shifts

theorem find?_eq_none_of_missAll {a b step m k : Nat} (ha : m = a + step * k) (hb : m ≤ b) :
    ∀ {ts : List Shift}, missAll a b step ts = true → find? ts m = none
  | [], _ => rfl
  | t :: ts, h => by
      rw [missAll] at h
      rw [find?]
      by_cases hlo : b < t.lo
      · rw [if_pos (show m < t.lo by omega)]
      · rw [if_neg hlo, Bool.and_eq_true] at h
        obtain ⟨hmiss, hrest⟩ := h
        by_cases hm : m < t.lo
        · rw [if_pos hm]
        · rw [if_neg hm]
          split
          · -- the point lies in the span of the shift, but off its stride
            rename_i hhi
            rw [if_neg]
            simp only [Bool.or_eq_true, decide_eq_true_eq] at hmiss
            rcases hmiss with hbelow | hstride
            · omega
            · split at hstride
              · simp only [bne_iff_ne, ne_eq] at hstride
                have : m = a := by omega
                simpa [this] using hstride
              · simp only [Bool.and_eq_true, beq_iff_eq] at hstride
                obtain ⟨⟨rfl, hts⟩, hpar⟩ := hstride
                rw [hts]
                simp only [beq_iff_eq]
                omega
          · exact find?_eq_none_of_missAll ha hb hrest

theorem find?_image {shifts : List Shift} {s : Shift} (hs : s.settled shifts = true) {n : Nat}
    (hlo : s.lo ≤ n) (hhi : n ≤ s.hi) (hstep : (n - s.lo) % s.step = 0) :
    find? shifts (s.image n) = none := by
  simp only [settled, Bool.and_eq_true, decide_eq_true_eq] at hs
  obtain ⟨hpos, hmiss⟩ := hs
  -- the point is `k` steps into the stride
  have hdiv := Nat.div_add_mod (n - s.lo) s.step
  refine find?_eq_none_of_missAll (k := (n - s.lo) / s.step) ?_ ?_ hmiss
  · simp only [image]
    omega
  · simp only [image]
    omega

end Shift

/-! ## The lower-case table

Every shift of the table sends its points to points the table leaves alone, and nothing
is sent to the one character that lowers to several.  So the lower case of a character
is its own lower case. -/

/-- Every shift of the lower-case table sends its points to points that the table leaves
alone. -/
theorem lowerShifts_settled : lowerShifts.all (Shift.settled lowerShifts) = true := by
  decide +kernel

theorem lowerShifts_avoid_several : lowerShifts.all (Shift.avoids [0x130]) = true := by
  decide

theorem lowerShifts_avoid_blanks : lowerShifts.all (Shift.avoids blankCodes) = true := by
  decide

theorem lowerSeveral_avoid_blanks :
    lowerSeveral.all (fun e => e.2.all fun n => !blankCodes.contains n) = true := by decide

theorem lowerOf_eq_self {c : Point} (h1 : lowerSeveral.lookup c.val = none)
    (h2 : Shift.find? lowerShifts c.val = none) : lowerOf c = [c] := by
  simp only [lowerOf, caseImage, h1, h2]

theorem lowerOf_image {s : Shift} (hs : s ∈ lowerShifts) {n : Nat} (hlo : s.lo ≤ n)
    (hhi : n ≤ s.hi) (hstep : (n - s.lo) % s.step = 0) :
    lowerOf (Point.ofNat (s.image n)) = [Point.ofNat (s.image n)] := by
  rcases val_ofNat (s.image n) with hv | hv
  · apply lowerOf_eq_self <;> rw [hv]
    · -- the image is not the dotted capital I
      have hav := List.all_eq_true.mp lowerShifts_avoid_several s hs
      simp only [Shift.avoids, List.all_cons, List.all_nil, Bool.and_true, Bool.or_eq_true,
        decide_eq_true_eq] at hav
      have hne : (s.image n == 0x130) = false := by
        simp only [Shift.image, beq_eq_false_iff_ne, ne_eq]
        omega
      rw [lowerSeveral, List.lookup_cons, hne, List.lookup_nil]
    · exact Shift.find?_image (List.all_eq_true.mp lowerShifts_settled s hs) hlo hhi hstep
  · apply lowerOf_eq_self <;> rw [hv] <;> rfl

theorem lowerSeveral_lookup_eq_some {n : Nat} {ns : List Nat}
    (h : lowerSeveral.lookup n = some ns) : n = 0x130 ∧ ns = [0x69, 0x307] := by
  obtain ⟨l₁, l₂, hsplit, -⟩ := List.lookup_eq_some_iff.mp h
  have hmem : (n, ns) ∈ lowerSeveral := by
    rw [hsplit]
    exact List.mem_append_right l₁ List.mem_cons_self
  simpa only [lowerSeveral, List.mem_singleton, Prod.mk.injEq] using hmem

theorem lowerOf_of_mem_lowerOf {c d : Point} (hd : d ∈ lowerOf c) : lowerOf d = [d] := by
  unfold lowerOf caseImage at hd
  split at hd
  · -- the dotted capital I: a small i and a combining dot, each its own lower case
    rename_i ns hns
    rw [(lowerSeveral_lookup_eq_some hns).2] at hd
    simp only [List.map_cons, List.map_nil, List.mem_cons, List.not_mem_nil, or_false] at hd
    rcases hd with rfl | rfl <;> decide
  · split at hd
    · rename_i m hm
      obtain ⟨s, hs, hlo, hhi, hstep, rfl⟩ := Shift.find?_eq_some hm
      rw [List.mem_singleton.mp hd]
      exact lowerOf_image hs hlo hhi hstep
    · rename_i _ h1 _ h2
      rw [List.mem_singleton.mp hd]
      exact lowerOf_eq_self h1 h2

theorem isBlank_of_mem_lowerOf {c d : Point} (hc : isBlank c = false) (hd : d ∈ lowerOf c) :
    isBlank d = false :=
  caseImage_avoids isBlank_ofNat (by decide) lowerSeveral_avoid_blanks lowerShifts_avoid_blanks
    hc d hd

/-! ## Lowering in context

Lowering a text lowers each character where it stands: its lower case, or, for the
capital sigma, the final or medial small sigma as the characters around it end a word or
not.  Every character it writes
is its own lower case. -/

theorem lowerOf_sigma : lowerOf (.char 'Σ') = [.char 'σ'] := by decide

theorem lowerAt_eq_lowerOf {before after : List Point} {c : Point} (hc : c ≠ .char 'Σ') :
    lowerAt before c after = lowerOf c := by
  rw [lowerAt, if_neg hc]

theorem lowerAt_of_endsWord_false {before after : List Point} (c : Point)
    (h : endsWord before after = false) : lowerAt before c after = lowerOf c := by
  by_cases hc : c = .char 'Σ'
  · rw [lowerAt, if_pos hc, h, hc, lowerOf_sigma]
    rfl
  · exact lowerAt_eq_lowerOf hc

theorem lower_singleton (c : Point) : lower [c] = lowerOf c := by
  rw [lower, lowerFrom, lowerFrom, List.append_nil, lowerAt_of_endsWord_false c rfl]

theorem lowerOf_ne_nil (c : Point) : lowerOf c ≠ [] := by
  unfold lowerOf caseImage
  split
  · rename_i ns hns
    simp [(lowerSeveral_lookup_eq_some hns).2]
  · split <;> simp

theorem lowerAt_ne_nil (before : List Point) (c : Point) (after : List Point) :
    lowerAt before c after ≠ [] := by
  unfold lowerAt
  split
  · simp
  · exact lowerOf_ne_nil c

/-- Every character that lowering writes is its own lower case. -/
theorem lowerOf_of_mem_lowerAt {before after : List Point} {c d : Point}
    (hd : d ∈ lowerAt before c after) : lowerOf d = [d] := by
  unfold lowerAt at hd
  split at hd
  · rw [List.mem_singleton.mp hd]
    split <;> decide
  · exact lowerOf_of_mem_lowerOf hd

theorem isBlank_of_mem_lowerAt {before after : List Point} {c d : Point}
    (hc : isBlank c = false) (hd : d ∈ lowerAt before c after) : isBlank d = false := by
  unfold lowerAt at hd
  split at hd
  · rw [List.mem_singleton.mp hd]
    split <;> decide
  · exact isBlank_of_mem_lowerOf hc hd

theorem lowerFrom_append (before : List Point) :
    ∀ x y : List Point, ∃ p, lowerFrom before (x ++ y) = p ++ lowerFrom (x.reverse ++ before) y
  | [], y => ⟨[], rfl⟩
  | c :: x, y => by
      obtain ⟨p, hp⟩ := lowerFrom_append (c :: before) x y
      refine ⟨lowerAt before c (x ++ y) ++ p, ?_⟩
      rw [List.cons_append, lowerFrom, hp, List.reverse_cons, List.append_assoc]
      simp

/-! ## Lowered texts

A text whose characters are their own lower case holds no capital sigma, so lowering
leaves it as it is: lowering twice is lowering once. -/

/-- A text each of whose characters is its own lower case. -/
def Lowered (s : List Point) : Prop := ∀ d ∈ s, lowerOf d = [d]

theorem lowered_lowerFrom : ∀ (before s : List Point), Lowered (lowerFrom before s)
  | _, [] => fun _ h => nomatch h
  | before, c :: after => by
      intro d hd
      rw [lowerFrom, List.mem_append] at hd
      rcases hd with hd | hd
      · exact lowerOf_of_mem_lowerAt hd
      · exact lowered_lowerFrom (c :: before) after d hd

theorem lowered_lower (s : List Point) : Lowered (lower s) := lowered_lowerFrom [] s

theorem lowerAt_of_lowerOf_eq {before after : List Point} {d : Point} (hd : lowerOf d = [d]) :
    lowerAt before d after = [d] := by
  have hne : d ≠ .char 'Σ' := by
    rintro rfl
    exact absurd hd (by decide)
  rw [lowerAt_eq_lowerOf hne, hd]

/-- Lowering a lowered text leaves it as it is. -/
theorem lowerFrom_of_lowered : ∀ {s : List Point}, Lowered s → ∀ before, lowerFrom before s = s
  | [], _, _ => rfl
  | d :: s, h, before => by
      rw [lowerFrom, lowerAt_of_lowerOf_eq (h d List.mem_cons_self),
        lowerFrom_of_lowered (fun e he => h e (List.mem_cons_of_mem d he))]
      rfl

/-- Lowering twice is lowering once. -/
theorem lower_lower (s : List Point) : lower (lower s) = lower s :=
  lowerFrom_of_lowered (lowered_lower s) []

/-- The lower case of a text with no blank at its ends has no blank at its ends. -/
theorem trimmed_lower {s : List Point} (hs : Trimmed s) : Trimmed (lower s) := by
  obtain ⟨hne, hhead, hlast⟩ := hs
  obtain ⟨c, x, rfl⟩ := List.exists_cons_of_ne_nil hne
  obtain ⟨y, d, hyd⟩ := List.eq_nil_or_concat (c :: x) |>.resolve_left hne
  rw [List.concat_eq_append] at hyd
  have hc : isBlank c = false := hhead c rfl
  have hd : isBlank d = false := hlast d (by rw [hyd]; simp)
  obtain ⟨e, l, he⟩ := List.exists_cons_of_ne_nil (lowerAt_ne_nil [] c x)
  obtain ⟨z, f, hzf⟩ := List.eq_nil_or_concat (lowerAt (y.reverse ++ []) d []) |>.resolve_left
    (lowerAt_ne_nil _ d [])
  rw [List.concat_eq_append] at hzf
  obtain ⟨p, hp⟩ := lowerFrom_append [] y [d]
  refine ⟨?_, fun a ha => ?_, fun a ha => ?_⟩
  · rw [lower, lowerFrom, he]
    simp
  · -- the first character comes from lowering the first character
    rw [lower, lowerFrom, he] at ha
    simp only [List.cons_append, List.head?_cons, Option.mem_def, Option.some.injEq] at ha
    subst ha
    exact isBlank_of_mem_lowerAt hc (he ▸ List.mem_cons_self)
  · -- the last character comes from lowering the last character
    rw [lower, hyd, hp, lowerFrom, lowerFrom, List.append_nil, hzf] at ha
    simp only [List.getLast?_append, List.getLast?_singleton, Option.some_or, Option.mem_def,
      Option.some.injEq] at ha
    subst ha
    exact isBlank_of_mem_lowerAt hd (hzf ▸ List.mem_append_right z List.mem_cons_self)

end StubGen.Text
