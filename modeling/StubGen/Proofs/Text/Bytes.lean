/-
# `StubGen.Proofs.Text.Bytes` — bytes read back as a text store as those bytes

Reading bytes back (`decode`) takes each ASCII byte and each well-formed UTF-8 sequence as
its scalar value and each other byte `b` as the surrogate `0xDC00 + b`.  Storing a name
(`encode` with `escapesByte`) undoes each of the three:

* a well-formed sequence is the UTF-8 form of the value it reads as (`sequence_eq_some`):
  the bounds that `sequence` checks on the second byte are exactly those that make the
  value a scalar value of that many bytes, so the value's UTF-8 bytes are the sequence
  (`utf8_two`, `utf8_three`, `utf8_four`);
* a byte from `0x80` that starts no sequence reads as a surrogate from `0xDC80` to
  `0xDCFF`, which a name stores as that byte (`ofNat_escaped`).

So `encode escapesByte i (decode bs) = .ok bs` (`encode_decode`): different bytes read back
as different texts (`decode_injective`), which is why two entries of a folder never show
by the same name.  An ASCII character of a text read back stood there as its own byte
(`mem_decode_ascii`), and ASCII bytes read back as their characters (`decode_of_ascii`).
A text stores piece by piece, the indices of the later piece counting on from the end of
the first (`encode_append`).
-/
import StubGen.Text.Bytes

namespace StubGen.Text

/-! ## Scalar values and their bytes

A well-formed sequence is read as the value its bits spell, and the bounds on its second
byte are what make that the UTF-8 form of the value: they rule out a shorter form, a
surrogate and a value past `0x10FFFF`.  A byte that starts no well-formed sequence is
read as the surrogate that stands for it. -/

theorem toNat_charOfNat {n : Nat} (h : n.isValidChar) : (Char.ofNat n).toNat = n := by
  unfold Char.ofNat
  rw [dif_pos h]
  rfl

theorem toUInt8_of_toNat {m : Nat} {b : UInt8} (h : m = b.toNat) : m.toUInt8 = b := by
  subst h
  simp

theorem within_iff {lo hi : Nat} {b : UInt8} :
    within lo hi b = true ↔ lo ≤ b.toNat ∧ b.toNat ≤ hi := by
  simp [within]

theorem within_second {n x y lo hi : Nat} {c : UInt8} (hlo : 0x80 ≤ lo) (hhi : hi ≤ 0xBF)
    (h : within (if n = x then lo else 0x80) (if n = y then hi else 0xBF) c = true) :
    (0x80 ≤ c.toNat ∧ c.toNat ≤ 0xBF) ∧ (n = x → lo ≤ c.toNat) ∧
      (n = y → c.toNat ≤ hi) := by
  rw [within_iff] at h
  split at h <;> split at h <;> omega

theorem utf8_of_lt {n : Nat} (h : n < 0x80) : utf8 (Char.ofNat n) = [n.toUInt8] := by
  have hn : (Char.ofNat n).toNat = n := toNat_charOfNat (by unfold Nat.isValidChar; omega)
  unfold utf8
  rw [hn, if_pos h]

/-- A lead byte from `0xC2` and a continuation byte are the UTF-8 form of the value they
read as. -/
theorem utf8_two {b c1 : UInt8} (hb : 0xC2 ≤ b.toNat ∧ b.toNat ≤ 0xDF)
    (hc1 : within 0x80 0xBF c1 = true) :
    utf8 (Char.ofNat ((b.toNat - 0xC0) * 64 + low6 c1)) = [b, c1] := by
  rw [within_iff] at hc1
  have hv : (Char.ofNat ((b.toNat - 0xC0) * 64 + low6 c1)).toNat =
      (b.toNat - 0xC0) * 64 + low6 c1 :=
    toNat_charOfNat (by unfold Nat.isValidChar low6; omega)
  unfold utf8
  rw [hv, if_neg (by unfold low6; omega), if_pos (by unfold low6; omega)]
  simp only [List.cons.injEq, and_true]
  refine ⟨?_, ?_⟩ <;> apply toUInt8_of_toNat <;> unfold low6 <;> omega

/-- A three-byte sequence is the UTF-8 form of the value it reads as: the bound on its
second byte after `0xE0` rules out a shorter form, and after `0xED` a surrogate. -/
theorem utf8_three {b c1 c2 : UInt8} (hb : 0xE0 ≤ b.toNat ∧ b.toNat ≤ 0xEF)
    (hc1 : within (if b.toNat = 0xE0 then 0xA0 else 0x80)
      (if b.toNat = 0xED then 0x9F else 0xBF) c1 = true)
    (hc2 : within 0x80 0xBF c2 = true) :
    utf8 (Char.ofNat ((b.toNat - 0xE0) * 4096 + low6 c1 * 64 + low6 c2)) = [b, c1, c2] := by
  obtain ⟨hc1', hlo, hhi⟩ := within_second (by decide) (by decide) hc1
  rw [within_iff] at hc2
  have hv : (Char.ofNat ((b.toNat - 0xE0) * 4096 + low6 c1 * 64 + low6 c2)).toNat =
      (b.toNat - 0xE0) * 4096 + low6 c1 * 64 + low6 c2 :=
    toNat_charOfNat (by unfold Nat.isValidChar low6; omega)
  unfold utf8
  rw [hv, if_neg (by unfold low6; omega), if_neg (by unfold low6; omega),
    if_pos (by unfold low6; omega)]
  simp only [List.cons.injEq, and_true]
  refine ⟨?_, ?_, ?_⟩ <;> apply toUInt8_of_toNat <;> unfold low6 <;> omega

/-- A four-byte sequence is the UTF-8 form of the value it reads as: the bound on its
second byte after `0xF0` rules out a shorter form, and after `0xF4` a value past
`0x10FFFF`. -/
theorem utf8_four {b c1 c2 c3 : UInt8} (hb : 0xF0 ≤ b.toNat ∧ b.toNat ≤ 0xF4)
    (hc1 : within (if b.toNat = 0xF0 then 0x90 else 0x80)
      (if b.toNat = 0xF4 then 0x8F else 0xBF) c1 = true)
    (hc2 : within 0x80 0xBF c2 = true) (hc3 : within 0x80 0xBF c3 = true) :
    utf8 (Char.ofNat ((b.toNat - 0xF0) * 262144 + low6 c1 * 4096 + low6 c2 * 64 + low6 c3)) =
      [b, c1, c2, c3] := by
  obtain ⟨hc1', hlo, hhi⟩ := within_second (by decide) (by decide) hc1
  rw [within_iff] at hc2 hc3
  have hv : (Char.ofNat
      ((b.toNat - 0xF0) * 262144 + low6 c1 * 4096 + low6 c2 * 64 + low6 c3)).toNat =
      (b.toNat - 0xF0) * 262144 + low6 c1 * 4096 + low6 c2 * 64 + low6 c3 :=
    toNat_charOfNat (by unfold Nat.isValidChar low6; omega)
  unfold utf8
  rw [hv, if_neg (by unfold low6; omega), if_neg (by unfold low6; omega),
    if_neg (by unfold low6; omega)]
  simp only [List.cons.injEq, and_true]
  refine ⟨?_, ?_, ?_, ?_⟩ <;> apply toUInt8_of_toNat <;> unfold low6 <;> omega

/-- The bytes a well-formed sequence spans are the UTF-8 form of its value. -/
theorem sequence_eq_some {b : UInt8} {rest : List UInt8} {c : Char}
    {more : { r : List UInt8 // r.length ≤ rest.length }}
    (hs : sequence b rest = some (c, more)) :
    b :: rest = utf8 c ++ more.val := by
  -- the lead byte picks the length; the bytes after it must be there and in range
  dsimp only [sequence] at hs
  by_cases h2 : (decide (0xC2 ≤ b.toNat) && decide (b.toNat ≤ 0xDF)) = true
  · rw [if_pos h2] at hs
    obtain _ | ⟨c1, r⟩ := rest
    · nomatch hs
    dsimp only at hs
    by_cases hc1 : within 0x80 0xBF c1 = true
    · rw [if_pos hc1, Option.some.injEq, Prod.mk.injEq] at hs
      obtain ⟨rfl, rfl⟩ := hs
      rw [utf8_two (by simpa using h2) hc1]
      rfl
    · rw [if_neg hc1] at hs
      nomatch hs
  rw [if_neg h2] at hs
  by_cases h3 : (decide (0xE0 ≤ b.toNat) && decide (b.toNat ≤ 0xEF)) = true
  · rw [if_pos h3] at hs
    obtain _ | ⟨c1, _ | ⟨c2, r⟩⟩ := rest
    · nomatch hs
    · nomatch hs
    dsimp only at hs
    by_cases hc : (within (if b.toNat = 0xE0 then 0xA0 else 0x80)
        (if b.toNat = 0xED then 0x9F else 0xBF) c1 && within 0x80 0xBF c2) = true
    · rw [if_pos hc, Option.some.injEq, Prod.mk.injEq] at hs
      obtain ⟨rfl, rfl⟩ := hs
      rw [Bool.and_eq_true] at hc
      rw [utf8_three (by simpa using h3) hc.1 hc.2]
      rfl
    · rw [if_neg hc] at hs
      nomatch hs
  rw [if_neg h3] at hs
  by_cases h4 : (decide (0xF0 ≤ b.toNat) && decide (b.toNat ≤ 0xF4)) = true
  · rw [if_pos h4] at hs
    obtain _ | ⟨c1, _ | ⟨c2, _ | ⟨c3, r⟩⟩⟩ := rest
    · nomatch hs
    · nomatch hs
    · nomatch hs
    dsimp only at hs
    by_cases hc : (within (if b.toNat = 0xF0 then 0x90 else 0x80)
        (if b.toNat = 0xF4 then 0x8F else 0xBF) c1 && within 0x80 0xBF c2 &&
          within 0x80 0xBF c3) = true
    · rw [if_pos hc, Option.some.injEq, Prod.mk.injEq] at hs
      obtain ⟨rfl, rfl⟩ := hs
      rw [Bool.and_eq_true, Bool.and_eq_true] at hc
      rw [utf8_four (by simpa using h4) hc.1.1 hc.1.2 hc.2]
      rfl
    · rw [if_neg hc] at hs
      nomatch hs
  rw [if_neg h4] at hs
  nomatch hs

/-- A byte from `0x80` read on its own is the surrogate that a name stores as that byte. -/
theorem ofNat_escaped {b : UInt8} (hb : 0x80 ≤ b.toNat) :
    Point.ofNat (0xDC00 + b.toNat) =
      .surrogate ⟨0x400 + b.toNat, by have := b.toNat_lt; omega⟩ := by
  have hlt := b.toNat_lt
  have hs : 0xD800 ≤ 0xDC00 + b.toNat ∧ 0xDC00 + b.toNat < 0xE000 := by omega
  unfold Point.ofNat
  rw [dif_pos hs]
  apply congrArg Point.surrogate
  apply Fin.ext
  show 0xDC00 + b.toNat - 0xD800 = 0x400 + b.toNat
  omega

/-! ## Reading back, then storing

Reading bytes back and storing the text gives the bytes again, sequence by sequence and
surrogate by surrogate; so reading back is injective, and ASCII bytes read back as their
characters. -/

/-- Bytes read back as a text are stored as the same bytes. -/
theorem encode_decode (i : Nat) (bs : List UInt8) :
    encode escapesByte i (decode bs) = .ok bs := by
  fun_induction decode bs generalizing i with
  | case1 => rw [encode]
  | case2 b rest hb ih =>
    rw [encode, ih, utf8_of_lt hb]
    show Except.ok ([b.toNat.toUInt8] ++ rest) = _
    rw [toUInt8_of_toNat rfl]
    rfl
  | case3 b rest hb c more hm hs ih =>
    rw [encode, ih, sequence_eq_some hs]
    rfl
  | case4 b rest hb hs ih =>
    have hlt := b.toNat_lt
    rw [ofNat_escaped (by omega), encode]
    have he : escapesByte (0xD800 + (0x400 + b.toNat)) = true := by
      simp only [escapesByte, Bool.and_eq_true, decide_eq_true_eq]
      omega
    simp only [he, if_true, ih]
    show Except.ok ((0xD800 + (0x400 + b.toNat) - 0xDC00).toUInt8 :: rest) = _
    rw [toUInt8_of_toNat (b := b) (by omega)]

theorem decode_eq_nil_iff {bs : List UInt8} : decode bs = [] ↔ bs = [] := by
  constructor
  · intro h
    have hb := encode_decode 0 bs
    rw [h] at hb
    exact (Except.ok.inj hb).symm
  · rintro rfl
    rw [decode]

/-- ASCII bytes read back as their characters. -/
theorem decode_of_ascii {bs : List UInt8} (h : ∀ b ∈ bs, b.toNat < 0x80) :
    decode bs = bs.map fun b => .char (Char.ofNat b.toNat) := by
  fun_induction decode bs with
  | case1 => rfl
  | case2 b rest hb ih =>
    rw [ih fun x hx => h x (List.mem_cons_of_mem _ hx), List.map_cons]
  | case3 b rest hb => exact absurd (h b List.mem_cons_self) hb
  | case4 b rest hb => exact absurd (h b List.mem_cons_self) hb

/-- An ASCII character of a text read back from bytes stood there as its own byte. -/
theorem mem_decode_ascii {c : Char} (hc : c.toNat < 0x80) {bs : List UInt8} :
    Point.char c ∈ decode bs → c.toNat.toUInt8 ∈ bs := by
  fun_induction decode bs with
  | case1 => simp
  | case2 b rest hb ih =>
    rintro (h | ⟨_, h⟩)
    · -- the byte itself
      have hn : (Char.ofNat b.toNat).toNat = b.toNat :=
        toNat_charOfNat (by unfold Nat.isValidChar; omega)
      rw [hn, toUInt8_of_toNat rfl]
      exact List.mem_cons_self
    · exact List.mem_cons_of_mem _ (ih h)
  | case3 b rest hb c' more hm hs ih =>
    rintro (h | ⟨_, h⟩)
    · -- an ASCII value has a one-byte form, which begins the sequence
      have he := sequence_eq_some hs
      have hu : utf8 c = [c.toNat.toUInt8] := by
        unfold utf8
        rw [if_pos hc]
      rw [hu] at he
      rw [he]
      exact List.mem_cons_self
    · have he := sequence_eq_some hs
      rw [he]
      exact List.mem_append_right _ (ih h)
  | case4 b rest hb hs ih =>
    rw [ofNat_escaped (by omega), List.mem_cons]
    rintro (h | h)
    · nomatch h
    · exact List.mem_cons_of_mem _ (ih h)

/-! ## Storing a text in pieces

Storing works through a text from its start, so a text that stores as `x` stores, with
more after it, as `x` followed by the rest. -/

/-- A text that stores as `x` stores, with more after it, as `x` followed by the rest, whose
indices count on from its end. -/
theorem encode_append {e : Nat → Bool} {i : Nat} {a : List Point} {x : List UInt8}
    (h : encode e i a = .ok x) (b : List Point) :
    encode e i (a ++ b) = (x ++ ·) <$> encode e (i + a.length) b := by
  fun_induction encode e i a generalizing x with
  | case1 i =>
    cases (Except.ok.inj h)
    rw [List.nil_append, List.length_nil, Nat.add_zero]
    cases encode e i b <;> rfl
  | case2 i c rest ih =>
    obtain ⟨y, hy, rfl⟩ : ∃ y, encode e (i + 1) rest = .ok y ∧ x = utf8 c ++ y := by
      cases hr : encode e (i + 1) rest <;> rw [hr] at h <;> cases h
      exact ⟨_, rfl, rfl⟩
    rw [List.cons_append, encode, ih hy, List.length_cons,
      show i + (rest.length + 1) = i + 1 + rest.length by omega]
    cases encode e (i + 1 + rest.length) b <;> simp [Functor.map, Except.map]
  | case3 i o rest unit hs =>
    rename_i ih
    obtain ⟨y, hy, rfl⟩ : ∃ y, encode e (i + 1) rest = .ok y ∧ x = (unit - 0xDC00).toUInt8 :: y := by
      cases hr : encode e (i + 1) rest <;> rw [hr] at h <;> cases h
      exact ⟨_, rfl, rfl⟩
    rw [List.cons_append, encode, if_pos hs, ih hy, List.length_cons,
      show i + (rest.length + 1) = i + 1 + rest.length by omega]
    cases encode e (i + 1 + rest.length) b <;> rfl
  | case4 => cases h

end StubGen.Text
