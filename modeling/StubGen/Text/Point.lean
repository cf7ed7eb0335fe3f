/-
Code points: the characters of the texts that requests carry.

A text is a list of code points.  A code point is a Unicode scalar value, which is a
`Char`, or a UTF-16 surrogate code unit that stands alone, from `0xD800` to `0xDFFF`,
which no `Char` can be: a request may write one as an escape that no other escape pairs
with.  A lone surrogate has no case and is neither blank nor printable; where the number
of a code point shows (in an escape, in a message, in the order of texts), a surrogate
shows its unit.  Texts are ordered by the numbers of their code points, the first
difference deciding and a text coming before its extensions.
-/

namespace StubGen.Text

/-- A code point of a text: a scalar value, or a surrogate unit `0xD800 + offset` that
stands alone. -/
inductive Point where
  | char (c : Char)
  | surrogate (offset : Fin 2048)
  deriving DecidableEq, Inhabited

instance : Coe Char Point := ⟨Point.char⟩

namespace Point

/-- The number of a code point. -/
def val : Point → Nat
  | .char c => c.toNat
  | .surrogate i => 0xD800 + i.val

/-- The code point with the number `n`, for `n` below `0x110000`: a surrogate unit in
`0xD800 … 0xDFFF`, a scalar value elsewhere. -/
def ofNat (n : Nat) : Point :=
  if h : 0xD800 ≤ n ∧ n < 0xE000 then .surrogate ⟨n - 0xD800, by omega⟩ else .char (Char.ofNat n)

/-- The scalar value of a code point, if it is one. -/
def toChar? : Point → Option Char
  | .char c => some c
  | .surrogate _ => none

/-- Whether a code point is a lone surrogate. -/
def isSurrogate : Point → Bool
  | .char _ => false
  | .surrogate _ => true

/-- Whether a code point is an ASCII decimal digit. -/
def isDigit : Point → Bool
  | .char c => c.isDigit
  | .surrogate _ => false

theorem ofNat_val (p : Point) : ofNat p.val = p := by
  cases p with
  | char c =>
    have hv := c.valid
    have hn : ¬ (0xD800 ≤ c.toNat ∧ c.toNat < 0xE000) := by
      intro h
      rcases hv with hv | hv
      · have : c.val.toNat < 0xD800 := hv
        have hc : c.toNat = c.val.toNat := rfl
        omega
      · have : 0xDFFF < c.val.toNat := hv.1
        have hc : c.toNat = c.val.toNat := rfl
        omega
    simp only [ofNat, val, hn, dite_false, Char.ofNat_toNat]
  | surrogate i =>
    have hi := i.isLt
    have h : 0xD800 ≤ 0xD800 + i.val ∧ 0xD800 + i.val < 0xE000 := by omega
    unfold ofNat val
    rw [dif_pos h]
    apply congrArg Point.surrogate
    apply Fin.ext
    show 0xD800 + i.val - 0xD800 = i.val
    omega

end Point

/-- The code points of a string. -/
def lit (s : String) : List Point := s.toList.map .char

/-- The string of a text, if the text holds scalar values only. -/
def toString? (s : List Point) : Option String := String.ofList <$> s.mapM Point.toChar?

/-- Orders texts by the numbers of their code points, the first difference deciding and a
text before its extensions. -/
def pointsLe : List Point → List Point → Bool
  | [], _ => true
  | _ :: _, [] => false
  | a :: as, b :: bs => if a.val = b.val then pointsLe as bs else a.val < b.val

end StubGen.Text
