/-
Texts as bytes: how the file system stores names, and files their texts.

A text is stored in UTF-8: a scalar value as its one to four bytes.  A lone surrogate
has no UTF-8 form.  In a name of the file system, a surrogate from `0xDC80` to `0xDCFF`
stands for the single byte `unit - 0xDC00`, and any other surrogate cannot be stored; the
text of a file admits no surrogate at all.  Storing reports the first surrogate it
cannot store, with the run of surrogates around it.

Reading bytes back takes each well-formed UTF-8 sequence as its scalar value and each
other byte `b` as the surrogate `0xDC00 + b`.  So a stored name reads back as itself,
except where surrogates stood for bytes that together form a well-formed sequence: those
read back as its scalar value.
-/
import StubGen.Text.Point

namespace StubGen.Text

/-- The UTF-8 bytes of a scalar value. -/
def utf8 (c : Char) : List UInt8 :=
  let n := c.toNat
  if n < 0x80 then [n.toUInt8]
  else if n < 0x800 then [(0xC0 + n / 64).toUInt8, (0x80 + n % 64).toUInt8]
  else if n < 0x10000 then
    [(0xE0 + n / 4096).toUInt8, (0x80 + n / 64 % 64).toUInt8, (0x80 + n % 64).toUInt8]
  else
    [(0xF0 + n / 262144).toUInt8, (0x80 + n / 4096 % 64).toUInt8, (0x80 + n / 64 % 64).toUInt8,
      (0x80 + n % 64).toUInt8]

/-- Whether a surrogate unit stands for a byte in a name of the file system. -/
def escapesByte (unit : Nat) : Bool := 0xDC80 ≤ unit && unit ≤ 0xDCFF

/-- A lone surrogate that cannot be stored: its unit, its index in the text, and the
index of the last surrogate of the run of surrogates that holds it. -/
structure Unstorable where
  unit : Nat
  first : Nat
  last : Nat

/-- Stores a text whose first code point has index `i`, where a surrogate stands for a
byte when `escapes` holds of its unit; fails at the first surrogate that does not. -/
def encode (escapes : Nat → Bool) (i : Nat) : List Point → Except Unstorable (List UInt8)
  | [] => .ok []
  | .char c :: rest => (utf8 c ++ ·) <$> encode escapes (i + 1) rest
  | .surrogate o :: rest =>
    let unit := 0xD800 + o.val
    if escapes unit then ((unit - 0xDC00).toUInt8 :: ·) <$> encode escapes (i + 1) rest
    else .error ⟨unit, i, i + (rest.takeWhile Point.isSurrogate).length⟩

/-- The bytes of a name of the file system. -/
def nameBytes (s : List Point) : Except Unstorable (List UInt8) := encode escapesByte 0 s

/-- The bytes of the text of a file. -/
def fileBytes (s : List Point) : Except Unstorable (List UInt8) := encode (fun _ => false) 0 s

/-- Whether a byte lies in `lo … hi`. -/
def within (lo hi : Nat) (b : UInt8) : Bool := lo ≤ b.toNat && b.toNat ≤ hi

/-- The six low bits of a continuation byte. -/
def low6 (b : UInt8) : Nat := b.toNat % 64

/-- The scalar value of a well-formed UTF-8 sequence of two or more bytes that starts with
the byte `b` and goes on in `rest`, with the bytes after it. -/
def sequence (b : UInt8) (rest : List UInt8) :
    Option (Char × { r : List UInt8 // r.length ≤ rest.length }) :=
  let n := b.toNat
  if 0xC2 ≤ n && n ≤ 0xDF then
    match rest with
    | c1 :: r =>
      if within 0x80 0xBF c1 then
        some (Char.ofNat ((n - 0xC0) * 64 + low6 c1), ⟨r, by simp only [List.length_cons]; omega⟩)
      else none
    | [] => none
  else if 0xE0 ≤ n && n ≤ 0xEF then
    match rest with
    | c1 :: c2 :: r =>
      let lo := if n = 0xE0 then 0xA0 else 0x80
      let hi := if n = 0xED then 0x9F else 0xBF
      if within lo hi c1 && within 0x80 0xBF c2 then
        some (Char.ofNat ((n - 0xE0) * 4096 + low6 c1 * 64 + low6 c2),
          ⟨r, by simp only [List.length_cons]; omega⟩)
      else none
    | _ => none
  else if 0xF0 ≤ n && n ≤ 0xF4 then
    match rest with
    | c1 :: c2 :: c3 :: r =>
      let lo := if n = 0xF0 then 0x90 else 0x80
      let hi := if n = 0xF4 then 0x8F else 0xBF
      if within lo hi c1 && within 0x80 0xBF c2 && within 0x80 0xBF c3 then
        some (Char.ofNat ((n - 0xF0) * 262144 + low6 c1 * 4096 + low6 c2 * 64 + low6 c3),
          ⟨r, by simp only [List.length_cons]; omega⟩)
      else none
    | _ => none
  else none

/-- Reads bytes back as a text: an ASCII byte and each well-formed UTF-8 sequence as its
scalar value, and each other byte `b` as the surrogate `0xDC00 + b`. -/
def decode : List UInt8 → List Point
  | [] => []
  | b :: rest =>
    if b.toNat < 0x80 then .char (Char.ofNat b.toNat) :: decode rest
    else
      match sequence b rest with
      | some (c, ⟨more, _⟩) => .char c :: decode more
      | none => Point.ofNat (0xDC00 + b.toNat) :: decode rest
termination_by bs => bs.length

end StubGen.Text
