/-
Patterns: texts with conversion directives that take texts as arguments, in order.

A directive starts with a percent sign and ends with a conversion character.  Between
them stand, in this order, flags among `-`, `+`, space, `#` and `0`, a width, a point
with a precision, and one length letter `h`, `l` or `L`; only the flag `-` (align left)
and the numbers matter for texts.  Two percent signs in a row stand for one.

Filling a pattern is two steps.  `read` cuts the pattern into characters and directives
and stops at the first directive that cannot be read; `fill` then walks the pieces,
giving each directive the next argument.  Keeping the stop apart keeps the order in which
faults show: an argument missing for an earlier directive is reported before a malformed
later one, and a directive takes its argument before its conversion character is checked.
-/
import StubGen.Text.Quoted

namespace StubGen.Pattern

open Text (Point)

/-- Why a pattern cannot be filled with a list of texts. -/
inductive Fault where
  /-- A directive names a key in brackets, which needs a dictionary of arguments. -/
  | needsMapping
  /-- The pattern ends inside a directive. -/
  | incomplete
  /-- A directive finds no argument left. -/
  | missingArgument
  /-- Arguments remain when the pattern is done. -/
  | unusedArguments
  /-- A width or precision is to be taken from an argument, which is a text. -/
  | starNeedsNumber
  /-- A width above the largest size of memory. -/
  | widthTooBig
  /-- A width that no memory holds: padding to it cannot be done. -/
  | noMemory
  /-- A precision above the largest 32-bit integer. -/
  | precisionTooBig
  /-- A decimal conversion (`d`, `i`, `u`) of a text. -/
  | numberRequired (conversion : Char)
  /-- An octal or hexadecimal conversion (`o`, `x`, `X`) of a text. -/
  | integerRequired (conversion : Char)
  /-- A floating-point conversion of a text. -/
  | realRequired
  /-- A character conversion of a text that is not one character long. -/
  | charRequired
  /-- A conversion character that no conversion has, at its index in the pattern. -/
  | unsupported (conversion : Point) (index : Nat)
  deriving DecidableEq

/-- A directive that converts one argument. -/
structure Spec where
  leftAlign : Bool
  width : Nat
  precision : Option Nat
  conversion : Point
  /-- The index of the conversion character in the pattern. -/
  index : Nat

/-- A piece of a read pattern: a character that stands for itself, or a directive. -/
inductive Piece where
  | char (c : Point)
  | spec (s : Spec)

/-- Why reading stopped before the end of the pattern: a directive takes its width or
precision from an argument (`star`), or cannot be read. -/
inductive Stop where
  | star
  | fault (f : Fault)

/-- A pattern as read: its pieces up to where reading stopped, and why it stopped. -/
structure Read where
  pieces : List Piece
  stop : Option Stop

/-- Where the reader stands. -/
inductive State where
  /-- Outside a directive. -/
  | text
  /-- Just after the percent sign. -/
  | start
  /-- Among the flags. -/
  | flags (left : Bool)
  /-- Among the digits of the width. -/
  | width (left : Bool) (w : Nat)
  /-- Just after the point. -/
  | point (left : Bool) (w : Nat)
  /-- Among the digits of the precision. -/
  | precision (left : Bool) (w p : Nat)
  /-- Just after the length letter. -/
  | sized (left : Bool) (w : Nat) (p : Option Nat)

/-- What one character does to the reader. -/
inductive Step where
  /-- Go on in a state. -/
  | go (s : State)
  /-- Add a piece and go back to text. -/
  | put (p : Piece)
  /-- Stop reading. -/
  | halt (stop : Stop)

/-- The largest width, `2 ^ 63 - 1`. -/
def widthLimit : Nat := 9223372036854775807

/-- The widest padding that memory holds, in characters, `2 ^ 32`. -/
def memoryLimit : Nat := 4294967296

/-- The largest precision, `2 ^ 31 - 1`. -/
def precisionLimit : Nat := 2147483647

/-- The value of a decimal digit. -/
def digitValue (c : Point) : Nat := c.val - '0'.toNat

/-- Whether `c` is a length letter. -/
def isSizeLetter (c : Point) : Bool := c = .char 'h' || c = .char 'l' || c = .char 'L'

/-- The step on `c` at `index` after the percent sign or among the flags. -/
def afterFlags (left : Bool) (c : Point) (index : Nat) : Step :=
  if c = '-' then .go (.flags true)
  else if c = '+' || c = ' ' || c = '#' || c = '0' then .go (.flags left)
  else if c = '*' then .halt .star
  else if c.isDigit then .go (.width left (digitValue c))
  else if c = '.' then .go (.point left 0)
  else if isSizeLetter c then .go (.sized left 0 none)
  else .put (.spec ⟨left, 0, none, c, index⟩)

/-- The step of the reader in state `s` on the character `c` at `index`. -/
def step (s : State) (c : Point) (index : Nat) : Step :=
  match s with
  | .text => if c = '%' then .go .start else .put (.char c)
  | .start =>
    if c = '%' then .put (.char '%')
    else if c = '(' then .halt (.fault .needsMapping)
    else afterFlags false c index
  | .flags left => afterFlags left c index
  | .width left w =>
    if c.isDigit then
      if w * 10 + digitValue c > widthLimit then .halt (.fault .widthTooBig)
      else .go (.width left (w * 10 + digitValue c))
    else if c = '.' then .go (.point left w)
    else if isSizeLetter c then .go (.sized left w none)
    else .put (.spec ⟨left, w, none, c, index⟩)
  | .point left w =>
    if c = '*' then .halt .star
    else if c.isDigit then .go (.precision left w (digitValue c))
    else if isSizeLetter c then .go (.sized left w (some 0))
    else .put (.spec ⟨left, w, some 0, c, index⟩)
  | .precision left w p =>
    if c.isDigit then
      if p * 10 + digitValue c > precisionLimit then .halt (.fault .precisionTooBig)
      else .go (.precision left w (p * 10 + digitValue c))
    else if isSizeLetter c then .go (.sized left w (some p))
    else .put (.spec ⟨left, w, some p, c, index⟩)
  | .sized left w p => .put (.spec ⟨left, w, p, c, index⟩)

/-- Reads the rest `cs` of a pattern, whose first character has index `index`, in state `s`.
Only text may end; a pattern that ends inside a directive is incomplete. -/
def readFrom (s : State) (index : Nat) : List Point → Read
  | [] =>
    match s with
    | .text => ⟨[], none⟩
    | _ => ⟨[], some (.fault .incomplete)⟩
  | c :: cs =>
    match step s c index with
    | .go s' => readFrom s' (index + 1) cs
    | .put p =>
      let r := readFrom .text (index + 1) cs
      ⟨p :: r.pieces, r.stop⟩
    | .halt stop => ⟨[], some stop⟩

/-- Reads a pattern. -/
def read (pattern : List Point) : Read := readFrom .text 0 pattern

/-- A converted argument padded with blanks to the directive's width; a width beyond
`memoryLimit` cannot be padded to. -/
def Spec.pad (s : Spec) (t : List Point) : Except Fault (List Point) :=
  if memoryLimit < s.width then .error .noMemory
  else
    let fill := List.replicate (s.width - t.length) (Point.char ' ')
    .ok (if s.leftAlign then t ++ fill else fill ++ t)

/-- A converted argument cut to the directive's precision. -/
def Spec.cut (s : Spec) (t : List Point) : List Point :=
  match s.precision with
  | some p => t.take p
  | none => t

/-- Converts one argument: `s` gives the text, `r` its quoted form, `a` its quoted form in
ASCII, `c` a text of one character; the numeric conversions refuse texts. -/
def Spec.apply (s : Spec) (arg : List Point) : Except Fault (List Point) :=
  match s.conversion with
  | .char 's' => s.pad (s.cut arg)
  | .char 'r' => s.pad (s.cut ((Text.quote arg).map .char))
  | .char 'a' => s.pad (s.cut ((Text.quoteAscii arg).map .char))
  | .char 'c' => if arg.length = 1 then s.pad arg else .error .charRequired
  | .char 'd' => .error (.numberRequired 'd')
  | .char 'i' => .error (.numberRequired 'i')
  | .char 'u' => .error (.numberRequired 'u')
  | .char 'o' => .error (.integerRequired 'o')
  | .char 'x' => .error (.integerRequired 'x')
  | .char 'X' => .error (.integerRequired 'X')
  | .char 'e' | .char 'E' | .char 'f' | .char 'F' | .char 'g' | .char 'G' => .error .realRequired
  | c => .error (.unsupported c s.index)

/-- Fills read pieces with arguments, in order; then reports why reading stopped, if it
did, and otherwise any argument left over. -/
def fill : List Piece → Option Stop → List (List Point) → Except Fault (List Point)
  | [], none, [] => .ok []
  | [], none, _ :: _ => .error .unusedArguments
  | [], some .star, [] => .error .missingArgument
  | [], some .star, _ :: _ => .error .starNeedsNumber
  | [], some (.fault f), _ => .error f
  | .char c :: pieces, stop, args => (c :: ·) <$> fill pieces stop args
  | .spec _ :: _, _, [] => .error .missingArgument
  | .spec s :: pieces, stop, arg :: args => do
    let t ← s.apply arg
    let rest ← fill pieces stop args
    pure (t ++ rest)

/-- Fills a pattern with texts. -/
def format (pattern : List Point) (args : List (List Point)) : Except Fault (List Point) :=
  let r := read pattern
  fill r.pieces r.stop args

end StubGen.Pattern
