/-
Quoted texts: the form in which a text is shown inside a value's display.

The text stands between single quotes, or between double quotes when it holds a single
quote and no double quote.  Inside, the chosen quote and the backslash are escaped by a
backslash; tab, line feed and carriage return are written `\t`, `\n`, `\r`; other
control characters and every character that is not printable are written by their code
point in hexadecimal, as `\xhh` below 256, `\uhhhh` below 65536, and `\Uhhhhhhhh` above;
a lone surrogate is written by its unit.
The ASCII form writes every character beyond ASCII in the same way.
-/
import StubGen.Text.Printable

namespace StubGen.Text

/-- The lower-case hexadecimal digits of `n`, padded with zeros to `width` digits. -/
def hexDigits (width n : Nat) : List Char :=
  let ds := Nat.toDigits 16 n
  List.replicate (width - ds.length) '0' ++ ds

/-- The escape for a code point, by the size of its number. -/
def codeEscape (c : Point) : List Char :=
  let n := c.val
  if n < 0x100 then '\\' :: 'x' :: hexDigits 2 n
  else if n < 0x10000 then '\\' :: 'u' :: hexDigits 4 n
  else '\\' :: 'U' :: hexDigits 8 n

/-- How one code point is written between the quotes `q`; `asciiOnly` escapes every
character beyond ASCII.  A lone surrogate is not printable, so it is always escaped. -/
def quoteChar (asciiOnly : Bool) (q : Char) : Point → List Char
  | .surrogate o => codeEscape (.surrogate o)
  | .char c =>
    if c = q || c = '\\' then ['\\', c]
    else if c = '\t' then ['\\', 't']
    else if c = '\n' then ['\\', 'n']
    else if c = '\r' then ['\\', 'r']
    else if c.toNat < 0x20 || c.toNat == 0x7f then codeEscape c
    else if c.toNat < 0x7f then [c]
    else if asciiOnly || !isPrintable c then codeEscape c
    else [c]

/-- The quote a text is shown between: the double quote when the text holds a single quote
and no double quote, and the single quote otherwise. -/
def quoteFor (s : List Point) : Char :=
  if s.contains (.char '\x27') && !s.contains (.char '"') then '"' else '\x27'

/-- The quoted form of a text; it holds no lone surrogate. -/
def quote (s : List Point) : List Char :=
  let q := quoteFor s
  q :: s.flatMap (quoteChar false q) ++ [q]

/-- The quoted form of a text in ASCII only. -/
def quoteAscii (s : List Point) : List Char :=
  let q := quoteFor s
  q :: s.flatMap (quoteChar true q) ++ [q]

end StubGen.Text
