/-
Faults: why a request has no answer, one constructor per cause.

Each fault has a class, the name under which it is reported, and a message.  The
wording of both lives here and nowhere else.
-/
import StubGen.Node.Basic
import StubGen.Pattern
import StubGen.CallDepth

namespace StubGen

/-- Why a request has no answer. -/
inductive Fault where
  /-- A value of the given kind was used as a text, dictionary or list that it is not:
  the operation `attr` does not apply to it. -/
  | noAttribute (kind : Kind) (attr : String)
  /-- A generator was asked to render a type before its tables were installed. -/
  | unready
  /-- A dictionary lacks a required key. -/
  | missingKey (key : String)
  /-- A value of the given kind was walked member by member. -/
  | notIterable (kind : Kind)
  /-- A value of the given kind was asked for its size. -/
  | noLength (kind : Kind)
  /-- A value of the given kind was asked for a key. -/
  | notSubscriptable (kind : Kind)
  /-- A text was asked for a key. -/
  | textIndex
  /-- A list was asked for a key. -/
  | listIndex
  /-- A pattern could not be filled. -/
  | pattern (f : Pattern.Fault)
  /-- A folder scan found nothing to build. -/
  | noItems
  /-- A file was to be written into a folder that does not exist. -/
  | missingFolder (path : List Text.Point)
  /-- A folder was to be made below a file. -/
  | notFolder (path : List Text.Point)
  /-- A file name is longer than a folder entry may be. -/
  | nameTooLong (path : List Text.Point)
  /-- A file name holds the character zero. -/
  | nullByte
  /-- A description file was found, but reading it needs a loader that is not given. -/
  | loaderRequired
  /-- A call could not open: the stack of open calls was full. -/
  | tooDeep (o : CallDepth.Overflow)
  /-- A folder was to be made where an entry of that name exists. -/
  | fileExists (path : List Text.Point)
  /-- A file was to be written where a folder of that name exists. -/
  | isFolder (path : List Text.Point)
  /-- A whole number of a request has more digits than a number may be read with. -/
  | tooManyDigits (count : Nat)
  /-- A file was to be filled with a value of the given kind, which is no text. -/
  | writeNeedsText (kind : Kind)
  /-- A text to be stored (a path, or the text of a file) holds a lone surrogate that the
  encoding cannot store: the surrogate `unit` at index `first`, in a run of surrogates that
  ends at index `last`. -/
  | unencodable (unit first last : Nat)

namespace Pattern.Fault

/-- Whether a pattern fault is one of the value rather than of the arguments. -/
def isValueFault : Pattern.Fault → Bool
  | .incomplete | .widthTooBig | .precisionTooBig | .unsupported _ _ => true
  | _ => false

/-- The text of a character in a message: itself if printable ASCII (or the unit
separator), a question mark otherwise. -/
def shownChar (c : Text.Point) : String :=
  match c with
  | .char ch => if 31 ≤ ch.toNat && ch.toNat ≤ 126 then String.singleton ch else "?"
  | .surrogate _ => "?"

/-- The message of a pattern fault. -/
def message : Pattern.Fault → String
  | .needsMapping => "format requires a mapping"
  | .incomplete => "incomplete format"
  | .missingArgument => "not enough arguments for format string"
  | .unusedArguments => "not all arguments converted during string formatting"
  | .starNeedsNumber => "* wants int"
  | .widthTooBig => "width too big"
  | .noMemory => ""
  | .precisionTooBig => "precision too big"
  | .numberRequired c => "%" ++ String.singleton c ++ " format: a real number is required, not str"
  | .integerRequired c => "%" ++ String.singleton c ++ " format: an integer is required, not str"
  | .realRequired => "must be real number, not str"
  | .charRequired => "%c requires int or char"
  | .unsupported c i =>
    "unsupported format character " ++ String.singleton (Char.ofNat 39) ++ shownChar c ++
      String.singleton (Char.ofNat 39) ++ " (0x" ++ String.ofList (Nat.toDigits 16 c.val) ++
      ") at index " ++ toString i

end Pattern.Fault

namespace Fault

/-- A text between single quotes, as messages quote names. -/
def quoted (s : String) : String :=
  String.singleton (Char.ofNat 39) ++ s ++ String.singleton (Char.ofNat 39)

/-- The longest whole number, in digits, that a request may hold. -/
def digitLimit : Nat := 4300

/-- A path in a message: the text of its repr. -/
def shownPath (path : List Text.Point) : String := String.ofList (Text.quote path)

/-- The class under which a fault is reported. -/
def className : Fault → String
  | .noAttribute _ _ | .unready => "AttributeError"
  | .missingKey _ => "KeyError"
  | .notIterable _ | .noLength _ | .notSubscriptable _ | .textIndex | .listIndex
  | .loaderRequired => "TypeError"
  | .pattern .noMemory => "MemoryError"
  | .pattern f => if f.isValueFault then "ValueError" else "TypeError"
  | .noItems => "Exception"
  | .missingFolder _ => "FileNotFoundError"
  | .notFolder _ => "NotADirectoryError"
  | .nameTooLong _ => "OSError"
  | .nullByte => "ValueError"
  | .tooDeep _ => "RecursionError"
  | .fileExists _ => "FileExistsError"
  | .isFolder _ => "IsADirectoryError"
  | .tooManyDigits _ => "ValueError"
  | .writeNeedsText _ => "TypeError"
  | .unencodable _ _ _ => "UnicodeEncodeError"

/-- The message of a fault. -/
def message : Fault → String
  | .noAttribute k attr => quoted k.name ++ " object has no attribute " ++ quoted attr
  | .unready => quoted "BuildCpp" ++ " object has no attribute " ++ quoted "mod"
  | .missingKey key => String.ofList (Text.quote (Text.lit key))
  | .notIterable k => quoted k.name ++ " object is not iterable"
  | .noLength k => "object of type " ++ quoted k.name ++ " has no len()"
  | .notSubscriptable k => quoted k.name ++ " object is not subscriptable"
  | .textIndex => "string indices must be integers, not " ++ quoted "str"
  | .listIndex => "list indices must be integers or slices, not str"
  | .pattern f => f.message
  | .noItems => "No Items to build. Check Paths"
  | .missingFolder path =>
    "[Errno 2] No such file or directory: " ++ shownPath path
  | .notFolder path => "[Errno 20] Not a directory: " ++ shownPath path
  | .nameTooLong path => "[Errno 36] File name too long: " ++ shownPath path
  | .nullByte => "embedded null byte"
  | .loaderRequired => "load() missing 1 required positional argument: " ++ quoted "Loader"
  | .tooDeep o => "maximum recursion depth exceeded" ++ o.detail
  | .fileExists path => "[Errno 17] File exists: " ++ shownPath path
  | .isFolder path => "[Errno 21] Is a directory: " ++ shownPath path
  | .tooManyDigits count =>
    "Exceeds the limit (" ++ toString digitLimit ++ " digits) for integer string conversion: " ++
      "value has " ++ toString count ++ " digits; use sys.set_int_max_str_digits() to increase the limit"
  | .writeNeedsText k =>
    "write() argument must be str, not " ++ (if k = .null then "None" else k.name)
  | .unencodable unit first last =>
    "'utf-8' codec can't encode " ++
      (if first = last then
        "character " ++ quoted ("\\u" ++ String.ofList (Text.hexDigits 4 unit)) ++ " in position " ++
          toString first
      else "characters in position " ++ toString first ++ "-" ++ toString last) ++
      ": surrogates not allowed"

end Fault

namespace CallDepth

/-- Opens a definition when `depth` calls are open: it fails when the stack is full. -/
def enter (depth : Nat) : Except Fault Unit :=
  if fits depth then .ok () else .error (.tooDeep .frame)

/-- Calls a built-in operation when `depth` calls are open: it fails when the stack is full. -/
def call (depth : Nat) : Except Fault Unit :=
  if fits depth then .ok () else .error (.tooDeep .builtin)

end CallDepth

end StubGen
