import Mathlib.Data.List.Basic

/-!
# Strings and exceptions as the source uses them

`str.strip`, `str.split` and the regular expression `\s` agree on what white
space is: the characters for which `str.isspace` holds (`isSpace`). Everything
else here is built on lists of characters, so that it evaluates in the kernel.

`PyError` lists the exceptions the modelled code raises. A constructor is an
exception class, its argument the message. `PyError.isConflict` and
`PyError.isPermissionDenied` say which classes an `except ConflictError` and an
`except PermissionDenied` catch, following the class hierarchy.
-/

namespace Zhixu

/-- `str.isspace` on one character. -/
def isSpace (c : Char) : Bool :=
  let n := c.toNat
  (9 ≤ n && n ≤ 13) || (28 ≤ n && n ≤ 32) || n == 0x85 || n == 0xa0 || n == 0x1680 ||
    (0x2000 ≤ n && n ≤ 0x200a) || n == 0x2028 || n == 0x2029 || n == 0x202f ||
    n == 0x205f || n == 0x3000

/-- `not value.strip()`: the string is empty or all white space. -/
def isBlank (s : String) : Bool := s.toList.all isSpace

/-- `str.lstrip` on characters. -/
def lstripChars (cs : List Char) : List Char := cs.dropWhile isSpace

/-- `str.strip` on characters. -/
def stripChars (cs : List Char) : List Char :=
  (lstripChars (lstripChars cs).reverse).reverse

/-- `str.strip`. -/
def strip (s : String) : String := String.ofList (stripChars s.toList)

/-- `s.startswith(p)`. -/
def startsWith (s p : String) : Bool := p.toList.isPrefixOf s.toList

/-- `s[:n]`. -/
def takeChars (n : ℕ) (s : String) : String := String.ofList (s.toList.take n)

/-- `re.sub(r"\s+", " ", value)`: every run of white space becomes one blank.
`gap` says whether the run being read has already been written. -/
def collapseChars : Bool → List Char → List Char
  | _, [] => []
  | gap, c :: cs =>
    if isSpace c then
      if gap then collapseChars true cs else ' ' :: collapseChars true cs
    else c :: collapseChars false cs

/-- `re.sub(r"\s+", " ", value).strip()`. -/
def compact (s : String) : String :=
  String.ofList (stripChars (collapseChars false s.toList))

/-- The characters with a meaning in Markdown. -/
def markdownSpecials : List Char :=
  ['\\', '`', '*', '_', '\x7b', '\x7d', '[', ']', '(', ')', '#', '+', '-', '.', '!', '>', '|']

/-- `escape_markdown`: a backslash before every special character. -/
def escapeMarkdown (s : String) : String :=
  String.ofList (s.toList.flatMap fun c => if c ∈ markdownSpecials then ['\\', c] else [c])

/-- `_escape_markdown_text`. -/
def escapeMarkdownText (s : String) : String := escapeMarkdown (compact s)

/-- The zeros of the decimal digits of Unicode; nine more digits follow each. -/
def decimalZeros : List ℕ := [
  0x30, 0x660, 0x6f0, 0x7c0, 0x966, 0x9e6, 0xa66, 0xae6, 0xb66, 0xbe6, 0xc66, 0xce6, 0xd66,
  0xde6, 0xe50, 0xed0, 0xf20, 0x1040, 0x1090, 0x17e0, 0x1810, 0x1946, 0x19d0, 0x1a80, 0x1a90,
  0x1b50, 0x1bb0, 0x1c40, 0x1c50, 0xa620, 0xa8d0, 0xa900, 0xa9d0, 0xa9f0, 0xaa50, 0xabf0,
  0xff10, 0x104a0, 0x10d30, 0x11066, 0x110f0, 0x11136, 0x111d0, 0x112f0, 0x11450, 0x114d0,
  0x11650, 0x116c0, 0x11730, 0x118e0, 0x11950, 0x11c50, 0x11d50, 0x11da0, 0x11f50, 0x16a60,
  0x16ac0, 0x16b50, 0x1d7ce, 0x1d7d8, 0x1d7e2, 0x1d7ec, 0x1d7f6, 0x1e140, 0x1e2f0, 0x1e4f0,
  0x1e950, 0x1fbf0]

/-- The value of a decimal digit, which `\d` matches. -/
def decimalValue (c : Char) : Option ℕ :=
  (decimalZeros.find? fun zero => zero ≤ c.toNat && c.toNat ≤ zero + 9).map
    fun zero => c.toNat - zero

/-- `"\n".join(lines)`. -/
def joinLines (lines : List String) : String := String.intercalate "\n" lines

/-- The exceptions of the modelled code. -/
inductive PyError
  | validation (message : String)
  | notFound (message : String)
  | conflict (message : String)
  | concurrencyConflict (message : String)
  | permissionDenied (message : String)
  | confirmationRequired (message : String)
  | classificationNotSupported (message : String)
  | invalidTransition (message : String)
  /-- `sqlite3.IntegrityError` of a violated constraint -/
  | integrity
  /-- `OverflowError`: a date leaves the years 1 to 9999 -/
  | overflow
  /-- `ValueError` of a standard library call -/
  | value
  /-- `ZoneInfoNotFoundError` -/
  | zoneNotFound
  /-- `AssertionError` -/
  | assertion
  /-- any other exception of code outside the model -/
  | external
deriving DecidableEq, Repr

namespace PyError

/-- What `except ConflictError` catches. -/
def isConflict : PyError → Bool
  | conflict _ | concurrencyConflict _ | invalidTransition _ => true
  | _ => false

/-- What `except PermissionDenied` catches. -/
def isPermissionDenied : PyError → Bool
  | permissionDenied _ | confirmationRequired _ => true
  | _ => false

end PyError

end Zhixu
