import Mathlib.Data.List.Basic
import Mathlib.Data.Nat.Notation

/-!
# JSON texts

The part of a JSON library that authenticated records rest on: a writer whose
output is pure ASCII, a strict reader, and the round trip between them for flat
objects of strings and integers.

`escape` writes one character of a string: itself where it is printable ASCII, else
one of the two-character escapes, a `\u` escape, or a pair of those for what lies
outside the first plane. `readChar` reads one character back (`readChar_escape`), so a
string is read back whole and the reader stops right behind its closing quote
(`readString_flatMap`). The reader of values is recursive descent on a bound for the
depth; `loads` gives it the length of the text.

* `loads_writeFields` — what is written for a list of fields reads back as exactly these
  fields.
* `writeFields_injective` — so a text determines the fields it was written for, which
  is what a signature or an authentication code over the text needs.

An escape of half a surrogate pair stands for no character, and `loads` refuses it.
-/

namespace Framework

/-- A value read from a JSON text. A number with a fraction or an exponent keeps its
text. -/
inductive Json
  | null
  | bool (value : Bool)
  | int (value : Int)
  | float (text : List Char)
  | str (value : String)
  | arr (items : List Json)
  | obj (members : List (String × Json))

/-- A value a flat object can have. -/
inductive Scalar
  | str (value : String)
  | int (value : Int)
deriving DecidableEq, Repr

/-- A scalar as the reader gives it back. -/
def Scalar.json : Scalar → Json
  | .str value => .str value
  | .int value => .int value

namespace Json

/-! ### Writing -/

/-- The four hexadecimal digits of a number below `65536`. -/
def hexText (n : ℕ) : List Char :=
  [Nat.digitChar (n / 4096), Nat.digitChar (n / 256 % 16), Nat.digitChar (n / 16 % 16),
    Nat.digitChar (n % 16)]

/-- `\uXXXX`. -/
def unicodeEscape (n : ℕ) : List Char := '\\' :: 'u' :: hexText n

/-- One character of a string, as ASCII. -/
def escape (c : Char) : List Char :=
  if c = '"' then ['\\', '"']
  else if c = '\\' then ['\\', '\\']
  else if c = '\n' then ['\\', 'n']
  else if c = '\r' then ['\\', 'r']
  else if c = '\t' then ['\\', 't']
  else if c.toNat = 8 then ['\\', 'b']
  else if c.toNat = 12 then ['\\', 'f']
  else if 32 ≤ c.toNat ∧ c.toNat ≤ 126 then [c]
  else if c.toNat < 65536 then unicodeEscape c.toNat
  else unicodeEscape (55296 + (c.toNat - 65536) / 1024) ++
    unicodeEscape (56320 + (c.toNat - 65536) % 1024)

/-- The characters of a string, escaped. -/
def writeChars (cs : List Char) : List Char := cs.flatMap escape

/-- A string in its quotes. -/
def writeString (s : String) : List Char := '"' :: (writeChars s.toList ++ ['"'])

/-- An integer in decimal. -/
def writeInt (n : Int) : List Char :=
  if n < 0 then '-' :: Nat.toDigits 10 n.natAbs else Nat.toDigits 10 n.natAbs

def writeScalar : Scalar → List Char
  | .str value => writeString value
  | .int value => writeInt value

/-- One member. -/
def writeField (field : String × Scalar) : List Char :=
  writeString field.1 ++ ':' :: writeScalar field.2

/-- The members of a flat object, up to its closing brace. -/
def writeMembers : List (String × Scalar) → List Char
  | [] => ['\x7d']
  | [field] => writeField field ++ ['\x7d']
  | field :: rest => writeField field ++ ',' :: writeMembers rest

/-- A flat object, without blanks. -/
def writeFields (fields : List (String × Scalar)) : List Char := '\x7b' :: writeMembers fields

/-! ### Reading -/

/-- The value of a hexadecimal digit of either case. -/
def hexValue (c : Char) : Option ℕ :=
  if 48 ≤ c.toNat ∧ c.toNat ≤ 57 then some (c.toNat - 48)
  else if 97 ≤ c.toNat ∧ c.toNat ≤ 102 then some (c.toNat - 87)
  else if 65 ≤ c.toNat ∧ c.toNat ≤ 70 then some (c.toNat - 55)
  else none

/-- Four hexadecimal digits. -/
def hexNumber (a b c d : Char) : Option ℕ := do
  let a ← hexValue a
  let b ← hexValue b
  let c ← hexValue c
  let d ← hexValue d
  return a * 4096 + b * 256 + c * 16 + d

/-- The character of a `\u` escape, whose digits are read, and what is behind it: a high
surrogate takes the low one that has to follow. -/
def readUnicode (u : ℕ) (rest : List Char) : Option (Char × List Char) :=
  if 55296 ≤ u ∧ u < 56320 then
    match rest with
    | '\\' :: 'u' :: a :: b :: c :: d :: rest => do
      let low ← hexNumber a b c d
      if 56320 ≤ low ∧ low < 57344 then
        return (Char.ofNat (65536 + (u - 55296) * 1024 + (low - 56320)), rest)
      else none
    | _ => none
  else if 56320 ≤ u ∧ u < 57344 then none
  else some (Char.ofNat u, rest)

/-- The escape behind a backslash. -/
def readEscape : List Char → Option (Char × List Char)
  | 'u' :: a :: b :: c :: d :: rest => do readUnicode (← hexNumber a b c d) rest
  | '"' :: rest => some ('"', rest)
  | '\\' :: rest => some ('\\', rest)
  | '/' :: rest => some ('/', rest)
  | 'n' :: rest => some ('\n', rest)
  | 'r' :: rest => some ('\r', rest)
  | 't' :: rest => some ('\t', rest)
  | 'b' :: rest => some (Char.ofNat 8, rest)
  | 'f' :: rest => some (Char.ofNat 12, rest)
  | _ => none

/-- One character of a string: control characters must be escaped. -/
def readChar : List Char → Option (Char × List Char)
  | [] => none
  | c :: rest =>
    if c = '\\' then readEscape rest
    else if c.toNat < 32 then none
    else some (c, rest)

/-- The rest of a string behind its opening quote, and what is behind its closing one. -/
def readString : ℕ → List Char → Option (List Char × List Char)
  | 0, _ => none
  | _ + 1, [] => none
  | bound + 1, c :: rest =>
    if c = '"' then some ([], rest)
    else do
      let (char, rest) ← readChar (c :: rest)
      let (chars, rest) ← readString bound rest
      return (char :: chars, rest)

/-- Blanks are skipped. -/
def skip (text : List Char) : List Char :=
  text.dropWhile fun c => c = ' ' ∨ c = '\n' ∨ c = '\r' ∨ c = '\t'

/-- A run of decimal digits and its value. -/
def readDigits : List Char → List Char × List Char
  | [] => ([], [])
  | c :: rest =>
    if c.isDigit then ((c :: (readDigits rest).1), (readDigits rest).2) else ([], c :: rest)

/-- The value of decimal digits. -/
def decimal (digits : List Char) : ℕ := Nat.ofDigitChars 10 digits 0

/-- The fraction or the exponent behind a number, if there is one. -/
def readTail (text : List Char) : List Char × List Char :=
  let fraction : List Char × List Char :=
    match text with
    | '.' :: rest =>
      if (readDigits rest).1 = [] then ([], text)
      else ('.' :: (readDigits rest).1, (readDigits rest).2)
    | _ => ([], text)
  match fraction.2 with
  | e :: sign :: rest =>
    if (e = 'e' ∨ e = 'E') ∧ (sign = '+' ∨ sign = '-') ∧ (readDigits rest).1 ≠ [] then
      (fraction.1 ++ e :: sign :: (readDigits rest).1, (readDigits rest).2)
    else if (e = 'e' ∨ e = 'E') ∧ (readDigits (sign :: rest)).1 ≠ [] then
      (fraction.1 ++ e :: (readDigits (sign :: rest)).1, (readDigits (sign :: rest)).2)
    else fraction
  | _ => fraction

/-- The digits in front of a fraction: none behind a leading zero. -/
def readWhole : List Char → List Char × List Char
  | [] => ([], [])
  | c :: rest => if c = '0' then ([c], rest) else readDigits (c :: rest)

/-- A number without its sign. -/
def readMagnitude (negative : Bool) (text : List Char) : Option (Json × List Char) :=
  let whole := readWhole text
  if whole.1 = [] then none
  else if (readTail whole.2).1 = [] then
    some (.int (if negative then -(decimal whole.1 : Int) else decimal whole.1), whole.2)
  else
    some (.float ((if negative then ['-'] else []) ++ whole.1 ++ (readTail whole.2).1),
      (readTail whole.2).2)

/-- A word or a number. -/
def readAtom : List Char → Option (Json × List Char)
  | 'n' :: 'u' :: 'l' :: 'l' :: rest => some (.null, rest)
  | 't' :: 'r' :: 'u' :: 'e' :: rest => some (.bool true, rest)
  | 'f' :: 'a' :: 'l' :: 's' :: 'e' :: rest => some (.bool false, rest)
  | 'N' :: 'a' :: 'N' :: rest => some (.float "NaN".toList, rest)
  | 'I' :: 'n' :: 'f' :: 'i' :: 'n' :: 'i' :: 't' :: 'y' :: rest =>
    some (.float "Infinity".toList, rest)
  | '-' :: 'I' :: 'n' :: 'f' :: 'i' :: 'n' :: 'i' :: 't' :: 'y' :: rest =>
    some (.float "-Infinity".toList, rest)
  | '-' :: rest => readMagnitude true rest
  | text => readMagnitude false text

mutual

/-- A value, with a bound for how deep the reader goes. -/
def readValue : ℕ → List Char → Option (Json × List Char)
  | 0, _ => none
  | _ + 1, [] => none
  | bound + 1, c :: rest =>
    if c = '"' then do
      let (chars, rest) ← readString (rest.length + 1) rest
      return (.str (String.ofList chars), rest)
    else if c = '\x7b' then
      if (skip rest).head? = some '\x7d' then some (.obj [], (skip rest).tail)
      else do
        let (members, rest) ← readMembers bound (skip rest)
        return (.obj members, rest)
    else if c = '[' then
      if (skip rest).head? = some ']' then some (.arr [], (skip rest).tail)
      else do
        let (items, rest) ← readItems bound (skip rest)
        return (.arr items, rest)
    else readAtom (c :: rest)

/-- The members of an object that has some, and its closing brace. -/
def readMembers : ℕ → List Char → Option (List (String × Json) × List Char)
  | 0, _ => none
  | _ + 1, [] => none
  | bound + 1, c :: rest =>
    if c = '"' then do
      let (key, rest) ← readString (rest.length + 1) rest
      if (skip rest).head? = some ':' then
        let (value, rest) ← readValue bound (skip (skip rest).tail)
        if (skip rest).head? = some ',' then
          let (members, rest) ← readMembers bound (skip (skip rest).tail)
          return ((String.ofList key, value) :: members, rest)
        else if (skip rest).head? = some '\x7d' then
          return ([(String.ofList key, value)], (skip rest).tail)
        else none
      else none
    else none

/-- The items of an array that has some, and its closing bracket. -/
def readItems : ℕ → List Char → Option (List Json × List Char)
  | 0, _ => none
  | bound + 1, text => do
    let (value, rest) ← readValue bound text
    if (skip rest).head? = some ',' then
      let (items, rest) ← readItems bound (skip (skip rest).tail)
      return (value :: items, rest)
    else if (skip rest).head? = some ']' then
      return ([value], (skip rest).tail)
    else none

end

/-- `json.loads`: one value, and nothing behind it. -/
def loads (text : List Char) : Option Json := do
  let (value, rest) ← readValue (2 * text.length) (skip text)
  if skip rest = [] then some value else none

/-- The value of a member: of several with one name, the last. -/
def get? (members : List (String × Json)) (key : String) : Option Json :=
  (members.reverse.find? fun member => member.1 = key).map Prod.snd

/-! ### The round trip of a string -/

theorem hexValue_digitChar {d : ℕ} (h : d < 16) : hexValue (Nat.digitChar d) = some d := by
  have hall : ∀ d < 16, hexValue (Nat.digitChar d) = some d := by decide
  exact hall d h

/-- Four digits of a number read back as the number. -/
theorem hexNumber_hexText {n : ℕ} (h : n < 65536) :
    hexNumber (Nat.digitChar (n / 4096)) (Nat.digitChar (n / 256 % 16))
      (Nat.digitChar (n / 16 % 16)) (Nat.digitChar (n % 16)) = some n := by
  unfold hexNumber
  rw [hexValue_digitChar (by omega), hexValue_digitChar (by omega),
    hexValue_digitChar (by omega), hexValue_digitChar (by omega)]
  change some _ = some n
  congr 1
  omega

theorem readEscape_unicode {n : ℕ} (h : n < 65536) (rest : List Char) :
    readEscape ('u' :: (hexText n ++ rest)) = readUnicode n rest := by
  change (hexNumber _ _ _ _).bind _ = _
  rw [hexNumber_hexText h]
  rfl

/-- A character of the first plane, read from its escape. -/
theorem readUnicode_plane {c : Char} (h : c.toNat < 65536) (rest : List Char) :
    readUnicode c.toNat rest = some (c, rest) := by
  have hvalid : c.toNat < 55296 ∨ 57343 < c.toNat := by
    have := c.valid
    simp only [UInt32.isValidChar, Nat.isValidChar] at this
    have hnat : c.val.toNat = c.toNat := rfl
    omega
  unfold readUnicode
  rw [if_neg (by omega), if_neg (by omega), Char.ofNat_toNat]

/-- A character outside it, read from its pair of escapes. -/
theorem readUnicode_pair {c : Char} (h : 65536 ≤ c.toNat) (rest : List Char) :
    readUnicode (55296 + (c.toNat - 65536) / 1024)
      (unicodeEscape (56320 + (c.toNat - 65536) % 1024) ++ rest) = some (c, rest) := by
  have hvalid : c.toNat < 1114112 := by
    have := c.valid
    simp only [UInt32.isValidChar, Nat.isValidChar] at this
    have hnat : c.val.toNat = c.toNat := rfl
    omega
  have hlow : 56320 + (c.toNat - 65536) % 1024 < 65536 := by omega
  unfold readUnicode
  rw [if_pos (by omega)]
  change (hexNumber _ _ _ _).bind _ = _
  rw [hexNumber_hexText hlow, Option.bind_some, if_pos (by omega)]
  have hsum : 65536 + (55296 + (c.toNat - 65536) / 1024 - 55296) * 1024 +
      (56320 + (c.toNat - 65536) % 1024 - 56320) = c.toNat := by omega
  rw [hsum, Char.ofNat_toNat]
  rfl

/-- What a writer may make of a character: a letter behind a backslash, the character itself, its code,
or the codes of two halves. -/
inductive Escapes (c : Char) : List Char → Prop
  | short {d : Char} (reads : ∀ rest, readEscape (d :: rest) = some (c, rest)) : Escapes c ['\\', d]
  | itself (quote : c ≠ '"') (slash : c ≠ '\\') (printable : 32 ≤ c.toNat) : Escapes c [c]
  | code (plane : c.toNat < 65536) : Escapes c (unicodeEscape c.toNat)
  | pair (beyond : 65536 ≤ c.toNat) : Escapes c (unicodeEscape (55296 + (c.toNat - 65536) / 1024) ++
      unicodeEscape (56320 + (c.toNat - 65536) % 1024))

theorem Escapes.short_of_eq {c d e : Char} (hc : c = e)
    (h : ∀ rest, readEscape (d :: rest) = some (e, rest)) : Escapes c ['\\', d] :=
  .short fun rest => by rw [hc]; exact h rest

theorem eq_ofNat {c : Char} {n : ℕ} (h : c.toNat = n) : c = Char.ofNat n := by
  rw [← h, Char.ofNat_toNat]

theorem escapes_escape (c : Char) : Escapes c (escape c) := by
  unfold escape
  by_cases hquote : c = '"'
  · rw [if_pos hquote]
    exact .short_of_eq hquote fun _ => rfl
  rw [if_neg hquote]
  by_cases hslash : c = '\\'
  · rw [if_pos hslash]
    exact .short_of_eq hslash fun _ => rfl
  rw [if_neg hslash]
  by_cases hline : c = '\n'
  · rw [if_pos hline]
    exact .short_of_eq hline fun _ => rfl
  rw [if_neg hline]
  by_cases hreturn : c = '\r'
  · rw [if_pos hreturn]
    exact .short_of_eq hreturn fun _ => rfl
  rw [if_neg hreturn]
  by_cases htab : c = '\t'
  · rw [if_pos htab]
    exact .short_of_eq htab fun _ => rfl
  rw [if_neg htab]
  by_cases hbackspace : c.toNat = 8
  · rw [if_pos hbackspace]
    exact .short_of_eq (eq_ofNat hbackspace) fun _ => rfl
  rw [if_neg hbackspace]
  by_cases hfeed : c.toNat = 12
  · rw [if_pos hfeed]
    exact .short_of_eq (eq_ofNat hfeed) fun _ => rfl
  rw [if_neg hfeed]
  by_cases hprintable : 32 ≤ c.toNat ∧ c.toNat ≤ 126
  · rw [if_pos hprintable]
    exact .itself hquote hslash hprintable.1
  rw [if_neg hprintable]
  by_cases hplane : c.toNat < 65536
  · rw [if_pos hplane]
    exact .code hplane
  · rw [if_neg hplane]
    exact .pair (Nat.le_of_not_lt hplane)

/-- **A character reads back** from what a writer makes of it. -/
theorem Escapes.readChar {c : Char} {cs : List Char} (h : Escapes c cs) (rest : List Char) :
    readChar (cs ++ rest) = some (c, rest) := by
  cases h with
  | short reads => exact reads rest
  | itself quote slash printable =>
    change (if c = '\\' then _ else if c.toNat < 32 then _ else _) = _
    rw [if_neg slash, if_neg (Nat.not_lt.mpr printable)]
    rfl
  | code plane =>
    change readEscape ('u' :: (hexText c.toNat ++ rest)) = _
    rw [readEscape_unicode plane, readUnicode_plane plane]
  | pair beyond =>
    have hvalid : c.toNat < 1114112 := by
      have := c.valid
      simp only [UInt32.isValidChar, Nat.isValidChar] at this
      have hnat : c.val.toNat = c.toNat := rfl
      omega
    rw [List.append_assoc]
    change readEscape ('u' :: (hexText _ ++ (unicodeEscape _ ++ rest))) = _
    rw [readEscape_unicode (by omega), readUnicode_pair (by omega)]

/-- What a writer makes of a character does not begin with the quote that would end the string. -/
theorem Escapes.head {c : Char} {cs : List Char} (h : Escapes c cs) :
    ∃ d tail, cs = d :: tail ∧ d ≠ '"' := by
  cases h with
  | short reads => exact ⟨_, _, rfl, by decide⟩
  | itself quote slash printable => exact ⟨_, _, rfl, quote⟩
  | code plane => exact ⟨_, _, rfl, by decide⟩
  | pair beyond => exact ⟨_, _, rfl, by decide⟩

/-- **A character reads back.** -/
theorem readChar_escape (c : Char) (rest : List Char) :
    readChar (escape c ++ rest) = some (c, rest) :=
  (escapes_escape c).readChar rest

/-- No escape begins with the quote that would end the string. -/
theorem head_escape (c : Char) : ∃ d tail, escape c = d :: tail ∧ d ≠ '"' :=
  (escapes_escape c).head

/-- **A string reads back** from any writer whose characters do, with what is behind its closing
quote. -/
theorem readString_flatMap {write : Char → List Char}
    (hread : ∀ c rest, readChar (write c ++ rest) = some (c, rest))
    (hhead : ∀ c, ∃ d tail, write c = d :: tail ∧ d ≠ '"') (cs rest : List Char) {bound : ℕ}
    (h : cs.length < bound) :
    readString bound (cs.flatMap write ++ '"' :: rest) = some (cs, rest) := by
  induction cs generalizing bound with
  | nil =>
    obtain ⟨bound, rfl⟩ : ∃ b, bound = b + 1 := ⟨bound - 1, by simp at h; omega⟩
    rfl
  | cons c cs ih =>
    rw [List.length_cons] at h
    obtain ⟨bound, rfl⟩ : ∃ b, bound = b + 1 := ⟨bound - 1, by omega⟩
    obtain ⟨d, tail, hwrite, hquote⟩ := hhead c
    have hchar := hread c (cs.flatMap write ++ '"' :: rest)
    rw [List.flatMap_cons, List.append_assoc]
    rw [hwrite, List.cons_append] at hchar ⊢
    rw [readString, if_neg hquote, hchar]
    change (readString bound _).bind _ = _
    rw [ih (by omega)]
    rfl

/-- No character is written as nothing. -/
theorem length_flatMap {write : Char → List Char}
    (hhead : ∀ c, ∃ d tail, write c = d :: tail ∧ d ≠ '"') (cs : List Char) :
    cs.length ≤ (cs.flatMap write).length := by
  induction cs with
  | nil => simp
  | cons c cs ih =>
    obtain ⟨d, tail, hwrite, -⟩ := hhead c
    rw [List.flatMap_cons, hwrite, List.length_append, List.length_cons, List.length_cons]
    omega

/-! ### The round trip of a scalar -/

/-- The bound `readValue` and `readMembers` give a string is enough for it. -/
theorem readString_quoted (s : String) (rest : List Char) :
    readString ((writeChars s.toList ++ '"' :: rest).length + 1)
      (writeChars s.toList ++ '"' :: rest) = some (s.toList, rest) := by
  refine readString_flatMap readChar_escape head_escape s.toList rest ?_
  have hlength : s.toList.length ≤ (writeChars s.toList).length :=
    length_flatMap head_escape s.toList
  rw [List.length_append]
  omega

theorem writeString_append (s : String) (rest : List Char) :
    writeString s ++ rest = '"' :: (writeChars s.toList ++ '"' :: rest) := by
  simp [writeString]

/-- What follows a value: a comma, a closing brace or bracket, or nothing. -/
inductive Closes : List Char → Prop
  | text : Closes []
  | comma (rest : List Char) : Closes (',' :: rest)
  | brace (rest : List Char) : Closes ('\x7d' :: rest)
  | bracket (rest : List Char) : Closes (']' :: rest)

theorem readDigits_append {ds rest : List Char} (hds : ∀ c ∈ ds, c.isDigit = true)
    (h : Closes rest) : readDigits (ds ++ rest) = (ds, rest) := by
  induction ds with
  | nil => cases h <;> rfl
  | cons c ds ih =>
    rw [List.cons_append, readDigits, if_pos (hds c (by simp)),
      ih fun d hd => hds d (List.mem_cons_of_mem c hd)]

/-- No fraction and no exponent begins with what follows a value. -/
theorem readTail_closes {rest : List Char} (h : Closes rest) : readTail rest = ([], rest) := by
  cases h with
  | text => rfl
  | comma tail => cases tail <;> rfl
  | brace tail => cases tail <;> rfl
  | bracket tail => cases tail <;> rfl

/-- Only the number zero begins with the digit zero. -/
theorem head_toDigits {n : ℕ} (hn : n ≠ 0) :
    ∃ d tail, Nat.toDigits 10 n = d :: tail ∧ d ≠ '0' ∧ d.isDigit = true := by
  induction n using Nat.strongRecOn with
  | ind n ih =>
    by_cases h : n < 10
    · refine ⟨_, [], Nat.toDigits_of_lt_base h, ?_, ?_⟩
      · rw [Ne, Nat.digitChar_eq_zero]
        exact hn
      · rw [Nat.isDigit_digitChar]
        exact decide_eq_true h
    · obtain ⟨d, tail, hdigits, hzero, hdigit⟩ := ih (n / 10) (by omega) (by omega)
      refine ⟨d, tail ++ [(n % 10).digitChar], ?_, hzero, hdigit⟩
      rw [Nat.toDigits_of_base_le (by decide) (by omega), hdigits]
      rfl

theorem isDigit_toDigits {n : ℕ} {c : Char} (h : c ∈ Nat.toDigits 10 n) : c.isDigit = true :=
  Nat.isDigit_of_mem_toDigits (by decide) (by decide) h

/-- A number in decimal reads back. -/
theorem readMagnitude_toDigits (negative : Bool) (n : ℕ) {rest : List Char} (h : Closes rest) :
    readMagnitude negative (Nat.toDigits 10 n ++ rest) =
      some (.int (if negative then -(n : Int) else n), rest) := by
  by_cases hn : n = 0
  · subst hn
    have hwhole : readWhole (Nat.toDigits 10 0 ++ rest) = (['0'], rest) := rfl
    simp only [readMagnitude, hwhole, readTail_closes h]
    cases negative <;> rfl
  · obtain ⟨d, tail, hdigits, hzero, -⟩ := head_toDigits hn
    have hread : readDigits (Nat.toDigits 10 n ++ rest) = (Nat.toDigits 10 n, rest) :=
      readDigits_append (fun c hc => isDigit_toDigits hc) h
    have hdecimal : decimal (Nat.toDigits 10 n) = n := Nat.ofDigitChars_ten_toDigits
    have hwhole : readWhole (Nat.toDigits 10 n ++ rest) = (Nat.toDigits 10 n, rest) := by
      rw [hdigits, List.cons_append] at hread ⊢
      rw [readWhole, if_neg hzero, hread]
    simp only [readMagnitude, hwhole, readTail_closes h, hdecimal]
    rw [if_neg Nat.toDigits_ne_nil, if_pos trivial]

/-- What begins with a digit is no word. -/
theorem readAtom_digit {c : Char} {text : List Char} (h : c.isDigit = true) :
    readAtom (c :: text) = readMagnitude false (c :: text) := by
  unfold readAtom
  split
  all_goals first
    | rfl
    | (rename_i heq
       rw [List.cons.injEq] at heq
       rw [heq.1] at h
       exact absurd h (by decide))

theorem readAtom_minus {c : Char} {text : List Char} (h : c.isDigit = true) :
    readAtom ('-' :: c :: text) = readMagnitude true (c :: text) := by
  have hne : c ≠ 'I' := by
    rintro rfl
    exact absurd h (by decide)
  unfold readAtom
  split
  all_goals simp_all

/-- **An integer reads back.** -/
theorem readValue_writeInt (n : Int) {rest : List Char} (h : Closes rest) (bound : ℕ) :
    readValue (bound + 1) (writeInt n ++ rest) = some (.int n, rest) := by
  have hdigit : ∀ c : Char, c.isDigit = true ∨ c = '-' →
      c ≠ '"' ∧ c ≠ '\x7b' ∧ c ≠ '[' := by
    rintro c (hc | rfl)
    · refine ⟨?_, ?_, ?_⟩ <;> (rintro rfl; exact absurd hc (by decide))
    · decide
  obtain ⟨c, tail, hdigits, hc⟩ : ∃ c tail, Nat.toDigits 10 n.natAbs = c :: tail ∧
      c.isDigit = true := by
    cases hdigits : Nat.toDigits 10 n.natAbs with
    | nil => exact absurd hdigits Nat.toDigits_ne_nil
    | cons c tail => exact ⟨c, tail, rfl, isDigit_toDigits (hdigits ▸ List.mem_cons_self)⟩
  have hread := fun negative => readMagnitude_toDigits negative n.natAbs h
  unfold writeInt
  by_cases hn : n < 0
  · obtain ⟨h1, h2, h3⟩ := hdigit '-' (.inr rfl)
    rw [if_pos hn, List.cons_append, readValue, if_neg h1, if_neg h2, if_neg h3]
    specialize hread true
    rw [hdigits, List.cons_append] at hread ⊢
    rw [readAtom_minus hc, hread, if_pos rfl]
    congr 3
    omega
  · obtain ⟨h1, h2, h3⟩ := hdigit c (.inl hc)
    specialize hread false
    rw [if_neg hn]
    rw [hdigits, List.cons_append] at hread ⊢
    rw [readValue, if_neg h1, if_neg h2, if_neg h3, readAtom_digit hc, hread]
    congr 3
    simp only [Bool.false_eq_true, if_false]
    omega

theorem readValue_writeString (s : String) (rest : List Char) (bound : ℕ) :
    readValue (bound + 1) (writeString s ++ rest) = some (.str s, rest) := by
  rw [writeString_append, readValue, if_pos rfl, readString_quoted]
  change some (Json.str (String.ofList s.toList), rest) = _
  rw [String.ofList_toList]

/-- **A scalar reads back.** -/
theorem readValue_writeScalar (v : Scalar) {rest : List Char} (h : Closes rest) (bound : ℕ) :
    readValue (bound + 1) (writeScalar v ++ rest) = some (v.json, rest) := by
  cases v with
  | str value => exact readValue_writeString value rest bound
  | int value => exact readValue_writeInt value h bound

/-! ### The round trip of a flat object -/

theorem skip_writeString (s : String) (rest : List Char) :
    skip (writeString s ++ rest) = writeString s ++ rest := by
  rw [writeString_append]
  rfl

theorem skip_digit {c : Char} (h : c.isDigit = true) (rest : List Char) :
    skip (c :: rest) = c :: rest := by
  have hblank : ¬ (c = ' ' ∨ c = '\n' ∨ c = '\r' ∨ c = '\t') := by
    rintro (rfl | rfl | rfl | rfl) <;> exact absurd h (by decide)
  unfold skip
  rw [List.dropWhile_cons_of_neg]
  simpa using hblank

theorem skip_writeScalar (v : Scalar) (rest : List Char) :
    skip (writeScalar v ++ rest) = writeScalar v ++ rest := by
  cases v with
  | str value => exact skip_writeString value rest
  | int value =>
    change skip (writeInt value ++ rest) = writeInt value ++ rest
    unfold writeInt
    by_cases hn : value < 0
    · rw [if_pos hn]
      rfl
    · rw [if_neg hn]
      cases hdigits : Nat.toDigits 10 value.natAbs with
      | nil => exact absurd hdigits Nat.toDigits_ne_nil
      | cons c tail =>
        rw [List.cons_append]
        exact skip_digit (isDigit_toDigits (hdigits ▸ List.mem_cons_self)) _

theorem writeMembers_cons (field next : String × Scalar) (fields : List (String × Scalar)) :
    writeMembers (field :: next :: fields) =
      writeField field ++ ',' :: writeMembers (next :: fields) := rfl

theorem skip_writeMembers (fields : List (String × Scalar)) (rest : List Char) :
    skip (writeMembers fields ++ rest) = writeMembers fields ++ rest := by
  match fields with
  | [] => rfl
  | [field] =>
    rw [writeMembers, writeField, List.append_assoc, List.append_assoc, skip_writeString]
  | field :: next :: fields =>
    rw [writeMembers_cons, writeField, List.append_assoc, List.append_assoc, skip_writeString]

/-- The members of a flat object. -/
def members (fields : List (String × Scalar)) : List (String × Json) :=
  fields.map fun field => (field.1, field.2.json)

/-- One field read back, and the reader in front of what follows it. -/
theorem readMembers_writeField (field : String × Scalar) {rest : List Char} (h : Closes rest)
    (bound : ℕ) :
    readMembers (bound + 2) (writeField field ++ rest) =
      if (skip rest).head? = some ',' then
        (readMembers (bound + 1) (skip (skip rest).tail)).bind fun found =>
          some ((field.1, field.2.json) :: found.1, found.2)
      else if (skip rest).head? = some '\x7d' then
        some ([(field.1, field.2.json)], (skip rest).tail)
      else none := by
  have hwrite : writeField field ++ rest =
      '"' :: (writeChars field.1.toList ++ '"' :: ':' :: (writeScalar field.2 ++ rest)) := by
    rw [writeField, List.append_assoc, writeString_append]
    rfl
  have hcolon : skip (':' :: (writeScalar field.2 ++ rest)) = ':' :: (writeScalar field.2 ++ rest) :=
    rfl
  rw [hwrite, readMembers, if_pos rfl, readString_quoted]
  simp only [bind, Option.bind_some, hcolon, List.head?_cons, List.tail_cons, if_true,
    skip_writeScalar, readValue_writeScalar field.2 h, String.ofList_toList]
  rfl

/-- **The members of a flat object read back.** -/
theorem readMembers_writeMembers (fields : List (String × Scalar)) (hne : fields ≠ [])
    (rest : List Char) {bound : ℕ} (h : fields.length < bound) :
    readMembers bound (writeMembers fields ++ rest) = some (members fields, rest) := by
  induction fields generalizing bound with
  | nil => exact absurd rfl hne
  | cons field fields ih =>
    rw [List.length_cons] at h
    obtain ⟨bound, rfl⟩ : ∃ b, bound = b + 2 := ⟨bound - 2, by omega⟩
    cases fields with
    | nil =>
      rw [writeMembers, List.append_assoc, List.singleton_append,
        readMembers_writeField field (.brace rest)]
      rfl
    | cons next fields =>
      have hcomma : skip (',' :: (writeMembers (next :: fields) ++ rest)) =
          ',' :: (writeMembers (next :: fields) ++ rest) := rfl
      rw [writeMembers_cons, List.append_assoc, List.cons_append,
        readMembers_writeField field (.comma _), hcomma, List.head?_cons,
        if_pos rfl, List.tail_cons, skip_writeMembers, ih (by simp) (by omega)]
      rfl

theorem length_writeMembers (fields : List (String × Scalar)) :
    fields.length < (writeMembers fields).length := by
  induction fields with
  | nil => simp [writeMembers]
  | cons field fields ih =>
    cases fields with
    | nil =>
      simp only [writeMembers, List.length_append, List.length_cons, List.length_nil, writeField]
      omega
    | cons next fields =>
      rw [writeMembers_cons]
      simp only [List.length_append, List.length_cons] at ih ⊢
      omega

/-- **A flat object reads back as its fields.** -/
theorem loads_writeFields (fields : List (String × Scalar)) :
    loads (writeFields fields) = some (.obj (members fields)) := by
  have hskip : skip (writeFields fields) = writeFields fields := rfl
  have hlength := length_writeMembers fields
  have hmembers := skip_writeMembers fields []
  rw [List.append_nil] at hmembers
  unfold loads
  rw [hskip]
  unfold writeFields
  rw [List.length_cons, Nat.mul_add, readValue, if_neg (by decide), if_pos rfl, hmembers]
  cases fields with
  | nil => rfl
  | cons field fields =>
    have hhead : (writeMembers (field :: fields)).head? = some '"' := by
      cases fields <;> simp [writeMembers, writeField, writeString]
    have hread : readMembers (2 * (writeMembers (field :: fields)).length + 1)
        (writeMembers (field :: fields) ++ []) = some (members (field :: fields), []) :=
      readMembers_writeMembers (field :: fields) (by simp) [] (by omega)
    rw [List.append_nil] at hread
    rw [hhead, if_neg (by decide), hread]
    rfl

theorem json_injective : Function.Injective Scalar.json := by
  intro v w h
  cases v with
  | str value =>
    cases w with
    | str value' => rw [Json.str.inj h]
    | int value' => exact Json.noConfusion h
  | int value =>
    cases w with
    | str value' => exact Json.noConfusion h
    | int value' => rw [Json.int.inj h]

/-- **A text determines the fields** it was written for. -/
theorem writeFields_injective : Function.Injective writeFields := by
  intro fields fields' h
  have hloads := loads_writeFields fields
  rw [h, loads_writeFields, Option.some.injEq, Json.obj.injEq] at hloads
  unfold members at hloads
  refine (List.map_injective_iff.mpr ?_ hloads).symm
  intro field field' hfield
  rw [Prod.mk.injEq] at hfield
  exact Prod.ext hfield.1 (json_injective hfield.2)

end Json

end Framework
