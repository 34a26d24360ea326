import Zhixu.Framework.Json

/-!
# Nested JSON texts

The other half of a JSON library: `dumps` writes any value, keeping every character that JSON does
not force it to escape, and `loads` reads it back.

The round trip is one induction over the value. A value is read back wherever its text stands, with
what follows it untouched, by a reader whose bound is at least the length of the text
(`readValue_dumps`); the texts of items and of members are lists of these, so `readItems_dumps` and
`readMembers_dumps` are inductions over the list that take the induction hypothesis for its elements.

A number with a fraction is written as the text it was read from, which nothing here constrains, so
the round trip is about values in which such a text reads back (`Legible`). Values without one are
(`Exact.legible`), and so are those whose numbers are decimals as they are usually written
(`Decimal.reads`).
-/

namespace Framework

namespace Json

/-! ### Writing -/

/-- One character of a string: escaped where JSON demands it, else itself. -/
def escapeControl (c : Char) : List Char :=
  if c = '"' then ['\\', '"']
  else if c = '\\' then ['\\', '\\']
  else if c = '\n' then ['\\', 'n']
  else if c = '\r' then ['\\', 'r']
  else if c = '\t' then ['\\', 't']
  else if c.toNat = 8 then ['\\', 'b']
  else if c.toNat = 12 then ['\\', 'f']
  else if c.toNat < 32 then unicodeEscape c.toNat
  else [c]

/-- A string in its quotes. -/
def quote (s : String) : List Char := '"' :: (s.toList.flatMap escapeControl ++ ['"'])

mutual

/-- `json.dumps(value, ensure_ascii=False, separators=(",", ":"))`. -/
def dumps : Json → List Char
  | .null => ['n', 'u', 'l', 'l']
  | .bool true => ['t', 'r', 'u', 'e']
  | .bool false => ['f', 'a', 'l', 's', 'e']
  | .int value => writeInt value
  | .float text => text
  | .str value => quote value
  | .arr items => '[' :: dumpsItems items
  | .obj members => '\x7b' :: dumpsMembers members

/-- The items of an array, up to its closing bracket. -/
def dumpsItems : List Json → List Char
  | [] => [']']
  | [value] => dumps value ++ [']']
  | value :: rest => dumps value ++ ',' :: dumpsItems rest

/-- The members of an object, up to its closing brace. -/
def dumpsMembers : List (String × Json) → List Char
  | [] => ['\x7d']
  | [(key, value)] => quote key ++ ':' :: (dumps value ++ ['\x7d'])
  | (key, value) :: rest => quote key ++ ':' :: (dumps value ++ ',' :: dumpsMembers rest)

end

/-- A value without a fraction in it. -/
inductive Exact : Json → Prop
  | null : Exact .null
  | bool (value : Bool) : Exact (.bool value)
  | int (value : Int) : Exact (.int value)
  | str (value : String) : Exact (.str value)
  | arr {items : List Json} (items_exact : ∀ item ∈ items, Exact item) : Exact (.arr items)
  | obj {members : List (String × Json)} (members_exact : ∀ member ∈ members, Exact member.2) :
      Exact (.obj members)

/-! ### Strings -/

theorem escapes_escapeControl (c : Char) : Escapes c (escapeControl c) := by
  unfold escapeControl
  by_cases hquote : c = '"'
  · rw [if_pos hquote]
    exact .short_of_eq hquote fun _ => rfl
  rw [if_neg hquote]
  by_cases hslash : c = '\\'
  · rw [if_pos hslash]
    exact .short_of_eq hslash fun _ => rfl
  rw [if_neg hslash]
  by_cases hline : c = '\n'
  · rw [if_pos hline]
    exact .short_of_eq hline fun _ => rfl
  rw [if_neg hline]
  by_cases hreturn : c = '\r'
  · rw [if_pos hreturn]
    exact .short_of_eq hreturn fun _ => rfl
  rw [if_neg hreturn]
  by_cases htab : c = '\t'
  · rw [if_pos htab]
    exact .short_of_eq htab fun _ => rfl
  rw [if_neg htab]
  by_cases hbackspace : c.toNat = 8
  · rw [if_pos hbackspace]
    exact .short_of_eq (eq_ofNat hbackspace) fun _ => rfl
  rw [if_neg hbackspace]
  by_cases hfeed : c.toNat = 12
  · rw [if_pos hfeed]
    exact .short_of_eq (eq_ofNat hfeed) fun _ => rfl
  rw [if_neg hfeed]
  by_cases hcontrol : c.toNat < 32
  · rw [if_pos hcontrol]
    exact .code (by omega)
  · rw [if_neg hcontrol]
    exact .itself hquote hslash (by omega)

theorem readChar_escapeControl (c : Char) (rest : List Char) :
    readChar (escapeControl c ++ rest) = some (c, rest) :=
  (escapes_escapeControl c).readChar rest

theorem head_escapeControl (c : Char) : ∃ d tail, escapeControl c = d :: tail ∧ d ≠ '"' :=
  (escapes_escapeControl c).head

theorem quote_append (s : String) (rest : List Char) :
    quote s ++ rest = '"' :: (s.toList.flatMap escapeControl ++ '"' :: rest) := by
  simp [quote]

/-- The bound `readValue` and `readMembers` give a string is enough for it. -/
theorem readString_quote (s : String) (rest : List Char) :
    readString ((s.toList.flatMap escapeControl ++ '"' :: rest).length + 1)
      (s.toList.flatMap escapeControl ++ '"' :: rest) = some (s.toList, rest) := by
  refine readString_flatMap readChar_escapeControl head_escapeControl s.toList rest ?_
  have hlength := length_flatMap head_escapeControl s.toList
  rw [List.length_append]
  omega

theorem readValue_quote (s : String) (rest : List Char) (bound : ℕ) :
    readValue (bound + 1) (quote s ++ rest) = some (.str s, rest) := by
  rw [quote_append, readValue, if_pos rfl, readString_quote]
  change some (Json.str (String.ofList s.toList), rest) = _
  rw [String.ofList_toList]

/-! ### Where a text begins -/

/-- A text begins with something that is neither a blank nor the end of a list. -/
def Opens (text : List Char) : Prop :=
  ∃ c tail, text = c :: tail ∧ c ≠ ']' ∧ c ≠ '\x7d' ∧
    ¬ (c = ' ' ∨ c = '\n' ∨ c = '\r' ∨ c = '\t')

theorem opens_cons {c : Char} (tail : List Char) (h : c ≠ ']' ∧ c ≠ '\x7d' ∧
    ¬ (c = ' ' ∨ c = '\n' ∨ c = '\r' ∨ c = '\t')) : Opens (c :: tail) :=
  ⟨c, tail, rfl, h⟩

theorem Opens.append {text : List Char} (h : Opens text) (rest : List Char) :
    Opens (text ++ rest) := by
  obtain ⟨c, tail, rfl, hc⟩ := h
  exact ⟨c, tail ++ rest, rfl, hc⟩

/-- Nothing is skipped in front of it. -/
theorem Opens.skip {text : List Char} (h : Opens text) : skip text = text := by
  obtain ⟨c, tail, rfl, -, -, hblank⟩ := h
  unfold Json.skip
  rw [List.dropWhile_cons_of_neg]
  simpa using hblank

theorem opens_writeInt (n : Int) : Opens (writeInt n) := by
  unfold writeInt
  by_cases hn : n < 0
  · rw [if_pos hn]
    exact opens_cons _ (by decide)
  · rw [if_neg hn]
    cases hdigits : Nat.toDigits 10 n.natAbs with
    | nil => exact absurd hdigits Nat.toDigits_ne_nil
    | cons c tail =>
      have hc : c.isDigit = true := isDigit_toDigits (hdigits ▸ List.mem_cons_self)
      refine opens_cons tail ⟨?_, ?_, ?_⟩
      · rintro rfl
        exact absurd hc (by decide)
      · rintro rfl
        exact absurd hc (by decide)
      · rintro (rfl | rfl | rfl | rfl) <;> exact absurd hc (by decide)

/-- The value is read back wherever its text stands. -/
def ReadsBack (v : Json) : Prop :=
  ∀ (rest : List Char) (bound : ℕ), Closes rest → (dumps v).length ≤ bound →
    readValue bound (dumps v ++ rest) = some (v, rest)

/-- A value in which the text of every number with a fraction reads back. -/
inductive Legible : Json → Prop
  | null : Legible .null
  | bool (value : Bool) : Legible (.bool value)
  | int (value : Int) : Legible (.int value)
  | float {text : List Char} (opens : Opens text) (reads : ReadsBack (.float text)) :
      Legible (.float text)
  | str (value : String) : Legible (.str value)
  | arr {items : List Json} (items_legible : ∀ item ∈ items, Legible item) : Legible (.arr items)
  | obj {members : List (String × Json)} (members_legible : ∀ member ∈ members, Legible member.2) :
      Legible (.obj members)

theorem Exact.legible {v : Json} (h : Exact v) : Legible v := by
  induction h with
  | null => exact .null
  | bool value => exact .bool value
  | int value => exact .int value
  | str value => exact .str value
  | arr _ ih => exact .arr ih
  | obj _ ih => exact .obj ih

theorem opens_dumps {v : Json} (h : Legible v) : Opens (dumps v) := by
  cases h with
  | null => exact opens_cons _ (by decide)
  | bool value => cases value <;> exact opens_cons _ (by decide)
  | int value => exact opens_writeInt value
  | float opens _ => exact opens
  | str value => exact opens_cons _ (by decide)
  | arr _ => exact opens_cons _ (by decide)
  | obj _ => exact opens_cons _ (by decide)

theorem opens_dumpsItems {items : List Json} (h : ∀ item ∈ items, Legible item) (hne : items ≠ []) :
    Opens (dumpsItems items) := by
  match items with
  | [] => exact absurd rfl hne
  | [value] => exact (opens_dumps (h value (by simp))).append _
  | value :: next :: rest => exact (opens_dumps (h value (by simp))).append _

theorem opens_dumpsMembers {members : List (String × Json)} (hne : members ≠ []) :
    Opens (dumpsMembers members) := by
  match members with
  | [] => exact absurd rfl hne
  | [(key, value)] => exact opens_cons _ (by decide)
  | (key, value) :: next :: rest => exact opens_cons _ (by decide)

/-! ### The round trip -/

theorem readItems_dumps {items : List Json} (hexact : ∀ item ∈ items, Legible item)
    (hread : ∀ item ∈ items, ReadsBack item) (hne : items ≠ []) (rest : List Char) (bound : ℕ)
    (h : (dumpsItems items).length ≤ bound) :
    readItems bound (dumpsItems items ++ rest) = some (items, rest) := by
  induction items generalizing bound with
  | nil => exact absurd rfl hne
  | cons value items ih =>
    cases items with
    | nil =>
      rw [dumpsItems, List.length_append] at h
      obtain ⟨bound, rfl⟩ : ∃ b, bound = b + 1 := ⟨bound - 1, by simp at h; omega⟩
      rw [dumpsItems, List.append_assoc, List.singleton_append, readItems,
        hread value (by simp) _ bound (.bracket rest) (by simp at h; omega)]
      rfl
    | cons next items =>
      have hitems : dumpsItems (value :: next :: items) =
          dumps value ++ ',' :: dumpsItems (next :: items) := by
        rw [dumpsItems]
        simp
      rw [hitems, List.length_append, List.length_cons] at h
      obtain ⟨bound, rfl⟩ : ∃ b, bound = b + 1 := ⟨bound - 1, by omega⟩
      have hopens : Opens (dumpsItems (next :: items) ++ rest) := (opens_dumpsItems
        (fun item hitem => hexact item (List.mem_cons_of_mem value hitem)) (by simp)).append rest
      have hcomma : skip (',' :: (dumpsItems (next :: items) ++ rest)) =
          ',' :: (dumpsItems (next :: items) ++ rest) := rfl
      have hrest := ih (fun item hitem => hexact item (List.mem_cons_of_mem value hitem))
        (fun item hitem => hread item (List.mem_cons_of_mem value hitem)) (by simp)
        bound (by omega)
      rw [hitems, List.append_assoc, List.cons_append, readItems,
        hread value (by simp) _ bound (.comma _) (by omega)]
      simp only [bind, Option.bind_some, hcomma, List.head?_cons, if_true, List.tail_cons,
        hopens.skip, hrest]
      rfl

theorem readMembers_dumps {members : List (String × Json)}
    (hexact : ∀ member ∈ members, Legible member.2)
    (hread : ∀ member ∈ members, ReadsBack member.2) (hne : members ≠ []) (rest : List Char)
    (bound : ℕ) (h : (dumpsMembers members).length ≤ bound) :
    readMembers bound (dumpsMembers members ++ rest) = some (members, rest) := by
  induction members generalizing bound with
  | nil => exact absurd rfl hne
  | cons member members ih =>
    obtain ⟨key, value⟩ := member
    have hvalue : ReadsBack value := hread (key, value) (by simp)
    have hopens : ∀ tail, skip (dumps value ++ tail) = dumps value ++ tail := fun tail =>
      ((opens_dumps (hexact (key, value) (by simp))).append tail).skip
    have hcolon : ∀ tail, skip (':' :: tail) = ':' :: tail := fun _ => rfl
    cases members with
    | nil =>
      rw [dumpsMembers] at h
      simp only [quote, List.length_append, List.length_cons, List.length_nil] at h
      obtain ⟨bound, rfl⟩ : ∃ b, bound = b + 1 := ⟨bound - 1, by omega⟩
      have hback := hvalue _ bound (.brace rest) (by omega)
      have hbrace : skip ('\x7d' :: rest) = '\x7d' :: rest := rfl
      have htext : dumpsMembers [(key, value)] ++ rest =
          '"' :: (key.toList.flatMap escapeControl ++
            '"' :: ':' :: (dumps value ++ '\x7d' :: rest)) := by
        rw [dumpsMembers]
        simp [quote]
      rw [htext, readMembers, if_pos rfl, readString_quote]
      simp only [bind, Option.bind_some, hcolon, hbrace, List.head?_cons, if_true, List.tail_cons,
        hopens, hback, String.ofList_toList]
      rfl
    | cons next members =>
      have hmembers : dumpsMembers ((key, value) :: next :: members) =
          quote key ++ ':' :: (dumps value ++ ',' :: dumpsMembers (next :: members)) := by
        rw [dumpsMembers]
        simp
      rw [hmembers] at h
      simp only [quote, List.length_append, List.length_cons, List.length_nil] at h
      obtain ⟨bound, rfl⟩ : ∃ b, bound = b + 1 := ⟨bound - 1, by omega⟩
      have hback := hvalue _ bound (.comma (dumpsMembers (next :: members) ++ rest)) (by omega)
      have hnext : Opens (dumpsMembers (next :: members) ++ rest) :=
        (opens_dumpsMembers (by simp)).append rest
      have hcomma : skip (',' :: (dumpsMembers (next :: members) ++ rest)) =
          ',' :: (dumpsMembers (next :: members) ++ rest) := rfl
      have hrest := ih (fun member hmember => hexact member (List.mem_cons_of_mem _ hmember))
        (fun member hmember => hread member (List.mem_cons_of_mem _ hmember)) (by simp)
        bound (by omega)
      have htext : dumpsMembers ((key, value) :: next :: members) ++ rest =
          '"' :: (key.toList.flatMap escapeControl ++
            '"' :: ':' :: (dumps value ++ ',' :: (dumpsMembers (next :: members) ++ rest))) := by
        rw [hmembers]
        simp [quote]
      rw [htext, readMembers, if_pos rfl, readString_quote]
      simp only [bind, Option.bind_some, hcolon, hcomma, List.head?_cons, if_true, List.tail_cons,
        hopens, hback, hnext.skip, hrest, String.ofList_toList]
      rfl

/-- **A value reads back.** -/
theorem readValue_dumps {v : Json} (h : Legible v) : ReadsBack v := by
  induction h with
  | null =>
    intro rest bound _ hbound
    obtain ⟨bound, rfl⟩ : ∃ b, bound = b + 1 := ⟨bound - 1, by simp [dumps] at hbound; omega⟩
    rfl
  | bool value =>
    intro rest bound _ hbound
    obtain ⟨bound, rfl⟩ : ∃ b, bound = b + 1 :=
      ⟨bound - 1, by cases value <;> simp [dumps] at hbound <;> omega⟩
    cases value <;> rfl
  | int value =>
    intro rest bound hcloses hbound
    have hopens := opens_writeInt value
    rw [dumps] at hbound ⊢
    obtain ⟨c, tail, hwrite, -⟩ := hopens
    obtain ⟨bound, rfl⟩ : ∃ b, bound = b + 1 :=
      ⟨bound - 1, by rw [hwrite, List.length_cons] at hbound; omega⟩
    exact readValue_writeInt value hcloses bound
  | float _ reads => exact reads
  | str value =>
    intro rest bound _ hbound
    rw [dumps] at hbound ⊢
    obtain ⟨bound, rfl⟩ : ∃ b, bound = b + 1 := ⟨bound - 1, by simp [quote] at hbound; omega⟩
    exact readValue_quote value rest bound
  | @arr items hexact ih =>
    intro rest bound _ hbound
    rw [dumps, List.length_cons] at hbound
    obtain ⟨bound, rfl⟩ : ∃ b, bound = b + 1 := ⟨bound - 1, by omega⟩
    rw [dumps, List.cons_append, readValue, if_neg (by decide), if_neg (by decide), if_pos rfl]
    by_cases hne : items = []
    · subst hne
      rfl
    · have hopens := (opens_dumpsItems hexact hne).append rest
      have hread := readItems_dumps hexact ih hne rest bound (by omega)
      have hskip := hopens.skip
      obtain ⟨c, tail, htext, hbracket, -⟩ := hopens
      rw [hskip, hread]
      rw [htext, List.head?_cons, if_neg (by simpa using hbracket)]
      rfl
  | @obj members hexact ih =>
    intro rest bound _ hbound
    rw [dumps, List.length_cons] at hbound
    obtain ⟨bound, rfl⟩ : ∃ b, bound = b + 1 := ⟨bound - 1, by omega⟩
    rw [dumps, List.cons_append, readValue, if_neg (by decide), if_pos rfl]
    by_cases hne : members = []
    · subst hne
      rfl
    · have hopens := (opens_dumpsMembers hne).append rest
      have hread := readMembers_dumps hexact ih hne rest bound (by omega)
      have hskip := hopens.skip
      obtain ⟨c, tail, htext, -, hbrace, -⟩ := hopens
      rw [hskip, hread]
      rw [htext, List.head?_cons, if_neg (by simpa using hbrace)]
      rfl

/-- **What is dumped loads** as the value it was dumped from. -/
theorem loads_of_legible {v : Json} (h : Legible v) : loads (dumps v) = some v := by
  have hskip : skip (dumps v) = dumps v := (opens_dumps h).skip
  have hread := readValue_dumps h [] (2 * (dumps v).length) .text (by omega)
  rw [List.append_nil] at hread
  unfold loads
  rw [hskip, hread]
  rfl

theorem loads_dumps {v : Json} (h : Exact v) : loads (dumps v) = some v := loads_of_legible h.legible

/-! ### Decimals -/

/-- A decimal with a fraction or an exponent, as its parts: no leading zero in front of other digits, and
at least one digit in each part that is there. -/
structure Decimal where
  negative : Bool
  whole : List Char
  fraction : List Char
  exponent : Option (Bool × List Char)
  whole_digits : ∀ c ∈ whole, c.isDigit = true
  fraction_digits : ∀ c ∈ fraction, c.isDigit = true
  whole_canonical : whole = ['0'] ∨ ∃ c rest, whole = c :: rest ∧ c ≠ '0'
  exponent_digits : ∀ e ∈ exponent, e.2 ≠ [] ∧ ∀ c ∈ e.2, c.isDigit = true
  fractional : fraction ≠ [] ∨ exponent.isSome = true

namespace Decimal

variable (d : Decimal)

/-- The fraction, behind its point. -/
def fractionText : List Char := if d.fraction = [] then [] else '.' :: d.fraction

/-- The exponent, with its sign. -/
def exponentText : List Char :=
  d.exponent.elim [] fun e => 'e' :: (if e.1 = true then '-' else '+') :: e.2

/-- The decimal, as it is written. -/
def text : List Char :=
  (if d.negative = true then ['-'] else []) ++ (d.whole ++ (d.fractionText ++ d.exponentText))

/-- Digits are read up to what is none. -/
theorem readDigits_until {ds rest : List Char} (hds : ∀ c ∈ ds, c.isDigit = true)
    (hrest : ∀ c ∈ rest.head?, c.isDigit = false) : readDigits (ds ++ rest) = (ds, rest) := by
  induction ds with
  | nil =>
    cases rest with
    | nil => rfl
    | cons c rest => exact if_neg (by rw [hrest c rfl]; decide)
  | cons c ds ih =>
    rw [List.cons_append, readDigits, if_pos (hds c (List.mem_cons_self ..)),
      ih fun d hd => hds d (List.mem_cons_of_mem c hd)]

theorem head_closes {rest : List Char} (h : Closes rest) :
    ∀ c ∈ rest.head?, c.isDigit = false ∧ c ≠ '.' ∧ c ≠ 'e' ∧ c ≠ 'E' := by
  cases h with
  | text => exact fun c hc => nomatch hc
  | comma _ =>
    rintro c ⟨⟩
    decide
  | brace _ =>
    rintro c ⟨⟩
    decide
  | bracket _ =>
    rintro c ⟨⟩
    decide

/-- What follows the fraction is no digit. -/
theorem head_exponent {rest : List Char} (h : Closes rest) :
    ∀ c ∈ (d.exponentText ++ rest).head?, c.isDigit = false ∧ c ≠ '.' := by
  unfold exponentText
  cases d.exponent with
  | none => exact fun c hc => ⟨(head_closes h c hc).1, (head_closes h c hc).2.1⟩
  | some e =>
    rintro c ⟨⟩
    decide

/-- The fraction in front of a text, and what is behind it. -/
def readFraction (text : List Char) : List Char × List Char :=
  match text with
  | '.' :: rest =>
    if (readDigits rest).1 = [] then ([], text)
    else ('.' :: (readDigits rest).1, (readDigits rest).2)
  | _ => ([], text)

/-- The exponent behind a fraction. -/
def readExponent (fraction : List Char × List Char) : List Char × List Char :=
  match fraction.2 with
  | e :: sign :: rest =>
    if (e = 'e' ∨ e = 'E') ∧ (sign = '+' ∨ sign = '-') ∧ (readDigits rest).1 ≠ [] then
      (fraction.1 ++ e :: sign :: (readDigits rest).1, (readDigits rest).2)
    else if (e = 'e' ∨ e = 'E') ∧ (readDigits (sign :: rest)).1 ≠ [] then
      (fraction.1 ++ e :: (readDigits (sign :: rest)).1, (readDigits (sign :: rest)).2)
    else fraction
  | _ => fraction

theorem readTail_eq (text : List Char) : readTail text = readExponent (readFraction text) := rfl

theorem readFraction_text {rest : List Char} (h : Closes rest) :
    readFraction (d.fractionText ++ (d.exponentText ++ rest)) =
      (d.fractionText, d.exponentText ++ rest) := by
  have hhead := d.head_exponent h
  unfold fractionText
  by_cases hfraction : d.fraction = []
  · rw [if_pos hfraction, List.nil_append]
    cases htext : d.exponentText ++ rest with
    | nil => rfl
    | cons c tail =>
      have hdot : c ≠ '.' := (hhead c (by rw [htext]; rfl)).2
      unfold readFraction
      split
      · rename_i heq
        exact absurd (List.cons.inj heq).1 hdot
      · rfl
  · have hread : readDigits (d.fraction ++ (d.exponentText ++ rest)) =
        (d.fraction, d.exponentText ++ rest) :=
      readDigits_until d.fraction_digits fun c hc => (hhead c hc).1
    rw [if_neg hfraction, List.cons_append]
    change (if _ then _ else _) = _
    rw [hread, if_neg hfraction]

theorem readExponent_text (fraction : List Char) {rest : List Char} (h : Closes rest) :
    readExponent (fraction, d.exponentText ++ rest) = (fraction ++ d.exponentText, rest) := by
  unfold exponentText
  cases hexponent : d.exponent with
  | none =>
    change readExponent (fraction, rest) = (fraction ++ [], rest)
    rw [List.append_nil]
    unfold readExponent
    split
    · rename_i e sign rest' heq
      have he := head_closes h e (by simp only at heq; rw [heq]; rfl)
      rw [if_neg fun hc => hc.1.elim he.2.2.1 he.2.2.2, if_neg fun hc => hc.1.elim he.2.2.1 he.2.2.2]
    · rfl
  | some e =>
    obtain ⟨hne, hdigits⟩ := d.exponent_digits e hexponent
    have hread : readDigits (e.2 ++ rest) = (e.2, rest) :=
      readDigits_until hdigits fun c hc => (head_closes h c hc).1
    have hsign : (if e.1 = true then '-' else '+') = '+' ∨ (if e.1 = true then '-' else '+') = '-' := by
      cases e.1 <;> decide
    change readExponent (fraction, 'e' :: (if e.1 = true then '-' else '+') :: (e.2 ++ rest)) =
      (fraction ++ 'e' :: (if e.1 = true then '-' else '+') :: e.2, rest)
    generalize (if e.1 = true then '-' else '+') = sign at hsign
    unfold readExponent
    simp only [hread]
    rw [if_pos ⟨.inl trivial, hsign, hne⟩]

/-- Behind the whole part, the fraction and the exponent are read. -/
theorem readTail_text {rest : List Char} (h : Closes rest) :
    readTail (d.fractionText ++ d.exponentText ++ rest) =
      (d.fractionText ++ d.exponentText, rest) := by
  rw [readTail_eq, List.append_assoc, d.readFraction_text h, d.readExponent_text _ h]

theorem head_fraction {rest : List Char} (h : Closes rest) :
    ∀ c ∈ (d.fractionText ++ d.exponentText ++ rest).head?, c.isDigit = false := by
  unfold fractionText
  split_ifs
  · exact fun c hc => (d.head_exponent h c hc).1
  · rintro c ⟨⟩
    decide

theorem readWhole_text {rest : List Char} (h : Closes rest) :
    readWhole (d.whole ++ (d.fractionText ++ d.exponentText ++ rest)) =
      (d.whole, d.fractionText ++ d.exponentText ++ rest) := by
  rcases d.whole_canonical with hzero | ⟨c, tail, hwhole, hc⟩
  · rw [hzero]
    rfl
  · have hread := readDigits_until d.whole_digits (d.head_fraction h)
    rw [hwhole] at hread ⊢
    rw [List.cons_append] at hread ⊢
    rw [readWhole, if_neg hc, hread]

theorem whole_ne_nil : d.whole ≠ [] := by
  rcases d.whole_canonical with hzero | ⟨c, tail, hwhole, -⟩
  · rw [hzero]
    exact List.cons_ne_nil _ _
  · rw [hwhole]
    exact List.cons_ne_nil _ _

theorem tail_ne_nil : d.fractionText ++ d.exponentText ≠ [] := by
  unfold fractionText exponentText
  rcases d.fractional with h | h
  · rw [if_neg h]
    exact List.cons_ne_nil _ _
  · obtain ⟨e, he⟩ := Option.isSome_iff_exists.mp h
    rw [he]
    simp

theorem readMagnitude_text (negative : Bool) {rest : List Char} (h : Closes rest) :
    readMagnitude negative (d.whole ++ (d.fractionText ++ d.exponentText ++ rest)) =
      some (.float ((if negative = true then ['-'] else []) ++
        (d.whole ++ (d.fractionText ++ d.exponentText))), rest) := by
  unfold readMagnitude
  simp only [d.readWhole_text h, d.readTail_text h]
  rw [if_neg d.whole_ne_nil, if_neg d.tail_ne_nil, List.append_assoc]

/-- The first character of a decimal. -/
theorem text_eq : ∃ c tail, d.whole = c :: tail ∧ c.isDigit = true := by
  cases hwhole : d.whole with
  | nil => exact absurd hwhole d.whole_ne_nil
  | cons c tail => exact ⟨c, tail, rfl, d.whole_digits c (hwhole ▸ List.mem_cons_self ..)⟩

/-- **A decimal reads back.** -/
theorem reads : ReadsBack (.float d.text) := by
  intro rest bound hcloses hbound
  obtain ⟨c, tail, hwhole, hc⟩ := d.text_eq
  have hread := fun negative => d.readMagnitude_text negative hcloses
  have hother : ∀ c : Char, c.isDigit = true ∨ c = '-' → c ≠ '"' ∧ c ≠ '\x7b' ∧ c ≠ '[' := by
    rintro c (hc | rfl)
    · refine ⟨?_, ?_, ?_⟩ <;> (rintro rfl; exact absurd hc (by decide))
    · decide
  rw [dumps] at hbound ⊢
  obtain ⟨bound, rfl⟩ : ∃ b, bound = b + 1 := by
    refine ⟨bound - 1, ?_⟩
    unfold text at hbound
    rw [hwhole] at hbound
    simp only [List.length_append, List.length_cons] at hbound
    omega
  unfold text
  cases hnegative : d.negative with
  | true =>
    obtain ⟨h1, h2, h3⟩ := hother '-' (.inr rfl)
    specialize hread true
    rw [hwhole] at hread ⊢
    simp only [if_true, List.cons_append, List.nil_append, List.append_assoc] at hread ⊢
    rw [readValue, if_neg h1, if_neg h2, if_neg h3, readAtom_minus hc, hread]
  | false =>
    obtain ⟨h1, h2, h3⟩ := hother c (.inl hc)
    specialize hread false
    rw [hwhole] at hread ⊢
    simp only [Bool.false_eq_true, if_false, List.cons_append, List.nil_append,
      List.append_assoc] at hread ⊢
    rw [readValue, if_neg h1, if_neg h2, if_neg h3, readAtom_digit hc, hread]

theorem opens : Opens d.text := by
  obtain ⟨c, tail, hwhole, hc⟩ := d.text_eq
  unfold text
  rw [hwhole]
  cases d.negative with
  | true => exact opens_cons _ (by decide)
  | false =>
    refine opens_cons _ ⟨?_, ?_, ?_⟩
    · rintro rfl
      exact absurd hc (by decide)
    · rintro rfl
      exact absurd hc (by decide)
    · rintro (rfl | rfl | rfl | rfl) <;> exact absurd hc (by decide)

theorem legible : Legible (.float d.text) := .float d.opens d.reads

end Decimal

end Json

end Framework
