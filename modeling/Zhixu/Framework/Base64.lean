import Mathlib.Data.List.DropRight
import Mathlib.Data.Nat.Notation

/-!
# Base64 texts

The URL-safe alphabet. `encode` writes three bytes as four characters and fills the last
group up with `=`; `decode` reads either alphabet, in one of two modes. The lenient mode
drops every character outside the alphabet and stops at a complete padding, whatever
follows it; the strict one refuses both.

* `decode_encode` — what was written reads back, in both modes.
* `repad_strip_encode` — the padding can be left out, since the length of what remains
  says how much of it there was.
* `encode_injective` — so a text determines its bytes.
-/

namespace Framework

/-- A byte string. -/
abbrev Bytes := List UInt8

namespace Base64

/-! ### Writing -/

/-- The character of six bits. -/
def digit (n : ℕ) : Char :=
  if n < 26 then Char.ofNat (65 + n)
  else if n < 52 then Char.ofNat (71 + n)
  else if n < 62 then Char.ofNat (n - 4)
  else if n = 62 then '-'
  else '_'

/-- The characters that carry the bytes. -/
def digits : Bytes → List Char
  | [] => []
  | [a] => [digit (a.toNat / 4), digit (a.toNat % 4 * 16)]
  | [a, b] =>
    [digit (a.toNat / 4), digit (a.toNat % 4 * 16 + b.toNat / 16), digit (b.toNat % 16 * 4)]
  | a :: b :: c :: rest =>
    digit (a.toNat / 4) :: digit (a.toNat % 4 * 16 + b.toNat / 16) ::
      digit (b.toNat % 16 * 4 + c.toNat / 64) :: digit (c.toNat % 64) :: digits rest

/-- As much padding as fills a text of this length up to a multiple of four. -/
def padding (length : ℕ) : List Char := List.replicate ((4 - length % 4) % 4) '='

/-- `urlsafe_b64encode`. -/
def encode (bytes : Bytes) : List Char := digits bytes ++ padding (digits bytes).length

/-! ### Reading -/

/-- The six bits of a character, of either alphabet. -/
def value (c : Char) : Option ℕ :=
  if 65 ≤ c.toNat ∧ c.toNat ≤ 90 then some (c.toNat - 65)
  else if 97 ≤ c.toNat ∧ c.toNat ≤ 122 then some (c.toNat - 71)
  else if 48 ≤ c.toNat ∧ c.toNat ≤ 57 then some (c.toNat + 4)
  else if c = '-' ∨ c = '+' then some 62
  else if c = '_' ∨ c = '/' then some 63
  else none

/-- The bytes of a text, from a position `quad` in its group of four, with the bits `left`
over and `pads` padding characters seen. -/
def decodeFrom (strict : Bool) : ℕ → ℕ → ℕ → List Char → Option Bytes
  | quad, _, _, [] => if quad = 0 then some [] else none
  | quad, left, pads, c :: rest =>
    if c = '=' then
      if 2 ≤ quad ∧ 4 ≤ quad + (pads + 1) then
        if strict ∧ rest ≠ [] then none else some []
      else if strict ∧ quad < 2 then none
      else decodeFrom strict quad left (if 2 ≤ quad then pads + 1 else pads) rest
    else
      match value c with
      | none => if strict then none else decodeFrom strict quad left pads rest
      | some v =>
        if strict ∧ 0 < pads then none
        else if quad = 0 then decodeFrom strict 1 v 0 rest
        else if quad = 1 then
          (decodeFrom strict 2 (v % 16) 0 rest).map (UInt8.ofNat (left * 4 + v / 16) :: ·)
        else if quad = 2 then
          (decodeFrom strict 3 (v % 4) 0 rest).map (UInt8.ofNat (left * 16 + v / 4) :: ·)
        else (decodeFrom strict 0 0 0 rest).map (UInt8.ofNat (left * 64 + v) :: ·)

/-- `b64decode`: only ASCII is looked at. -/
def decode (strict : Bool) (text : List Char) : Option Bytes :=
  if text.all fun c => c.toNat < 128 then decodeFrom strict 0 0 0 text else none

/-! ### The round trip -/

theorem value_digit {n : ℕ} (h : n < 64) : value (digit n) = some n := by
  have hall : ∀ n < 64, value (digit n) = some n := by decide
  exact hall n h

theorem digit_ne_pad {n : ℕ} (h : n < 64) : digit n ≠ '=' := by
  have hall : ∀ n < 64, digit n ≠ '=' := by decide
  exact hall n h

/-- One character of a group. -/
theorem decodeFrom_digit (strict : Bool) (quad left n : ℕ) (h : n < 64) (rest : List Char) :
    decodeFrom strict quad left 0 (digit n :: rest) =
      if quad = 0 then decodeFrom strict 1 n 0 rest
      else if quad = 1 then
        (decodeFrom strict 2 (n % 16) 0 rest).map (UInt8.ofNat (left * 4 + n / 16) :: ·)
      else if quad = 2 then
        (decodeFrom strict 3 (n % 4) 0 rest).map (UInt8.ofNat (left * 16 + n / 4) :: ·)
      else (decodeFrom strict 0 0 0 rest).map (UInt8.ofNat (left * 64 + n) :: ·) := by
  rw [decodeFrom, if_neg (digit_ne_pad h), value_digit h]
  simp

/-- A byte put together from its bits. -/
theorem byte_eq {n : ℕ} {b : UInt8} (h : n = b.toNat) : UInt8.ofNat n = b := by
  rw [h, UInt8.ofNat_toNat]

/-- A group of three bytes. -/
theorem decodeFrom_group (strict : Bool) (a b c : UInt8) (rest : List Char) :
    decodeFrom strict 0 0 0 (digit (a.toNat / 4) ::
      digit (a.toNat % 4 * 16 + b.toNat / 16) ::
        digit (b.toNat % 16 * 4 + c.toNat / 64) :: digit (c.toNat % 64) :: rest) =
      (decodeFrom strict 0 0 0 rest).map fun bytes => a :: b :: c :: bytes := by
  have ha := a.toNat_lt
  have hb := b.toNat_lt
  have hc := c.toNat_lt
  rw [decodeFrom_digit strict 0 0 _ (by omega), if_pos rfl,
    decodeFrom_digit strict 1 _ _ (by omega), if_neg (by decide), if_pos rfl,
    decodeFrom_digit strict 2 _ _ (by omega), if_neg (by decide), if_neg (by decide), if_pos rfl,
    decodeFrom_digit strict 3 _ _ (by omega), if_neg (by decide), if_neg (by decide),
    if_neg (by decide)]
  rw [byte_eq (b := a) (by omega), byte_eq (b := b) (by omega), byte_eq (b := c) (by omega)]
  cases decodeFrom strict 0 0 0 rest <;> rfl

theorem length_digits_mod (a b c : UInt8) (rest : Bytes) :
    padding (digits (a :: b :: c :: rest)).length = padding (digits rest).length := by
  unfold padding
  rw [digits]
  simp only [List.length_cons]
  congr 1
  omega

/-- **What was written reads back.** -/
theorem decodeFrom_encode (strict : Bool) (bytes : Bytes) :
    decodeFrom strict 0 0 0 (encode bytes) = some bytes := by
  unfold encode
  induction bytes using digits.induct with
  | case1 => rfl
  | case2 a =>
    have ha := a.toNat_lt
    change decodeFrom strict 0 0 0 [digit _, digit _, '=', '='] = _
    rw [decodeFrom_digit strict 0 0 _ (by omega), if_pos rfl,
      decodeFrom_digit strict 1 _ _ (by omega), if_neg (by decide), if_pos rfl,
      byte_eq (b := a) (by omega)]
    cases strict <;> rfl
  | case3 a b =>
    have ha := a.toNat_lt
    have hb := b.toNat_lt
    change decodeFrom strict 0 0 0 [digit _, digit _, digit _, '='] = _
    rw [decodeFrom_digit strict 0 0 _ (by omega), if_pos rfl,
      decodeFrom_digit strict 1 _ _ (by omega), if_neg (by decide), if_pos rfl,
      decodeFrom_digit strict 2 _ _ (by omega), if_neg (by decide), if_neg (by decide), if_pos rfl,
      byte_eq (b := a) (by omega), byte_eq (b := b) (by omega)]
    cases strict <;> rfl
  | case4 a b c rest ih =>
    rw [length_digits_mod, digits]
    change decodeFrom strict 0 0 0 (digit _ :: digit _ :: digit _ :: digit _ :: (digits rest ++ _)) = _
    rw [decodeFrom_group, ih]
    rfl

theorem digit_ascii {n : ℕ} (h : n < 64) : (digit n).toNat < 128 := by
  have hall : ∀ n < 64, (digit n).toNat < 128 := by decide
  exact hall n h

/-- Every character that carries bytes is the digit of six bits. -/
theorem mem_digits {bytes : Bytes} {c : Char} (h : c ∈ digits bytes) :
    ∃ n, n < 64 ∧ c = digit n := by
  induction bytes using digits.induct with
  | case1 => simp [digits] at h
  | case2 a =>
    have ha := a.toNat_lt
    simp only [digits, List.mem_cons, List.not_mem_nil, or_false] at h
    obtain rfl | rfl := h
    · exact ⟨_, by omega, rfl⟩
    · exact ⟨_, by omega, rfl⟩
  | case3 a b =>
    have ha := a.toNat_lt
    have hb := b.toNat_lt
    simp only [digits, List.mem_cons, List.not_mem_nil, or_false] at h
    obtain rfl | rfl | rfl := h
    · exact ⟨_, by omega, rfl⟩
    · exact ⟨_, by omega, rfl⟩
    · exact ⟨_, by omega, rfl⟩
  | case4 a b c' rest ih =>
    have ha := a.toNat_lt
    have hb := b.toNat_lt
    have hc := c'.toNat_lt
    rw [digits] at h
    simp only [List.mem_cons] at h
    obtain rfl | rfl | rfl | rfl | h := h
    · exact ⟨_, by omega, rfl⟩
    · exact ⟨_, by omega, rfl⟩
    · exact ⟨_, by omega, rfl⟩
    · exact ⟨_, by omega, rfl⟩
    · exact ih h

theorem encode_ascii (bytes : Bytes) : (encode bytes).all (fun c => c.toNat < 128) = true := by
  rw [List.all_eq_true]
  intro c hc
  rw [encode, List.mem_append] at hc
  rcases hc with hc | hc
  · obtain ⟨n, hn, rfl⟩ := mem_digits hc
    simpa using digit_ascii hn
  · obtain ⟨-, rfl⟩ := List.mem_replicate.mp hc
    rfl

/-- **What was written reads back**, in both modes. -/
theorem decode_encode (strict : Bool) (bytes : Bytes) :
    decode strict (encode bytes) = some bytes := by
  unfold decode
  rw [if_pos (encode_ascii bytes), decodeFrom_encode]

theorem encode_injective : Function.Injective encode := by
  intro a b h
  have hdecode := decode_encode true a
  rw [h, decode_encode] at hdecode
  exact (Option.some.inj hdecode).symm

/-! ### Without its padding -/

/-- `rstrip("=")`. -/
def strip (text : List Char) : List Char := text.rdropWhile (· = '=')

/-- The padding put back. -/
def repad (text : List Char) : List Char := text ++ padding text.length

theorem strip_encode (bytes : Bytes) : strip (encode bytes) = digits bytes := by
  unfold strip encode padding
  generalize (4 - (digits bytes).length % 4) % 4 = k
  induction k with
  | zero =>
    rw [List.replicate_zero, List.append_nil, List.rdropWhile_eq_self_iff]
    intro hne
    obtain ⟨n, hn, hlast⟩ := mem_digits (List.getLast_mem hne)
    rw [hlast]
    simpa using digit_ne_pad hn
  | succ k ih =>
    rw [List.replicate_succ', ← List.append_assoc, List.rdropWhile_concat_pos _ _ _ (by simp)]
    exact ih

/-- **The padding can be left out.** -/
theorem repad_strip_encode (bytes : Bytes) : repad (strip (encode bytes)) = encode bytes := by
  rw [strip_encode]
  rfl

end Base64

end Framework
