import Zhixu.Domain.Timestamp
import Zhixu.Framework.Base64

/-!
# Keys, sealed texts and the primitives behind them

The vault rests on four primitives of other packages: AES-GCM, Argon2id, HMAC-SHA256 and
HKDF. Each is a parameter here, a record of the functions the source calls, with what it is
taken to promise stated apart (`AesGcm.Ideal`, `Argon2.Ideal`, `Hmac.Ideal`). The promises
are those of ideal primitives: a ciphertext opens under the key it was made with and under no
other, a derived key determines the passphrase, a keyed hash determines the key and the text.

`seal` and `openSealed` are the two functions of the source around AES-GCM: the text form,
with its prefix, its Base64 and the least length a ciphertext has. `openSealed_sealWith` says
what opening makes of what was sealed, and `openSealed_seal` that the same key gives it back.

The exceptions of the package are one type, a constructor for each class it raises, with
the message where the source gives one.
-/

open Framework

namespace Zhixu.Vault

/-- An aware datetime, as the instant it stands for: the years 1 to 9999. -/
abbrev Moment := { t : Int // Instant.InRange t }

/-- The first moment of 1970. -/
def Moment.epoch : Moment := ⟨0, by decide⟩

/-- The exceptions of the vault, by class. -/
inductive VaultError
  | permission (message : String)
  | value (message : String)
  | key (message : String)
  | runtime (message : String)
  | type (message : String)
  /-- `sqlite3.IntegrityError` -/
  | integrity
  /-- `sqlite3.OperationalError` -/
  | operational
  /-- `UnicodeDecodeError`, a `ValueError` -/
  | unicode
  /-- `OverflowError` -/
  | overflow
  /-- `cryptography.exceptions.InvalidTag` -/
  | invalidTag
  /-- `OSError` -/
  | os
  /-- what the code of an executor raised -/
  | executor (name : String)
deriving DecidableEq, Repr

namespace VaultError

/-- `except ValueError`. -/
def isValueError : VaultError → Bool
  | value _ | unicode => true
  | _ => false

end VaultError

/-- What `datetime.fromisoformat` makes of a text: the instant that `astimezone` takes it to
(in the zone of the machine, if the text names none), and whether the text names one. -/
structure Datetime where
  utc : Int
  aware : Bool

/-- `value.astimezone(UTC)`. -/
def Datetime.astimezone (value : Datetime) : Except VaultError Moment :=
  if h : Instant.InRange value.utc then .ok ⟨value.utc, h⟩ else .error .overflow

/-! ### The primitives -/

/-- `AESGCM(key).encrypt(nonce, data, context)` and `decrypt`. -/
structure AesGcm where
  encrypt : Bytes → Bytes → Bytes → String → Bytes
  decrypt : Bytes → Bytes → Bytes → String → Option Bytes

/-- An ideal AES-GCM: what was encrypted opens, nothing else does, and a ciphertext belongs
to one key. A ciphertext is no shorter than its plaintext and a tag of sixteen bytes. -/
structure AesGcm.Ideal (aes : AesGcm) : Prop where
  decrypt_encrypt : ∀ key nonce data context,
    aes.decrypt key nonce (aes.encrypt key nonce data context) context = some data
  authentic : ∀ {key nonce ciphertext context data},
    aes.decrypt key nonce ciphertext context = some data →
      ciphertext = aes.encrypt key nonce data context
  committing : ∀ {key key' nonce nonce' data data' context context'},
    aes.encrypt key nonce data context = aes.encrypt key' nonce' data' context' → key = key'
  length_ge : ∀ key nonce data context,
    data.length + 16 ≤ (aes.encrypt key nonce data context).length

/-- `Argon2Parameters`, within the bounds its constructor checks. -/
structure Argon2Parameters where
  timeCost : ℕ := 3
  memoryCostKib : ℕ := 65536
  parallelism : ℕ := 4
  timeCost_bounds : 2 ≤ timeCost ∧ timeCost ≤ 10 := by decide
  memoryCostKib_bounds : 32768 ≤ memoryCostKib ∧ memoryCostKib ≤ 1048576 := by decide
  parallelism_bounds : 1 ≤ parallelism ∧ parallelism ≤ 16 := by decide
deriving DecidableEq

/-- `Argon2Parameters()`. -/
def Argon2Parameters.standard : Argon2Parameters := {}

/-- `hash_secret_raw(passphrase, salt, …)`. -/
structure Argon2 where
  hash : Argon2Parameters → String → Bytes → Bytes

/-- Under one salt and one choice of parameters, a derived key determines the passphrase. -/
structure Argon2.Ideal (argon2 : Argon2) : Prop where
  injective : ∀ {parameters passphrase passphrase' salt},
    argon2.hash parameters passphrase salt = argon2.hash parameters passphrase' salt →
      passphrase = passphrase'

/-- `Argon2Parameters.derive`. -/
def Argon2Parameters.derive (parameters : Argon2Parameters) (argon2 : Argon2)
    (passphrase : String) (salt : Bytes) : Except VaultError Bytes := do
  raiseIf (passphrase.length < 12)
    (.value "vault passphrase must contain at least 12 characters")
  return argon2.hash parameters passphrase salt

theorem Argon2Parameters.derive_eq_ok {parameters : Argon2Parameters} {argon2 : Argon2}
    {passphrase : String} {salt key : Bytes} :
    parameters.derive argon2 passphrase salt = .ok key ↔
      12 ≤ passphrase.length ∧ key = argon2.hash parameters passphrase salt := by
  unfold derive
  rw [raiseIf_bind_ok, not_lt]
  constructor
  · rintro ⟨hlength, h⟩
    exact ⟨hlength, (Except.ok.inj h).symm⟩
  · rintro ⟨hlength, rfl⟩
    exact ⟨hlength, rfl⟩

/-- `hmac.new(key, text, sha256).hexdigest()`, of an ASCII text. -/
structure Hmac where
  hexdigest : Bytes → List Char → String

/-- An ideal keyed hash: no two keys and texts collide, and a digest is not empty. -/
structure Hmac.Ideal (hmac : Hmac) : Prop where
  injective : ∀ {key key' text text'},
    hmac.hexdigest key text = hmac.hexdigest key' text' → key = key' ∧ text = text'
  nonempty : ∀ key text, hmac.hexdigest key text ≠ ""

/-! ### Sealed texts -/

/-- `_PREFIX`. -/
def sealedPrefix : List Char := "enc:v1:".toList

variable (aes : AesGcm)

/-- `seal`, under a nonce of twelve bytes. -/
def sealWith (nonce key plaintext : Bytes) (context : String) : List Char :=
  sealedPrefix ++ Base64.encode (nonce ++ aes.encrypt key nonce plaintext context)

/-- `open_sealed`. -/
def openSealed (key : Bytes) (value : List Char) (context : String) : Except VaultError Bytes := do
  raiseIf (¬ sealedPrefix <+: value) (.value "unsupported encrypted value")
  match Base64.decode true (value.drop sealedPrefix.length) with
  | none => throw (.value "invalid encrypted value")
  | some raw =>
    raiseIf (raw.length < 29) (.value "invalid encrypted value")
    match aes.decrypt key (raw.take 12) (raw.drop 12) context with
    | none => throw .invalidTag
    | some plaintext => return plaintext

variable {aes}

/-- What a sealed text is opened to: the nonce and the ciphertext are found again. -/
theorem openSealed_sealWith (ideal : aes.Ideal) {nonce key plaintext : Bytes}
    (hnonce : nonce.length = 12) (hplain : plaintext ≠ []) (key' : Bytes)
    (context context' : String) :
    openSealed aes key' (sealWith aes nonce key plaintext context) context' =
      match aes.decrypt key' nonce (aes.encrypt key nonce plaintext context) context' with
      | none => .error .invalidTag
      | some plaintext => .ok plaintext := by
  have hpos : 0 < plaintext.length := List.length_pos_iff.mpr hplain
  have htag := ideal.length_ge key nonce plaintext context
  have hlength : ¬ (nonce ++ aes.encrypt key nonce plaintext context).length < 29 := by
    rw [List.length_append]
    omega
  unfold openSealed sealWith
  rw [List.drop_left, Base64.decode_encode]
  unfold raiseIf
  rw [if_neg (not_not.mpr (List.prefix_append _ _))]
  simp only [if_neg hlength, List.take_left' hnonce, List.drop_left' hnonce]
  cases aes.decrypt key' nonce (aes.encrypt key nonce plaintext context) context' <;> rfl

/-- **What was sealed opens** under its key and its context. -/
theorem openSealed_seal (ideal : aes.Ideal) {nonce key plaintext : Bytes}
    (hnonce : nonce.length = 12) (hplain : plaintext ≠ []) (context : String) :
    openSealed aes key (sealWith aes nonce key plaintext context) context = .ok plaintext := by
  rw [openSealed_sealWith ideal hnonce hplain, ideal.decrypt_encrypt]

end Zhixu.Vault
