import Zhixu.Domain.Text
import Zhixu.Framework.Effect

/-!
# Field encryption and opaque references

The two ways an external identifier is stored: encrypted, and as a reference that
cannot be reversed. The primitives behind them (AES-GCM with a fresh nonce, and a keyed
hash) are parameters; everything around them is as in the source.
-/

open Framework

namespace Zhixu

/-- `FieldCipher`: the sealed text of a plaintext and its context under a nonce. -/
structure FieldCipher where
  token : String → String → String → String

/-- `encrypt`. -/
def FieldCipher.encrypt (cipher : FieldCipher) (nonce plaintext context : String) :
    Except PyError String := do
  raiseIf (context = "") (.validation "encryption context is required")
  return "enc:v1:" ++ cipher.token nonce plaintext context

/-- `OpaqueReferenceFactory`: the first 32 hexadecimal digits of the keyed hash. -/
structure OpaqueReferenceFactory where
  digest : String → String

namespace OpaqueReferenceFactory

variable (references : OpaqueReferenceFactory)

/-- The reference of some parts. -/
def reference (kind : String) (parts : List String) : String :=
  kind ++ "_" ++ references.digest (String.intercalate "\x00" parts)

/-- `create`. -/
def create (kind : String) (parts : List String) : Except PyError String := do
  raiseIf (kind = "" ∨ "" ∈ parts)
    (.validation "opaque reference inputs must not be empty")
  return references.reference kind parts

theorem create_ok {kind : String} {parts : List String} (hkind : kind ≠ "")
    (hparts : "" ∉ parts) : references.create kind parts = .ok (references.reference kind parts) := by
  unfold create
  exact raiseIf_bind_ok.mpr ⟨by simp [hkind, hparts], rfl⟩

end OpaqueReferenceFactory

end Zhixu
