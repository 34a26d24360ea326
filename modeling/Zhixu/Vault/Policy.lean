import Zhixu.Vault.Grants

/-!
# The policy of the vault

`VaultPolicy.require`: what a verified grant may do to a secret of some kind and
classification, given whether the access list has a row for it. It raises where the source
does, in its order; `require_ok` says what is left when it does not raise.
-/

open Framework

namespace Zhixu.Vault

/-- What the policy is asked about a secret. -/
structure PolicySubject where
  kind : SecretKind
  classification : VaultClassification
  ownerUserId : String
  aclAllowed : Bool

/-- `VaultPolicy.require`. -/
def VerifiedGrant.require (grant : VerifiedGrant) (secret : PolicySubject) :
    Except VaultError Unit :=
  match VaultAction.parse grant.action with
  | none => .error (.permission "unknown vault action")
  | some action => do
    raiseIf (secret.aclAllowed = false) (.permission "vault ACL denied the action")
    raiseIf (secret.classification = .l4HumanOverride ∧
        (secret.kind ≠ .human ∨ grant.subject ≠ secret.ownerUserId))
      (.permission "L4 override is restricted to its owner")
    raiseIf (secret.classification = .l4HumanOverride ∧ action ∈ [VaultAction.use, .grant])
      (.permission "L4 override cannot be automated or shared")
    raiseIf (action = .reveal ∧ secret.kind ≠ .human)
      (.permission "machine secrets cannot be revealed")
    raiseIf (action = .reveal ∧ grant.authentication ≠ "step_up")
      (.permission "reveal requires step-up authentication")
    raiseIf (action = .use ∧ secret.kind ≠ .machine)
      (.permission "human secrets cannot be used by an executor")
    raiseIf (action ∈ [VaultAction.update, .delete, .exportSecret, .grant, .rotate] ∧
        grant.authentication ≠ "step_up")
      (.permission "high-risk vault action requires step-up authentication")

/-- What a grant the policy lets through meets. -/
structure Permitted (grant : VerifiedGrant) (action : VaultAction) (secret : PolicySubject) :
    Prop where
  acl : secret.aclAllowed = true
  override_owner : secret.classification = .l4HumanOverride →
    secret.kind = .human ∧ grant.subject = secret.ownerUserId
  override_action : secret.classification = .l4HumanOverride → action ≠ .use ∧ action ≠ .grant
  reveal : action = .reveal → secret.kind = .human ∧ grant.authentication = "step_up"
  use : action = .use → secret.kind = .machine
  step_up : action ∈ [VaultAction.update, .delete, .exportSecret, .grant, .rotate] →
    grant.authentication = "step_up"

/-- **What the policy lets through.** -/
theorem require_ok {grant : VerifiedGrant} {action : VaultAction} {secret : PolicySubject}
    (haction : grant.action = action.value) {u : Unit} :
    grant.require secret = .ok u ↔ Permitted grant action secret := by
  unfold VerifiedGrant.require
  rw [haction, VaultAction.parse_value]
  simp only [raiseIf_bind_ok, raiseIf_eq_ok, not_and, not_or, not_not, Bool.not_eq_false]
  constructor
  · rintro ⟨hacl, howner, hshared, hkind, hstep, huse, hrisk⟩
    refine ⟨hacl, howner, fun h => ?_, fun h => ⟨hkind h, hstep h⟩, huse, hrisk⟩
    have hnot := hshared h
    simp only [List.mem_cons, List.not_mem_nil, or_false, not_or] at hnot
    exact hnot
  · intro h
    refine ⟨h.acl, h.override_owner, fun hl4 => ?_, fun hr => (h.reveal hr).1,
      fun hr => (h.reveal hr).2, h.use, h.step_up⟩
    simp only [List.mem_cons, List.not_mem_nil, or_false, not_or]
    exact h.override_action hl4

end Zhixu.Vault
