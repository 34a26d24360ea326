import Zhixu.Storage.Database

/-!
# Authorized writes

Every repository write presents the `AuthorizedAction` the policy minted, and
the repository compares it with the record it is about to write:
`requireAuthorization`. What was authorized goes into the audit log.

`GrantRepository.hasGrant` is the grant lookup of the policy engine: the rows of
`resource_acl`, which name a record by its kind and id and say nothing about
its owner or its classification. `grant` and `revoke` write them, under an
authorization for the record they name.
-/

open Framework

namespace Zhixu

/-- `_require_authorization`. -/
def requireAuthorization (authorization : AuthorizedAction) (action : Action)
    (kind resourceId ownerUserId : String) (classification : DataClassification) :
    Except PyError Unit := do
  let expected ← ResourceRef.checked kind resourceId ownerUserId classification
  raiseIf (authorization.action ≠ action ∨ authorization.resource ≠ expected)
    (.permissionDenied "repository authorization does not match the write")

/-- `_audit`. -/
def Database.auditAction (db : Database) (authorization : AuthorizedAction)
    (reasonCode : String := "") : Database :=
  db.audit {
    occurredAt := authorization.authorizedAt
    actorUserId := authorization.actorUserId
    action := authorization.action.value
    resourceKind := authorization.resource.kind
    resourceId := authorization.resource.id
    outcome := "completed"
    reasonCode }

/-- `_audit` of a write that found nothing to write. -/
def Database.auditNotFound (db : Database) (authorization : AuthorizedAction) : Database :=
  db.audit {
    occurredAt := authorization.authorizedAt
    actorUserId := authorization.actorUserId
    action := authorization.action.value
    resourceKind := authorization.resource.kind
    resourceId := authorization.resource.id
    outcome := "not_found" }

/-- `GrantRepository.has_grant`. -/
def GrantRepository.hasGrant (db : Database) (actorUserId : String) (action : Action)
    (resource : ResourceRef) : Bool :=
  (db.resourceAcl.find? (resource.kind, resource.id, actorUserId, action)).isSome

/-- The row `grant` inserts. -/
def GrantRepository.granted (subjectUserId : String) (action : Action)
    (authorization : AuthorizedAction) : GrantRow where
  resourceKind := authorization.resource.kind
  resourceId := authorization.resource.id
  subjectUserId := subjectUserId
  action := action
  grantedBy := authorization.actorUserId
  createdAt := authorization.authorizedAt

/-- The comparison both writes make: the authorization is for granting, and for its own record. -/
def GrantRepository.requireGranting (authorization : AuthorizedAction) : Except PyError Unit :=
  requireAuthorization authorization .grant authorization.resource.kind authorization.resource.id
    authorization.resource.ownerUserId authorization.resource.classification

/-- `GrantRepository.grant`. A grant that exists is left alone. -/
def GrantRepository.grant (subjectUserId : String) (action : Action)
    (authorization : AuthorizedAction) : Transaction Database PyError Unit := fun db => do
  GrantRepository.requireGranting authorization
  match db.resourceAcl.insert? (GrantRepository.granted subjectUserId action authorization) with
  | none => return (⟨⟩, db.auditAction authorization)
  | some resourceAcl =>
    raiseIf (db.hasUser subjectUserId = false ∨ db.hasUser authorization.actorUserId = false)
      .integrity
    return (⟨⟩, Database.auditAction { db with resourceAcl } authorization)

/-- `GrantRepository.revoke`. -/
def GrantRepository.revoke (subjectUserId : String) (action : Action)
    (authorization : AuthorizedAction) : Transaction Database PyError Bool := fun db => do
  GrantRepository.requireGranting authorization
  let key := (authorization.resource.kind, authorization.resource.id, subjectUserId, action)
  match db.resourceAcl.find? key with
  | none => return (false, db.auditNotFound authorization)
  | some _ =>
    return (true, Database.auditAction
      { db with resourceAcl := db.resourceAcl.deleteWhere fun r => r.key = key } authorization)

/-- The policy engine of the application. -/
def Database.policyEngine (db : Database) : PolicyEngine where
  grantLookup := GrantRepository.hasGrant db

/-- An authorization for a record passes the comparison with it. -/
theorem requireAuthorization_ok {authorization : AuthorizedAction} {action : Action}
    {kind resourceId ownerUserId : String} {classification : DataClassification}
    {u : Unit} :
    requireAuthorization authorization action kind resourceId ownerUserId classification = .ok u ↔
      authorization.action = action ∧
        ResourceRef.checked kind resourceId ownerUserId classification =
          .ok authorization.resource := by
  unfold requireAuthorization
  rw [bind_eq_ok]
  simp only [raiseIf_eq_ok, not_or, not_not]
  constructor
  · rintro ⟨ref, href, haction, hresource⟩
    exact ⟨haction, hresource ▸ href⟩
  · rintro ⟨haction, href⟩
    exact ⟨authorization.resource, href, haction, rfl⟩

/-- Grants name a record by its kind and id, so the standing on a record does not
depend on its classification. -/
theorem Database.standing_congr {db : Database} {context : CommandContext} {action : Action}
    {ref ref' : ResourceRef} (hkind : ref.kind = ref'.kind) (hid : ref.id = ref'.id)
    (howner : ref.ownerUserId = ref'.ownerUserId) :
    db.policyEngine.Standing context action ref ↔ db.policyEngine.Standing context action ref' := by
  have hgrant : db.policyEngine.grantLookup context.actorUserId action ref =
      db.policyEngine.grantLookup context.actorUserId action ref' := by
    change GrantRepository.hasGrant db _ _ _ = GrantRepository.hasGrant db _ _ _
    unfold GrantRepository.hasGrant
    rw [hkind, hid]
  unfold PolicyEngine.Standing PolicyEngine.isOwner PolicyEngine.isInternalGroupResource
  rw [hgrant, howner]

end Zhixu
