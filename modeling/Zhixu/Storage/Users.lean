import Zhixu.Storage.Access

/-!
# Users and their identities

`UserRepository`: reading users, roles and external identities, creating and renaming a
user, binding and unbinding an identity. `external_identities` has a
second unique key besides its id, the place where an identity is known
(`UNIQUE(channel, channel_account, opaque_ref)`), so a bind is refused when either is
taken.
-/

open Framework

namespace Zhixu

/-- `_raise_conflict`. -/
def integrityConflict : PyError := .conflict "the resource conflicts with existing data"

namespace UserRepository

/-- `get`. -/
def get (userId : String) (db : Database) : Option UserRow := db.users.find? userId

/-- `user is not None and user.status is UserStatus.ACTIVE`. -/
def isActive (userId : String) (db : Database) : Bool := (get userId db).any UserRow.active

/-- `has_role`. -/
def hasRole (userId roleId : String) (db : Database) : Bool :=
  (db.roleBindings.find? (userId, roleId)).isSome

/-- The place an identity is known at. -/
def knownAt (channel channelAccount opaqueRef : String) (identity : ExternalIdentity) : Bool :=
  identity.channel = channel && identity.channelAccount = channelAccount &&
    identity.opaqueRef = opaqueRef

/-- `identity_by_opaque_ref`. -/
def identityByOpaqueRef (channel channelAccount opaqueRef : String) (db : Database) :
    Option ExternalIdentity :=
  db.externalIdentities.rows.find? (knownAt channel channelAccount opaqueRef)

/-- `create`. -/
def create (user : UserRow) (authorization : AuthorizedAction) :
    Transaction Database PyError Unit := fun db => do
  raiseIf (isBlank user.id = true) (.validation "user id is required")
  raiseIf (isBlank user.displayName = true) (.validation "display name is required")
  requireAuthorization authorization .create "user" user.id user.id .personal
  match db.users.insert? user with
  | none => throw integrityConflict
  | some users => return (⟨⟩, Database.auditAction { db with users } authorization)

/-- `bind_identity`. -/
def bindIdentity (identity : ExternalIdentity) (authorization : AuthorizedAction) :
    Transaction Database PyError Unit := fun db => do
  requireAuthorization authorization .create "external_identity" identity.id identity.userId
    .personal
  raiseIf ((identityByOpaqueRef identity.channel identity.channelAccount identity.opaqueRef
    db).isSome = true ∨ db.hasUser identity.userId = false) integrityConflict
  match db.externalIdentities.insert? identity with
  | none => throw integrityConflict
  | some externalIdentities =>
    return (⟨⟩, Database.auditAction { db with externalIdentities } authorization)

/-- The name `rename` writes. -/
def cleaned (displayName : String) : Except PyError String := do
  raiseIf (compact displayName = "" ∨ 40 < (compact displayName).length)
    (.validation "display name is invalid")
  return compact displayName

/-- `rename`, which reports whether it found the user. The authorization is only audited. -/
def rename (userId displayName : String) (authorization : AuthorizedAction) :
    Transaction Database PyError Bool := fun db => do
  let displayName ← cleaned displayName
  match db.users.find? userId with
  | none => return (false, db)
  | some _ =>
    return (true, Database.auditAction
      { db with
        users := db.users.updateWhere (fun r => r.id = userId) fun r => { r with displayName } }
      authorization)

/-- `unbind_identity`. -/
def unbindIdentity (identityId : String) (authorization : AuthorizedAction) :
    Transaction Database PyError Bool := fun db => do
  requireAuthorization authorization .delete "external_identity" identityId
    authorization.resource.ownerUserId .personal
  match db.externalIdentities.find? identityId with
  | none => return (false, db.auditNotFound authorization)
  | some row =>
    raiseIf (row.userId ≠ authorization.resource.ownerUserId)
      (.permissionDenied "identity owner does not match authorization")
    return (true, Database.auditAction
      { db with
        externalIdentities := db.externalIdentities.deleteWhere fun r => r.id = identityId }
      authorization)

/-! ### What an accepted write did -/

theorem create_ok {user : UserRow} {authorization : AuthorizedAction} {db db' : Database}
    {u : Unit} (h : create user authorization db = .ok (u, db')) :
    ∃ users, db.users.insert? user = some users ∧
      db' = Database.auditAction { db with users } authorization := by
  unfold create at h
  obtain ⟨-, h⟩ := raiseIf_bind_ok.mp h
  obtain ⟨-, h⟩ := raiseIf_bind_ok.mp h
  obtain ⟨_, -, h⟩ := bind_eq_ok.mp h
  cases hinsert : db.users.insert? user with
  | none => rw [hinsert] at h; cases h
  | some users =>
    rw [hinsert] at h
    obtain ⟨-, rfl⟩ := Prod.mk.inj (Except.ok.inj h)
    exact ⟨users, rfl, rfl⟩

theorem bindIdentity_ok {identity : ExternalIdentity} {authorization : AuthorizedAction}
    {db db' : Database} {u : Unit} (h : bindIdentity identity authorization db = .ok (u, db')) :
    ∃ externalIdentities, db.externalIdentities.insert? identity = some externalIdentities ∧
      db' = Database.auditAction { db with externalIdentities } authorization := by
  unfold bindIdentity at h
  obtain ⟨_, -, h⟩ := bind_eq_ok.mp h
  obtain ⟨-, h⟩ := raiseIf_bind_ok.mp h
  cases hinsert : db.externalIdentities.insert? identity with
  | none => rw [hinsert] at h; cases h
  | some externalIdentities =>
    rw [hinsert] at h
    obtain ⟨-, rfl⟩ := Prod.mk.inj (Except.ok.inj h)
    exact ⟨externalIdentities, rfl, rfl⟩

end UserRepository

end Zhixu
