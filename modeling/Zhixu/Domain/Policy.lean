import Zhixu.Domain.Time

/-!
# The authorization policy

`PolicyEngine.require` decides every access to ordinary records. It is a chain
of refusals, translated in the order of the source, that ends by minting an
`AuthorizedAction` — the capability the repositories ask for on every write.

A context can only be built when its own checks pass: the fields of
`CommandContext` carry them, and `CommandContext.checked` is the constructor
that raises. The same holds for `ResourceRef`.

`require_ok_iff` says exactly when a request is granted. It separates the three
things the decision depends on: the *standing* of the actor on the record
(`Standing`), the handling its classification asks for (`Handled`), and the
conditions of the action itself (`ActionAllowed`). Only `Handled` reads the
classification.
-/

open Framework

namespace Zhixu

/-! ### Classifications -/

/-- Ordered sensitivity level. -/
inductive DataClassification
  | publicLevel
  | personal
  | confidential
  | secret
  | prohibited
deriving DecidableEq, Repr

namespace DataClassification

/-- The value of the enumeration. -/
def rank : DataClassification → ℕ
  | publicLevel => 0
  | personal => 1
  | confidential => 2
  | secret => 3
  | prohibited => 4

instance : LE DataClassification := ⟨fun a b => a.rank ≤ b.rank⟩
instance : LT DataClassification := ⟨fun a b => a.rank < b.rank⟩
instance (a b : DataClassification) : Decidable (a ≤ b) :=
  inferInstanceAs (Decidable (a.rank ≤ b.rank))
instance (a b : DataClassification) : Decidable (a < b) :=
  inferInstanceAs (Decidable (a.rank < b.rank))

/-- `classification.name`. -/
def name : DataClassification → String
  | publicLevel => "PUBLIC"
  | personal => "PERSONAL"
  | confidential => "CONFIDENTIAL"
  | secret => "SECRET"
  | prohibited => "PROHIBITED"

end DataClassification

/-- `MAX_ORDINARY_CLASSIFICATION`. -/
def maxOrdinaryClassification : DataClassification := .confidential

/-- `require_ordinary_storage`. -/
def requireOrdinaryStorage (classification : DataClassification) : Except PyError Unit :=
  raiseIf (maxOrdinaryClassification < classification)
    (.classificationNotSupported
      ("classification " ++ classification.name ++ " requires the isolated secret store"))

/-! ### Requests -/

inductive Action
  | listMetadata
  | read
  | create
  | update
  | delete
  | use
  | reveal
  | export
  | grant
  | rotate
deriving DecidableEq, Repr

/-- The stored value of an action. -/
def Action.value : Action → String
  | listMetadata => "list_metadata"
  | read => "read"
  | create => "create"
  | update => "update"
  | delete => "delete"
  | use => "use"
  | reveal => "reveal"
  | .export => "export"
  | grant => "grant"
  | rotate => "rotate"

/-- The strength of the authentication behind a request, weakest first. -/
inductive AuthenticationStrength
  | channel
  | password
  | mfa
  | stepUp
deriving DecidableEq, Repr

namespace AuthenticationStrength

def rank : AuthenticationStrength → ℕ
  | channel => 0
  | password => 1
  | mfa => 2
  | stepUp => 3

instance : LT AuthenticationStrength := ⟨fun a b => a.rank < b.rank⟩
instance (a b : AuthenticationStrength) : Decidable (a < b) :=
  inferInstanceAs (Decidable (a.rank < b.rank))

end AuthenticationStrength

inductive RequestChannel
  | privateChat
  | groupChat
  | adminWeb
  | service
deriving DecidableEq, Repr

/-- Who asks, from where, and with what authentication. -/
structure CommandContext where
  actorUserId : String
  roles : List String := []
  sharedOwnerUserId : Option String := none
  readableSharedOwnerUserIds : List String := []
  authentication : AuthenticationStrength := .channel
  requestChannel : RequestChannel := .privateChat
  confirmed : Bool := false
  now : Option Instant := none
  actor_nonblank : isBlank actorUserId = false
  sharedOwner_nonblank : ∀ v ∈ sharedOwnerUserId, isBlank v = false
  readable_nonblank : ∀ v ∈ readableSharedOwnerUserIds, isBlank v = false
  readable_nodup : readableSharedOwnerUserIds.Nodup

theorem CommandContext.noSharedOwner_nonblank :
    ∀ v ∈ (none : Option String), isBlank v = false := by simp

theorem CommandContext.noReadable_nonblank :
    ∀ v ∈ ([] : List String), isBlank v = false := by simp

/-- `CommandContext(…)`, with the checks of its `__post_init__`. -/
def CommandContext.checked (actorUserId : String) (roles : List String)
    (sharedOwnerUserId : Option String) (readableSharedOwnerUserIds : List String)
    (authentication : AuthenticationStrength) (requestChannel : RequestChannel)
    (confirmed : Bool) (now : Option Instant) : Except PyError CommandContext :=
  if hActor : isBlank actorUserId = false then
    if hShared : ∀ v ∈ sharedOwnerUserId, isBlank v = false then
      if hReadable : ∀ v ∈ readableSharedOwnerUserIds, isBlank v = false then
        if hNodup : readableSharedOwnerUserIds.Nodup then
          .ok {
            actorUserId, roles, sharedOwnerUserId, readableSharedOwnerUserIds, authentication
            requestChannel, confirmed, now
            actor_nonblank := hActor
            sharedOwner_nonblank := hShared
            readable_nonblank := hReadable
            readable_nodup := hNodup }
        else .error (.validation "readable shared owner ids must not contain duplicates")
      else .error (.validation "readable shared owner ids must not be empty")
    else .error (.validation "shared owner user id must not be empty")
  else .error (.validation "actor_user_id is required")

/-- A record as the policy sees it. -/
structure ResourceRef where
  kind : String
  id : String
  ownerUserId : String
  classification : DataClassification := .personal
  nonblank : isBlank kind = false ∧ isBlank id = false ∧ isBlank ownerUserId = false
deriving DecidableEq

/-- `ResourceRef(…)`, with the check of its `__post_init__`. -/
def ResourceRef.checked (kind id ownerUserId : String) (classification : DataClassification) :
    Except PyError ResourceRef :=
  if h : isBlank kind = false ∧ isBlank id = false ∧ isBlank ownerUserId = false then
    .ok { kind, id, ownerUserId, classification, nonblank := h }
  else .error (.validation "resource reference fields must not be empty")

theorem ResourceRef.checked_ok {kind id ownerUserId : String}
    {classification : DataClassification} {ref : ResourceRef} :
    ResourceRef.checked kind id ownerUserId classification = .ok ref ↔
      ref.kind = kind ∧ ref.id = id ∧ ref.ownerUserId = ownerUserId ∧
        ref.classification = classification := by
  unfold ResourceRef.checked
  constructor
  · intro h
    by_cases hblank : isBlank kind = false ∧ isBlank id = false ∧ isBlank ownerUserId = false
    · rw [dif_pos hblank] at h
      obtain rfl := Except.ok.inj h
      exact ⟨rfl, rfl, rfl, rfl⟩
    · rw [dif_neg hblank] at h
      cases h
  · rintro ⟨rfl, rfl, rfl, rfl⟩
    rw [dif_pos ref.nonblank]

/-- The capability minted by the policy and asked for by repository writes. -/
structure AuthorizedAction where
  actorUserId : String
  action : Action
  resource : ResourceRef
  authorizedAt : Instant
deriving DecidableEq

/-- Explicit grants: does the actor hold one for this action on this record? -/
abbrev GrantLookup := String → Action → ResourceRef → Bool

/-- Default-deny policy for ordinary application data. -/
structure PolicyEngine where
  grantLookup : GrantLookup := fun _ _ _ => false

namespace PolicyEngine

/-- The actor owns the record. -/
def isOwner (context : CommandContext) (resource : ResourceRef) : Bool :=
  context.actorUserId == resource.ownerUserId

/-- The record belongs to a workspace the actor is a member of. -/
def isInternalGroupResource (context : CommandContext) (resource : ResourceRef) : Bool :=
  context.roles.contains "shared_workspace_member" &&
    context.readableSharedOwnerUserIds.contains resource.ownerUserId

/-- `PolicyEngine.require`. -/
def require (engine : PolicyEngine) (context : CommandContext) (action : Action)
    (resource : ResourceRef) : Except PyError AuthorizedAction := do
  requireOrdinaryStorage resource.classification
  raiseIf (action ∈ [Action.use, .reveal, .export, .rotate])
    (.permissionDenied (action.value ++ " is unavailable for ordinary storage"))
  raiseIf (isOwner context resource = false ∧ isInternalGroupResource context resource = false ∧
      engine.grantLookup context.actorUserId action resource = false)
    (.permissionDenied "the actor has no grant for this resource")
  raiseIf (DataClassification.confidential ≤ resource.classification ∧
      context.requestChannel = .groupChat)
    (.permissionDenied "confidential resources are not available in group chat")
  raiseIf (DataClassification.confidential ≤ resource.classification ∧
      context.authentication < .stepUp)
    (.permissionDenied "step-up authentication is required")
  raiseIf (action = .grant ∧
      (context.authentication < .stepUp ∨ context.requestChannel ≠ .adminWeb))
    (.permissionDenied "ACL changes require admin step-up authentication")
  raiseIf (action = .delete ∧ context.confirmed = false)
    (.confirmationRequired "delete requires explicit confirmation")
  match context.now with
  | none => throw (.validation "policy evaluation requires an injected current time")
  | some authorizedAt =>
    return { actorUserId := context.actorUserId, action, resource, authorizedAt }

/-! ### When a request is granted -/

/-- The actor has a standing on the record: owner, member of the workspace
that owns it, or holder of an explicit grant. -/
def Standing (engine : PolicyEngine) (context : CommandContext) (action : Action)
    (resource : ResourceRef) : Prop :=
  isOwner context resource = true ∨ isInternalGroupResource context resource = true ∨
    engine.grantLookup context.actorUserId action resource = true

instance (engine : PolicyEngine) (context : CommandContext) (action : Action)
    (resource : ResourceRef) : Decidable (engine.Standing context action resource) :=
  inferInstanceAs (Decidable (_ ∨ _ ∨ _))

/-- The context may handle records of this classification: ordinary ones always,
confidential ones after a step-up and outside a group chat, others never. -/
def Handled (context : CommandContext) (classification : DataClassification) : Prop :=
  classification ≤ .confidential ∧
    (DataClassification.confidential ≤ classification →
      context.requestChannel ≠ .groupChat ∧ context.authentication = .stepUp)

instance (context : CommandContext) (classification : DataClassification) :
    Decidable (Handled context classification) :=
  inferInstanceAs (Decidable (_ ∧ (_ → _)))

/-- What the action itself asks of the context. -/
def ActionAllowed (context : CommandContext) (action : Action) : Prop :=
  action ∉ [Action.use, .reveal, .export, .rotate] ∧
    (action = .grant → context.authentication = .stepUp ∧ context.requestChannel = .adminWeb) ∧
    (action = .delete → context.confirmed = true)

/-- Anything below confidential is handled in every context. -/
theorem Handled.of_lt {context : CommandContext} {c : DataClassification}
    (h : c < .confidential) : Handled context c :=
  ⟨Nat.le_of_lt h, fun hc => absurd h (Nat.not_lt.mpr hc)⟩

theorem requireOrdinaryStorage_ok {c : DataClassification} {u : Unit} :
    requireOrdinaryStorage c = .ok u ↔ c ≤ .confidential :=
  raiseIf_eq_ok.trans Nat.not_lt

/-- **When a request is granted**, and what the capability then says. -/
theorem require_ok_iff {engine : PolicyEngine} {context : CommandContext} {action : Action}
    {resource : ResourceRef} {authorization : AuthorizedAction} :
    engine.require context action resource = .ok authorization ↔
      Handled context resource.classification ∧ engine.Standing context action resource ∧
        ActionAllowed context action ∧
        ∃ t, context.now = some t ∧
          authorization = ⟨context.actorUserId, action, resource, t⟩ := by
  -- the last link of the chain reads the injected clock
  have hnow : (match context.now with
      | none => throw (.validation "policy evaluation requires an injected current time")
      | some authorizedAt => return ⟨context.actorUserId, action, resource, authorizedAt⟩ :
        Except PyError AuthorizedAction) = .ok authorization ↔
      ∃ t, context.now = some t ∧
        authorization = ⟨context.actorUserId, action, resource, t⟩ := by
    cases context.now with
    | none => simp [throw, throwThe, MonadExceptOf.throw]
    | some t => simp [pure, Except.pure, eq_comm]
  unfold require
  rw [bind_eq_ok]
  simp only [requireOrdinaryStorage_ok, raiseIf_bind_ok, hnow, exists_const]
  -- each remaining guard is the negation of one conjunct on the right
  unfold Handled Standing ActionAllowed
  have hstrong : ∀ a : AuthenticationStrength, a < .stepUp ↔ a ≠ .stepUp := by
    intro a; cases a <;> decide
  simp only [hstrong]
  constructor
  · rintro ⟨hord, hact, hstand, hgroup, hstep, hgrant, hdelete, ht⟩
    refine ⟨⟨hord, fun hc => ⟨fun hg => hgroup ⟨hc, hg⟩, ?_⟩⟩, ?_, ⟨hact, ?_, ?_⟩, ht⟩
    · by_contra hne; exact hstep ⟨hc, hne⟩
    · by_contra hnone
      push Not at hnone
      simp only [Bool.not_eq_true] at hnone
      exact hstand hnone
    · intro ha
      by_contra hne
      exact hgrant ⟨ha, by tauto⟩
    · intro ha
      by_contra hne
      exact hdelete ⟨ha, by simpa using hne⟩
  · rintro ⟨⟨hord, hconf⟩, hstand, ⟨hact, hgrant, hdelete⟩, ht⟩
    refine ⟨hord, hact, ?_, fun h => (hconf h.1).1 h.2, fun h => h.2 (hconf h.1).2, ?_, ?_, ht⟩
    · rintro ⟨h1, h2, h3⟩
      rw [h1, h2, h3] at hstand
      simp at hstand
    · rintro ⟨ha, hne⟩
      obtain ⟨hs, hw⟩ := hgrant ha
      exact hne.elim (fun h => h hs) (fun h => h hw)
    · rintro ⟨ha, hf⟩
      rw [hdelete ha] at hf
      simp at hf

/-- An update asks nothing beyond standing and handling. -/
theorem actionAllowed_update (context : CommandContext) : ActionAllowed context .update :=
  ⟨by decide, by simp, by simp⟩

end PolicyEngine

end Zhixu
