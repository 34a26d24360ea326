import Zhixu.Web.Redelivery

/-!
# An event that was processed, delivered again

The receipt of an event is looked at behind the admission, so a repeated delivery runs
the admission in full before it is recognised. This file says exactly what that changes.

`SameDomain` compares two databases up to the times at which routes were last seen.
`Settled` is a condition on the database before the delivery, read off the branches of the
admission: the routes of the event are known under the kinds it reports, and the branch it
takes has nothing left to write (no code to issue or to consume, no attempt to record, no
user, identity or member to add).

The plan: each branch that is settled leaves the database as it is (`*_quiet`), and each
that is not leaves a mark (`*_marks`), a new audit event or a new member, that nothing
behind it takes back (`Marks.keeps`). Together with the observation of the routes this
makes one delivery change nothing if and only if it is settled (`event_same_iff`), and
`Settled` is a statement about the domain alone (`SameDomain.settled_iff`), so the same
holds of any number of deliveries (`replays_same_iff`).
-/

open Framework

namespace Zhixu

namespace InternalChannelAPI

/-! ### Up to the time of the last message -/

/-- A route without the time it was last seen. -/
def unseen (route : ChannelRoute) : ChannelRoute := { route with lastSeenAt := 0 }

/-- Two databases with the same data, apart from the times routes were last seen. -/
structure SameDomain (db db' : Database) : Prop where
  routes : ∀ k, (db'.channelRoutes.find? k).map unseen = (db.channelRoutes.find? k).map unseen
  activations : ∀ k, db'.groupActivationChallenges.find? k = db.groupActivationChallenges.find? k
  others : { db' with
    channelRoutes := db.channelRoutes
    groupActivationChallenges := db.groupActivationChallenges } = db

theorem SameDomain.refl (db : Database) : SameDomain db db := ⟨fun _ => rfl, fun _ => rfl, rfl⟩

theorem SameDomain.trans {db db' db'' : Database} (h : SameDomain db db')
    (h' : SameDomain db' db'') : SameDomain db db'' where
  routes k := (h'.routes k).trans (h.routes k)
  activations k := (h'.activations k).trans (h.activations k)
  others := by
    have heq := congrArg (fun x : Database => { x with
      channelRoutes := db.channelRoutes
      groupActivationChallenges := db.groupActivationChallenges }) h'.others
    exact heq.trans h.others

theorem SameDomain.symm {db db' : Database} (h : SameDomain db db') : SameDomain db' db where
  routes k := (h.routes k).symm
  activations k := (h.activations k).symm
  others := by
    have heq := congrArg (fun x : Database => { x with
      channelRoutes := db'.channelRoutes
      groupActivationChallenges := db'.groupActivationChallenges }) h.others
    exact heq.symm

/-- The second database is the first, with other routes and activation codes. -/
theorem SameDomain.exists_eq {db db' : Database} (h : SameDomain db db') :
    ∃ channelRoutes groupActivationChallenges,
      db' = { db with channelRoutes, groupActivationChallenges } := by
  refine ⟨db'.channelRoutes, db'.groupActivationChallenges, ?_⟩
  have heq := congrArg (fun x : Database => { x with
    channelRoutes := db'.channelRoutes
    groupActivationChallenges := db'.groupActivationChallenges }) h.others
  exact heq

/-! ### When a branch has nothing left to write -/

section Settled

variable (api : InternalChannelAPI) (delivery : Delivery) (event : InboundEvent)

/-- The reference of something of the event's account. -/
def refOf (kind value : String) : String :=
  api.references.reference kind [event.channel, event.channelAccount, value]

/-- A link code cannot be tried any more: there were five denied attempts. -/
def Throttled (userId : String) (db : Database) : Prop :=
  ∀ since, Instant.plus event.receivedAt (- Duration.minutes 10) = .ok since →
    5 ≤ ChannelRouteStore.deniedAttempts db userId since

/-- A member's message tries no link code, or is throttled. -/
def LinkSettled (route : ChannelRoute) (userId : String) (db : Database) : Prop :=
  codeAfter "/绑定私聊" (event.text.getD "") = none ∨ api.fieldCipher = none ∨
    route.sharedOwnerUserId = none ∨ Throttled event userId db

/-- The user of the event is a member already, or cannot become one. -/
def MemberSettled (route : ChannelRoute) (userId : String) (db : Database) : Prop :=
  UserRepository.isActive userId db = true →
    (ChannelRouteStore.isMember event.channel event.channelAccount event.externalConversationRef
        userId db = true ∧ LinkSettled api event route userId db) ∨
    (ChannelRouteStore.isMember event.channel event.channelAccount event.externalConversationRef
        userId db = false ∧ ∀ owner, route.ownerUserId = some owner → db.hasUser owner = false)

/-- A sender without an identity cannot be provisioned: the user is there, and the id of
the identity is taken. -/
def ProvisionSettled (route : ChannelRoute) (db : Database) : Prop :=
  api.fieldCipher = none ∨ route.ownerUserId = none ∨
    (db.hasUser (refOf api event "group_member" event.externalActorRef) = true ∧
      ∃ identity, db.externalIdentities.find? (refOf api event "identity" event.externalActorRef) =
        some identity)

/-- An event in a group, by its route. -/
def RouteSettled (route : Option ChannelRoute) (db : Database) : Prop :=
  ∀ r, route = some r → r.commandsEnabled = true → r.groupMode = .internal →
    (∀ identity, sender event db = some identity → MemberSettled api event r identity.userId db) ∧
      (sender event db = none → ProvisionSettled api event r db)

/-- The text brings no activation code that can be used. -/
def ActivationSettled (db : Database) : Prop :=
  ∀ code, codeAfter "/启用内部群" (event.text.getD "") = some code → api.fieldCipher ≠ none →
    ChannelRouteStore.usableActivation db (refOf api event "group_activation" code) event.channel
      event.channelAccount event.receivedAt = none

/-- A new activation code of a user would change nothing: its hash is in use, or the very
code is the only one that is out. -/
def IssueSettled (userId : String) (db : Database) : Prop :=
  ∀ expiresAt, Instant.plus event.receivedAt (Duration.minutes 10) = .ok expiresAt →
    let hash := refOf api event "group_activation" delivery.codeText
    let out := ChannelRouteStore.outstandingActivation userId event.channel event.channelAccount
    (∃ r, db.groupActivationChallenges.find? hash = some r ∧ out r = false) ∨
      (db.groupActivationChallenges.find? hash = some {
          codeHash := hash
          userId
          channel := event.channel
          channelAccount := event.channelAccount
          groupMode := .internal
          expiresAt
          consumedAt := none
          createdAt := event.receivedAt
          enabling := GroupMode.internal_enabling } ∧
        ∀ k r, db.groupActivationChallenges.find? k = some r → out r = true → k = hash)

/-- A new link code cannot be issued: its hash is in use by a code that stays. -/
def LinkIssueSettled (db : Database) : Prop :=
  ∀ expiresAt dayBefore, Instant.plus event.receivedAt (Duration.minutes 10) = .ok expiresAt →
    Instant.plus event.receivedAt (- Duration.days 1) = .ok dayBefore →
    ∃ r, db.privateLinkChallenges.find? (refOf api event "private_link" delivery.codeText) = some r ∧
      ChannelRouteStore.withdrawnLink event.channel event.channelAccount event.externalActorRef
        dayBefore r = false

/-- The admission of the event has nothing to write. -/
def AdmissionSettled (db : Database) : Prop :=
  if event.conversationKind = .group then
    api.triggered delivery event db = true →
      ActivationSettled api event db ∧ RouteSettled api event (conversation event db) db
  else
    (∀ identity, sender event db = some identity →
      UserRepository.isActive identity.userId db = true →
      strip (event.text.getD "") = "/登记内部群" →
      UserRepository.hasRole identity.userId "project_admin" db = true →
        IssueSettled api delivery event identity.userId db) ∧
    (sender event db = none → event.conversationKind = .privateChat →
      UserRepository.isActive "service:registration" db = true →
      strip (event.text.getD "") = "/申请绑定" → LinkIssueSettled api delivery event db)

/-- A route is known under a kind. -/
def RouteKnown (opaqueRef : String) (kind : RouteKind) (db : Database) : Prop :=
  (db.channelRoutes.find? (event.channel, event.channelAccount, opaqueRef)).map
    ChannelRoute.routeKind = some kind

/-- **A delivery of the event has nothing to write.** Its routes are known under the
kinds it reports, and its admission is settled. An event whose time does not exist in UTC
is refused before anything is written. -/
def Settled (db : Database) : Prop :=
  Instant.InRange event.receivedAt →
    RouteKnown event event.externalConversationRef (routeKindOf event.conversationKind) db ∧
      (event.externalActorRef ≠ event.externalConversationRef →
        RouteKnown event event.externalActorRef .actor db) ∧
      AdmissionSettled api delivery event db

end Settled

/-! ### Marks -/

/-- A change that shows for good: an audit event, or a new member of a group. -/
def Marks (db db' : Database) : Prop :=
  db.auditEvents.length < db'.auditEvents.length ∨
    ∃ k r, db.channelRouteMembers.find? k = none ∧ db'.channelRouteMembers.find? k = some r

/-- Nothing a group event does later removes a mark. -/
theorem Marks.keeps {db db' db'' : Database} (h : Marks db db') (h' : GroupKeeps db' db'') :
    Marks db db'' := by
  rcases h with haudit | ⟨k, r, hnone, hsome⟩
  · exact .inl (lt_of_lt_of_le haudit h'.audit)
  · exact .inr ⟨k, r, hnone, h'.members k r hsome⟩

theorem Marks.not_same {db db' : Database} (h : Marks db db') : ¬ SameDomain db db' := by
  intro hsame
  obtain ⟨routes, activations, rfl⟩ := hsame.exists_eq
  rcases h with haudit | ⟨k, r, hnone, hsome⟩
  · exact lt_irrefl _ haudit
  · change db.channelRouteMembers.find? k = some r at hsome
    rw [hnone] at hsome
    cases hsome

/-- One more audit event is a mark. -/
theorem marks_audit (db db₁ : Database) (event : AuditEvent)
    (h : db₁.auditEvents = db.auditEvents) : Marks db (db₁.audit event) := by
  refine .inl ?_
  simp [Database.audit, h]

/-! ### Writes that go through -/

theorem ne_empty_of_nonblank {s : String} (h : isBlank s = false) : s ≠ "" := by
  rintro rfl
  simp [isBlank] at h

section Steps

variable (api : InternalChannelAPI) (delivery : Delivery) (event : InboundEvent)

theorem create_eq {kind value : String} (hkind : kind ≠ "") (hvalue : value ≠ "") :
    api.references.create kind [event.channel, event.channelAccount, value] =
      .ok (refOf api event kind value) := by
  refine api.references.create_ok hkind fun hmem => ?_
  obtain ⟨-, hchannel, haccount, -, -⟩ := event.refs_nonblank
  simp only [List.mem_cons, List.not_mem_nil, or_false] at hmem
  rcases hmem with h | h | h
  · exact ne_empty_of_nonblank hchannel h.symm
  · exact ne_empty_of_nonblank haccount h.symm
  · exact hvalue h.symm

/-- A reference starts with its kind, so it is not blank. -/
theorem refOf_nonblank {kind value : String} (h : isBlank kind = false) :
    isBlank (refOf api event kind value) = false := by
  unfold isBlank at h ⊢
  unfold refOf OpaqueReferenceFactory.reference
  rw [String.toList_append, String.toList_append, List.all_append, List.all_append, h]
  rfl

theorem ownContext_ok {userId : String} (h : isBlank userId = false) (now : Instant) :
    ∃ context, ownContext userId now = .ok context ∧ context.actorUserId = userId ∧
      context.now = some now := by
  unfold ownContext CommandContext.checked
  rw [dif_pos h, dif_pos (by simp), dif_pos (by simp), dif_pos (by simp)]
  exact ⟨_, rfl, rfl, rfl⟩

/-- A user may create what is its own. -/
theorem require_own (db : Database) {context : CommandContext} {now : Instant}
    {ref : ResourceRef} (howner : ref.ownerUserId = context.actorUserId)
    (hnow : context.now = some now) (hclass : ref.classification = .personal) :
    ∃ authorization, db.policyEngine.require context .create ref = .ok authorization ∧
      authorization.action = .create ∧ authorization.resource = ref := by
  refine ⟨⟨context.actorUserId, .create, ref, now⟩, PolicyEngine.require_ok_iff.mpr ?_, rfl, rfl⟩
  refine ⟨.of_lt ?_, .inl ?_, ⟨by decide, by simp, by simp⟩, now, hnow, rfl⟩
  · rw [hclass]; decide
  · simp [PolicyEngine.isOwner, howner]

/-- Binding an identity comes down to its one transaction. -/
theorem bindIdentity_exec (cipher : FieldCipher) {userId opaqueRef : String}
    (huser : isBlank userId = false) (href : isBlank opaqueRef = false) (db : Database) :
    ∃ identity authorization, identity.id = refOf api event "identity" opaqueRef ∧
      identity.userId = userId ∧ identity.channel = event.channel ∧
      identity.channelAccount = event.channelAccount ∧ identity.opaqueRef = opaqueRef ∧
      (∃ u, requireAuthorization authorization .create "external_identity" identity.id
        identity.userId .personal = .ok u) ∧
      (api.bindIdentity delivery cipher event userId opaqueRef).exec db =
        (Effect.atomically (UserRepository.bindIdentity identity authorization)).exec db := by
  obtain ⟨-, hchannel, haccount, -, -⟩ := event.refs_nonblank
  have hid : api.references.create "identity" [event.channel, event.channelAccount, opaqueRef] =
      .ok (refOf api event "identity" opaqueRef) :=
    create_eq api event (by decide) (ne_empty_of_nonblank href)
  have hidBlank : isBlank (refOf api event "identity" opaqueRef) = false :=
    refOf_nonblank api event (by decide)
  obtain ⟨context, hcontext, hactor, hnow⟩ := ownContext_ok huser event.receivedAt
  have hencrypt : ∃ subject, cipher.encrypt delivery.nonce opaqueRef ("external-identity:" ++
      event.channel ++ ":" ++ event.channelAccount ++ ":" ++ opaqueRef) = .ok subject ∧
      startsWith subject "enc:" = true := by
    refine ⟨"enc:v1:" ++ cipher.token delivery.nonce opaqueRef ("external-identity:" ++
      event.channel ++ ":" ++ event.channelAccount ++ ":" ++ opaqueRef), ?_, ?_⟩
    · refine raiseIf_bind_ok.mpr ⟨fun h => ?_, rfl⟩
      have hlist := congrArg String.toList h
      simp at hlist
    · unfold startsWith
      rw [String.toList_append]
      rfl
  obtain ⟨subject, hsubject, hprefixed⟩ := hencrypt
  have hidentity : ∃ identity, ExternalIdentity.checked (refOf api event "identity" opaqueRef)
      userId event.channel event.channelAccount subject opaqueRef event.receivedAt =
        .ok identity ∧ identity.id = refOf api event "identity" opaqueRef ∧
        identity.userId = userId ∧ identity.channel = event.channel ∧
        identity.channelAccount = event.channelAccount ∧ identity.opaqueRef = opaqueRef := by
    unfold ExternalIdentity.checked
    rw [dif_pos hprefixed, dif_pos ⟨hidBlank, huser, hchannel, haccount, href⟩]
    exact ⟨_, rfl, rfl, rfl, rfl, rfl, rfl⟩
  obtain ⟨identity, hchecked, hidEq, huserEq, hchannelEq, haccountEq, hrefEq⟩ := hidentity
  have hresource : ∃ ref, ResourceRef.checked "external_identity"
      (refOf api event "identity" opaqueRef) userId .personal = .ok ref := by
    unfold ResourceRef.checked
    rw [dif_pos ⟨by decide, hidBlank, huser⟩]
    exact ⟨_, rfl⟩
  obtain ⟨ref, hrefOk⟩ := hresource
  obtain ⟨hkind, hrefId, howner, hclass⟩ := ResourceRef.checked_ok.mp hrefOk
  obtain ⟨authorization, hrequire, haction, hauthorized⟩ :=
    require_own db (howner.trans hactor.symm) hnow hclass
  refine ⟨identity, authorization, hidEq, huserEq, hchannelEq, haccountEq, hrefEq, ?_, ?_⟩
  · refine ⟨⟨⟩, requireAuthorization_ok.mpr ⟨haction, ?_⟩⟩
    rw [hidEq, huserEq, hauthorized]
    exact hrefOk
  · unfold InternalChannelAPI.bindIdentity
    rw [Effect.exec_check_bind, hid]
    simp only
    rw [Effect.exec_check_bind, hcontext]
    simp only
    rw [Effect.exec_check_bind, hsubject]
    simp only
    rw [Effect.exec_check_bind, hchecked]
    simp only
    rw [Effect.exec_check_bind, hrefOk]
    simp only
    rw [Effect.exec_bind, Effect.exec_query, hrequire]

/-- An identity whose id is taken is not bound. -/
theorem bindIdentity_taken (cipher : FieldCipher) {userId opaqueRef : String}
    (huser : isBlank userId = false) (href : isBlank opaqueRef = false) {db : Database}
    {known : ExternalIdentity}
    (hknown : db.externalIdentities.find? (refOf api event "identity" opaqueRef) = some known) :
    (api.bindIdentity delivery cipher event userId opaqueRef).exec db =
      (.error integrityConflict, db) := by
  obtain ⟨identity, authorization, hid, -, -, -, -, ⟨_, hauth⟩, hexec⟩ :=
    bindIdentity_exec api delivery event cipher huser href db
  have hinsert : db.externalIdentities.insert? identity = none :=
    Table.insert?_eq_none.mpr ⟨known, by rw [hid]; exact hknown⟩
  rw [hexec]
  refine Effect.exec_atomically_raises ?_
  change UserRepository.bindIdentity identity authorization db = _
  unfold UserRepository.bindIdentity
  rw [hauth, hinsert]
  -- the place of the identity is looked at first; either way it is a conflict
  change (raiseIf _ integrityConflict >>= fun _ => _) = _
  unfold raiseIf
  by_cases hplace : (UserRepository.identityByOpaqueRef identity.channel identity.channelAccount
      identity.opaqueRef db).isSome = true ∨ db.hasUser identity.userId = false
  · rw [if_pos hplace]; rfl
  · rw [if_neg hplace]; rfl

/-- An identity that is free is bound. -/
theorem bindIdentity_free (cipher : FieldCipher) {userId opaqueRef : String}
    (huser : isBlank userId = false) (href : isBlank opaqueRef = false) {db : Database}
    (hplace : UserRepository.identityByOpaqueRef event.channel event.channelAccount opaqueRef db =
      none) (hknown : db.hasUser userId = true)
    (hfree : db.externalIdentities.find? (refOf api event "identity" opaqueRef) = none) :
    ∃ db', (api.bindIdentity delivery cipher event userId opaqueRef).exec db = (.ok ⟨⟩, db') ∧
      Marks db db' := by
  obtain ⟨identity, authorization, hid, huserEq, hchannel, haccount, hrefEq, ⟨_, hauth⟩, hexec⟩ :=
    bindIdentity_exec api delivery event cipher huser href db
  cases hinsert : db.externalIdentities.insert? identity with
  | none =>
    obtain ⟨r, hr⟩ := Table.insert?_eq_none.mp hinsert
    rw [hid, hfree] at hr
    cases hr
  | some identities =>
    refine ⟨Database.auditAction { db with externalIdentities := identities } authorization, ?_,
      marks_audit _ _ _ rfl⟩
    rw [hexec, Effect.exec_atomically_ok]
    change UserRepository.bindIdentity identity authorization db = _
    unfold UserRepository.bindIdentity
    refine bind_eq_ok.mpr ⟨_, hauth, raiseIf_bind_ok.mpr ⟨?_, ?_⟩⟩
    · rw [hchannel, haccount, hrefEq, hplace, huserEq, hknown]
      simp
    · rw [hinsert]
      rfl

/-! ### Group members -/

theorem createMember_known {memberId : String} (hmember : isBlank memberId = false)
    {db : Database} (hknown : db.hasUser memberId = true) (now : Instant) :
    (createMember memberId now).exec db = (.ok ⟨⟩, db) := by
  obtain ⟨context, hcontext, -, -⟩ := ownContext_ok hmember now
  have hget : (UserRepository.get memberId db).isSome = true := hknown
  unfold createMember
  rw [Effect.exec_check_bind, hcontext]
  simp only [Effect.exec_reads_bind, hget, if_true]
  rfl

theorem createMember_new {memberId : String} (hmember : isBlank memberId = false)
    {db : Database} (hunknown : db.hasUser memberId = false) (now : Instant) :
    ∃ db', (createMember memberId now).exec db = (.ok ⟨⟩, db') ∧ Marks db db' := by
  obtain ⟨context, hcontext, hactor, hnow⟩ := ownContext_ok hmember now
  have hget : (UserRepository.get memberId db).isSome = false := hunknown
  have hresource : ∃ ref, ResourceRef.checked "user" memberId memberId .personal = .ok ref := by
    unfold ResourceRef.checked
    rw [dif_pos ⟨by decide, hmember, hmember⟩]
    exact ⟨_, rfl⟩
  obtain ⟨ref, href⟩ := hresource
  obtain ⟨-, -, howner, hclass⟩ := ResourceRef.checked_ok.mp href
  obtain ⟨authorization, hrequire, haction, hauthorized⟩ :=
    require_own db (howner.trans hactor.symm) hnow hclass
  cases hinsert : db.users.insert? ⟨memberId, "QQ group member", true⟩ with
  | none =>
    obtain ⟨r, hr⟩ := Table.insert?_eq_none.mp hinsert
    unfold Database.hasUser at hunknown
    rw [hr] at hunknown
    cases hunknown
  | some users =>
    refine ⟨Database.auditAction { db with users } authorization, ?_, marks_audit _ _ _ rfl⟩
    unfold createMember
    rw [Effect.exec_check_bind, hcontext]
    simp only [Effect.exec_reads_bind, hget]
    change (Effect.check (ResourceRef.checked "user" memberId memberId .personal) >>= _).exec db = _
    rw [Effect.exec_check_bind, href]
    simp only
    rw [Effect.exec_bind, Effect.exec_query, hrequire]
    change (Effect.atomically _).exec db = _
    rw [Effect.exec_atomically_ok]
    change UserRepository.create _ authorization db = _
    unfold UserRepository.create
    refine raiseIf_bind_ok.mpr ⟨by simp [hmember], raiseIf_bind_ok.mpr ⟨?_, ?_⟩⟩
    · simp only
      decide
    · refine bind_eq_ok.mpr ⟨⟨⟩, requireAuthorization_ok.mpr ⟨haction, ?_⟩, ?_⟩
      · rw [hauthorized]
        exact href
      · rw [hinsert]
        rfl

/-- `bindMember` runs its bind first, and enrols whoever is bound. -/
theorem exec_bindMember_ok (cipher : FieldCipher) (route : ChannelRoute)
    (memberId ownerUserId : String) {db db' : Database}
    (h : (api.bindIdentity delivery cipher event memberId event.externalActorRef).exec db =
      (.ok ⟨⟩, db')) :
    (api.bindMember delivery cipher event route memberId ownerUserId).exec db =
      (enrolMember event route memberId ownerUserId).exec db' := by
  unfold bindMember
  rw [Effect.exec_bind, exec_onConflict, Effect.exec_bind, h]
  rfl

theorem provision_quiet {route : ChannelRoute} {db : Database}
    (hsettled : ProvisionSettled api event route db) (hsender : sender event db = none) :
    ((api.provisionGroupMember delivery event route).exec db).1 = .ok none ∧
      ((api.provisionGroupMember delivery event route).exec db).2 = db := by
  obtain ⟨-, -, -, hactor, -⟩ := event.refs_nonblank
  unfold provisionGroupMember
  cases hcipher : api.fieldCipher with
  | none => exact ⟨rfl, rfl⟩
  | some cipher =>
    cases howner : route.ownerUserId with
    | none => exact ⟨rfl, rfl⟩
    | some ownerUserId =>
      rcases hsettled with h | h | ⟨hknown, identity, htaken⟩
      · rw [hcipher] at h; cases h
      · rw [howner] at h; cases h
      · have hmember : isBlank (refOf api event "group_member" event.externalActorRef) = false :=
          refOf_nonblank api event (by decide)
        have hbind := bindIdentity_taken api delivery event cipher hmember hactor htaken
        simp only
        rw [Effect.exec_check_bind, create_eq api event (by decide) (ne_empty_of_nonblank hactor)]
        simp only
        rw [Effect.exec_bind, exec_onConflict, Effect.exec_bind,
          createMember_known hmember hknown]
        simp only [Effect.exec_pure, if_true]
        unfold bindMember
        rw [Effect.exec_bind, exec_onConflict, Effect.exec_bind, hbind]
        -- the conflict is looked into, and there is no identity of this sender
        have hconflict : integrityConflict.isConflict = true := rfl
        simp only [hconflict, if_true, Effect.exec_reads, hsender, Option.any_none]
        exact ⟨rfl, rfl⟩

theorem provision_marks {route : ChannelRoute} {db : Database}
    (hunsettled : ¬ ProvisionSettled api event route db) (hsender : sender event db = none) :
    Marks db ((api.provisionGroupMember delivery event route).exec db).2 := by
  obtain ⟨-, -, -, hactor, -⟩ := event.refs_nonblank
  unfold ProvisionSettled at hunsettled
  push Not at hunsettled
  obtain ⟨hcipher, howner, hfree⟩ := hunsettled
  obtain ⟨cipher, hcipher⟩ := Option.ne_none_iff_exists'.mp hcipher
  obtain ⟨ownerUserId, howner⟩ := Option.ne_none_iff_exists'.mp howner
  have hmember : isBlank (refOf api event "group_member" event.externalActorRef) = false :=
    refOf_nonblank api event (by decide)
  unfold provisionGroupMember
  simp only [hcipher, howner]
  rw [Effect.exec_check_bind, create_eq api event (by decide) (ne_empty_of_nonblank hactor)]
  simp only
  rw [Effect.exec_bind, exec_onConflict, Effect.exec_bind]
  cases hknown : db.hasUser (refOf api event "group_member" event.externalActorRef) with
  | false =>
    -- the user is created, and what follows keeps the mark
    obtain ⟨db', hcreate, hmark⟩ := createMember_new hmember hknown event.receivedAt
    rw [hcreate]
    exact hmark.keeps (bindMember_within api delivery event cipher route _ _ db')
  | true =>
    rw [createMember_known hmember hknown]
    have hidentity : db.externalIdentities.find?
        (refOf api event "identity" event.externalActorRef) = none := by
      cases hfind : db.externalIdentities.find?
          (refOf api event "identity" event.externalActorRef) with
      | none => rfl
      | some identity => exact absurd hfind (hfree hknown identity)
    obtain ⟨db', hbind, hmark⟩ :=
      bindIdentity_free api delivery event cipher hmember hactor hsender hknown hidentity
    change Marks db ((api.bindMember delivery cipher event route _ _).exec db).2
    rw [exec_bindMember_ok api delivery event cipher route _ _ hbind]
    exact hmark.keeps (enrolMember_within event route _ _ db')

/-! ### Members of an internal group -/

theorem consumePrivateLink_throttled {userId : String} (codeHash : String) {db : Database}
    (h : Throttled event userId db) :
    ((Effect.atomically (ChannelRouteStore.consumePrivateLink codeHash event.channel
      event.channelAccount userId event.receivedAt)).exec db).2 = db ∧
    ∀ found, ((Effect.atomically (ChannelRouteStore.consumePrivateLink codeHash event.channel
      event.channelAccount userId event.receivedAt)).exec db).1 = .ok found → found = none := by
  cases hrun : (ChannelRouteStore.consumePrivateLink codeHash event.channel event.channelAccount
      userId event.receivedAt).run db with
  | error e =>
    rw [Effect.exec_atomically_raises hrun]
    exact ⟨rfl, fun _ h => by cases h⟩
  | ok out =>
    obtain ⟨found, db'⟩ := out
    rw [Effect.exec_atomically_ok.mpr hrun]
    rcases ChannelRouteStore.consumePrivateLink_ok hrun with
      ⟨_, -, -, rfl, rfl⟩ | ⟨hopen, -⟩
    · exact ⟨rfl, fun _ h => (Except.ok.inj h).symm⟩
    · -- a throttled user is not let through
      exfalso
      change ChannelRouteStore.consumePrivateLink codeHash event.channel event.channelAccount
        userId event.receivedAt db = _ at hrun
      unfold ChannelRouteStore.consumePrivateLink at hrun
      obtain ⟨_, -, hrun⟩ := bind_eq_ok.mp hrun
      obtain ⟨since, hsince, -⟩ := bind_eq_ok.mp hrun
      exact hopen since hsince (h since hsince)

theorem consumePrivateLink_marks {userId : String} (codeHash : String) {db : Database}
    (hrange : Instant.InRange event.receivedAt) (h : ¬ Throttled event userId db) :
    ∃ found db', (Effect.atomically (ChannelRouteStore.consumePrivateLink codeHash event.channel
      event.channelAccount userId event.receivedAt)).exec db = (.ok found, db') ∧ Marks db db' := by
  unfold Throttled at h
  push Not at h
  obtain ⟨since, hsince, hfew⟩ := h
  have hfew : ¬ 5 ≤ ChannelRouteStore.deniedAttempts db userId since := by omega
  have hrun : ∃ found db', (ChannelRouteStore.consumePrivateLink codeHash event.channel
      event.channelAccount userId event.receivedAt).run db = .ok (found, db') ∧ Marks db db' := by
    have hutc : ChannelRouteStore.utcText event.receivedAt = .ok ⟨⟩ :=
      ChannelRouteStore.utcText_ok.mpr hrange
    change ∃ found db', ChannelRouteStore.consumePrivateLink codeHash event.channel
      event.channelAccount userId event.receivedAt db = .ok (found, db') ∧ Marks db db'
    unfold ChannelRouteStore.consumePrivateLink
    rw [hutc, hsince]
    change ∃ found db', (if 5 ≤ ChannelRouteStore.deniedAttempts db userId since then _ else _) =
      _ ∧ _
    rw [if_neg hfew]
    cases ChannelRouteStore.usableLink db codeHash event.channel event.channelAccount
        event.receivedAt with
    | none => exact ⟨_, _, rfl, marks_audit _ _ _ rfl⟩
    | some challenge => exact ⟨_, _, rfl, marks_audit _ _ _ rfl⟩
  obtain ⟨found, db', hok, hmark⟩ := hrun
  exact ⟨found, db', Effect.exec_atomically_ok.mpr hok, hmark⟩

theorem admitted_quiet {route : ChannelRoute} {userId : String} {db : Database}
    (h : LinkSettled api event route userId db) :
    ((api.admitted delivery event route userId).exec db).2 = db := by
  unfold admitted
  cases hshared : route.sharedOwnerUserId with
  | none => rfl
  | some sharedOwnerUserId =>
    simp only
    cases hcode : codeAfter "/绑定私聊" (event.text.getD "") with
    | none => rfl
    | some code =>
      simp only
      unfold bindPrivateIdentity
      cases hcipher : api.fieldCipher with
      | none => rfl
      | some cipher =>
        have hthrottled : Throttled event userId db := by
          rcases h with h | h | h | h
          · rw [hcode] at h; cases h
          · rw [hcipher] at h; cases h
          · rw [hshared] at h; cases h
          · exact h
        simp only [hshared]
        rw [Effect.exec_check_bind]
        cases api.references.create "private_link" [event.channel, event.channelAccount, code] with
        | error e => rfl
        | ok codeHash =>
          simp only
          obtain ⟨hsame, hnone⟩ := consumePrivateLink_throttled event codeHash hthrottled
          rw [Effect.exec_bind]
          rcases hr : (Effect.atomically (ChannelRouteStore.consumePrivateLink codeHash
            event.channel event.channelAccount userId event.receivedAt)).exec db with ⟨r, db'⟩
          rw [hr] at hsame hnone
          cases r with
          | error e => exact hsame
          | ok found =>
            obtain rfl := hnone found rfl
            exact hsame

theorem codeAfter_ne_empty {command text code : String} (h : codeAfter command text = some code) :
    code ≠ "" := by
  unfold codeAfter at h
  simp only at h
  by_cases hprefix₀ : command.toList.isPrefixOf (strip text).toList = true
  · rw [if_pos hprefix₀] at h
    by_cases hdigits : ((List.drop command.toList.length (strip text).toList).dropWhile
        isSpace).length < (List.drop command.toList.length (strip text).toList).length ∧
        ((List.drop command.toList.length (strip text).toList).dropWhile isSpace).length = 8 ∧
        ((List.drop command.toList.length (strip text).toList).dropWhile isSpace).all
          (fun c => (decimalValue c).isSome) = true
    · rw [if_pos hdigits] at h
      rintro rfl
      have hlist := congrArg String.toList (Option.some.inj h)
      rw [String.toList_ofList] at hlist
      have hlength := hdigits.2.1
      rw [hlist] at hlength
      simp at hlength
    · rw [if_neg hdigits] at h
      cases h
  · rw [if_neg hprefix₀] at h
    cases h

theorem admitted_marks {route : ChannelRoute} {userId : String} {db : Database}
    (hrange : Instant.InRange event.receivedAt)
    (h : ¬ LinkSettled api event route userId db) :
    Marks db ((api.admitted delivery event route userId).exec db).2 := by
  unfold LinkSettled at h
  push Not at h
  obtain ⟨hcode, hcipher, hshared, hthrottled⟩ := h
  obtain ⟨code, hcode⟩ := Option.ne_none_iff_exists'.mp hcode
  obtain ⟨cipher, hcipher⟩ := Option.ne_none_iff_exists'.mp hcipher
  obtain ⟨sharedOwnerUserId, hshared⟩ := Option.ne_none_iff_exists'.mp hshared
  unfold admitted bindPrivateIdentity
  simp only [hshared, hcode, hcipher]
  rw [Effect.exec_check_bind, create_eq api event (by decide) (codeAfter_ne_empty hcode)]
  simp only
  obtain ⟨found, db', hconsume, hmark⟩ := consumePrivateLink_marks event
    (refOf api event "private_link" code) hrange hthrottled
  rw [Effect.exec_bind, hconsume]
  cases found with
  | none => exact hmark
  | some privateActorRef =>
    refine hmark.keeps (?_ : GroupKeeps db' _)
    exact linkPrivate_within api delivery event cipher userId _ sharedOwnerUserId
      privateActorRef db'

/-- The route of the conversation is stored under its key. -/
theorem conversation_key {route : ChannelRoute} {db : Database}
    (h : conversation event db = some route) :
    route.channel = event.channel ∧ route.channelAccount = event.channelAccount ∧
      route.opaqueRef = event.externalConversationRef := by
  have hkey := Table.key_of_find? h
  unfold ChannelRoute.key at hkey
  simp only [Prod.mk.injEq] at hkey
  exact hkey

theorem addMember_marks {route : ChannelRoute} {userId ownerUserId : String} {db : Database}
    (hrange : Instant.InRange event.receivedAt) (hroute : conversation event db = some route)
    (hinternal : route.groupMode = .internal) (huser : db.hasUser userId = true)
    (howner : db.hasUser ownerUserId = true)
    (hmember : ChannelRouteStore.isMember event.channel event.channelAccount
      event.externalConversationRef userId db = false) :
    ∃ db', (Effect.atomically (ChannelRouteStore.addMember route userId ownerUserId
      event.receivedAt)).exec db = (.ok ⟨⟩, db') ∧ Marks db db' := by
  obtain ⟨hchannel, haccount, href⟩ := conversation_key event hroute
  have hutc : ChannelRouteStore.utcText event.receivedAt = .ok ⟨⟩ :=
    ChannelRouteStore.utcText_ok.mpr hrange
  generalize hrow : ({
    channel := route.channel
    channelAccount := route.channelAccount
    opaqueRef := route.opaqueRef
    userId, addedByUserId := ownerUserId
    createdAt := event.receivedAt } : RouteMember) = row
  have hkey : row.key = (event.channel, event.channelAccount, event.externalConversationRef,
      userId) := by
    rw [← hrow]
    unfold RouteMember.key
    rw [hchannel, haccount, href]
  have hfree : db.channelRouteMembers.find? row.key = none := by
    unfold ChannelRouteStore.isMember at hmember
    rw [hkey]
    exact Option.isSome_eq_false_iff.mp hmember |> Option.isNone_iff_eq_none.mp
  cases hinsert : db.channelRouteMembers.insert? row with
  | none =>
    obtain ⟨r, hr⟩ := Table.insert?_eq_none.mp hinsert
    rw [hfree] at hr
    cases hr
  | some members =>
    refine ⟨{ db with channelRouteMembers := members }, ?_,
      .inr ⟨row.key, row, hfree, ?_⟩⟩
    · rw [Effect.exec_atomically_ok]
      change ChannelRouteStore.addMember route userId ownerUserId event.receivedAt db = _
      unfold ChannelRouteStore.addMember
      rw [hrow, hutc]
      refine raiseIf_bind_ok.mpr ⟨not_not.mpr hinternal, bind_eq_ok.mpr ⟨⟨⟩, rfl, ?_⟩⟩
      refine bind_eq_ok.mpr ⟨{ db with channelRouteMembers := members }, ?_, rfl⟩
      unfold ChannelRouteStore.insertMember
      rw [hinsert]
      refine raiseIf_bind_ok.mpr ⟨?_, rfl⟩
      have hget : ChannelRouteStore.get row.channel row.channelAccount row.opaqueRef db =
          some route := by
        rw [← hrow, hchannel, haccount, href]
        exact hroute
      rw [hget, ← hrow, huser, howner]
      simp
    · change members.find? row.key = some row
      rw [Table.find?_insert hinsert, if_pos rfl]

/-- A user without an owner to add it is not added. -/
theorem addMember_refused {route : ChannelRoute} {userId ownerUserId : String} {db : Database}
    (hroute : conversation event db = some route)
    (howner : db.hasUser ownerUserId = false)
    (hmember : ChannelRouteStore.isMember event.channel event.channelAccount
      event.externalConversationRef userId db = false) :
    ∃ e, (Effect.atomically (ChannelRouteStore.addMember route userId ownerUserId
      event.receivedAt)).exec db = (.error e, db) := by
  obtain ⟨hchannel, haccount, href⟩ := conversation_key event hroute
  cases hrun : (ChannelRouteStore.addMember route userId ownerUserId event.receivedAt).run db with
  | error e => exact ⟨e, Effect.exec_atomically_raises hrun⟩
  | ok out =>
    have hinsert := ChannelRouteStore.addMember_ok hrun
    unfold ChannelRouteStore.isMember at hmember
    unfold ChannelRouteStore.insertMember at hinsert
    cases hrow : db.channelRouteMembers.insert? {
        channel := route.channel
        channelAccount := route.channelAccount
        opaqueRef := route.opaqueRef
        userId, addedByUserId := ownerUserId
        createdAt := event.receivedAt } with
    | none =>
      obtain ⟨r, hr⟩ := Table.insert?_eq_none.mp hrow
      simp only [RouteMember.key, hchannel, haccount, href] at hr
      rw [hr] at hmember
      cases hmember
    | some members =>
      rw [hrow] at hinsert
      obtain ⟨hfk, -⟩ := raiseIf_bind_ok.mp hinsert
      exact absurd (.inr (.inr howner)) hfk

theorem hasUser_of_active {userId : String} {db : Database}
    (h : UserRepository.isActive userId db = true) : db.hasUser userId = true := by
  unfold UserRepository.isActive UserRepository.get at h
  unfold Database.hasUser
  cases hfind : db.users.find? userId with
  | none => rw [hfind] at h; cases h
  | some user => rfl

theorem admitMember_quiet {route : ChannelRoute} {userId : String} {db : Database}
    (hroute : conversation event db = some route)
    (h : MemberSettled api event route userId db) :
    ((api.admitMember delivery event route userId).exec db).2 = db := by
  unfold admitMember
  simp only [Effect.exec_reads_bind]
  cases hactive : UserRepository.isActive userId db with
  | false => rfl
  | true =>
    rcases h hactive with ⟨hmember, hlink⟩ | ⟨hmember, howner⟩
    · rw [hmember]
      exact admitted_quiet api delivery event hlink
    · rw [hmember]
      cases hownerId : route.ownerUserId with
      | none => rfl
      | some ownerUserId =>
        obtain ⟨e, hrefused⟩ := addMember_refused event hroute (howner ownerUserId hownerId) hmember
        simp only
        rw [Effect.exec_bind, hrefused]

theorem admitMember_marks {route : ChannelRoute} {userId : String} {db : Database}
    (hrange : Instant.InRange event.receivedAt) (hroute : conversation event db = some route)
    (hinternal : route.groupMode = .internal)
    (h : ¬ MemberSettled api event route userId db) :
    Marks db ((api.admitMember delivery event route userId).exec db).2 := by
  unfold MemberSettled at h
  push Not at h
  obtain ⟨hactive, hlink, howner⟩ := h
  unfold admitMember
  simp only [Effect.exec_reads_bind, hactive]
  cases hmember : ChannelRouteStore.isMember event.channel event.channelAccount
      event.externalConversationRef userId db with
  | true => exact admitted_marks api delivery event hrange (hlink hmember)
  | false =>
    obtain ⟨ownerUserId, hownerId, hknown⟩ := howner hmember
    have hknown : db.hasUser ownerUserId = true := by simpa using hknown
    obtain ⟨db', hadd, hmark⟩ := addMember_marks event hrange hroute hinternal
      (hasUser_of_active hactive) hknown hmember
    simp only [hownerId]
    rw [Effect.exec_bind, hadd]
    exact hmark.keeps (admitted_within api delivery event route userId db')

/-! ### Groups -/

theorem admitRoute_quiet {route : Option ChannelRoute} {db : Database}
    (hroute : conversation event db = route) (h : RouteSettled api event route db) :
    ((api.admitRoute delivery event route).exec db).2 = db := by
  unfold admitRoute
  cases route with
  | none => rfl
  | some route =>
    simp only
    by_cases hoff : route.commandsEnabled = false ∨ route.groupMode = .disabled
    · rw [if_pos hoff]; rfl
    · rw [if_neg hoff]
      by_cases hpublic : route.groupMode = .publicMode
      · rw [if_pos hpublic]
        unfold admitPublic
        simp only [Effect.exec_reads_bind]
        by_cases hserved : (route.ownerUserId.any fun owner =>
            UserRepository.isActive owner db) = true
        · rw [if_pos hserved, Effect.exec_check_bind]
          cases api.assistant.route (event.text.getD "") with
          | error e => rfl
          | ok intent =>
            by_cases hintent : intent = some .help ∨ intent = some .answer
            · simp only [if_pos hintent]; rfl
            · simp only [if_neg hintent]; rfl
        · rw [if_neg hserved]; rfl
      · rw [if_neg hpublic]
        push Not at hoff
        have hinternal : route.groupMode = .internal := by
          cases hmode : route.groupMode with
          | internal => rfl
          | disabled => exact absurd hmode hoff.2
          | publicMode => exact absurd hmode hpublic
        obtain ⟨hmember, hprovision⟩ := h route rfl (by simpa using hoff.1) hinternal
        unfold admitInternal
        simp only [Effect.exec_reads_bind]
        cases hsender : sender event db with
        | some identity =>
          exact admitMember_quiet api delivery event hroute (hmember identity hsender)
        | none =>
          obtain ⟨hnone, hsame⟩ :=
            provision_quiet api delivery event (hprovision hsender) hsender
          simp only
          rw [Effect.exec_bind]
          rcases hr : (api.provisionGroupMember delivery event route).exec db with ⟨r, db'⟩
          rw [hr] at hnone hsame
          simp only at hnone hsame
          subst hnone hsame
          rfl

theorem admitRoute_marks {route : Option ChannelRoute} {db : Database}
    (hrange : Instant.InRange event.receivedAt) (hroute : conversation event db = route)
    (h : ¬ RouteSettled api event route db) :
    Marks db ((api.admitRoute delivery event route).exec db).2 := by
  unfold RouteSettled at h
  push Not at h
  obtain ⟨r, rfl, henabled, hinternal, hwrites⟩ := h
  have hoff : ¬ (r.commandsEnabled = false ∨ r.groupMode = .disabled) := by
    rw [henabled, hinternal]; decide
  have hpublic : ¬ r.groupMode = .publicMode := by rw [hinternal]; decide
  unfold admitRoute
  simp only
  rw [if_neg hoff, if_neg hpublic]
  unfold admitInternal
  simp only [Effect.exec_reads_bind]
  cases hsender : sender event db with
  | some identity =>
    -- the sender is known, so it is its membership that writes
    refine admitMember_marks api delivery event hrange hroute hinternal fun hmember => ?_
    obtain ⟨hnone, -⟩ := hwrites fun identity' hidentity' => by
      rw [hsender] at hidentity'
      exact Option.some.inj hidentity' ▸ hmember
    rw [hsender] at hnone
    cases hnone
  | none =>
    have hunsettled : ¬ ProvisionSettled api event r db :=
      (hwrites fun identity hidentity => by rw [hsender] at hidentity; cases hidentity).2
    have hmark := provision_marks api delivery event hunsettled hsender
    simp only
    rw [Effect.exec_bind]
    rcases hr : (api.provisionGroupMember delivery event r).exec db with ⟨answer, db'⟩
    rw [hr] at hmark
    cases answer with
    | error e => exact hmark
    | ok provisioned =>
      cases provisioned with
      | none => exact hmark
      | some identity =>
        exact hmark.keeps (admitMember_within api delivery event r identity.userId db')

/-- An activation code that cannot be used changes nothing. -/
theorem activateGroup_quiet {code : String} {db : Database}
    (hrange : Instant.InRange event.receivedAt) (hcode : code ≠ "")
    (h : api.fieldCipher ≠ none →
      ChannelRouteStore.usableActivation db (refOf api event "group_activation" code)
        event.channel event.channelAccount event.receivedAt = none) :
    (api.activateGroup delivery event code).exec db = (.ok none, db) := by
  unfold activateGroup
  cases hcipher : api.fieldCipher with
  | none => rfl
  | some cipher =>
    have hunusable := h (by rw [hcipher]; simp)
    have hrun : (ChannelRouteStore.consumeActivation (refOf api event "group_activation" code)
        event.channel event.channelAccount event.receivedAt).run db = .ok (none, db) := by
      have hutc : ChannelRouteStore.utcText event.receivedAt = .ok ⟨⟩ :=
        ChannelRouteStore.utcText_ok.mpr hrange
      change ChannelRouteStore.consumeActivation (refOf api event "group_activation" code)
        event.channel event.channelAccount event.receivedAt db = _
      unfold ChannelRouteStore.consumeActivation
      rw [hutc, hunusable]
      rfl
    simp only
    rw [Effect.exec_check_bind, create_eq api event (by decide) hcode]
    simp only
    rw [Effect.exec_bind, Effect.exec_atomically_ok.mpr hrun]
    rfl

/-- An activation code that can be used is used up, whatever follows. -/
theorem activateGroup_consumes {code : String} {db : Database} {cipher : FieldCipher}
    {challenge : GroupActivationChallenge} (hrange : Instant.InRange event.receivedAt)
    (hcode : code ≠ "") (hcipher : api.fieldCipher = some cipher)
    (husable : ChannelRouteStore.usableActivation db (refOf api event "group_activation" code)
      event.channel event.channelAccount event.receivedAt = some challenge) :
    ∃ r, (((api.activateGroup delivery event code).exec db).2.groupActivationChallenges.find?
        (refOf api event "group_activation" code)) = some r ∧ r.consumedAt ≠ none ∧
      ∃ r', db.groupActivationChallenges.find? (refOf api event "group_activation" code) =
        some r' ∧ r'.consumedAt = none := by
  -- the challenge is in the table, and nobody has used it
  have hfound : db.groupActivationChallenges.find? (refOf api event "group_activation" code) =
      some challenge ∧ challenge.consumedAt = none := by
    unfold ChannelRouteStore.usableActivation at husable
    obtain ⟨hfind, hcond⟩ := Option.filter_eq_some_iff.mp husable
    simp only [Bool.and_eq_true] at hcond
    exact ⟨hfind, Option.isNone_iff_eq_none.mp hcond.1.2⟩
  obtain ⟨hfind, hunused⟩ := hfound
  unfold activateGroup
  simp only [hcipher]
  rw [Effect.exec_check_bind, create_eq api event (by decide) hcode]
  simp only
  generalize hdb' : ({ db with
    groupActivationChallenges := db.groupActivationChallenges.updateWhere
      (fun c => c.codeHash = refOf api event "group_activation" code && c.consumedAt.isNone)
      fun c => { c with consumedAt := some event.receivedAt } } : Database) = db'
  have hrun : (ChannelRouteStore.consumeActivation (refOf api event "group_activation" code)
      event.channel event.channelAccount event.receivedAt).run db =
        .ok (some (challenge.userId, challenge.groupMode), db') := by
    have hutc : ChannelRouteStore.utcText event.receivedAt = .ok ⟨⟩ :=
      ChannelRouteStore.utcText_ok.mpr hrange
    change ChannelRouteStore.consumeActivation (refOf api event "group_activation" code)
      event.channel event.channelAccount event.receivedAt db = _
    unfold ChannelRouteStore.consumeActivation
    rw [hutc, husable, ← hdb']
    rfl
  have hconsumed : db'.groupActivationChallenges.find? (refOf api event "group_activation" code) =
      some { challenge with consumedAt := some event.receivedAt } := by
    rw [← hdb']
    refine (Table.find?_updateWhere db.groupActivationChallenges
      (fun c => c.codeHash = refOf api event "group_activation" code && c.consumedAt.isNone)
      (fun c => { c with consumedAt := some event.receivedAt }) (fun _ => rfl) _).trans ?_
    rw [hfind]
    simp [Table.key_of_find? hfind, hunused]
  rw [Effect.exec_bind, Effect.exec_atomically_ok.mpr hrun]
  have hkept := (activateFor_within api delivery event cipher challenge.userId
    challenge.groupMode db').2
  refine ⟨{ challenge with consumedAt := some event.receivedAt }, ?_, by simp, challenge, hfind,
    hunused⟩
  simp only
  rw [hkept]
  exact hconsumed

theorem admitGroup_quiet {db : Database} (hrange : Instant.InRange event.receivedAt)
    (h : api.triggered delivery event db = true →
      ActivationSettled api event db ∧ RouteSettled api event (conversation event db) db) :
    ((api.admitGroup delivery event).exec db).2 = db := by
  unfold admitGroup
  simp only [Effect.exec_reads_bind]
  cases htriggered : api.triggered delivery event db with
  | false => rfl
  | true =>
    obtain ⟨hactivation, hroute⟩ := h htriggered
    cases hcode : codeAfter "/启用内部群" (event.text.getD "") with
    | none => exact admitRoute_quiet api delivery event rfl hroute
    | some code =>
      simp only
      rw [Effect.exec_bind, activateGroup_quiet api delivery event hrange
        (codeAfter_ne_empty hcode) (hactivation code hcode)]
      exact admitRoute_quiet api delivery event rfl hroute

theorem admitGroup_changes {db : Database} (hrange : Instant.InRange event.receivedAt)
    (htriggered : api.triggered delivery event db = true)
    (h : ¬ (ActivationSettled api event db ∧
      RouteSettled api event (conversation event db) db)) :
    ¬ SameDomain db ((api.admitGroup delivery event).exec db).2 := by
  unfold admitGroup
  simp only [Effect.exec_reads_bind, htriggered]
  by_cases hactivation : ActivationSettled api event db
  · -- the activation does nothing, so it is the route that writes
    have hmark := admitRoute_marks api delivery event hrange rfl fun hroute =>
      h ⟨hactivation, hroute⟩
    cases hcode : codeAfter "/启用内部群" (event.text.getD "") with
    | none => exact hmark.not_same
    | some code =>
      simp only
      rw [Effect.exec_bind, activateGroup_quiet api delivery event hrange
        (codeAfter_ne_empty hcode) (hactivation code hcode)]
      exact hmark.not_same
  · unfold ActivationSettled at hactivation
    push Not at hactivation
    obtain ⟨code, hcode, hcipher, husable⟩ := hactivation
    obtain ⟨cipher, hcipher⟩ := Option.ne_none_iff_exists'.mp hcipher
    obtain ⟨challenge, husable⟩ := Option.ne_none_iff_exists'.mp husable
    obtain ⟨r, hr, hconsumed, r', hr', hunused⟩ := activateGroup_consumes api delivery event
      hrange (codeAfter_ne_empty hcode) hcipher husable
    simp only [hcode]
    intro hsame
    have hkey := hsame.activations (refOf api event "group_activation" code)
    rw [Effect.exec_bind] at hkey
    rcases hactivate : (api.activateGroup delivery event code).exec db with ⟨answer, db'⟩
    rw [hactivate] at hr hkey
    -- whatever runs behind the activation keeps its codes
    have hafter : ∀ db₂ : Database, db₂.groupActivationChallenges = db'.groupActivationChallenges →
        db₂.groupActivationChallenges.find? (refOf api event "group_activation" code) =
          db.groupActivationChallenges.find? (refOf api event "group_activation" code) → False := by
      intro db₂ heq hfind
      rw [heq, hr, hr'] at hfind
      rw [Option.some.inj hfind] at hconsumed
      exact hconsumed hunused
    cases answer with
    | error e => exact hafter db' rfl hkey
    | ok activated =>
      cases activated with
      | some decision => exact hafter db' rfl hkey
      | none =>
        exact hafter _ (admitRoute_within api delivery event (conversation event db) db').activations
          hkey

/-! ### Private conversations -/

theorem plus_inRange {t delta u : Int} (h : Instant.plus t delta = .ok u) :
    Instant.InRange u := by
  obtain ⟨hin, rfl⟩ := Instant.plus_eq_ok.mp h
  exact hin

/-- A code has eight digits. -/
theorem codeText_ne_empty : delivery.codeText ≠ "" := by
  intro h
  have hlength : delivery.codeText.length = 0 := by rw [h]; rfl
  unfold Delivery.codeText at hlength
  simp only [String.length_append, String.length_ofList, List.length_replicate] at hlength
  omega

/-- What is left of a row of the link codes once the withdrawn ones are gone. -/
theorem linkRow_left {db : Database} {dayBefore : Instant} {hash : String} :
    (db.privateLinkChallenges.deleteWhere (ChannelRouteStore.withdrawnLink event.channel
      event.channelAccount event.externalActorRef dayBefore)).find? hash = none ↔
    ∀ r, db.privateLinkChallenges.find? hash = some r →
      ChannelRouteStore.withdrawnLink event.channel event.channelAccount event.externalActorRef
        dayBefore r = true := by
  rw [Table.find?_deleteWhere]
  cases db.privateLinkChallenges.find? hash with
  | none => simp
  | some r => simp [Option.filter_some]

theorem issueLink_quiet {db : Database} (h : LinkIssueSettled api delivery event db) :
    ((api.issueLink delivery event).exec db).2 = db := by
  unfold issueLink
  rw [Effect.exec_check_bind, create_eq api event (by decide) (codeText_ne_empty delivery)]
  simp only
  rw [Effect.exec_check_bind]
  cases hexpires : Instant.plus event.receivedAt (Duration.minutes 10) with
  | error e => rfl
  | ok expiresAt =>
    simp only
    generalize hchallenge : ({
      codeHash := refOf api event "private_link" delivery.codeText
      channel := event.channel
      channelAccount := event.channelAccount
      privateActorRef := event.externalActorRef
      expiresAt
      consumedAt := none
      createdAt := event.receivedAt } : PrivateLinkChallenge) = challenge
    rw [Effect.exec_bind]
    cases hrun : (ChannelRouteStore.issuePrivateLink challenge).run db with
    | error e =>
      rw [Effect.exec_atomically_raises hrun]
    | ok out =>
      -- a code whose hash stays in use is not issued
      exfalso
      obtain ⟨dayBefore, links, _, hday, hinsert, -⟩ := ChannelRouteStore.issuePrivateLink_ok hrun
      subst hchallenge
      obtain ⟨r, hr, hstays⟩ := h expiresAt dayBefore hexpires hday
      have hgone := (linkRow_left event).mp (Table.insert?_eq_some.mp hinsert).1 r hr
      rw [hstays] at hgone
      cases hgone

theorem issueLink_marks {db : Database} (hrange : Instant.InRange event.receivedAt)
    (h : ¬ LinkIssueSettled api delivery event db) :
    Marks db ((api.issueLink delivery event).exec db).2 := by
  unfold LinkIssueSettled at h
  push Not at h
  obtain ⟨expiresAt, dayBefore, hexpires, hday, hgone⟩ := h
  unfold issueLink
  rw [Effect.exec_check_bind, create_eq api event (by decide) (codeText_ne_empty delivery)]
  simp only
  rw [Effect.exec_check_bind, hexpires]
  simp only
  generalize hchallenge : ({
    codeHash := refOf api event "private_link" delivery.codeText
    channel := event.channel
    channelAccount := event.channelAccount
    privateActorRef := event.externalActorRef
    expiresAt
    consumedAt := none
    createdAt := event.receivedAt } : PrivateLinkChallenge) = challenge
  have hfree : (db.privateLinkChallenges.deleteWhere (ChannelRouteStore.withdrawnLink
      challenge.channel challenge.channelAccount challenge.privateActorRef dayBefore)).find?
        challenge.codeHash = none := by
    subst hchallenge
    exact (linkRow_left event).mpr fun r hr => by simpa using hgone r hr
  cases hinsert : (db.privateLinkChallenges.deleteWhere (ChannelRouteStore.withdrawnLink
      challenge.channel challenge.channelAccount challenge.privateActorRef dayBefore)).insert?
        challenge with
  | none =>
    obtain ⟨r, hr⟩ := Table.insert?_eq_none.mp hinsert
    rw [hfree] at hr
    cases hr
  | some links =>
    obtain ⟨auditEvent, hrun⟩ := ChannelRouteStore.issuePrivateLink_runs
      (by subst hchallenge; exact plus_inRange hexpires) (by subst hchallenge; exact hrange)
      (by subst hchallenge; exact hday) hinsert
    have hexec : (Effect.atomically (ChannelRouteStore.issuePrivateLink challenge)).exec db =
        (.ok ⟨⟩, Database.audit { db with privateLinkChallenges := links } auditEvent) :=
      Effect.exec_atomically_ok.mpr hrun
    rw [Effect.exec_bind, hexec]
    exact marks_audit _ _ _ rfl

/-! ### Activation codes -/

/-- The code a registration of a group issues. -/
def issuedActivation (userId : String) (expiresAt : Instant) : GroupActivationChallenge where
  codeHash := refOf api event "group_activation" delivery.codeText
  userId
  channel := event.channel
  channelAccount := event.channelAccount
  groupMode := .internal
  expiresAt
  consumedAt := none
  createdAt := event.receivedAt
  enabling := GroupMode.internal_enabling

/-- Withdrawing the codes that are out and issuing one leaves the table as it was exactly
when that one was the only one out. -/
theorem issued_same_iff {T U : Table GroupActivationChallenge GroupActivationChallenge.codeHash}
    {challenge : GroupActivationChallenge} {out : GroupActivationChallenge → Bool}
    (hinsert : (T.deleteWhere out).insert? challenge = some U) :
    (∀ k, U.find? k = T.find? k) ↔
      T.find? challenge.codeHash = some challenge ∧
        ∀ k r, T.find? k = some r → out r = true → k = challenge.codeHash := by
  constructor
  · intro h
    refine ⟨?_, fun k r hr hout => ?_⟩
    · rw [← h, Table.find?_insert hinsert, if_pos rfl]
    · by_contra hne
      have hk := h k
      rw [Table.find?_insert hinsert, if_neg hne, Table.find?_deleteWhere, hr] at hk
      simp [Option.filter_some, hout] at hk
  · rintro ⟨hself, honly⟩ k
    rw [Table.find?_insert hinsert]
    by_cases hk : k = challenge.codeHash
    · rw [if_pos hk, hk, hself]
    · rw [if_neg hk, Table.find?_deleteWhere]
      cases hr : T.find? k with
      | none => rfl
      | some r =>
        have hkept : out r = false := by
          cases hout : out r with
          | false => rfl
          | true => exact absurd (honly k r hr hout) hk
        simp [Option.filter_some, hkept]

/-- Registering a group changes nothing exactly when its code is settled. -/
theorem registerGroup_same_iff {userId : String} {db : Database}
    (hrange : Instant.InRange event.receivedAt) (huser : db.hasUser userId = true)
    (hrole : UserRepository.hasRole userId "project_admin" db = true) :
    SameDomain db ((api.registerGroup delivery event userId).exec db).2 ↔
      IssueSettled api delivery event userId db := by
  unfold registerGroup
  simp only [Effect.exec_reads_bind, hrole, if_true]
  rw [Effect.exec_check_bind, create_eq api event (by decide) (codeText_ne_empty delivery)]
  simp only
  rw [Effect.exec_check_bind]
  unfold IssueSettled
  cases hexpires : Instant.plus event.receivedAt (Duration.minutes 10) with
  | error e => simp [SameDomain.refl]
  | ok expiresAt =>
    simp only [Except.ok.injEq, forall_eq']
    change SameDomain db ((Effect.atomically (ChannelRouteStore.issueActivation
      (issuedActivation api delivery event userId expiresAt)) >>= _).exec db).2 ↔ _
    rw [Effect.exec_bind]
    cases hinsert : (db.groupActivationChallenges.deleteWhere
        (ChannelRouteStore.outstandingActivation userId event.channel event.channelAccount)).insert?
          (issuedActivation api delivery event userId expiresAt) with
    | none =>
      -- the hash is in use by a code that stays
      have hraises : ∃ e, (ChannelRouteStore.issueActivation
          (issuedActivation api delivery event userId expiresAt)).run db = .error e := by
        cases hrun : (ChannelRouteStore.issueActivation
            (issuedActivation api delivery event userId expiresAt)).run db with
        | error e => exact ⟨e, rfl⟩
        | ok out =>
          obtain ⟨-, -, U, hU, -, -⟩ := ChannelRouteStore.issueActivation_ok.mp hrun
          have hsome : (db.groupActivationChallenges.deleteWhere
            (ChannelRouteStore.outstandingActivation userId event.channel
              event.channelAccount)).insert? (issuedActivation api delivery event userId expiresAt) =
                some U := hU
          rw [hinsert] at hsome
          cases hsome
      obtain ⟨e, hrun⟩ := hraises
      rw [Effect.exec_atomically_raises hrun]
      obtain ⟨r, hr⟩ := Table.insert?_eq_none.mp hinsert
      rw [Table.find?_deleteWhere] at hr
      obtain ⟨hfind, hkept⟩ := Option.filter_eq_some_iff.mp hr
      exact ⟨fun _ => .inl ⟨r, hfind, by simpa using hkept⟩, fun _ => SameDomain.refl db⟩
    | some U =>
      have hrun : (ChannelRouteStore.issueActivation
          (issuedActivation api delivery event userId expiresAt)).run db =
            .ok (⟨⟩, { db with groupActivationChallenges := U }) :=
        ChannelRouteStore.issueActivation_ok.mpr
          ⟨plus_inRange hexpires, hrange, U, hinsert, huser, rfl⟩
      rw [Effect.exec_atomically_ok.mpr hrun]
      have hfree := (Table.insert?_eq_some.mp hinsert).1
      rw [Table.find?_deleteWhere] at hfree
      constructor
      · intro hsame
        exact .inr ((issued_same_iff hinsert).mp hsame.activations)
      · rintro (⟨r, hr, hkept⟩ | hsettled)
        · have hr' : db.groupActivationChallenges.find?
              (issuedActivation api delivery event userId expiresAt).codeHash = some r := hr
          rw [hr'] at hfree
          simp [Option.filter_some, hkept] at hfree
        · exact ⟨fun _ => rfl, (issued_same_iff hinsert).mpr hsettled, rfl⟩

/-- A private message changes nothing exactly when it is settled. -/
theorem admitDirect_same_iff {db : Database} (hrange : Instant.InRange event.receivedAt) :
    SameDomain db ((api.admitDirect delivery event).exec db).2 ↔
      (∀ identity, sender event db = some identity →
        UserRepository.isActive identity.userId db = true →
        strip (event.text.getD "") = "/登记内部群" →
        UserRepository.hasRole identity.userId "project_admin" db = true →
          IssueSettled api delivery event identity.userId db) ∧
      (sender event db = none → event.conversationKind = .privateChat →
        UserRepository.isActive "service:registration" db = true →
        strip (event.text.getD "") = "/申请绑定" → LinkIssueSettled api delivery event db) := by
  unfold admitDirect
  simp only [Effect.exec_reads_bind]
  cases hsender : sender event db with
  | none =>
    simp only [reduceCtorEq, false_imp_iff, implies_true, true_and, forall_const]
    by_cases hkind : event.conversationKind = .privateChat
    · simp only [hkind, if_true, forall_const]
      unfold unboundPrivate
      simp only [Effect.exec_reads_bind]
      cases hregistered : UserRepository.isActive "service:registration" db with
      | false => simp [SameDomain.refl]
      | true =>
        by_cases htext : strip (event.text.getD "") = "/申请绑定"
        · simp only [htext, ne_eq, not_true_eq_false, if_false, forall_const,
            Bool.true_eq_false]
          constructor
          · intro hsame
            by_contra hunsettled
            exact (issueLink_marks api delivery event hrange hunsettled).not_same hsame
          · intro hsettled
            rw [issueLink_quiet api delivery event hsettled]
            exact SameDomain.refl db
        · simp [htext, SameDomain.refl]
    · simp [hkind, SameDomain.refl]
  | some identity =>
    simp only [Option.some.injEq, forall_eq', reduceCtorEq, false_imp_iff, and_true]
    cases hactive : UserRepository.isActive identity.userId db with
    | false => simp [hactive, SameDomain.refl]
    | true =>
      by_cases hlink : strip (event.text.getD "") = "/申请绑定"
      · have hother : ¬ strip (event.text.getD "") = "/登记内部群" := by
          rw [hlink]; decide
        simp [hactive, hlink, SameDomain.refl]
      · by_cases hregister : strip (event.text.getD "") = "/登记内部群"
        · cases hrole : UserRepository.hasRole identity.userId "project_admin" db with
          | false =>
            unfold registerGroup
            simp [hactive, hregister, hrole, SameDomain.refl]
          | true =>
            have hiff := registerGroup_same_iff api delivery event hrange
              (hasUser_of_active hactive) hrole
            simpa [hactive, hregister] using hiff
        · simp [hactive, hlink, hregister, SameDomain.refl]

/-- Admission changes nothing exactly when it is settled. -/
theorem admitEvent_same_iff {db : Database} (hrange : Instant.InRange event.receivedAt) :
    SameDomain db ((api.admitEvent delivery event).exec db).2 ↔
      AdmissionSettled api delivery event db := by
  unfold admitEvent AdmissionSettled
  by_cases hgroup : event.conversationKind = .group
  · rw [if_pos hgroup, if_pos hgroup]
    constructor
    · intro hsame htriggered
      by_contra hunsettled
      exact admitGroup_changes api delivery event hrange htriggered hunsettled hsame
    · intro hsettled
      rw [admitGroup_quiet api delivery event hrange hsettled]
      exact SameDomain.refl db
  · rw [if_neg hgroup, if_neg hgroup]
    exact admitDirect_same_iff api delivery event hrange

end Steps

/-! ### The observation of the routes -/

section Observation

variable (api : InternalChannelAPI) (delivery : Delivery) (event : InboundEvent)

/-- The route a first observation adds. -/
def newRoute (opaqueRef : String) (kind : RouteKind) : ChannelRoute where
  channel := event.channel
  channelAccount := event.channelAccount
  opaqueRef
  routeKind := kind
  lastSeenAt := event.receivedAt

/-- A route after another observation. -/
def seenAgain (kind : RouteKind) (known : ChannelRoute) : ChannelRoute :=
  { known with routeKind := kind, lastSeenAt := event.receivedAt }

/-- The database once a route of the event was observed. -/
def observed (opaqueRef : String) (kind : RouteKind) (db : Database) : Database :=
  { db with
    channelRoutes :=
      db.channelRoutes.upsert (newRoute event opaqueRef kind) (seenAgain event kind) }

/-- The database once both routes of the event were observed. -/
def observedEvent (db : Database) : Database :=
  let known := observed event event.externalConversationRef (routeKindOf event.conversationKind) db
  if event.externalActorRef ≠ event.externalConversationRef then
    observed event event.externalActorRef .actor known
  else known

theorem exec_observe (hrange : Instant.InRange event.receivedAt) {opaqueRef : String}
    (href : isBlank opaqueRef = false) (kind : RouteKind) (db : Database) :
    (Effect.atomically (ChannelRouteStore.observe event.channel event.channelAccount opaqueRef
      kind event.receivedAt)).exec db = (.ok ⟨⟩, observed event opaqueRef kind db) := by
  obtain ⟨-, hchannel, haccount, -, -⟩ := event.refs_nonblank
  rw [Effect.exec_atomically_ok]
  refine raiseIf_bind_ok.mpr ⟨?_, bind_eq_ok.mpr ⟨⟨⟩, ?_, rfl⟩⟩
  · simp [hchannel, haccount, href]
  · exact ChannelRouteStore.utcText_ok.mpr hrange

theorem exec_observeEvent (hrange : Instant.InRange event.receivedAt) (db : Database) :
    (observeEvent event).exec db = (.ok ⟨⟩, observedEvent event db) := by
  obtain ⟨-, -, -, hactor, hconversation⟩ := event.refs_nonblank
  unfold observeEvent observedEvent
  rw [Effect.exec_bind, exec_observe event hrange hconversation]
  simp only
  by_cases hother : event.externalActorRef ≠ event.externalConversationRef
  · rw [if_pos hother, if_pos hother]
    exact exec_observe event hrange hactor .actor _
  · rw [if_neg hother, if_neg hother]
    rfl

/-- An event at a time that does not exist in UTC is not observed. -/
theorem exec_observeEvent_refused (hrange : ¬ Instant.InRange event.receivedAt) (db : Database) :
    ∃ e, (observeEvent event).exec db = (.error e, db) := by
  unfold observeEvent
  rw [Effect.exec_bind]
  cases hrun : (ChannelRouteStore.observe event.channel event.channelAccount
      event.externalConversationRef (routeKindOf event.conversationKind) event.receivedAt).run db with
  | error e => exact ⟨e, by rw [Effect.exec_atomically_raises hrun]⟩
  | ok out => exact absurd (ChannelRouteStore.observe_ok hrun).1 hrange

theorem observed_find? (opaqueRef : String) (kind : RouteKind) (db : Database)
    (k : String × String × String) :
    (observed event opaqueRef kind db).channelRoutes.find? k =
      if k = (event.channel, event.channelAccount, opaqueRef) then
        some (((db.channelRoutes.find? k).map (seenAgain event kind)).getD
          (newRoute event opaqueRef kind))
      else db.channelRoutes.find? k :=
  Table.find?_upsert db.channelRoutes (newRoute event opaqueRef kind) (seenAgain event kind)
    (fun _ => rfl) k

/-- An observed route is known under its kind. -/
theorem observed_known (opaqueRef : String) (kind : RouteKind) (db : Database) :
    RouteKnown event opaqueRef kind (observed event opaqueRef kind db) := by
  unfold RouteKnown
  rw [observed_find?, if_pos rfl]
  cases db.channelRoutes.find? (event.channel, event.channelAccount, opaqueRef) with
  | none => rfl
  | some route => rfl

/-- The other routes are known under the kinds they had. -/
theorem observed_known_other {opaqueRef other : String} (kind : RouteKind) (db : Database)
    (hne : other ≠ opaqueRef) (kind' : RouteKind) :
    RouteKnown event other kind' (observed event opaqueRef kind db) ↔
      RouteKnown event other kind' db := by
  unfold RouteKnown
  rw [observed_find?, if_neg (by simpa using hne)]

/-- Observing a route that is known under its kind only tells when it was last seen. -/
theorem observed_same {opaqueRef : String} {kind : RouteKind} {db : Database}
    (h : RouteKnown event opaqueRef kind db) : SameDomain db (observed event opaqueRef kind db) := by
  refine ⟨fun k => ?_, fun _ => rfl, rfl⟩
  rw [observed_find?]
  by_cases hk : k = (event.channel, event.channelAccount, opaqueRef)
  · unfold RouteKnown at h
    rw [if_pos hk, hk]
    cases hroute : db.channelRoutes.find? (event.channel, event.channelAccount, opaqueRef) with
    | none => rw [hroute] at h; cases h
    | some route =>
      rw [hroute] at h
      simp only [Option.map_some, Option.some.injEq] at h
      simp [unseen, seenAgain, h]
  · rw [if_neg hk]

/-- Both routes are known once the event was observed. -/
theorem observedEvent_known (db : Database) :
    RouteKnown event event.externalConversationRef (routeKindOf event.conversationKind)
        (observedEvent event db) ∧
      (event.externalActorRef ≠ event.externalConversationRef →
        RouteKnown event event.externalActorRef .actor (observedEvent event db)) := by
  unfold observedEvent
  by_cases hother : event.externalActorRef ≠ event.externalConversationRef
  · simp only [if_pos hother]
    refine ⟨?_, fun _ => observed_known event _ _ _⟩
    rw [observed_known_other event .actor _ (Ne.symm hother)]
    exact observed_known event _ _ _
  · simp only [if_neg hother]
    exact ⟨observed_known event _ _ _, fun h => absurd h hother⟩

theorem observedEvent_same {db : Database}
    (hconversation : RouteKnown event event.externalConversationRef
      (routeKindOf event.conversationKind) db)
    (hactor : event.externalActorRef ≠ event.externalConversationRef →
      RouteKnown event event.externalActorRef .actor db) :
    SameDomain db (observedEvent event db) := by
  unfold observedEvent
  have hfirst := observed_same event hconversation
  by_cases hother : event.externalActorRef ≠ event.externalConversationRef
  · simp only [if_pos hother]
    refine hfirst.trans (observed_same event ?_)
    rw [observed_known_other event _ _ hother]
    exact hactor hother
  · simp only [if_neg hother]
    exact hfirst

end Observation

/-! ### What a condition can see -/

section Congruence

variable {api : InternalChannelAPI} {delivery : Delivery} {event : InboundEvent}

/-- The kind of a route does not depend on when it was seen. -/
theorem SameDomain.routeKnown_iff {db db' : Database} (h : SameDomain db db') (opaqueRef : String)
    (kind : RouteKind) :
    RouteKnown event opaqueRef kind db ↔ RouteKnown event opaqueRef kind db' := by
  have hkind : ∀ o : Option ChannelRoute,
      o.map ChannelRoute.routeKind = (o.map unseen).map ChannelRoute.routeKind := by
    intro o
    cases o <;> rfl
  unfold RouteKnown
  rw [hkind, ← h.routes, ← hkind]

/-- The settings of a route, all that an admission looks at. -/
theorem RouteSettled.unseen_iff {route : Option ChannelRoute} {db : Database} :
    RouteSettled api event (route.map unseen) db ↔ RouteSettled api event route db := by
  unfold RouteSettled
  cases route with
  | none => simp
  | some r =>
    simp only [Option.map_some, Option.some.injEq, forall_eq']
    exact Iff.rfl

theorem SameDomain.conversation {db db' : Database} (h : SameDomain db db') :
    (conversation event db').map unseen = (conversation event db).map unseen :=
  h.routes _

theorem SameDomain.triggered {db db' : Database} (h : SameDomain db db') :
    api.triggered delivery event db' = api.triggered delivery event db := by
  have hconversation : (InternalChannelAPI.conversation event db').map unseen =
      (InternalChannelAPI.conversation event db).map unseen := h.conversation
  have hany : ∀ o : Option ChannelRoute,
      (o.any fun route => route.commandsEnabled && route.groupMode = .internal) =
        (o.map unseen).any fun route => route.commandsEnabled && route.groupMode = .internal := by
    intro o
    cases o <;> rfl
  obtain ⟨routes, activations, hdb⟩ := h.exists_eq
  have hsender : sender event db' = sender event db := by rw [hdb]; rfl
  have hplan : ∀ user ref now, hasPendingPlan user ref now db' = hasPendingPlan user ref now db := by
    intro user ref now
    rw [hdb]
    rfl
  unfold InternalChannelAPI.triggered
  rw [hany, hconversation, ← hany, hsender]
  simp only [hplan]

theorem SameDomain.usableActivation {db db' : Database} (h : SameDomain db db')
    (hash channel account : String) (now : Instant) :
    ChannelRouteStore.usableActivation db' hash channel account now =
      ChannelRouteStore.usableActivation db hash channel account now := by
  unfold ChannelRouteStore.usableActivation
  rw [h.activations]

/-- Whether an admission is settled is a question about the domain. -/
theorem SameDomain.admissionSettled_iff {db db' : Database} (h : SameDomain db db') :
    AdmissionSettled api delivery event db ↔ AdmissionSettled api delivery event db' := by
  have htriggered : api.triggered delivery event db' = api.triggered delivery event db :=
    h.triggered
  have hactivation : ActivationSettled api event db ↔ ActivationSettled api event db' := by
    unfold ActivationSettled
    simp only [h.usableActivation]
  have hroute : RouteSettled api event (InternalChannelAPI.conversation event db) db ↔
      RouteSettled api event (InternalChannelAPI.conversation event db') db := by
    rw [← RouteSettled.unseen_iff, ← h.conversation, RouteSettled.unseen_iff]
  have hissue : ∀ userId, IssueSettled api delivery event userId db ↔
      IssueSettled api delivery event userId db' := by
    intro userId
    unfold IssueSettled
    simp only [h.activations]
  unfold AdmissionSettled
  rw [htriggered, hactivation, hroute]
  simp only [hissue]
  obtain ⟨routes, activations, rfl⟩ := h.exists_eq
  exact Iff.rfl

theorem SameDomain.settled_iff {db db' : Database} (h : SameDomain db db') :
    Settled api delivery event db ↔ Settled api delivery event db' := by
  unfold Settled
  rw [h.routeKnown_iff, h.routeKnown_iff event.externalActorRef, h.admissionSettled_iff]

theorem SameDomain.receipted {references : OpaqueReferenceFactory} {db db' : Database}
    (h : SameDomain db db') (hreceipt : Receipted references db event) :
    Receipted references db' event := by
  obtain ⟨routes, activations, rfl⟩ := h.exists_eq
  exact hreceipt

end Congruence

/-! ### Deliveries of events that were processed -/

section Replays

variable (api : InternalChannelAPI)

/-- The database after a delivery that nobody kills. -/
def redeliver (delivery : Delivery) (db : Database) : Database :=
  ((api.event delivery).exec ⟨db, none⟩).2.store

/-- The database after several deliveries. -/
def redeliverAll (deliveries : List Delivery) (db : Database) : Database :=
  deliveries.foldl (fun db delivery => redeliver api delivery db) db

/-- The event of a delivery was processed before. -/
def Processed (delivery : Delivery) (db : Database) : Prop :=
  ∃ event, delivery.payload.event = .ok event ∧ Receipted api.references db event

/-- A delivery has nothing to write. -/
def DeliverySettled (delivery : Delivery) (db : Database) : Prop :=
  ∀ event, delivery.payload.event = .ok event → Settled api delivery event db

variable {api} {delivery : Delivery} {event : InboundEvent} {db : Database}

/-- Behind the admission a receipted event writes nothing. -/
theorem arrive_store (hrange : Instant.InRange event.receivedAt)
    (hreceipt : Receipted api.references db event) :
    ((api.arrive delivery event).exec db).2 =
      ((api.admitEvent delivery event).exec (observedEvent event db)).2 := by
  have hobserved : Receipted api.references (observedEvent event db) event := by
    have hkept := (observeEvent_within event db).1
    rw [exec_observeEvent event hrange] at hkept
    exact hreceipt.stays (ReceiptsStay.of_eq hkept)
  have hkept := (admitEvent_within api delivery event (observedEvent event db)).receipts
  unfold arrive
  rw [Effect.exec_bind, exec_observeEvent event hrange]
  simp only
  rw [Effect.exec_bind]
  rcases hadmission : (api.admitEvent delivery event).exec (observedEvent event db) with ⟨answer, db₂⟩
  rw [hadmission] at hkept
  cases answer with
  | error e => rfl
  | ok decision =>
    simp only
    rw [Effect.exec_bind]
    cases hrun : (InboundReceiptStore.reserve api.references event decision.accepted
        decision.reasonCode).run db₂ with
    | error e => rw [Effect.exec_atomically_raises hrun]
    | ok out =>
      obtain ⟨fresh, db₃⟩ := out
      obtain ⟨hrefused, -⟩ := reserve_ok hrun
      obtain ⟨-, rfl⟩ := hrefused (hobserved.stays (ReceiptsStay.of_eq hkept))
      rw [Effect.exec_atomically_ok.mpr hrun]
      rfl

/-- An event at a time that does not exist in UTC is turned away at once. -/
theorem arrive_refused (hrange : ¬ Instant.InRange event.receivedAt) :
    ((api.arrive delivery event).exec db).2 = db := by
  obtain ⟨e, hrefused⟩ := exec_observeEvent_refused event hrange db
  unfold arrive
  rw [Effect.exec_bind, hrefused]

/-- Up to its reservation, a processed event changes nothing exactly when it is settled. -/
theorem arrive_same_iff (hreceipt : Receipted api.references db event) :
    SameDomain db ((api.arrive delivery event).exec db).2 ↔ Settled api delivery event db := by
  by_cases hrange : Instant.InRange event.receivedAt
  · rw [arrive_store hrange hreceipt]
    obtain ⟨hconversation, hactor⟩ := observedEvent_known event db
    constructor
    · intro hsame
      -- the kinds that were observed are the ones at the end, so they were there before
      have hkinds := (admitEvent_within api delivery event (observedEvent event db)).kinds
      have hknown : ∀ ref kind, RouteKnown event ref kind (observedEvent event db) →
          RouteKnown event ref kind db := by
        intro ref kind h
        rw [hsame.routeKnown_iff]
        exact (hkinds _).trans h
      have hquiet := observedEvent_same event (hknown _ _ hconversation)
        fun hother => hknown _ _ (hactor hother)
      have hadmission := (admitEvent_same_iff api delivery event hrange).mp
        (hquiet.symm.trans hsame)
      exact fun _ => ⟨hknown _ _ hconversation, fun hother => hknown _ _ (hactor hother),
        hquiet.admissionSettled_iff.mpr hadmission⟩
    · intro hsettled
      obtain ⟨hfirst, hsecond, hadmission⟩ := hsettled hrange
      have hquiet := observedEvent_same event hfirst hsecond
      exact hquiet.trans ((admitEvent_same_iff api delivery event hrange).mpr
        (hquiet.admissionSettled_iff.mp hadmission))
  · rw [arrive_refused hrange]
    exact ⟨fun _ h => absurd h hrange, fun _ => SameDomain.refl db⟩

/-- A delivery of a processed event ends with its reservation. -/
theorem redeliver_eq (hevent : delivery.payload.event = .ok event)
    (hreceipt : Receipted api.references db event) :
    redeliver api delivery db = ((api.arrive delivery event).exec db).2 := by
  have hexec : (api.event delivery).exec ⟨db, none⟩ =
      (unkilled (api.arrive delivery event) >>= fun found =>
        if found.2 then api.respond event found.1 else pure duplicateEvent).exec ⟨db, none⟩ := by
    unfold InternalChannelAPI.event Mortal.check
    rw [Effect.exec_check_bind, hevent]
    rfl
  unfold redeliver
  rw [hexec, Effect.exec_bind, exec_unkilled]
  rcases hr : (api.arrive delivery event).exec db with ⟨r, db'⟩
  cases r with
  | error e => rfl
  | ok found =>
    have hstale : found.2 = false := (arrive_fresh api delivery event hr).2 hreceipt
    simp only [Mortal.lift, Except.mapError, hstale]
    rfl

/-- One delivery of a processed event changes nothing exactly when it is settled. -/
theorem redeliver_same_iff (h : Processed api delivery db) :
    SameDomain db (redeliver api delivery db) ↔ DeliverySettled api delivery db := by
  obtain ⟨event, hevent, hreceipt⟩ := h
  rw [redeliver_eq hevent hreceipt, arrive_same_iff hreceipt]
  constructor
  · intro hsettled event' hevent'
    rw [hevent] at hevent'
    exact Except.ok.inj hevent' ▸ hsettled
  · intro hsettled
    exact hsettled event hevent

theorem SameDomain.processed {db' : Database} (h : SameDomain db db')
    (hprocessed : Processed api delivery db) : Processed api delivery db' := by
  obtain ⟨event, hevent, hreceipt⟩ := hprocessed
  exact ⟨event, hevent, h.receipted hreceipt⟩

theorem SameDomain.deliverySettled_iff {db' : Database} (h : SameDomain db db') :
    DeliverySettled api delivery db ↔ DeliverySettled api delivery db' := by
  unfold DeliverySettled
  simp only [h.settled_iff]

/-- **Any number of deliveries of processed events leave the domain as it is, at every
point, exactly when each of them is settled in the beginning.** -/
theorem replays_same_iff {deliveries : List Delivery}
    (h : ∀ delivery ∈ deliveries, Processed api delivery db) :
    (∀ n, SameDomain db (redeliverAll api (deliveries.take n) db)) ↔
      ∀ delivery ∈ deliveries, DeliverySettled api delivery db := by
  induction deliveries generalizing db with
  | nil => simp [redeliverAll, SameDomain.refl]
  | cons delivery deliveries ih =>
    have hfirst := redeliver_same_iff (h delivery List.mem_cons_self)
    constructor
    · intro hsame
      have hone : SameDomain db (redeliver api delivery db) := hsame 1
      have hrest := (ih fun d hd => hone.processed (h d (List.mem_cons_of_mem _ hd))).mp
        fun n => hone.symm.trans (hsame (n + 1))
      intro d hd
      cases List.mem_cons.mp hd with
      | inl heq => exact heq ▸ hfirst.mp hone
      | inr hmem => exact hone.deliverySettled_iff.mpr (hrest d hmem)
    · intro hsettled n
      have hone := hfirst.mpr (hsettled delivery List.mem_cons_self)
      have hrest := (ih fun d hd => hone.processed (h d (List.mem_cons_of_mem _ hd))).mpr
        fun d hd => hone.deliverySettled_iff.mp (hsettled d (List.mem_cons_of_mem _ hd))
      cases n with
      | zero => exact SameDomain.refl db
      | succ n => exact hone.trans (hrest n)

end Replays

/-! ### A request for a link code -/

/-- A private message of someone who is not bound yet. The gateway hands it over with
a code of its own each time. -/
def linkDelivery (code : Fin 100000000) : Delivery where
  payload := {
    eventId := "event-1"
    channel := "qq"
    channelAccount := "bot"
    actorRef := "alice-ref"
    conversationRef := "alice-ref"
    conversationKind := .privateChat
    messageKind := .text
    text := "/申请绑定"
    receivedAt := 0
    eventId_length := eventRef_length
    channel_length := qq_length
    channelAccount_length := bot_length
    actorRef_length := aliceRef_length
    conversationRef_length := aliceRef_length
    text_length := by decide
    replyContextRef_length := noReplyContext_short }
  now := 0
  code
  nonce := ""
  uuid := ""

/-- A database in which the registration service is active. -/
def registrationStore : Database where
  users := ⟨[⟨"service:registration", "Registration", true⟩], by simp⟩

/-- The request was processed once. -/
def requestedStore : Database := redeliver brokenAPI (linkDelivery 1) registrationStore

/-- The event of the request. -/
def linkEvent : InboundEvent where
  eventId := "event-1"
  channel := "qq"
  channelAccount := "bot"
  externalActorRef := "alice-ref"
  externalConversationRef := "alice-ref"
  conversationKind := .privateChat
  messageKind := .text
  receivedAt := 0
  text := some "/申请绑定"
  refs_nonblank := noteRefs_nonblank
  text_nonblank := by decide

theorem linkDelivery_event (code : Fin 100000000) :
    (linkDelivery code).payload.event = .ok linkEvent := by
  have hrefs : isBlank "event-1" = false ∧ isBlank "qq" = false ∧ isBlank "bot" = false ∧
      isBlank "alice-ref" = false ∧ isBlank "alice-ref" = false := by decide
  have htext : MessageKind.text = .text → isBlank ((some "/申请绑定").getD "") = false := by decide
  unfold InboundPayload.event linkDelivery
  rw [dif_pos hrefs, dif_pos htext]
  rfl

set_option maxRecDepth 4000 in
theorem linkDelivery_processed (code : Fin 100000000) :
    Processed brokenAPI (linkDelivery code) requestedStore := by
  refine ⟨linkEvent, linkDelivery_event code, Option.isSome_iff_exists.mp ?_⟩
  decide

theorem replays_same_iff_requested :
    (∀ n, SameDomain requestedStore
      (redeliverAll brokenAPI ([linkDelivery 2].take n) requestedStore)) ↔
      ∀ delivery ∈ [linkDelivery 2], DeliverySettled brokenAPI delivery requestedStore :=
  replays_same_iff fun delivery hmem => by
    rw [List.mem_singleton.mp hmem]
    exact linkDelivery_processed 2

set_option maxRecDepth 4000 in
/-- The request is processed, and its redelivery issues another code and withdraws the
one that was sent to the user. -/
theorem redelivered_request_issues_code :
    Processed brokenAPI (linkDelivery 2) requestedStore ∧
      requestedStore.privateLinkChallenges.rows.length = 1 ∧
      (redeliver brokenAPI (linkDelivery 2) requestedStore).privateLinkChallenges ≠
        requestedStore.privateLinkChallenges ∧
      ¬ SameDomain requestedStore (redeliver brokenAPI (linkDelivery 2) requestedStore) := by
  refine ⟨linkDelivery_processed 2, rfl, ?_, ?_⟩
  · decide +kernel
  · exact Marks.not_same (.inl (by decide +kernel))

end InternalChannelAPI

end Zhixu
