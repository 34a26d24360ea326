import Zhixu.Web.InternalChannel

/-!
# An event whose processing failed

A receipt, once reserved, is never removed. This file follows what that means for an
event whose processing fails behind the reservation: the handler raises, the reply
cannot be enqueued, or the process is killed.

The plan has three parts.

* `admitEvent_within`: no step of the admission writes a receipt or the outbox. The proof
  goes through its branches with `Effect.Within`. Of the three relations, `AdmissionKeeps`
  holds of all of them, `ActivationKeeps` from the moment an activation code is consumed,
  and `GroupKeeps` of everything a group event does besides.
* `reserve_ok` says that a reservation succeeds exactly once, and `event_keeps` that a
  delivery only adds receipts, whichever way it ends. So receipts stay over every run of
  the system (`Later.stays`).
* `never_reprocessed` combines the two: after a failure that left no reply, a later
  delivery of the event is never processed, at any time and whatever happened in between.
-/

open Framework

namespace Zhixu

namespace InternalChannelAPI

/-! ### What the admission leaves alone -/

/-- What no step of the admission changes, apart from the audit log, which grows. -/
structure AdmissionKeeps (db db' : Database) : Prop where
  receipts : db'.inboundEventReceipts = db.inboundEventReceipts
  outbox : db'.outboxDeliveries = db.outboxDeliveries
  kinds : ∀ k, (db'.channelRoutes.find? k).map ChannelRoute.routeKind =
    (db.channelRoutes.find? k).map ChannelRoute.routeKind
  audit : db.auditEvents.length ≤ db'.auditEvents.length

/-- What no step of the admission changes once a group has been activated: the activation
codes, and who is a member. -/
structure GroupKeeps (db db' : Database) : Prop extends AdmissionKeeps db db' where
  activations : db'.groupActivationChallenges = db.groupActivationChallenges
  members : ∀ k r, db.channelRouteMembers.find? k = some r →
    db'.channelRouteMembers.find? k = some r

theorem AdmissionKeeps.refl (db : Database) : AdmissionKeeps db db :=
  ⟨rfl, rfl, fun _ => rfl, le_refl _⟩

theorem AdmissionKeeps.trans (db db' db'' : Database) (h : AdmissionKeeps db db')
    (h' : AdmissionKeeps db' db'') : AdmissionKeeps db db'' where
  receipts := h'.receipts.trans h.receipts
  outbox := h'.outbox.trans h.outbox
  kinds k := (h'.kinds k).trans (h.kinds k)
  audit := le_trans h.audit h'.audit

theorem GroupKeeps.refl (db : Database) : GroupKeeps db db :=
  ⟨AdmissionKeeps.refl db, rfl, fun _ _ h => h⟩

theorem GroupKeeps.trans (db db' db'' : Database) (h : GroupKeeps db db')
    (h' : GroupKeeps db' db'') : GroupKeeps db db'' where
  toAdmissionKeeps := AdmissionKeeps.trans _ _ _ h.toAdmissionKeeps h'.toAdmissionKeeps
  activations := h'.activations.trans h.activations
  members k r hr := h'.members k r (h.members k r hr)

/-- A write of other tables, with an audit event. -/
theorem groupKeeps_audit {db db₁ : Database} (event : AuditEvent) (h : GroupKeeps db db₁) :
    GroupKeeps db (db₁.audit event) where
  receipts := h.receipts
  outbox := h.outbox
  kinds := h.kinds
  audit := by
    have hlength : (db₁.audit event).auditEvents.length = db₁.auditEvents.length + 1 := by
      simp [Database.audit]
    have haudit := h.audit
    omega
  activations := h.activations
  members := h.members

section Writes

variable {db db' : Database} {u : Unit}

theorem create_groupKeeps {user : UserRow} {authorization : AuthorizedAction}
    (h : UserRepository.create user authorization db = .ok (u, db')) : GroupKeeps db db' := by
  obtain ⟨users, -, rfl⟩ := UserRepository.create_ok h
  exact groupKeeps_audit _ ⟨⟨rfl, rfl, fun _ => rfl, le_refl _⟩, rfl, fun _ _ h => h⟩

theorem bindIdentity_groupKeeps {identity : ExternalIdentity} {authorization : AuthorizedAction}
    (h : UserRepository.bindIdentity identity authorization db = .ok (u, db')) :
    GroupKeeps db db' := by
  obtain ⟨identities, -, rfl⟩ := UserRepository.bindIdentity_ok h
  exact groupKeeps_audit _ ⟨⟨rfl, rfl, fun _ => rfl, le_refl _⟩, rfl, fun _ _ h => h⟩

theorem addMember_groupKeeps {route : ChannelRoute} {userId addedByUserId : String}
    {now : Instant}
    (h : ChannelRouteStore.addMember route userId addedByUserId now db = .ok (u, db')) :
    GroupKeeps db db' := by
  rcases ChannelRouteStore.insertMember_ok (ChannelRouteStore.addMember_ok h) with
    ⟨rfl, -⟩ | ⟨members, hinsert, rfl⟩
  · exact GroupKeeps.refl _
  · refine ⟨⟨rfl, rfl, fun _ => rfl, le_refl _⟩, rfl, fun k r hr => ?_⟩
    change members.find? k = some r
    rw [Table.find?_insert hinsert, if_neg ?_]
    · exact hr
    · rintro rfl
      have hfree := (Table.insert?_eq_some.mp hinsert).1
      rw [hfree] at hr
      cases hr

theorem consumePrivateLink_groupKeeps {codeHash channel channelAccount userId : String}
    {now : Instant} {consumed : Option String}
    (h : ChannelRouteStore.consumePrivateLink codeHash channel channelAccount userId now db =
      .ok (consumed, db')) : GroupKeeps db db' := by
  rcases ChannelRouteStore.consumePrivateLink_ok h with
    ⟨_, -, -, rfl, -⟩ | ⟨-, challenges, event, rfl⟩
  · exact GroupKeeps.refl _
  · exact groupKeeps_audit _ ⟨⟨rfl, rfl, fun _ => rfl, le_refl _⟩, rfl, fun _ _ h => h⟩

theorem issuePrivateLink_groupKeeps {challenge : PrivateLinkChallenge}
    (h : ChannelRouteStore.issuePrivateLink challenge db = .ok (u, db')) : GroupKeeps db db' := by
  obtain ⟨_, challenges, event, -, -, rfl⟩ := ChannelRouteStore.issuePrivateLink_ok h
  exact groupKeeps_audit _ ⟨⟨rfl, rfl, fun _ => rfl, le_refl _⟩, rfl, fun _ _ h => h⟩

theorem consumeActivation_keeps {codeHash channel channelAccount : String} {now : Instant}
    {consumed : Option (String × GroupMode)}
    (h : ChannelRouteStore.consumeActivation codeHash channel channelAccount now db =
      .ok (consumed, db')) : AdmissionKeeps db db' := by
  rcases ChannelRouteStore.consumeActivation_ok h with ⟨-, -, rfl⟩ | ⟨_, -, -, rfl⟩
  · exact AdmissionKeeps.refl _
  · exact ⟨rfl, rfl, fun _ => rfl, le_refl _⟩

theorem issueActivation_keeps {challenge : GroupActivationChallenge}
    (h : ChannelRouteStore.issueActivation challenge db = .ok (u, db')) :
    AdmissionKeeps db db' := by
  obtain ⟨-, -, challenges, -, -, rfl⟩ := ChannelRouteStore.issueActivation_ok.mp h
  exact ⟨rfl, rfl, fun _ => rfl, le_refl _⟩

/-- New settings of a route keep its kind, and all activation codes. -/
theorem setCommandsEnabled_keeps {channel channelAccount opaqueRef actorUserId fresh : String}
    {enabled : Bool} {now : Instant} {groupMode : Option GroupMode}
    {memberUserIds : Option (List String)} {changed : Bool}
    (h : ChannelRouteStore.setCommandsEnabled channel channelAccount opaqueRef enabled actorUserId
      now groupMode memberUserIds fresh db = .ok (changed, db')) :
    AdmissionKeeps db db' ∧ db'.groupActivationChallenges = db.groupActivationChallenges := by
  obtain ⟨users, members, event, f, hkey, hkind, rfl⟩ := ChannelRouteStore.setCommandsEnabled_ok h
  refine ⟨⟨rfl, rfl, fun k => ?_, ?_⟩, rfl⟩
  · change ((db.channelRoutes.updateWhere _ f hkey).find? k).map _ = _
    rw [Table.find?_updateKey]
    by_cases hk : k = (channel, channelAccount, opaqueRef)
    · rw [if_pos hk]
      cases db.channelRoutes.find? k with
      | none => rfl
      | some route => exact congrArg some (hkind route)
    · rw [if_neg hk]
  · simp [Database.audit]

end Writes

/-! ### The branches of the admission -/

section Branches

variable (api : InternalChannelAPI) (delivery : Delivery) (event : InboundEvent)

theorem exec_onConflict {α : Type} (m handler : Effect Database PyError α) (db : Database) :
    (onConflict m handler).exec db =
      match m.exec db with
      | (.ok a, db') => (.ok a, db')
      | (.error e, db') => if e.isConflict then handler.exec db' else (.error e, db') := rfl

/-- A transaction, by what it does when it commits. -/
theorem within_atomically {R : Database → Database → Prop} (hrefl : ∀ db, R db db) {α : Type}
    {t : Transaction Database PyError α} (h : ∀ db a db', t db = .ok (a, db') → R db db') :
    Effect.Within R (Effect.atomically t) :=
  Effect.Within.atomically hrefl h

theorem within_onConflict {R : Database → Database → Prop}
    (htrans : ∀ s s' s'', R s s' → R s' s'' → R s s'') {α : Type}
    {m handler : Effect Database PyError α} (hm : Effect.Within R m)
    (hhandler : Effect.Within R handler) : Effect.Within R (onConflict m handler) := by
  intro db
  have hdb := hm db
  rw [exec_onConflict]
  rcases hr : m.exec db with ⟨r, db'⟩
  rw [hr] at hdb
  cases r with
  | ok a => exact hdb
  | error e =>
    by_cases hconflict : e.isConflict = true
    · simp only [hconflict, if_true]
      exact htrans _ _ _ hdb (hhandler db')
    · simp only [hconflict]
      exact hdb

theorem bindIdentity_within (cipher : FieldCipher) (userId opaqueRef : String) :
    Effect.Within GroupKeeps (api.bindIdentity delivery cipher event userId opaqueRef) := by
  refine .check_bind GroupKeeps.refl fun _ => .check_bind GroupKeeps.refl fun _ =>
    .check_bind GroupKeeps.refl fun _ => .check_bind GroupKeeps.refl fun _ =>
    .check_bind GroupKeeps.refl fun _ => .query_bind GroupKeeps.refl fun _ => ?_
  exact within_atomically GroupKeeps.refl fun _ _ _ h => bindIdentity_groupKeeps h

theorem createMember_within (memberId : String) (now : Instant) :
    Effect.Within GroupKeeps (createMember memberId now) := by
  refine .check_bind GroupKeeps.refl fun _ => .reads_bind fun known => ?_
  cases known with
  | true => exact .pure GroupKeeps.refl _
  | false =>
    refine .check_bind GroupKeeps.refl fun _ => .query_bind GroupKeeps.refl fun _ => ?_
    exact within_atomically GroupKeeps.refl fun _ _ _ h => create_groupKeeps h

theorem enrolMember_within (route : ChannelRoute) (memberId ownerUserId : String) :
    Effect.Within GroupKeeps (enrolMember event route memberId ownerUserId) := by
  refine .bind GroupKeeps.trans ?_ fun _ => fun db => GroupKeeps.refl db
  exact within_atomically GroupKeeps.refl fun _ _ _ h => addMember_groupKeeps h

theorem bindMember_within (cipher : FieldCipher) (route : ChannelRoute)
    (memberId ownerUserId : String) :
    Effect.Within GroupKeeps (api.bindMember delivery cipher event route memberId ownerUserId) := by
  refine .bind GroupKeeps.trans ?_ fun bound => ?_
  · refine within_onConflict GroupKeeps.trans ?_ fun db => GroupKeeps.refl db
    exact .bind GroupKeeps.trans (bindIdentity_within api delivery event cipher _ _) fun _ =>
      .pure GroupKeeps.refl _
  · cases bound with
    | true => exact enrolMember_within event route memberId ownerUserId
    | false => exact .pure GroupKeeps.refl _

theorem provisionGroupMember_within (route : ChannelRoute) :
    Effect.Within GroupKeeps (api.provisionGroupMember delivery event route) := by
  unfold provisionGroupMember
  cases api.fieldCipher with
  | none => exact .pure GroupKeeps.refl _
  | some cipher =>
    cases route.ownerUserId with
    | none => exact .pure GroupKeeps.refl _
    | some ownerUserId =>
      refine .check_bind GroupKeeps.refl fun memberId => .bind GroupKeeps.trans ?_ fun created => ?_
      · refine within_onConflict GroupKeeps.trans ?_ fun db => GroupKeeps.refl db
        exact .bind GroupKeeps.trans (createMember_within _ _) fun _ => .pure GroupKeeps.refl _
      · cases created with
        | true => exact bindMember_within api delivery event cipher route memberId ownerUserId
        | false => exact .pure GroupKeeps.refl _

theorem linkPrivate_within (cipher : FieldCipher) (userId : String) (roles : List String)
    (sharedOwnerUserId privateActorRef : String) :
    Effect.Within GroupKeeps (api.linkPrivate delivery cipher event userId roles
      sharedOwnerUserId privateActorRef) := by
  refine .reads_bind fun existing => ?_
  cases existing with
  | none =>
    exact .bind GroupKeeps.trans (bindIdentity_within api delivery event cipher _ _)
      fun _ => .pure GroupKeeps.refl _
  | some existing =>
    by_cases hother : existing.userId ≠ userId
    · simp only [if_pos hother]; exact .pure GroupKeeps.refl _
    · simp only [if_neg hother]; exact .pure GroupKeeps.refl _

theorem bindPrivateIdentity_within (userId : String) (route : ChannelRoute) (code : String)
    (roles : List String) :
    Effect.Within GroupKeeps (api.bindPrivateIdentity delivery event userId route code roles) := by
  unfold bindPrivateIdentity
  cases api.fieldCipher with
  | none => exact .pure GroupKeeps.refl _
  | some cipher =>
    cases route.sharedOwnerUserId with
    | none => exact .pure GroupKeeps.refl _
    | some sharedOwnerUserId =>
      refine .check_bind GroupKeeps.refl fun codeHash => .bind GroupKeeps.trans ?_ fun ref => ?_
      · exact within_atomically GroupKeeps.refl fun _ _ _ h => consumePrivateLink_groupKeeps h
      · cases ref with
        | none => exact .pure GroupKeeps.refl _
        | some privateActorRef => exact linkPrivate_within api delivery event cipher _ _ _ _

theorem admitted_within (route : ChannelRoute) (userId : String) :
    Effect.Within GroupKeeps (api.admitted delivery event route userId) := by
  unfold admitted
  cases route.sharedOwnerUserId with
  | none => exact .pure GroupKeeps.refl _
  | some sharedOwnerUserId =>
    simp only
    cases codeAfter "/绑定私聊" (event.text.getD "") with
    | none => exact .pure GroupKeeps.refl _
    | some code => exact bindPrivateIdentity_within api delivery event userId route code _

theorem admitMember_within (route : ChannelRoute) (userId : String) :
    Effect.Within GroupKeeps (api.admitMember delivery event route userId) := by
  refine .reads_bind fun active => .reads_bind fun member => ?_
  cases active with
  | false => exact .pure GroupKeeps.refl _
  | true =>
    cases member with
    | true => exact admitted_within api delivery event route userId
    | false =>
      cases route.ownerUserId with
      | none => exact .pure GroupKeeps.refl _
      | some ownerUserId =>
        refine .bind GroupKeeps.trans ?_ fun _ => admitted_within api delivery event route userId
        exact within_atomically GroupKeeps.refl fun _ _ _ h => addMember_groupKeeps h

theorem admitRoute_within (route : Option ChannelRoute) :
    Effect.Within GroupKeeps (api.admitRoute delivery event route) := by
  unfold admitRoute
  cases route with
  | none => exact .pure GroupKeeps.refl _
  | some route =>
    simp only
    by_cases hoff : route.commandsEnabled = false ∨ route.groupMode = .disabled
    · rw [if_pos hoff]; exact .pure GroupKeeps.refl _
    · rw [if_neg hoff]
      by_cases hpublic : route.groupMode = .publicMode
      · rw [if_pos hpublic]
        refine .reads_bind fun served => ?_
        cases served with
        | false => exact .pure GroupKeeps.refl _
        | true =>
          refine .check_bind GroupKeeps.refl fun intent => ?_
          by_cases hintent : intent = some .help ∨ intent = some .answer
          · simp only [if_pos hintent]; exact .pure GroupKeeps.refl _
          · simp only [if_neg hintent]; exact .pure GroupKeeps.refl _
      · rw [if_neg hpublic]
        refine .reads_bind fun identity => ?_
        cases identity with
        | some identity => exact admitMember_within api delivery event route identity.userId
        | none =>
          refine .bind GroupKeeps.trans (provisionGroupMember_within api delivery event route)
            fun provisioned => ?_
          cases provisioned with
          | none => exact .pure GroupKeeps.refl _
          | some identity => exact admitMember_within api delivery event route identity.userId

/-- What no step of an activation changes once its code is consumed. -/
def ActivationKeeps (db db' : Database) : Prop :=
  AdmissionKeeps db db' ∧ db'.groupActivationChallenges = db.groupActivationChallenges

theorem ActivationKeeps.refl (db : Database) : ActivationKeeps db db :=
  ⟨AdmissionKeeps.refl db, rfl⟩

theorem ActivationKeeps.trans (db db' db'' : Database) (h : ActivationKeeps db db')
    (h' : ActivationKeeps db' db'') : ActivationKeeps db db'' :=
  ⟨AdmissionKeeps.trans _ _ _ h.1 h'.1, h'.2.trans h.2⟩

theorem GroupKeeps.activation {db db' : Database} (h : GroupKeeps db db') :
    ActivationKeeps db db' :=
  ⟨h.toAdmissionKeeps, h.activations⟩

theorem activateFor_within (cipher : FieldCipher) (userId : String) (mode : GroupMode) :
    Effect.Within ActivationKeeps (api.activateFor delivery cipher event userId mode) := by
  have henable : Effect.Within ActivationKeeps (enableGroup delivery event userId mode) := by
    refine .bind ActivationKeeps.trans ?_ fun _ => .reads_bind fun _ => .pure ActivationKeeps.refl _
    exact within_atomically ActivationKeeps.refl fun _ _ _ h => setCommandsEnabled_keeps h
  refine .reads_bind fun entitled => .reads_bind fun identity => ?_
  cases entitled with
  | false => exact .pure ActivationKeeps.refl _
  | true =>
    cases identity with
    | some identity =>
      by_cases hother : identity.userId ≠ userId
      · simp only [if_pos hother]; exact .pure ActivationKeeps.refl _
      · simp only [if_neg hother]; exact henable
    | none =>
      refine .bind ActivationKeeps.trans ?_ fun _ => henable
      exact (bindIdentity_within api delivery event cipher userId _).mono
        fun _ _ h => h.activation

theorem activateGroup_within (code : String) :
    Effect.Within AdmissionKeeps (api.activateGroup delivery event code) := by
  unfold activateGroup
  cases api.fieldCipher with
  | none => exact .pure AdmissionKeeps.refl _
  | some cipher =>
    refine .check_bind AdmissionKeeps.refl fun codeHash =>
      .bind AdmissionKeeps.trans ?_ fun consumed => ?_
    · exact within_atomically AdmissionKeeps.refl fun _ _ _ h => consumeActivation_keeps h
    · cases consumed with
      | none => exact .pure AdmissionKeeps.refl _
      | some found =>
        exact (activateFor_within api delivery event cipher found.1 found.2).mono fun _ _ h => h.1

theorem admitGroup_within : Effect.Within AdmissionKeeps (api.admitGroup delivery event) := by
  have hroute : ∀ route, Effect.Within AdmissionKeeps (api.admitRoute delivery event route) :=
    fun route => (admitRoute_within api delivery event route).mono fun _ _ h => h.toAdmissionKeeps
  refine .reads_bind fun route => .reads_bind fun goesOn => ?_
  cases goesOn with
  | false => exact .pure AdmissionKeeps.refl _
  | true =>
    cases codeAfter "/启用内部群" (event.text.getD "") with
    | none => exact hroute route
    | some code =>
      refine .bind AdmissionKeeps.trans (activateGroup_within api delivery event code)
        fun activated => ?_
      cases activated with
      | none => exact hroute route
      | some decision => exact .pure AdmissionKeeps.refl _

theorem issueLink_within : Effect.Within AdmissionKeeps (api.issueLink delivery event) := by
  refine .check_bind AdmissionKeeps.refl fun _ => .check_bind AdmissionKeeps.refl fun _ =>
    .bind AdmissionKeeps.trans ?_ fun _ => .pure AdmissionKeeps.refl _
  exact within_atomically AdmissionKeeps.refl fun _ _ _ h =>
    (issuePrivateLink_groupKeeps h).toAdmissionKeeps

theorem registerGroup_within (userId : String) :
    Effect.Within AdmissionKeeps (api.registerGroup delivery event userId) := by
  refine .reads_bind fun administers => ?_
  cases administers with
  | false => exact .pure AdmissionKeeps.refl _
  | true =>
    refine .check_bind AdmissionKeeps.refl fun _ => .check_bind AdmissionKeeps.refl fun _ =>
      .bind AdmissionKeeps.trans ?_ fun _ => .pure AdmissionKeeps.refl _
    exact within_atomically AdmissionKeeps.refl fun _ _ _ h => issueActivation_keeps h

theorem admitDirect_within : Effect.Within AdmissionKeeps (api.admitDirect delivery event) := by
  refine .reads_bind fun identity => ?_
  cases identity with
  | none =>
    by_cases hprivate : event.conversationKind = .privateChat
    · simp only [if_pos hprivate]
      refine .reads_bind fun registered => ?_
      by_cases hoff : registered = false
      · simp only [if_pos hoff]; exact .pure AdmissionKeeps.refl _
      · simp only [if_neg hoff]
        by_cases hasked : strip (event.text.getD "") ≠ "/申请绑定"
        · simp only [if_pos hasked]; exact .pure AdmissionKeeps.refl _
        · simp only [if_neg hasked]; exact issueLink_within api delivery event
    · simp only [if_neg hprivate]; exact .pure AdmissionKeeps.refl _
  | some identity =>
    refine .reads_bind fun active => ?_
    by_cases hoff : active = false
    · simp only [if_pos hoff]; exact .pure AdmissionKeeps.refl _
    · simp only [if_neg hoff]
      by_cases hasked : strip (event.text.getD "") = "/申请绑定"
      · simp only [if_pos hasked]; exact .pure AdmissionKeeps.refl _
      · simp only [if_neg hasked]
        by_cases hregister : strip (event.text.getD "") = "/登记内部群"
        · simp only [if_pos hregister]
          exact registerGroup_within api delivery event identity.userId
        · simp only [if_neg hregister]
          exact fun db => AdmissionKeeps.refl db

/-- **The admission touches neither the receipts nor the outbox**, and the kind of no
route. -/
theorem admitEvent_within : Effect.Within AdmissionKeeps (api.admitEvent delivery event) := by
  unfold admitEvent
  by_cases hgroup : event.conversationKind = .group
  · rw [if_pos hgroup]; exact admitGroup_within api delivery event
  · rw [if_neg hgroup]; exact admitDirect_within api delivery event

end Branches

/-! ### Receipts -/

/-- The event has a receipt. -/
def Receipted (references : OpaqueReferenceFactory) (db : Database) (event : InboundEvent) :
    Prop :=
  ∃ r, db.inboundEventReceipts.find? (InboundReceiptStore.receiptKey references event) = some r

/-- No receipt is lost. -/
def ReceiptsStay (db db' : Database) : Prop :=
  ∀ k r, db.inboundEventReceipts.find? k = some r →
    ∃ r', db'.inboundEventReceipts.find? k = some r'

theorem ReceiptsStay.refl (db : Database) : ReceiptsStay db db := fun _ r h => ⟨r, h⟩

theorem ReceiptsStay.trans (db db' db'' : Database) (h : ReceiptsStay db db')
    (h' : ReceiptsStay db' db'') : ReceiptsStay db db'' := by
  intro k r hr
  obtain ⟨r', hr'⟩ := h k r hr
  exact h' k r' hr'

theorem ReceiptsStay.of_eq {db db' : Database}
    (h : db'.inboundEventReceipts = db.inboundEventReceipts) : ReceiptsStay db db' := by
  intro k r hr
  rw [h]
  exact ⟨r, hr⟩

theorem Receipted.stays {references : OpaqueReferenceFactory} {db db' : Database}
    {event : InboundEvent} (h : Receipted references db event) (hstay : ReceiptsStay db db') :
    Receipted references db' event := by
  obtain ⟨r, hr⟩ := h
  exact hstay _ r hr

/-- A reservation is refused exactly when the receipt is there, and then nothing is
written. Afterwards the receipt is there in either case. -/
theorem reserve_ok {references : OpaqueReferenceFactory} {event : InboundEvent} {accepted : Bool}
    {reasonCode : String} {db db' : Database} {fresh : Bool}
    (h : InboundReceiptStore.reserve references event accepted reasonCode db =
      .ok (fresh, db')) :
    (Receipted references db event → fresh = false ∧ db' = db) ∧
      Receipted references db' event ∧ ReceiptsStay db db' ∧
        db'.outboxDeliveries = db.outboxDeliveries := by
  unfold InboundReceiptStore.reserve at h
  obtain ⟨⟨eventHash, messageHash⟩, hhashes, h⟩ := bind_eq_ok.mp h
  obtain ⟨-, h⟩ := raiseIf_bind_ok.mp h
  -- the hash of the receipt is the one the event is looked up under
  have hhash : eventHash = references.reference "evt"
      [event.channel, event.channelAccount, event.eventId] := by
    unfold InboundReceiptStore.hashes at hhashes
    obtain ⟨hash, hhash, hrest⟩ := bind_eq_ok.mp hhashes
    obtain ⟨_, -, hrest⟩ := bind_eq_ok.mp hrest
    obtain ⟨rfl, -⟩ := Prod.mk.inj (Except.ok.inj hrest)
    unfold OpaqueReferenceFactory.create at hhash
    exact (Except.ok.inj (raiseIf_bind_ok.mp hhash).2).symm
  simp only at h
  generalize hreceipt : ({
    channel := event.channel
    channelAccount := event.channelAccount
    eventIdHash := eventHash
    messageHash
    actorRef := event.externalActorRef
    conversationRef := event.externalConversationRef
    intentKind := ""
    outcome := if accepted then "processing" else reasonCode
    receivedAt := event.receivedAt } : InboundEventReceipt) = receipt at h
  have hkey : receipt.key = InboundReceiptStore.receiptKey references event := by
    rw [← hreceipt, hhash]
    rfl
  cases hinsert : db.inboundEventReceipts.insert? receipt with
  | none =>
    rw [hinsert] at h
    obtain ⟨rfl, rfl⟩ := Prod.mk.inj (Except.ok.inj h)
    obtain ⟨r, hr⟩ := Table.insert?_eq_none.mp hinsert
    rw [hkey] at hr
    exact ⟨fun _ => ⟨rfl, rfl⟩, ⟨r, hr⟩, ReceiptsStay.refl _, rfl⟩
  | some receipts =>
    rw [hinsert] at h
    obtain ⟨rfl, rfl⟩ := Prod.mk.inj (Except.ok.inj h)
    have hfree := (Table.insert?_eq_some.mp hinsert).1
    refine ⟨fun ⟨r, hr⟩ => ?_, ⟨receipt, ?_⟩, fun k r hr => ?_, rfl⟩
    · rw [hkey, hr] at hfree
      cases hfree
    · change receipts.find? _ = _
      rw [Table.find?_insert hinsert, if_pos hkey.symm]
    · change ∃ r', receipts.find? k = some r'
      rw [Table.find?_insert hinsert]
      by_cases hk : k = receipt.key
      · exact ⟨receipt, if_pos hk⟩
      · exact ⟨r, by rw [if_neg hk]; exact hr⟩

theorem complete_stays {references : OpaqueReferenceFactory} {event : InboundEvent}
    {reasonCode intentKind : String} {db db' : Database} {u : Unit}
    (h : InboundReceiptStore.complete references event reasonCode intentKind db = .ok (u, db')) :
    ReceiptsStay db db' := by
  unfold InboundReceiptStore.complete at h
  obtain ⟨⟨eventHash, _⟩, -, h⟩ := bind_eq_ok.mp h
  obtain ⟨-, rfl⟩ := Prod.mk.inj (Except.ok.inj h)
  intro k r hr
  obtain ⟨r', hr'⟩ := Table.exists_find?_updateWhere hr
    (fun r => r.key = (event.channel, event.channelAccount, eventHash))
    (fun r => { r with intentKind, outcome := reasonCode }) fun _ => rfl
  exact ⟨r', hr'⟩

theorem enqueue_receipts {request : EnqueueRequest} {db db' : Database} {queued : Bool}
    (h : OutboxStore.enqueue request db = .ok (queued, db')) :
    db'.inboundEventReceipts = db.inboundEventReceipts := by
  unfold OutboxStore.enqueue at h
  obtain ⟨-, h⟩ := raiseIf_bind_ok.mp h
  unfold Database.insertDelivery? at h
  by_cases htaken : (db.outboxDeliveries.rows.any fun r =>
      r.idempotencyKey = request.row.idempotencyKey) = true
  · rw [if_pos htaken] at h
    obtain ⟨-, rfl⟩ := Prod.mk.inj (Except.ok.inj h)
    rfl
  · rw [if_neg htaken] at h
    cases hinsert : db.outboxDeliveries.insert? request.row with
    | none =>
      rw [hinsert] at h
      obtain ⟨-, rfl⟩ := Prod.mk.inj (Except.ok.inj h)
      rfl
    | some deliveries =>
      rw [hinsert] at h
      obtain ⟨-, h⟩ := raiseIf_bind_ok.mp h
      obtain ⟨-, rfl⟩ := Prod.mk.inj (Except.ok.inj h)
      rfl

section Runs

variable (api : InternalChannelAPI) (delivery : Delivery) (event : InboundEvent)

theorem observeEvent_within : Effect.Within
    (fun db db' => db'.inboundEventReceipts = db.inboundEventReceipts ∧
      db'.outboxDeliveries = db.outboxDeliveries) (observeEvent event) := by
  have hone : ∀ ref kind, Effect.Within
      (fun db db' : Database => db'.inboundEventReceipts = db.inboundEventReceipts ∧
        db'.outboxDeliveries = db.outboxDeliveries)
      (Effect.atomically (ChannelRouteStore.observe event.channel event.channelAccount ref kind
        event.receivedAt)) := by
    intro ref kind
    refine Effect.Within.atomically (fun _ => ⟨rfl, rfl⟩) fun db _ db' h => ?_
    obtain ⟨-, rfl⟩ := ChannelRouteStore.observe_ok h
    exact ⟨rfl, rfl⟩
  refine .bind (fun _ _ _ h h' => ⟨h'.1.trans h.1, h'.2.trans h.2⟩) (hone _ _) fun _ => ?_
  by_cases hother : event.externalActorRef ≠ event.externalConversationRef
  · simp only [if_pos hother]; exact hone _ _
  · simp only [if_neg hother]; exact .pure (fun _ => ⟨rfl, rfl⟩) _

/-- Up to the reservation, receipts are only added and the outbox is left alone. -/
theorem arrive_within : Effect.Within
    (fun db db' => ReceiptsStay db db' ∧ db'.outboxDeliveries = db.outboxDeliveries)
    (api.arrive delivery event) := by
  have htrans : ∀ s s' s'' : Database,
      ReceiptsStay s s' ∧ s'.outboxDeliveries = s.outboxDeliveries →
      ReceiptsStay s' s'' ∧ s''.outboxDeliveries = s'.outboxDeliveries →
      ReceiptsStay s s'' ∧ s''.outboxDeliveries = s.outboxDeliveries :=
    fun _ _ _ h h' => ⟨ReceiptsStay.trans _ _ _ h.1 h'.1, h'.2.trans h.2⟩
  have hrefl : ∀ s : Database, ReceiptsStay s s ∧ s.outboxDeliveries = s.outboxDeliveries :=
    fun s => ⟨ReceiptsStay.refl s, rfl⟩
  refine .bind htrans ?_ fun _ => .bind htrans ?_ fun decision => .bind htrans ?_ fun _ =>
    .pure hrefl _
  · exact (observeEvent_within event).mono fun _ _ h => ⟨ReceiptsStay.of_eq h.1, h.2⟩
  · exact (admitEvent_within api delivery event).mono fun _ _ h =>
      ⟨ReceiptsStay.of_eq h.receipts, h.outbox⟩
  · refine Effect.Within.atomically hrefl fun db fresh db' h => ?_
    obtain ⟨-, -, hstay, houtbox⟩ := reserve_ok h
    exact ⟨hstay, houtbox⟩

/-- What the reservation answered, and what that says about the receipt. -/
theorem arrive_fresh {db db' : Database} {decision : ChannelAdmissionDecision} {fresh : Bool}
    (h : (api.arrive delivery event).exec db = (.ok (decision, fresh), db')) :
    Receipted api.references db' event ∧
      (Receipted api.references db event → fresh = false) := by
  unfold arrive at h
  obtain ⟨_, db₁, hobserve, h⟩ := Effect.exec_bind_ok.mp h
  obtain ⟨decision', db₂, hadmission, h⟩ := Effect.exec_bind_ok.mp h
  obtain ⟨fresh', db₃, hreserve, h⟩ := Effect.exec_bind_ok.mp h
  rw [Effect.exec_pure] at h
  obtain ⟨hanswer, rfl⟩ := Prod.mk.inj h
  obtain ⟨rfl, rfl⟩ := Prod.mk.inj (Except.ok.inj hanswer)
  rw [Effect.exec_atomically_ok] at hreserve
  obtain ⟨hrefused, hreceipted, -, -⟩ := reserve_ok hreserve
  refine ⟨hreceipted, fun hbefore => (hrefused ?_).1⟩
  have hfirst := observeEvent_within event db
  rw [hobserve] at hfirst
  have hsecond := admitEvent_within api delivery event db₁
  rw [hadmission] at hsecond
  exact (hbefore.stays (ReceiptsStay.of_eq hfirst.1)).stays (ReceiptsStay.of_eq hsecond.receipts)

theorem completeReceipt_keeps (decision : ChannelAdmissionDecision) (intentKind : String) :
    Mortal.Keeps ReceiptsStay (api.completeReceipt event decision intentKind) := by
  refine Mortal.keeps_step ReceiptsStay.refl (Effect.Within.atomically ReceiptsStay.refl ?_)
  exact fun _ _ _ h => complete_stays h

/-- From the reservation on, receipts are only updated, wherever the process dies. -/
theorem respond_keeps (decision : ChannelAdmissionDecision) :
    Mortal.Keeps ReceiptsStay (api.respond event decision) := by
  have hrejected : Mortal.Keeps ReceiptsStay
      (Mortal.ensure (pure ⟨200, false, decision.reasonCode⟩ : Mortal Database PyError EventResponse)
        (api.completeReceipt event decision "")) :=
    Mortal.keeps_ensure ReceiptsStay.refl ReceiptsStay.trans
      (Mortal.keeps_pure ReceiptsStay.refl _) (completeReceipt_keeps api event decision _)
  unfold respond
  cases decision.accepted with
  | false => exact hrejected
  | true =>
    cases decision.userId with
    | none => exact hrejected
    | some userId =>
      refine Mortal.keeps_bind ReceiptsStay.trans ?_ fun reply => ?_
      · -- the answer: only the assistant runs here, and it writes no receipt
        refine Mortal.keeps_rescue ReceiptsStay.refl ReceiptsStay.trans ?_
          (completeReceipt_keeps api event decision _)
        refine Mortal.keeps_bind ReceiptsStay.trans
          (Mortal.keeps_check ReceiptsStay.refl _) fun context => ?_
        cases decision.reply with
        | some reply => exact Mortal.keeps_pure ReceiptsStay.refl _
        | none => exact fun life => ReceiptsStay.of_eq (api.assistant.handle_receipts _ _ _ life)
      · refine Mortal.keeps_ensure ReceiptsStay.refl ReceiptsStay.trans ?_
          (completeReceipt_keeps api event decision _)
        refine Mortal.keeps_bind ReceiptsStay.trans
          (Mortal.keeps_check ReceiptsStay.refl _) fun _ => Mortal.keeps_bind ReceiptsStay.trans
          (Mortal.keeps_check ReceiptsStay.refl _) fun _ => Mortal.keeps_bind ReceiptsStay.trans
          ?_ fun _ => Mortal.keeps_pure ReceiptsStay.refl _
        refine Mortal.keeps_step ReceiptsStay.refl (Effect.Within.atomically ReceiptsStay.refl ?_)
        exact fun _ _ _ h => ReceiptsStay.of_eq (enqueue_receipts h)

theorem exec_unkilled {α : Type} (m : Effect Database PyError α) (life : Life Database) :
    (unkilled m).exec life =
      (Mortal.lift (m.exec life.store).1, { life with store := (m.exec life.store).2 }) := rfl

/-- A delivery of an event that has its receipt is answered as a duplicate, if it is
answered at all, and enqueues nothing. -/
theorem duplicate_of_receipted {life life' : Life Database} {answer : EventResponse}
    (hevent : delivery.payload.event = .ok event)
    (hreceipt : Receipted api.references life.store event)
    (h : (api.event delivery).exec life = (.ok answer, life')) :
    answer = duplicateEvent ∧ life'.store.outboxDeliveries = life.store.outboxDeliveries := by
  have hexec : (api.event delivery).exec life =
      (unkilled (api.arrive delivery event) >>= fun found =>
        if found.2 then api.respond event found.1 else pure duplicateEvent).exec life := by
    unfold InternalChannelAPI.event Mortal.check
    rw [Effect.exec_check_bind, hevent]
    rfl
  rw [hexec] at h
  obtain ⟨found, life₁, harrive, hrest⟩ := Effect.exec_bind_ok.mp h
  rw [exec_unkilled] at harrive
  rcases hr : (api.arrive delivery event).exec life.store with ⟨r, db⟩
  rw [hr] at harrive
  obtain ⟨hok, rfl⟩ := Prod.mk.inj harrive
  cases r with
  | error e => cases hok
  | ok found' =>
    obtain rfl : found' = found := Except.ok.inj hok
    have hstale : found'.2 = false := (arrive_fresh api delivery event hr).2 hreceipt
    have houtbox := (arrive_within api delivery event life.store).2
    rw [hr] at houtbox
    rw [hstale] at hrest
    obtain ⟨hanswer, rfl⟩ := Prod.mk.inj hrest
    exact ⟨(Except.ok.inj hanswer).symm, houtbox⟩

/-- Receipts survive every delivery, whichever way it ends. -/
theorem event_keeps : Mortal.Keeps ReceiptsStay (api.event delivery) := by
  refine Mortal.keeps_bind ReceiptsStay.trans (Mortal.keeps_check ReceiptsStay.refl _)
    fun event => Mortal.keeps_bind ReceiptsStay.trans ?_ fun found => ?_
  · intro life
    rw [exec_unkilled]
    exact (arrive_within api delivery event life.store).1
  · obtain ⟨decision, fresh⟩ := found
    cases fresh with
    | true => exact respond_keeps api event decision
    | false => exact Mortal.keeps_pure ReceiptsStay.refl _

end Runs

/-! ### What becomes of an event whose processing failed -/

/-- A delivery that reaches the processing of its event. -/
def Processes (api : InternalChannelAPI) (delivery : Delivery) (db : Database) : Prop :=
  ∃ event decision db', delivery.payload.event = .ok event ∧
    (api.arrive delivery event).exec db = (.ok (decision, true), db')

/-- The event of a delivery is lost for now: its receipt was reserved, the processing
ended in an exception or in a kill, and no reply is in the outbox. -/
structure LostDelivery (api : InternalChannelAPI) (delivery : Delivery) (event : InboundEvent)
    (life life' : Life Database) (stop : Stop PyError) : Prop where
  valid : delivery.payload.event = .ok event
  reserved : ∃ decision db, (api.arrive delivery event).exec life.store = (.ok (decision, true), db)
  failed : (api.event delivery).exec life = (.error stop, life')
  unanswered : life'.store.outboxDeliveries.find? (api.replyRef event) = none

/-- Two deliveries of one event, whatever else their payloads say. -/
def SameEvent (event event' : InboundEvent) : Prop :=
  event'.channel = event.channel ∧ event'.channelAccount = event.channelAccount ∧
    event'.eventId = event.eventId

/-- What can happen to the database in one step: a delivery of some event, killed at any
point or not at all, or a write of any other component, none of which writes receipts. -/
inductive SystemStep (api : InternalChannelAPI) : Database → Database → Prop
  | delivery (delivery : Delivery) (remaining : Option ℕ) (db : Database) :
      SystemStep api db ((api.event delivery).exec ⟨db, remaining⟩).2.store
  | elsewhere {db db' : Database}
      (h : db'.inboundEventReceipts = db.inboundEventReceipts) : SystemStep api db db'

/-- Any time later. -/
abbrev Later (api : InternalChannelAPI) : Database → Database → Prop :=
  Relation.ReflTransGen (SystemStep api)

/-- Step lemma: no step of the system loses a receipt. -/
theorem SystemStep.stays {api : InternalChannelAPI} {db db' : Database}
    (h : SystemStep api db db') : ReceiptsStay db db' := by
  cases h with
  | delivery delivery remaining => exact event_keeps api delivery ⟨db, remaining⟩
  | elsewhere h => exact ReceiptsStay.of_eq h

theorem Later.stays {api : InternalChannelAPI} {db db' : Database} (h : Later api db db') :
    ReceiptsStay db db' := by
  induction h with
  | refl => exact ReceiptsStay.refl db
  | tail _ hstep ih => exact ReceiptsStay.trans _ _ _ ih hstep.stays

/-- The receipt of a lost event is there. -/
theorem LostDelivery.receipted {api : InternalChannelAPI} {delivery : Delivery}
    {event : InboundEvent} {life life' : Life Database} {stop : Stop PyError}
    (h : LostDelivery api delivery event life life' stop) :
    Receipted api.references life'.store event := by
  obtain ⟨decision, db, hreserved⟩ := h.reserved
  have hreceipted := (arrive_fresh api delivery event hreserved).1
  -- from the reservation on only `respond` runs
  have hrest : (api.event delivery).exec life =
      (api.respond event decision).exec { life with store := db } := by
    unfold InternalChannelAPI.event Mortal.check
    rw [Effect.exec_check_bind, h.valid]
    change (unkilled (api.arrive delivery event) >>= _).exec life = _
    rw [Effect.exec_bind, exec_unkilled, hreserved]
    rfl
  have hstay := respond_keeps api event decision { life with store := db }
  rw [← hrest, h.failed] at hstay
  exact hreceipted.stays hstay

theorem Receipted.same {references : OpaqueReferenceFactory} {db : Database}
    {event event' : InboundEvent} (h : Receipted references db event)
    (hsame : SameEvent event event') : Receipted references db event' := by
  obtain ⟨r, hr⟩ := h
  obtain ⟨hchannel, haccount, hid⟩ := hsame
  refine ⟨r, ?_⟩
  unfold InboundReceiptStore.receiptKey at hr ⊢
  rw [hchannel, haccount, hid]
  exact hr

/-- **A lost event stays lost.** After any failure behind the reservation that left no
reply, no later delivery of the event is processed. Each that is answered is answered as a
duplicate, and none enqueues anything. -/
theorem never_reprocessed {api : InternalChannelAPI} {delivery : Delivery} {event : InboundEvent}
    {life life' : Life Database} {stop : Stop PyError} {db : Database} {again : Delivery}
    {event' : InboundEvent} (hlost : LostDelivery api delivery event life life' stop)
    (hlater : Later api life'.store db) (hagain : again.payload.event = .ok event')
    (hsame : SameEvent event event') :
    ¬ Processes api again db ∧
      ∀ remaining answer life'',
        (api.event again).exec ⟨db, remaining⟩ = (.ok answer, life'') →
          answer = duplicateEvent ∧ life''.store.outboxDeliveries = db.outboxDeliveries := by
  have hreceipt : Receipted api.references db event' :=
    (hlost.receipted.stays hlater.stays).same hsame
  constructor
  · rintro ⟨event₂, decision, db', hevent₂, harrive⟩
    obtain rfl : event₂ = event' := Except.ok.inj (hevent₂.symm.trans hagain)
    have hstale := (arrive_fresh api again event₂ harrive).2 hreceipt
    cases hstale
  · intro remaining answer life'' h
    exact duplicate_of_receipted api again event' hagain hreceipt h

/-! ### A handler that raises -/

/-- An assistant whose handler raises, as it does when its model is not reachable. -/
def brokenAssistant : AssistantEngine where
  route _ := .ok none
  pendingPlans := true
  handle _ _ _ := throw (.raised .external)
  handle_receipts _ _ _ _ := rfl

def brokenAPI : InternalChannelAPI where
  references := ⟨fun payload => payload⟩
  fieldCipher := none
  assistant := brokenAssistant
  outbox := .standard

theorem eventRef_length : 1 ≤ "event-1".length ∧ "event-1".length ≤ 512 := by decide

theorem qq_length : 1 ≤ "qq".length ∧ "qq".length ≤ 40 := by decide

theorem bot_length : 1 ≤ "bot".length ∧ "bot".length ≤ 160 := by decide

theorem aliceRef_length : 1 ≤ "alice-ref".length ∧ "alice-ref".length ≤ 160 := by decide

/-- A private message of a user who is bound. -/
def noteDelivery : Delivery where
  payload := {
    eventId := "event-1"
    channel := "qq"
    channelAccount := "bot"
    actorRef := "alice-ref"
    conversationRef := "alice-ref"
    conversationKind := .privateChat
    messageKind := .text
    text := "remind me"
    receivedAt := 0
    eventId_length := eventRef_length
    channel_length := qq_length
    channelAccount_length := bot_length
    actorRef_length := aliceRef_length
    conversationRef_length := aliceRef_length
    text_length := by decide
    replyContextRef_length := noReplyContext_short }
  now := 0
  code := ⟨0, by decide⟩
  nonce := ""
  uuid := ""

theorem noteRefs_nonblank : isBlank "event-1" = false ∧ isBlank "qq" = false ∧
    isBlank "bot" = false ∧ isBlank "alice-ref" = false ∧ isBlank "alice-ref" = false := by decide

def noteEvent : InboundEvent where
  eventId := "event-1"
  channel := "qq"
  channelAccount := "bot"
  externalActorRef := "alice-ref"
  externalConversationRef := "alice-ref"
  conversationKind := .privateChat
  messageKind := .text
  receivedAt := 0
  text := some "remind me"
  refs_nonblank := noteRefs_nonblank
  text_nonblank := by decide

def aliceIdentity : ExternalIdentity where
  id := "identity-1"
  userId := "alice"
  channel := "qq"
  channelAccount := "bot"
  encryptedSubject := "enc:v1:"
  opaqueRef := "alice-ref"
  createdAt := 0
  encrypted := by decide
  nonblank := by decide

def aliceStore : Database where
  users := .single ⟨"alice", "Alice", true⟩
  externalIdentities := ⟨[aliceIdentity], by simp⟩

/-- What the failed delivery leaves. -/
def failedLife : Life Database := ((brokenAPI.event noteDelivery).exec ⟨aliceStore, none⟩).2

theorem noteEvent_lost : LostDelivery brokenAPI noteDelivery noteEvent ⟨aliceStore, none⟩
    failedLife (.raised .external) where
  valid := rfl
  reserved := ⟨_, _, rfl⟩
  failed := rfl
  unanswered := rfl

/-- The lost note, delivered once more. -/
theorem never_reprocessed_note : ¬ Processes brokenAPI noteDelivery failedLife.store :=
  (never_reprocessed noteEvent_lost .refl rfl ⟨rfl, rfl, rfl⟩).1

/-- The note is accepted, its handler raises, and the redelivery is not processed but
answered as a duplicate. -/
theorem lost_note_is_duplicate :
    (∃ decision db, (brokenAPI.arrive noteDelivery noteEvent).exec aliceStore =
      (.ok (decision, true), db) ∧ decision.accepted = true) ∧
    ((brokenAPI.event noteDelivery).exec ⟨aliceStore, none⟩).1 = .error (.raised .external) ∧
    failedLife.store.outboxDeliveries.rows = [] ∧
    ((brokenAPI.event noteDelivery).exec failedLife).1 = .ok duplicateEvent ∧
    ¬ Processes brokenAPI noteDelivery failedLife.store := by
  refine ⟨⟨_, _, rfl, rfl⟩, rfl, rfl, rfl, ?_⟩
  rintro ⟨event, decision, db, hevent, harrive⟩
  obtain rfl : noteEvent = event := Except.ok.inj hevent
  have hstale := (arrive_fresh brokenAPI noteDelivery noteEvent harrive).2 noteEvent_lost.receipted
  cases hstale

end InternalChannelAPI

end Zhixu
