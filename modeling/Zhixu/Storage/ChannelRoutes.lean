import Mathlib.Data.List.Dedup
import Zhixu.Storage.Users

/-!
# Channel routes

`ChannelRouteStore`: where events come from (`observe`), which groups take commands
and for whom (`setCommandsEnabled`, `addMember`), and the two kinds of one-time code.
A code is stored by its hash, and both kinds are issued and consumed alike. A link code
also leaves a trace in the audit log, which is what limits the attempts at guessing one.

The only random values here are the id of a new shared workspace, which is an argument
of `setCommandsEnabled`, and the codes, which are drawn by the caller.
-/

open Framework

namespace Zhixu

namespace ChannelRouteStore

/-- `now.astimezone(UTC)`, of an instant that has to exist. -/
def utcText (now : Instant) : Except PyError Unit := raiseIf (¬ Instant.InRange now) .overflow

/-- `observe`. A route that is known keeps its settings. -/
def observe (channel channelAccount opaqueRef : String) (kind : RouteKind) (now : Instant) :
    Transaction Database PyError Unit := fun db => do
  raiseIf (isBlank channel = true ∨ isBlank channelAccount = true ∨ isBlank opaqueRef = true)
    (.validation "channel route fields must not be empty")
  utcText now
  let route : ChannelRoute :=
    { channel, channelAccount, opaqueRef, routeKind := kind, lastSeenAt := now }
  return (⟨⟩, { db with
    channelRoutes := db.channelRoutes.upsert route fun known =>
      { known with routeKind := kind, lastSeenAt := now } })

/-- `get`. -/
def get (channel channelAccount opaqueRef : String) (db : Database) : Option ChannelRoute :=
  db.channelRoutes.find? (channel, channelAccount, opaqueRef)

/-- `is_member`. -/
def isMember (channel channelAccount opaqueRef userId : String) (db : Database) : Bool :=
  (db.channelRouteMembers.find? (channel, channelAccount, opaqueRef, userId)).isSome

/-- The shared workspace a membership gives access to. -/
def workspaceOf (db : Database) (member : RouteMember) : Option String :=
  match get member.channel member.channelAccount member.opaqueRef db with
  | none => none
  | some route =>
    if route.commandsEnabled = true ∧ route.groupMode = .internal then route.sharedOwnerUserId
    else none

/-- `shared_owners_for_member`. -/
def sharedOwnersForMember (userId : String) (db : Database) : List String :=
  let memberships := db.channelRouteMembers.rows.filter fun member => member.userId = userId
  ((memberships.filterMap (workspaceOf db)).dedup).insertionSort (· ≤ ·)

/-! ### Activation codes -/

/-- An activation code nobody has used. -/
def outstandingActivation (userId channel channelAccount : String)
    (challenge : GroupActivationChallenge) : Bool :=
  challenge.userId = userId && challenge.channel = channel &&
    challenge.channelAccount = channelAccount && challenge.consumedAt.isNone

/-- `issue_activation`: the user's codes that are still out are withdrawn. -/
def issueActivation (challenge : GroupActivationChallenge) :
    Transaction Database PyError Unit := fun db => do
  utcText challenge.expiresAt
  utcText challenge.createdAt
  let others := db.groupActivationChallenges.deleteWhere
    (outstandingActivation challenge.userId challenge.channel challenge.channelAccount)
  match others.insert? challenge with
  | none => throw .integrity
  | some groupActivationChallenges =>
    raiseIf (db.hasUser challenge.userId = false) .integrity
    return (⟨⟩, { db with groupActivationChallenges })

/-- `WHERE code_hash=? AND channel=? AND channel_account=? AND consumed_at IS NULL AND
expires_at>?`. -/
def usableActivation (db : Database) (codeHash channel channelAccount : String)
    (now : Instant) : Option GroupActivationChallenge :=
  (db.groupActivationChallenges.find? codeHash).filter fun challenge =>
    challenge.channel = channel && challenge.channelAccount = channelAccount &&
      challenge.consumedAt.isNone && now < challenge.expiresAt

/-- `consume_activation`. -/
def consumeActivation (codeHash channel channelAccount : String) (now : Instant) :
    Transaction Database PyError (Option (String × GroupMode)) := fun db => do
  utcText now
  match usableActivation db codeHash channel channelAccount now with
  | none => return (none, db)
  | some challenge =>
    return (some (challenge.userId, challenge.groupMode), { db with
      groupActivationChallenges := db.groupActivationChallenges.updateWhere
        (fun c => c.codeHash = codeHash && c.consumedAt.isNone)
        fun c => { c with consumedAt := some now } })

/-! ### Members -/

/-- `INSERT OR IGNORE INTO channel_route_members`. The foreign keys are not ignored. -/
def insertMember (member : RouteMember) (db : Database) : Except PyError Database :=
  match db.channelRouteMembers.insert? member with
  | none => .ok db
  | some channelRouteMembers => do
    raiseIf (get member.channel member.channelAccount member.opaqueRef db = none ∨
      db.hasUser member.userId = false ∨ db.hasUser member.addedByUserId = false) .integrity
    return { db with channelRouteMembers }

/-- `add_member`. -/
def addMember (route : ChannelRoute) (userId addedByUserId : String) (now : Instant) :
    Transaction Database PyError Unit := fun db => do
  raiseIf (route.groupMode ≠ .internal) (.validation "members require an internal group")
  utcText now
  let db ← insertMember {
    channel := route.channel
    channelAccount := route.channelAccount
    opaqueRef := route.opaqueRef
    userId, addedByUserId
    createdAt := now } db
  return (⟨⟩, db)

/-! ### Link codes -/

/-- The rows `issue_private_link` deletes: those a day past their expiry, and the codes
of this actor that are still out. -/
def withdrawnLink (channel channelAccount privateActorRef : String) (dayBefore : Instant)
    (challenge : PrivateLinkChallenge) : Bool :=
  challenge.expiresAt < dayBefore || (challenge.channel = channel &&
    challenge.channelAccount = channelAccount && challenge.privateActorRef = privateActorRef &&
    challenge.consumedAt.isNone)

/-- `issue_private_link`. -/
def issuePrivateLink (challenge : PrivateLinkChallenge) : Transaction Database PyError Unit :=
  fun db => do
    utcText challenge.expiresAt
    utcText challenge.createdAt
    let dayBefore ← Instant.plus challenge.createdAt (- Duration.days 1)
    let others := db.privateLinkChallenges.deleteWhere
      (withdrawnLink challenge.channel challenge.channelAccount challenge.privateActorRef
        dayBefore)
    match others.insert? challenge with
    | none => throw .integrity
    | some privateLinkChallenges =>
      return (⟨⟩, Database.audit { db with privateLinkChallenges } {
        occurredAt := challenge.createdAt
        actorUserId := "service:registration"
        action := "create"
        resourceKind := "private_link_challenge"
        resourceId := challenge.codeHash
        outcome := "completed"
        reasonCode := "self_service" })

/-- The denied attempts of a user at a link code since a time. -/
def deniedAttempts (db : Database) (userId : String) (since : Instant) : ℕ :=
  db.auditEvents.countP fun e =>
    e.actorUserId = userId && e.resourceKind = "private_link_challenge" &&
      e.outcome = "denied" && since ≤ e.occurredAt

/-- The audit event of an attempt at a link code. -/
def linkAttempt (userId codeHash : String) (now : Instant) (action outcome reasonCode : String) :
    AuditEvent where
  occurredAt := now
  actorUserId := userId
  action
  resourceKind := "private_link_challenge"
  resourceId := codeHash
  outcome
  reasonCode

/-- `WHERE code_hash=? AND channel=? AND channel_account=? AND consumed_at IS NULL AND
expires_at>?`. -/
def usableLink (db : Database) (codeHash channel channelAccount : String) (now : Instant) :
    Option PrivateLinkChallenge :=
  (db.privateLinkChallenges.find? codeHash).filter fun challenge =>
    challenge.channel = channel && challenge.channelAccount = channelAccount &&
      challenge.consumedAt.isNone && now < challenge.expiresAt

/-- `consume_private_link`. -/
def consumePrivateLink (codeHash channel channelAccount consumedByUserId : String)
    (now : Instant) : Transaction Database PyError (Option String) := fun db => do
  utcText now
  let since ← Instant.plus now (- Duration.minutes 10)
  if 5 ≤ deniedAttempts db consumedByUserId since then return (none, db)
  else
    match usableLink db codeHash channel channelAccount now with
    | none =>
      return (none, db.audit
        (linkAttempt consumedByUserId codeHash now "use" "denied" "invalid_or_expired"))
    | some challenge =>
      let privateLinkChallenges := db.privateLinkChallenges.updateWhere
        (fun c => c.codeHash = codeHash && c.consumedAt.isNone)
        fun c => { c with consumedAt := some now }
      return (some challenge.privateActorRef, Database.audit { db with privateLinkChallenges }
        (linkAttempt consumedByUserId codeHash now "update" "completed" "identity_bound"))

/-! ### Settings -/

/-- The mode a route is set to, and whether it needs a shared workspace of its own. -/
def newMode (route : Option ChannelRoute) (enabled : Bool) (groupMode : Option GroupMode)
    (memberUserIds : Option (List String)) : Except PyError GroupMode :=
  match route with
  | none => .ok .disabled
  | some route =>
    if route.routeKind = .group then
      .ok (if enabled then groupMode.getD .internal else .disabled)
    else do
      raiseIf ((groupMode ≠ none ∧ groupMode ≠ some .disabled) ∨ memberUserIds.getD [] ≠ [])
        (.validation "group settings are only valid for group routes")
      return .disabled

/-- The shared workspace of a route that is set to a mode: the one it has, or a new
user for an internal group without one. -/
def sharedWorkspace (route : Option ChannelRoute) (mode : GroupMode) (fresh : String)
    (db : Database) : Except PyError (Option String × Database) :=
  match route with
  | none => .ok (none, db)
  | some route =>
    if route.routeKind ≠ .group then .ok (none, db)
    else if mode = .internal ∧ route.sharedOwnerUserId = none then
      match db.users.insert? ⟨"group_" ++ fresh, "Shared group workspace", true⟩ with
      | none => .error .integrity
      | some users => .ok (some ("group_" ++ fresh), { db with users })
    else .ok (route.sharedOwnerUserId, db)

/-- The loop over `sorted(members)`. -/
def enrol (channel channelAccount opaqueRef addedByUserId : String) (now : Instant) :
    List String → Database → Except PyError Database
  | [], db => .ok db
  | userId :: userIds, db => do
    raiseIf (UserRepository.isActive userId db = false)
      (.validation "internal group member is not active")
    let db ← insertMember
      { channel, channelAccount, opaqueRef, userId, addedByUserId, createdAt := now } db
    enrol channel channelAccount opaqueRef addedByUserId now userIds db

/-- The members of a group after its settings changed. -/
def settleMembers (route : ChannelRoute) (mode : GroupMode) (actorUserId : String)
    (memberUserIds : Option (List String)) (now : Instant) (db : Database) :
    Except PyError Database :=
  let here : RouteMember → Bool := fun m =>
    m.channel = route.channel && m.channelAccount = route.channelAccount &&
      m.opaqueRef = route.opaqueRef
  if route.routeKind ≠ .group then .ok db
  else if mode = .internal then
    let members := ((actorUserId :: memberUserIds.getD []).dedup).insertionSort (· ≤ ·)
    let kept : Database :=
      if memberUserIds = none then db
      else { db with channelRouteMembers :=
        db.channelRouteMembers.deleteWhere fun m => here m && !members.contains m.userId }
    enrol route.channel route.channelAccount route.opaqueRef actorUserId now members kept
  else .ok { db with channelRouteMembers := db.channelRouteMembers.deleteWhere here }

/-- `UPDATE channel_routes SET …`. -/
def withSettings (enabled : Bool) (actorUserId : String) (mode : GroupMode)
    (sharedOwnerUserId : Option String) (route : ChannelRoute) : ChannelRoute :=
  { route with
    commandsEnabled := enabled
    ownerUserId := if enabled then some actorUserId else route.ownerUserId
    groupMode := mode
    sharedOwnerUserId := route.sharedOwnerUserId.orElse fun _ => sharedOwnerUserId }

/-- The update of the route, and of its members if the route exists. -/
def writeSettings (channel channelAccount opaqueRef : String) (enabled : Bool)
    (actorUserId : String) (now : Instant) (mode : GroupMode)
    (memberUserIds : Option (List String)) (sharedOwnerUserId : Option String)
    (route : Option ChannelRoute) (db : Database) : Except PyError Database :=
  let updated : Database := { db with
    channelRoutes := db.channelRoutes.updateWhere
      (fun r => r.key = (channel, channelAccount, opaqueRef))
      (withSettings enabled actorUserId mode sharedOwnerUserId) }
  match route with
  | none => .ok updated
  | some route => settleMembers route mode actorUserId memberUserIds now updated

/-- `set_commands_enabled`. `fresh` is the `uuid4` of a new shared workspace. -/
def setCommandsEnabled (channel channelAccount opaqueRef : String) (enabled : Bool)
    (actorUserId : String) (now : Instant) (groupMode : Option GroupMode)
    (memberUserIds : Option (List String)) (fresh : String) :
    Transaction Database PyError Bool := fun db => do
  utcText now
  let route := get channel channelAccount opaqueRef db
  raiseIf ((route.bind ChannelRoute.ownerUserId).any fun owner => owner ≠ actorUserId)
    (.permissionDenied "channel route is owned by another user")
  let mode ← newMode route enabled groupMode memberUserIds
  let (sharedOwnerUserId, db) ← sharedWorkspace route mode fresh db
  raiseIf (mode ≠ .internal ∧ memberUserIds.getD [] ≠ [])
    (.validation "members are only valid for internal groups")
  raiseIf (route.isSome = true ∧ enabled = true ∧ db.hasUser actorUserId = false) .integrity
  let settled ← writeSettings channel channelAccount opaqueRef enabled actorUserId now mode
    memberUserIds sharedOwnerUserId route db
  return (route.isSome, settled.audit {
    occurredAt := now
    actorUserId
    action := "update"
    resourceKind := "channel_route"
    resourceId := opaqueRef
    outcome := if route.isSome then "completed" else "not_found"
    reasonCode := if enabled then "commands_enabled" else "commands_disabled" })

/-! ### What an accepted write did -/

theorem utcText_ok {now : Instant} {u : Unit} : utcText now = .ok u ↔ Instant.InRange now := by
  unfold utcText
  rw [raiseIf_eq_ok, not_not]

theorem observe_ok {channel channelAccount opaqueRef : String} {kind : RouteKind}
    {now : Instant} {db db' : Database} {u : Unit}
    (h : observe channel channelAccount opaqueRef kind now db = .ok (u, db')) :
    Instant.InRange now ∧ db' = { db with
      channelRoutes := db.channelRoutes.upsert
        { channel, channelAccount, opaqueRef, routeKind := kind, lastSeenAt := now }
        fun known => { known with routeKind := kind, lastSeenAt := now } } := by
  unfold observe at h
  obtain ⟨-, h⟩ := raiseIf_bind_ok.mp h
  obtain ⟨_, hrange, h⟩ := bind_eq_ok.mp h
  obtain ⟨-, rfl⟩ := Prod.mk.inj (Except.ok.inj h)
  exact ⟨utcText_ok.mp hrange, rfl⟩

/-- A code is issued exactly when its hash is free once the user's codes are withdrawn. -/
theorem issueActivation_ok {challenge : GroupActivationChallenge} {db db' : Database}
    {u : Unit} : issueActivation challenge db = .ok (u, db') ↔
      Instant.InRange challenge.expiresAt ∧ Instant.InRange challenge.createdAt ∧
        ∃ groupActivationChallenges,
          (db.groupActivationChallenges.deleteWhere (outstandingActivation challenge.userId
            challenge.channel challenge.channelAccount)).insert? challenge =
              some groupActivationChallenges ∧
          db.hasUser challenge.userId = true ∧
          db' = { db with groupActivationChallenges } := by
  unfold issueActivation
  simp only [bind_eq_ok, utcText_ok, exists_const]
  refine and_congr Iff.rfl (and_congr Iff.rfl ?_)
  cases (db.groupActivationChallenges.deleteWhere (outstandingActivation challenge.userId
    challenge.channel challenge.channelAccount)).insert? challenge with
  | none => simp [throw, throwThe, MonadExceptOf.throw]
  | some groupActivationChallenges =>
    simp only [raiseIf_bind_ok, Bool.not_eq_false, Option.some.injEq]
    constructor
    · rintro ⟨huser, h⟩
      obtain ⟨-, rfl⟩ := Prod.mk.inj (Except.ok.inj h)
      exact ⟨_, rfl, huser, rfl⟩
    · rintro ⟨_, rfl, huser, rfl⟩
      exact ⟨huser, rfl⟩

/-- A code that nobody can use now leaves no trace. One that can be used is used up. -/
theorem consumeActivation_ok {codeHash channel channelAccount : String} {now : Instant}
    {db db' : Database} {consumed : Option (String × GroupMode)}
    (h : consumeActivation codeHash channel channelAccount now db = .ok (consumed, db')) :
    (usableActivation db codeHash channel channelAccount now = none ∧ consumed = none ∧
      db' = db) ∨
    ∃ challenge, usableActivation db codeHash channel channelAccount now = some challenge ∧
      consumed = some (challenge.userId, challenge.groupMode) ∧ db' = { db with
        groupActivationChallenges := db.groupActivationChallenges.updateWhere
          (fun c => c.codeHash = codeHash && c.consumedAt.isNone)
          fun c => { c with consumedAt := some now } } := by
  unfold consumeActivation at h
  obtain ⟨_, -, h⟩ := bind_eq_ok.mp h
  cases husable : usableActivation db codeHash channel channelAccount now with
  | none =>
    rw [husable] at h
    obtain ⟨rfl, rfl⟩ := Prod.mk.inj (Except.ok.inj h)
    exact .inl ⟨rfl, rfl, rfl⟩
  | some challenge =>
    rw [husable] at h
    obtain ⟨rfl, rfl⟩ := Prod.mk.inj (Except.ok.inj h)
    exact .inr ⟨challenge, rfl, rfl, rfl⟩

theorem insertMember_ok {member : RouteMember} {db db' : Database}
    (h : insertMember member db = .ok db') :
    (db' = db ∧ ∃ r, db.channelRouteMembers.find? member.key = some r) ∨
    ∃ channelRouteMembers, db.channelRouteMembers.insert? member = some channelRouteMembers ∧
      db' = { db with channelRouteMembers } := by
  unfold insertMember at h
  cases hinsert : db.channelRouteMembers.insert? member with
  | none =>
    rw [hinsert] at h
    exact .inl ⟨(Except.ok.inj h).symm, Table.insert?_eq_none.mp hinsert⟩
  | some channelRouteMembers =>
    rw [hinsert] at h
    obtain ⟨-, h⟩ := raiseIf_bind_ok.mp h
    exact .inr ⟨channelRouteMembers, rfl, (Except.ok.inj h).symm⟩

theorem addMember_ok {route : ChannelRoute} {userId addedByUserId : String} {now : Instant}
    {db db' : Database} {u : Unit}
    (h : addMember route userId addedByUserId now db = .ok (u, db')) :
    insertMember {
      channel := route.channel
      channelAccount := route.channelAccount
      opaqueRef := route.opaqueRef
      userId, addedByUserId
      createdAt := now } db = .ok db' := by
  unfold addMember at h
  obtain ⟨-, h⟩ := raiseIf_bind_ok.mp h
  obtain ⟨_, -, h⟩ := bind_eq_ok.mp h
  obtain ⟨db₁, hdb₁, h⟩ := bind_eq_ok.mp h
  obtain ⟨-, rfl⟩ := Prod.mk.inj (Except.ok.inj h)
  exact hdb₁

/-- A link code is issued exactly when its hash is free once the withdrawn codes are gone,
and leaves an audit event. -/
theorem issuePrivateLink_ok {challenge : PrivateLinkChallenge} {db db' : Database} {u : Unit}
    (h : issuePrivateLink challenge db = .ok (u, db')) :
    ∃ dayBefore privateLinkChallenges event,
      Instant.plus challenge.createdAt (- Duration.days 1) = .ok dayBefore ∧
      (db.privateLinkChallenges.deleteWhere (withdrawnLink challenge.channel
        challenge.channelAccount challenge.privateActorRef dayBefore)).insert? challenge =
          some privateLinkChallenges ∧
      db' = Database.audit { db with privateLinkChallenges } event := by
  unfold issuePrivateLink at h
  obtain ⟨_, -, h⟩ := bind_eq_ok.mp h
  obtain ⟨_, -, h⟩ := bind_eq_ok.mp h
  obtain ⟨dayBefore, hday, h⟩ := bind_eq_ok.mp h
  cases hinsert : (db.privateLinkChallenges.deleteWhere (withdrawnLink challenge.channel
      challenge.channelAccount challenge.privateActorRef dayBefore)).insert? challenge with
  | none => simp only [hinsert] at h; cases h
  | some privateLinkChallenges =>
    simp only [hinsert] at h
    obtain ⟨-, rfl⟩ := Prod.mk.inj (Except.ok.inj h)
    exact ⟨dayBefore, privateLinkChallenges, _, hday, hinsert, rfl⟩

theorem issuePrivateLink_runs {challenge : PrivateLinkChallenge} {db : Database}
    {dayBefore : Instant} {privateLinkChallenges : Table PrivateLinkChallenge _}
    (hexpires : Instant.InRange challenge.expiresAt)
    (hcreated : Instant.InRange challenge.createdAt)
    (hday : Instant.plus challenge.createdAt (- Duration.days 1) = .ok dayBefore)
    (hinsert : (db.privateLinkChallenges.deleteWhere (withdrawnLink challenge.channel
      challenge.channelAccount challenge.privateActorRef dayBefore)).insert? challenge =
        some privateLinkChallenges) :
    ∃ event, issuePrivateLink challenge db =
      .ok (⟨⟩, Database.audit { db with privateLinkChallenges } event) := by
  have hexpiresText : utcText challenge.expiresAt = .ok ⟨⟩ := utcText_ok.mpr hexpires
  have hcreatedText : utcText challenge.createdAt = .ok ⟨⟩ := utcText_ok.mpr hcreated
  unfold issuePrivateLink
  rw [hexpiresText, hcreatedText, hday]
  refine ⟨{
    occurredAt := challenge.createdAt
    actorUserId := "service:registration"
    action := "create"
    resourceKind := "private_link_challenge"
    resourceId := challenge.codeHash
    outcome := "completed"
    reasonCode := "self_service" }, ?_⟩
  refine bind_eq_ok.mpr ⟨⟨⟩, rfl, bind_eq_ok.mpr ⟨⟨⟩, rfl, bind_eq_ok.mpr ⟨dayBefore, rfl, ?_⟩⟩⟩
  simp only [hinsert]
  rfl

/-- An attempt at a link code is always recorded, unless there were too many before. -/
theorem consumePrivateLink_ok {codeHash channel channelAccount userId : String}
    {now : Instant} {db db' : Database} {consumed : Option String}
    (h : consumePrivateLink codeHash channel channelAccount userId now db = .ok (consumed, db')) :
    (∃ since, Instant.plus now (- Duration.minutes 10) = .ok since ∧
      5 ≤ deniedAttempts db userId since ∧ db' = db ∧ consumed = none) ∨
    ((∀ since, Instant.plus now (- Duration.minutes 10) = .ok since →
        ¬ 5 ≤ deniedAttempts db userId since) ∧
      ∃ privateLinkChallenges event,
        db' = Database.audit { db with privateLinkChallenges } event) := by
  unfold consumePrivateLink at h
  obtain ⟨_, -, h⟩ := bind_eq_ok.mp h
  obtain ⟨since, hsince, h⟩ := bind_eq_ok.mp h
  by_cases hmany : 5 ≤ deniedAttempts db userId since
  · rw [if_pos hmany] at h
    obtain ⟨rfl, rfl⟩ := Prod.mk.inj (Except.ok.inj h)
    exact .inl ⟨since, hsince, hmany, rfl, rfl⟩
  · rw [if_neg hmany] at h
    refine .inr ⟨fun since' hsince' => ?_, ?_⟩
    · rw [hsince] at hsince'
      exact Except.ok.inj hsince' ▸ hmany
    · cases husable : usableLink db codeHash channel channelAccount now with
      | none =>
        rw [husable] at h
        obtain ⟨rfl, rfl⟩ := Prod.mk.inj (Except.ok.inj h)
        exact ⟨db.privateLinkChallenges, _, rfl⟩
      | some challenge =>
        rw [husable] at h
        obtain ⟨rfl, rfl⟩ := Prod.mk.inj (Except.ok.inj h)
        exact ⟨_, _, rfl⟩

theorem sharedWorkspace_ok {route : Option ChannelRoute} {mode : GroupMode} {fresh : String}
    {db : Database} {out : Option String × Database}
    (h : sharedWorkspace route mode fresh db = .ok out) :
    ∃ users, out.2 = { db with users } := by
  unfold sharedWorkspace at h
  cases route with
  | none => exact ⟨db.users, by rw [← Except.ok.inj h]⟩
  | some route =>
    simp only at h
    by_cases hkind : route.routeKind ≠ .group
    · rw [if_pos hkind] at h
      exact ⟨db.users, by rw [← Except.ok.inj h]⟩
    · rw [if_neg hkind] at h
      by_cases hnew : mode = .internal ∧ route.sharedOwnerUserId = none
      · rw [if_pos hnew] at h
        cases hinsert : db.users.insert? ⟨"group_" ++ fresh, "Shared group workspace", true⟩ with
        | none => rw [hinsert] at h; cases h
        | some users =>
          rw [hinsert] at h
          exact ⟨users, by rw [← Except.ok.inj h]⟩
      · rw [if_neg hnew] at h
        exact ⟨db.users, by rw [← Except.ok.inj h]⟩

theorem enrol_ok {channel channelAccount opaqueRef addedByUserId : String} {now : Instant} :
    ∀ {userIds : List String} {db db' : Database},
      enrol channel channelAccount opaqueRef addedByUserId now userIds db = .ok db' →
        ∃ channelRouteMembers, db' = { db with channelRouteMembers } := by
  intro userIds
  induction userIds with
  | nil =>
    intro db db' h
    exact ⟨db.channelRouteMembers, by rw [← Except.ok.inj h]⟩
  | cons userId userIds ih =>
    intro db db' h
    unfold enrol at h
    obtain ⟨-, h⟩ := raiseIf_bind_ok.mp h
    obtain ⟨db₁, hdb₁, h⟩ := bind_eq_ok.mp h
    obtain ⟨members, rfl⟩ := ih h
    rcases insertMember_ok hdb₁ with ⟨rfl, -⟩ | ⟨_, -, rfl⟩
    · exact ⟨members, rfl⟩
    · exact ⟨members, rfl⟩

theorem settleMembers_ok {route : ChannelRoute} {mode : GroupMode} {actorUserId : String}
    {memberUserIds : Option (List String)} {now : Instant} {db db' : Database}
    (h : settleMembers route mode actorUserId memberUserIds now db = .ok db') :
    ∃ channelRouteMembers, db' = { db with channelRouteMembers } := by
  unfold settleMembers at h
  simp only at h
  by_cases hkind : route.routeKind ≠ .group
  · rw [if_pos hkind] at h
    exact ⟨db.channelRouteMembers, by rw [← Except.ok.inj h]⟩
  · rw [if_neg hkind] at h
    by_cases hmode : mode = .internal
    · rw [if_pos hmode] at h
      obtain ⟨members, hmembers⟩ := enrol_ok h
      by_cases hnone : memberUserIds = none
      · rw [if_pos hnone] at hmembers
        exact ⟨members, hmembers⟩
      · rw [if_neg hnone] at hmembers
        exact ⟨members, hmembers⟩
    · rw [if_neg hmode] at h
      exact ⟨_, (Except.ok.inj h).symm⟩

/-- New settings change the route, its members, and at most add a workspace. The kind of
the route stays. -/
theorem setCommandsEnabled_ok {channel channelAccount opaqueRef actorUserId fresh : String}
    {enabled : Bool} {now : Instant} {groupMode : Option GroupMode}
    {memberUserIds : Option (List String)} {db db' : Database} {changed : Bool}
    (h : setCommandsEnabled channel channelAccount opaqueRef enabled actorUserId now groupMode
      memberUserIds fresh db = .ok (changed, db')) :
    ∃ users channelRouteMembers event, ∃ f : ChannelRoute → ChannelRoute,
      ∃ hf : ∀ r, (f r).key = r.key, (∀ r, (f r).routeKind = r.routeKind) ∧
        db' = Database.audit { db with
          users, channelRouteMembers
          channelRoutes := db.channelRoutes.updateWhere
            (fun r => r.key = (channel, channelAccount, opaqueRef)) f hf } event := by
  unfold setCommandsEnabled at h
  obtain ⟨_, -, h⟩ := bind_eq_ok.mp h
  obtain ⟨-, h⟩ := raiseIf_bind_ok.mp h
  obtain ⟨mode, -, h⟩ := bind_eq_ok.mp h
  obtain ⟨⟨shared, db₁⟩, hdb₁, h⟩ := bind_eq_ok.mp h
  obtain ⟨users, hshared⟩ := sharedWorkspace_ok hdb₁
  simp only at hshared
  subst hshared
  obtain ⟨-, h⟩ := raiseIf_bind_ok.mp h
  obtain ⟨-, h⟩ := raiseIf_bind_ok.mp h
  obtain ⟨settled, hsettled, h⟩ := bind_eq_ok.mp h
  obtain ⟨-, rfl⟩ := Prod.mk.inj (Except.ok.inj h)
  unfold writeSettings at hsettled
  cases hroute : get channel channelAccount opaqueRef db with
  | none =>
    simp only [hroute] at hsettled
    rw [← Except.ok.inj hsettled]
    exact ⟨users, db.channelRouteMembers, _, withSettings enabled actorUserId mode shared,
      fun _ => rfl, fun _ => rfl, rfl⟩
  | some route =>
    simp only [hroute] at hsettled
    obtain ⟨members, rfl⟩ := settleMembers_ok hsettled
    exact ⟨users, members, _, withSettings enabled actorUserId mode shared,
      fun _ => rfl, fun _ => rfl, rfl⟩

end ChannelRouteStore

end Zhixu
