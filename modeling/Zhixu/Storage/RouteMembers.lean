import Zhixu.Framework.Machine
import Zhixu.Storage.ChannelRoutes
import Zhixu.Storage.Users

/-!
# Who is a member of a group

The members of a group have access to its shared workspace while the group is in internal mode.
`setCommandsEnabled` keeps the two together: it deletes all members when it takes a group out of
internal mode. `addMember` does not look at the stored route. It gets the route as the event that adds
the member has read it, and between the reading and the adding the owner may have changed the mode.

`FollowsMode` says that a group that is not internal has no members. The machine of this file has the
operations of both sides as calls of their own, so its runs are their interleavings; an added member
comes with any route value at all. `followsMode_iff` says which runs keep `FollowsMode`: those in which
no member is added to a group that is not internal any more (`Current`).

Two more facts make the step lemmas go through, and hold in every run: every route is that of a group,
and every member is one of a known route (`Enrolled`). `reenabled_members` is what the property is for:
a group that is enabled again without a list of members has its owner for a member, and nobody else.
-/

open Framework

namespace Zhixu

/-- The route of a membership. -/
def RouteMember.routeKey (m : RouteMember) : String × String × String :=
  (m.channel, m.channelAccount, m.opaqueRef)

namespace ChannelRouteStore

/-- The calls of the owner, of the activation by code and of the events of a group. -/
inductive RouteCall
  /-- an event arrives and its group is observed -/
  | observe (channel channelAccount opaqueRef : String) (now : Instant)
  /-- an event reads its route -/
  | get (channel channelAccount opaqueRef : String)
  /-- an event registers a sender that is not known yet -/
  | provision (user : UserRow) (authorization : AuthorizedAction)
  /-- an event adds its sender to the route it has read -/
  | addMember (route : ChannelRoute) (userId addedByUserId : String) (now : Instant)
  | issueActivation (challenge : GroupActivationChallenge)
  | consumeActivation (codeHash channel channelAccount : String) (now : Instant)
  | setCommandsEnabled (channel channelAccount opaqueRef : String) (enabled : Bool)
      (actorUserId : String) (now : Instant) (groupMode : Option GroupMode)
      (memberUserIds : Option (List String)) (fresh : String)

/-- The answers of the calls. -/
inductive RouteAnswer
  | done
  | route (route : Option ChannelRoute)
  | activated (activation : Option (String × GroupMode))
  | changed (changed : Bool)

def performRoute : RouteCall → Effect Database PyError RouteAnswer
  | .observe channel channelAccount opaqueRef now =>
    (fun _ => .done) <$> Effect.atomically (observe channel channelAccount opaqueRef .group now)
  | .get channel channelAccount opaqueRef =>
    Effect.reads fun db => .route (get channel channelAccount opaqueRef db)
  | .provision user authorization =>
    (fun _ => .done) <$> Effect.atomically (UserRepository.create user authorization)
  | .addMember route userId addedByUserId now =>
    (fun _ => .done) <$> Effect.atomically (addMember route userId addedByUserId now)
  | .issueActivation challenge => (fun _ => .done) <$> Effect.atomically (issueActivation challenge)
  | .consumeActivation codeHash channel channelAccount now =>
    .activated <$> Effect.atomically (consumeActivation codeHash channel channelAccount now)
  | .setCommandsEnabled channel channelAccount opaqueRef enabled actorUserId now groupMode
      memberUserIds fresh =>
    .changed <$> Effect.atomically (setCommandsEnabled channel channelAccount opaqueRef enabled
      actorUserId now groupMode memberUserIds fresh)

def routeMachine : Machine Database RouteCall (Except PyError RouteAnswer) where
  exec db call := (performRoute call).exec db

/-! ### The property -/

/-- **A group that is not internal has no members.** -/
def FollowsMode (db : Database) : Prop :=
  ∀ route ∈ db.channelRoutes.rows, route.routeKind = .group → route.groupMode ≠ .internal →
    ∀ member ∈ db.channelRouteMembers.rows, member.routeKey ≠ route.key

/-- What else holds in every run: all routes are those of groups, and every member has one. -/
structure Enrolled (db : Database) : Prop where
  group : ∀ route ∈ db.channelRoutes.rows, route.routeKind = .group
  routed : ∀ member ∈ db.channelRouteMembers.rows,
    ∃ route ∈ db.channelRoutes.rows, route.key = member.routeKey

/-- **The calls that keep the property**: a member is added while the stored group is internal. What
comes before are the conditions under which an added member is accepted. -/
def Current (g : Stage Database RouteCall (Except PyError RouteAnswer)) : RouteCall → Prop
  | .addMember route userId addedByUserId now =>
    route.groupMode = .internal → Instant.InRange now → g.state.hasUser userId = true →
      g.state.hasUser addedByUserId = true →
        ∀ stored, get route.channel route.channelAccount route.opaqueRef g.state = some stored →
          stored.groupMode = .internal
  | _ => True

/-! ### Settings -/

theorem mem_enrol {channel channelAccount opaqueRef addedByUserId : String} {now : Instant}
    {userIds : List String} {db db' : Database}
    (h : enrol channel channelAccount opaqueRef addedByUserId now userIds db = .ok db')
    {member : RouteMember} (hmem : member ∈ db'.channelRouteMembers.rows) :
    member ∈ db.channelRouteMembers.rows ∨
      (member.routeKey = (channel, channelAccount, opaqueRef) ∧ member.userId ∈ userIds) := by
  induction userIds generalizing db with
  | nil =>
    obtain rfl := Except.ok.inj h
    exact Or.inl hmem
  | cons userId userIds ih =>
    unfold enrol at h
    obtain ⟨-, h⟩ := raiseIf_bind_ok.mp h
    obtain ⟨db₁, hdb₁, h⟩ := bind_eq_ok.mp h
    rcases ih h with hbefore | ⟨hkey, huser⟩
    · rcases insertMember_ok hdb₁ with ⟨rfl, -⟩ | ⟨members, hinsert, rfl⟩
      · exact Or.inl hbefore
      · rw [Table.rows_insert hinsert] at hbefore
        rcases List.mem_append.mp hbefore with hold | hnew
        · exact Or.inl hold
        · obtain rfl := List.mem_singleton.mp hnew
          exact Or.inr ⟨rfl, List.mem_cons_self⟩
    · exact Or.inr ⟨hkey, List.mem_cons_of_mem _ huser⟩

/-- The members of a group after its mode was set. -/
theorem mem_settleMembers {route : ChannelRoute} (hgroup : route.routeKind = .group)
    {mode : GroupMode} {actorUserId : String} {memberUserIds : Option (List String)} {now : Instant}
    {db db' : Database} (h : settleMembers route mode actorUserId memberUserIds now db = .ok db')
    {member : RouteMember} (hmem : member ∈ db'.channelRouteMembers.rows) :
    (mode = .internal ∧ (member ∈ db.channelRouteMembers.rows ∨
        (member.routeKey = route.key ∧
          member.userId ∈ actorUserId :: memberUserIds.getD []))) ∨
      (mode ≠ .internal ∧ member ∈ db.channelRouteMembers.rows ∧ member.routeKey ≠ route.key) := by
  unfold settleMembers at h
  simp only at h
  rw [if_neg (not_not.mpr hgroup)] at h
  by_cases hmode : mode = .internal
  · rw [if_pos hmode] at h
    refine Or.inl ⟨hmode, ?_⟩
    rcases mem_enrol h hmem with hkept | ⟨hkey, huser⟩
    · by_cases hnone : memberUserIds = none
      · rw [if_pos hnone] at hkept
        exact Or.inl hkept
      · rw [if_neg hnone] at hkept
        exact Or.inl (List.mem_of_mem_filter hkept)
    · rw [List.mem_insertionSort, List.mem_dedup] at huser
      exact Or.inr ⟨hkey, huser⟩
  · rw [if_neg hmode] at h
    obtain rfl := Except.ok.inj h
    obtain ⟨hold, hother⟩ := List.mem_filter.mp hmem
    refine Or.inr ⟨hmode, hold, fun hkey => ?_⟩
    obtain ⟨hchannel, haccount, href⟩ : member.channel = route.channel ∧
        member.channelAccount = route.channelAccount ∧ member.opaqueRef = route.opaqueRef := by
      unfold RouteMember.routeKey ChannelRoute.key at hkey
      simpa using hkey
    simp [hchannel, haccount, href] at hother

/-- **What new settings are**: a mode, with the members that go with it. -/
theorem setCommandsEnabled_settled {channel channelAccount opaqueRef actorUserId fresh : String}
    {enabled : Bool} {now : Instant} {groupMode : Option GroupMode}
    {memberUserIds : Option (List String)} {db db' : Database} {changed : Bool}
    (h : setCommandsEnabled channel channelAccount opaqueRef enabled actorUserId now groupMode
      memberUserIds fresh db = .ok (changed, db')) :
    ∃ mode shared before after event,
      newMode (get channel channelAccount opaqueRef db) enabled groupMode memberUserIds = .ok mode ∧
      before.channelRoutes = db.channelRoutes.updateWhere
        (fun r => r.key = (channel, channelAccount, opaqueRef))
        (withSettings enabled actorUserId mode shared) ∧
      before.channelRouteMembers = db.channelRouteMembers ∧
      (match get channel channelAccount opaqueRef db with
        | none => after = before
        | some route => settleMembers route mode actorUserId memberUserIds now before = .ok after) ∧
      db' = Database.audit after event := by
  unfold setCommandsEnabled at h
  obtain ⟨_, -, h⟩ := bind_eq_ok.mp h
  obtain ⟨-, h⟩ := raiseIf_bind_ok.mp h
  obtain ⟨mode, hmode, h⟩ := bind_eq_ok.mp h
  obtain ⟨⟨shared, db₁⟩, hdb₁, h⟩ := bind_eq_ok.mp h
  obtain ⟨users, hshared⟩ := sharedWorkspace_ok hdb₁
  simp only at hshared
  subst hshared
  obtain ⟨-, h⟩ := raiseIf_bind_ok.mp h
  obtain ⟨-, h⟩ := raiseIf_bind_ok.mp h
  obtain ⟨settled, hsettled, h⟩ := bind_eq_ok.mp h
  obtain ⟨-, rfl⟩ := Prod.mk.inj (Except.ok.inj h)
  unfold writeSettings at hsettled
  refine ⟨mode, shared, { db with
      users
      channelRoutes := db.channelRoutes.updateWhere
        (fun r => r.key = (channel, channelAccount, opaqueRef))
        (withSettings enabled actorUserId mode shared) },
    settled, _, hmode, rfl, rfl, ?_, rfl⟩
  cases hroute : get channel channelAccount opaqueRef db with
  | none =>
    rw [hroute] at hsettled
    exact (Except.ok.inj hsettled).symm
  | some route =>
    rw [hroute] at hsettled
    exact hsettled

/-- A row of the routes after new settings. -/
theorem mem_updated {db before : Database} {key : String × String × String} {enabled : Bool}
    {actorUserId : String} {mode : GroupMode} {shared : Option String}
    (h : before.channelRoutes = db.channelRoutes.updateWhere (fun r => r.key = key)
      (withSettings enabled actorUserId mode shared))
    {route : ChannelRoute} (hmem : route ∈ before.channelRoutes.rows) :
    ∃ stored ∈ db.channelRoutes.rows, route.key = stored.key ∧
      route.routeKind = stored.routeKind ∧
      (stored.key = key → route.groupMode = mode) ∧ (stored.key ≠ key → route = stored) := by
  rw [h] at hmem
  obtain ⟨stored, hstored, rfl⟩ := List.mem_map.mp hmem
  refine ⟨stored, hstored, ?_⟩
  by_cases hkey : stored.key = key
  · rw [if_pos (decide_eq_true hkey)]
    exact ⟨rfl, rfl, fun _ => rfl, fun hne => absurd hkey hne⟩
  · rw [if_neg (by simpa using hkey)]
    exact ⟨rfl, rfl, fun hself => absurd hself hkey, fun _ => rfl⟩

/-- A route that stays known is known to its members. -/
theorem routed_updated {db before : Database} {key : String × String × String} {enabled : Bool}
    {actorUserId : String} {mode : GroupMode} {shared : Option String}
    (h : before.channelRoutes = db.channelRoutes.updateWhere (fun r => r.key = key)
      (withSettings enabled actorUserId mode shared))
    {route : ChannelRoute} (hmem : route ∈ db.channelRoutes.rows) :
    ∃ route' ∈ before.channelRoutes.rows, route'.key = route.key := by
  rw [h]
  refine ⟨_, List.mem_map.mpr ⟨route, hmem, rfl⟩, ?_⟩
  by_cases hkey : decide (route.key = key) = true
  · rw [if_pos hkey]
    rfl
  · rw [if_neg hkey]

theorem enrolled_setCommandsEnabled {channel channelAccount opaqueRef actorUserId fresh : String}
    {enabled : Bool} {now : Instant} {groupMode : Option GroupMode}
    {memberUserIds : Option (List String)} {db db' : Database} {changed : Bool}
    (henrolled : Enrolled db)
    (h : setCommandsEnabled channel channelAccount opaqueRef enabled actorUserId now groupMode
      memberUserIds fresh db = .ok (changed, db')) : Enrolled db' := by
  obtain ⟨mode, shared, before, after, event, -, hroutes, hmembers, hsettled, rfl⟩ :=
    setCommandsEnabled_settled h
  have hgroup : ∀ route ∈ before.channelRoutes.rows, route.routeKind = .group := by
    intro route hroute
    obtain ⟨stored, hstored, -, hkind, -, -⟩ := mem_updated hroutes hroute
    rw [hkind]
    exact henrolled.group stored hstored
  have hkept : ∀ member ∈ db.channelRouteMembers.rows,
      ∃ route ∈ before.channelRoutes.rows, route.key = member.routeKey := by
    intro member hold
    obtain ⟨route, hroute, hkey⟩ := henrolled.routed member hold
    obtain ⟨route', hroute', hsame⟩ := routed_updated hroutes hroute
    exact ⟨route', hroute', hsame.trans hkey⟩
  suffices hafter : Enrolled after from ⟨hafter.group, hafter.routed⟩
  cases hroute : get channel channelAccount opaqueRef db with
  | none =>
    rw [hroute] at hsettled
    obtain rfl : after = before := hsettled
    refine ⟨hgroup, fun member hmem => ?_⟩
    rw [hmembers] at hmem
    exact hkept member hmem
  | some route =>
    rw [hroute] at hsettled
    have hstored := Table.mem_of_find? hroute
    obtain ⟨members, hafter⟩ := settleMembers_ok hsettled
    have hroutes' : after.channelRoutes = before.channelRoutes := by rw [hafter]
    refine ⟨by rw [hroutes']; exact hgroup, fun member hmember => ?_⟩
    rw [hroutes']
    rcases mem_settleMembers (henrolled.group route hstored) hsettled hmember with
      ⟨-, hold | ⟨hnew, -⟩⟩ | ⟨-, hold, -⟩
    · rw [hmembers] at hold
      exact hkept member hold
    · obtain ⟨route', hroute', hsame⟩ := routed_updated hroutes hstored
      exact ⟨route', hroute', hsame.trans hnew.symm⟩
    · rw [hmembers] at hold
      exact hkept member hold

/-- **New settings keep the property.** -/
theorem followsMode_setCommandsEnabled {channel channelAccount opaqueRef actorUserId fresh : String}
    {enabled : Bool} {now : Instant} {groupMode : Option GroupMode}
    {memberUserIds : Option (List String)} {db db' : Database} {changed : Bool}
    (henrolled : Enrolled db) (hfollows : FollowsMode db)
    (h : setCommandsEnabled channel channelAccount opaqueRef enabled actorUserId now groupMode
      memberUserIds fresh db = .ok (changed, db')) : FollowsMode db' := by
  obtain ⟨mode, shared, before, after, event, -, hroutes, hmembers, hsettled, rfl⟩ :=
    setCommandsEnabled_settled h
  suffices hafter : FollowsMode after from hafter
  cases hroute : get channel channelAccount opaqueRef db with
  | none =>
    rw [hroute] at hsettled
    obtain rfl : after = before := hsettled
    -- no row has the key, so nothing is updated
    have hunknown : ∀ stored ∈ db.channelRoutes.rows,
        stored.key ≠ (channel, channelAccount, opaqueRef) := Table.find?_eq_none.mp hroute
    intro route hmem hkind hmode member hmember
    rw [hmembers] at hmember
    obtain ⟨stored, hstored, -, -, -, hother⟩ := mem_updated hroutes hmem
    obtain rfl := hother (hunknown stored hstored)
    exact hfollows route hstored hkind hmode member hmember
  | some route =>
    rw [hroute] at hsettled
    have hstored := Table.mem_of_find? hroute
    have hkey : route.key = (channel, channelAccount, opaqueRef) := Table.key_of_find? hroute
    obtain ⟨members, hafter⟩ := settleMembers_ok hsettled
    have hroutes' : after.channelRoutes = before.channelRoutes := by rw [hafter]
    intro r hr hkind hmode member hmember
    have hmem := mem_settleMembers (henrolled.group route hstored) hsettled hmember
    rw [hroutes'] at hr
    obtain ⟨stored, hold, hrkey, -, hself, hother⟩ := mem_updated hroutes hr
    by_cases hthis : stored.key = (channel, channelAccount, opaqueRef)
    · -- the group itself: it has just left internal mode
      have hleft : mode ≠ .internal := fun hmode' => hmode ((hself hthis).trans hmode')
      rcases hmem with ⟨hinternal, -⟩ | ⟨-, -, hgone⟩
      · exact absurd hinternal hleft
      · rw [hrkey, hthis, ← hkey]
        exact hgone
    · obtain rfl := hother hthis
      rcases hmem with ⟨-, hkept | ⟨hnew, -⟩⟩ | ⟨-, hkept, -⟩
      · rw [hmembers] at hkept
        exact hfollows r hold hkind hmode member hkept
      · rw [hnew, hkey]
        exact fun hsame => hthis hsame.symm
      · rw [hmembers] at hkept
        exact hfollows r hold hkind hmode member hkept

/-- **Enabled again without a list**: the members of the group are its owner. -/
theorem reenabled_members {channel channelAccount opaqueRef actorUserId fresh : String}
    {now : Instant} {groupMode : Option GroupMode} {db db' : Database} {changed : Bool}
    (henrolled : Enrolled db) (hfollows : FollowsMode db) {route : ChannelRoute}
    (hroute : get channel channelAccount opaqueRef db = some route)
    (hmode : route.groupMode ≠ .internal)
    (h : setCommandsEnabled channel channelAccount opaqueRef true actorUserId now groupMode none
      fresh db = .ok (changed, db')) :
    ∀ member ∈ db'.channelRouteMembers.rows,
      member.routeKey = (channel, channelAccount, opaqueRef) → member.userId = actorUserId := by
  obtain ⟨mode, shared, before, after, event, -, hroutes, hmembers, hsettled, rfl⟩ :=
    setCommandsEnabled_settled h
  rw [hroute] at hsettled
  have hstored := Table.mem_of_find? hroute
  have hgroup := henrolled.group route hstored
  have hkey : route.key = (channel, channelAccount, opaqueRef) := Table.key_of_find? hroute
  have hnobody : ∀ member ∈ before.channelRouteMembers.rows, member.routeKey ≠ route.key := by
    rw [hmembers]
    exact hfollows route hstored hgroup hmode
  intro member hmember hhere
  rw [← hkey] at hhere
  rcases mem_settleMembers hgroup hsettled hmember with ⟨-, hold | ⟨-, huser⟩⟩ | ⟨-, -, hgone⟩
  · exact absurd hhere (hnobody member hold)
  · exact List.mem_singleton.mp huser
  · exact absurd hhere hgone

/-! ### Events -/

/-- The routes after an event: those that were there, with their modes, and at most a new one. -/
theorem mem_observed {channel channelAccount opaqueRef : String} {now : Instant}
    {db db' : Database} {u : Unit} (henrolled : Enrolled db)
    (h : observe channel channelAccount opaqueRef .group now db = .ok (u, db')) :
    db'.channelRouteMembers = db.channelRouteMembers ∧
    (∀ route ∈ db'.channelRoutes.rows, route.routeKind = .group ∧
      ((∃ stored ∈ db.channelRoutes.rows, stored.key = route.key ∧
        route.groupMode = stored.groupMode) ∨
        ∀ stored ∈ db.channelRoutes.rows, stored.key ≠ route.key)) ∧
    ∀ stored ∈ db.channelRoutes.rows, ∃ route ∈ db'.channelRoutes.rows, route.key = stored.key := by
  obtain ⟨-, rfl⟩ := observe_ok h
  have hfind := Table.find?_upsert db.channelRoutes
    ({ channel, channelAccount, opaqueRef, routeKind := .group, lastSeenAt := now } : ChannelRoute)
    (fun known => { known with routeKind := .group, lastSeenAt := now }) (fun _ => rfl)
  change ∀ k, _ = if k = (channel, channelAccount, opaqueRef) then _ else _ at hfind
  refine ⟨rfl, fun route hroute => ?_, fun stored hstored => ?_⟩
  · have hself := Table.find?_of_mem hroute
    rw [hfind] at hself
    by_cases hkey : route.key = (channel, channelAccount, opaqueRef)
    · rw [if_pos hkey] at hself
      cases hstored : db.channelRoutes.find? route.key with
      | none =>
        rw [hstored] at hself
        obtain rfl := Option.some.inj hself
        exact ⟨rfl, Or.inr (Table.find?_eq_none.mp hstored)⟩
      | some stored =>
        rw [hstored] at hself
        have hsame := Table.key_of_find? hstored
        obtain rfl := Option.some.inj hself
        exact ⟨rfl, Or.inl ⟨stored, Table.mem_of_find? hstored, hsame, rfl⟩⟩
    · rw [if_neg hkey] at hself
      have hmem := Table.mem_of_find? hself
      exact ⟨henrolled.group route hmem, Or.inl ⟨route, hmem, rfl, rfl⟩⟩
  · have hself := hfind stored.key
    rw [Table.find?_of_mem hstored] at hself
    by_cases hkey : stored.key = (channel, channelAccount, opaqueRef)
    · rw [if_pos hkey] at hself
      exact ⟨_, Table.mem_of_find? hself, Table.key_of_find? hself⟩
    · rw [if_neg hkey] at hself
      exact ⟨_, Table.mem_of_find? hself, Table.key_of_find? hself⟩

theorem enrolled_observe {channel channelAccount opaqueRef : String} {now : Instant}
    {db db' : Database} {u : Unit} (henrolled : Enrolled db)
    (h : observe channel channelAccount opaqueRef .group now db = .ok (u, db')) : Enrolled db' := by
  obtain ⟨hmembers, hrows, hkept⟩ := mem_observed henrolled h
  refine ⟨fun route hroute => (hrows route hroute).1, fun member hmember => ?_⟩
  rw [hmembers] at hmember
  obtain ⟨stored, hstored, hkey⟩ := henrolled.routed member hmember
  obtain ⟨route, hroute, hsame⟩ := hkept stored hstored
  exact ⟨route, hroute, hsame.trans hkey⟩

/-- A group that is observed for the first time has no members yet. -/
theorem followsMode_observe {channel channelAccount opaqueRef : String} {now : Instant}
    {db db' : Database} {u : Unit} (henrolled : Enrolled db) (hfollows : FollowsMode db)
    (h : observe channel channelAccount opaqueRef .group now db = .ok (u, db')) :
    FollowsMode db' := by
  obtain ⟨hmembers, hrows, -⟩ := mem_observed henrolled h
  intro route hroute _ hmode member hmember
  rw [hmembers] at hmember
  rcases (hrows route hroute).2 with ⟨stored, hstored, hkey, hsame⟩ | hnew
  · rw [← hkey]
    rw [hsame] at hmode
    exact hfollows stored hstored (henrolled.group stored hstored) hmode member hmember
  · intro hhere
    obtain ⟨stored, hstored, hkey⟩ := henrolled.routed member hmember
    exact hnew stored hstored (hkey.trans hhere)

/-- A row that is refused by its foreign keys. -/
theorem insertMember_refused {member : RouteMember} {db : Database}
    {members : Table RouteMember RouteMember.key}
    (hinsert : db.channelRouteMembers.insert? member = some members)
    (hforeign : get member.channel member.channelAccount member.opaqueRef db = none ∨
      db.hasUser member.userId = false ∨ db.hasUser member.addedByUserId = false) :
    insertMember member db = .error .integrity := by
  unfold insertMember
  rw [hinsert]
  have hraise : raiseIf (get member.channel member.channelAccount member.opaqueRef db = none ∨
      db.hasUser member.userId = false ∨ db.hasUser member.addedByUserId = false)
        PyError.integrity = .error .integrity := if_pos hforeign
  simp only
  rw [hraise]
  rfl

/-- A row that is new. -/
theorem insertMember_new {member : RouteMember} {db : Database}
    {members : Table RouteMember RouteMember.key}
    (hinsert : db.channelRouteMembers.insert? member = some members)
    (hforeign : ¬(get member.channel member.channelAccount member.opaqueRef db = none ∨
      db.hasUser member.userId = false ∨ db.hasUser member.addedByUserId = false)) :
    insertMember member db = .ok { db with channelRouteMembers := members } := by
  unfold insertMember
  rw [hinsert]
  have hpass : raiseIf (get member.channel member.channelAccount member.opaqueRef db = none ∨
      db.hasUser member.userId = false ∨ db.hasUser member.addedByUserId = false)
        PyError.integrity = .ok ⟨⟩ := if_neg hforeign
  simp only
  rw [hpass]
  rfl

/-- The row is there already. -/
theorem insertMember_known {member : RouteMember} {db : Database}
    (hinsert : db.channelRouteMembers.insert? member = none) : insertMember member db = .ok db := by
  unfold insertMember
  rw [hinsert]

/-- The row that `addMember` inserts. -/
def memberOf (route : ChannelRoute) (userId addedByUserId : String) (now : Instant) : RouteMember where
  channel := route.channel
  channelAccount := route.channelAccount
  opaqueRef := route.opaqueRef
  userId := userId
  addedByUserId := addedByUserId
  createdAt := now

/-- What `addMember` leaves behind when its own checks pass. -/
theorem exec_addMember {route : ChannelRoute} {userId addedByUserId : String} {now : Instant}
    {db : Database} (hinternal : route.groupMode = .internal) (hrange : Instant.InRange now) :
    ((Effect.atomically (addMember route userId addedByUserId now)).exec db).2 =
      match insertMember (memberOf route userId addedByUserId now) db with
      | .ok db' => db'
      | .error _ => db := by
  rw [Effect.exec_atomically, StateT.run]
  have hpass : raiseIf (route.groupMode ≠ .internal)
      (PyError.validation "members require an internal group") = .ok ⟨⟩ :=
    if_neg (not_not.mpr hinternal)
  have htext : utcText now = .ok ⟨⟩ := utcText_ok.mpr hrange
  unfold addMember
  rw [hpass, htext]
  simp only [bind, Except.bind]
  unfold memberOf
  generalize insertMember _ db = outcome
  cases outcome with
  | error err => rfl
  | ok db' => rfl

/-- A member that is added is refused, is there already, or is new in a known group. -/
theorem addMember_cases (route : ChannelRoute) (userId addedByUserId : String) (now : Instant)
    (db : Database) :
    ((Effect.atomically (addMember route userId addedByUserId now)).exec db).2 = db ∨
    ∃ member members stored, member.routeKey = route.key ∧
      route.groupMode = .internal ∧ Instant.InRange now ∧
      db.hasUser userId = true ∧ db.hasUser addedByUserId = true ∧
      get route.channel route.channelAccount route.opaqueRef db = some stored ∧
      db.channelRouteMembers.insert? member = some members ∧
      ((Effect.atomically (addMember route userId addedByUserId now)).exec db).2 =
        { db with channelRouteMembers := members } := by
  by_cases hmode : route.groupMode = .internal
  · by_cases hrange : Instant.InRange now
    · rw [exec_addMember hmode hrange]
      cases hinsert : db.channelRouteMembers.insert? (memberOf route userId addedByUserId now) with
      | none =>
        rw [insertMember_known hinsert]
        exact Or.inl rfl
      | some members =>
        by_cases hforeign : get route.channel route.channelAccount route.opaqueRef db = none ∨
            db.hasUser userId = false ∨ db.hasUser addedByUserId = false
        · rw [insertMember_refused hinsert hforeign]
          exact Or.inl rfl
        · rw [insertMember_new hinsert hforeign]
          push Not at hforeign
          obtain ⟨stored, hstored⟩ := Option.ne_none_iff_exists'.mp hforeign.1
          exact Or.inr ⟨_, members, stored, rfl, hmode, hrange, by simpa using hforeign.2.1,
            by simpa using hforeign.2.2, hstored, hinsert, rfl⟩
    · have herror : utcText now ≠ .ok ⟨⟩ := fun h => hrange (utcText_ok.mp h)
      left
      rw [Effect.exec_atomically, StateT.run]
      unfold addMember
      rw [show raiseIf (route.groupMode ≠ .internal)
        (PyError.validation "members require an internal group") = .ok ⟨⟩ from
          if_neg (not_not.mpr hmode)]
      cases htext : utcText now with
      | error err => rfl
      | ok _ => exact absurd htext herror
  · left
    rw [Effect.exec_atomically, StateT.run]
    unfold addMember
    have hraise : raiseIf (route.groupMode ≠ .internal)
        (PyError.validation "members require an internal group") = .error _ := if_pos hmode
    rw [hraise]
    rfl

/-- **An added member keeps the property exactly when the group is internal at that moment.** -/
theorem followsMode_addMember_iff {g : Stage Database RouteCall (Except PyError RouteAnswer)}
    (henrolled : Enrolled g.state) (hfollows : FollowsMode g.state) (route : ChannelRoute)
    (userId addedByUserId : String) (now : Instant) :
    FollowsMode (routeMachine.advance g (.addMember route userId addedByUserId now)).state ↔
      Current g (.addMember route userId addedByUserId now) := by
  have hadvance : (routeMachine.advance g (.addMember route userId addedByUserId now)).state =
      ((Effect.atomically (addMember route userId addedByUserId now)).exec g.state).2 := by
    show ((_ <$> Effect.atomically (addMember route userId addedByUserId now)).exec g.state).2 = _
    rw [Effect.exec_map]
  rw [hadvance]
  constructor
  · intro hafter hinternal hrange huser hadder stored hstored
    -- the row that is there afterwards belongs to the stored group
    by_contra hmode
    have hmem := Table.mem_of_find? hstored
    have hkey : stored.key = route.key := Table.key_of_find? hstored
    have hnew : ∃ member ∈ ((Effect.atomically (addMember route userId addedByUserId now)).exec
        g.state).2.channelRouteMembers.rows, member.routeKey = route.key := by
      rw [exec_addMember hinternal hrange]
      cases hinsert : g.state.channelRouteMembers.insert?
          (memberOf route userId addedByUserId now) with
      | none =>
        rw [insertMember_known hinsert]
        obtain ⟨member, hmember⟩ := Table.insert?_eq_none.mp hinsert
        refine ⟨member, Table.mem_of_find? hmember, ?_⟩
        have hfull : member.key = (route.channel, route.channelAccount, route.opaqueRef, userId) :=
          Table.key_of_find? hmember
        unfold RouteMember.key at hfull
        unfold RouteMember.routeKey ChannelRoute.key
        simp only [Prod.mk.injEq] at hfull ⊢
        exact ⟨hfull.1, hfull.2.1, hfull.2.2.1⟩
      | some members =>
        have hknown : ¬(get route.channel route.channelAccount route.opaqueRef g.state = none ∨
            g.state.hasUser userId = false ∨ g.state.hasUser addedByUserId = false) := by
          rw [hstored, huser, hadder]
          simp
        rw [insertMember_new hinsert hknown]
        refine ⟨memberOf route userId addedByUserId now, ?_, rfl⟩
        show _ ∈ members.rows
        rw [Table.rows_insert hinsert]
        exact List.mem_append_right _ (List.mem_singleton.mpr rfl)
    have hroutes : ((Effect.atomically (addMember route userId addedByUserId now)).exec
        g.state).2.channelRoutes = g.state.channelRoutes := by
      rcases addMember_cases route userId addedByUserId now g.state with
        hsame | ⟨_, _, _, -, -, -, -, -, -, -, hsame⟩
      · rw [hsame]
      · rw [hsame]
    obtain ⟨member, hmember, hhere⟩ := hnew
    exact hafter stored (by rw [hroutes]; exact hmem) (henrolled.group stored hmem) hmode member
      hmember (hhere.trans hkey.symm)
  · intro hcurrent
    rcases addMember_cases route userId addedByUserId now g.state with
      hsame | ⟨member, members, stored, hhere, hinternal, hrange, huser, hadder, hstored, hinsert,
        hsame⟩
    · rw [hsame]
      exact hfollows
    · rw [hsame]
      have hmode := hcurrent hinternal hrange huser hadder stored hstored
      have hkey : stored.key = route.key := Table.key_of_find? hstored
      intro r hr hkind hleft m hm
      change m ∈ members.rows at hm
      rw [Table.rows_insert hinsert] at hm
      rcases List.mem_append.mp hm with hold | hnew
      · exact hfollows r hr hkind hleft m hold
      · obtain rfl := List.mem_singleton.mp hnew
        rw [hhere, ← hkey]
        intro hsame
        obtain rfl := g.state.channelRoutes.eq_of_key_eq (Table.mem_of_find? hstored) hr hsame
        exact hleft hmode

/-- The group of a member that is added is known. -/
theorem enrolled_addMember {db : Database} (henrolled : Enrolled db) (route : ChannelRoute)
    (userId addedByUserId : String) (now : Instant) :
    Enrolled ((Effect.atomically (addMember route userId addedByUserId now)).exec db).2 := by
  rcases addMember_cases route userId addedByUserId now db with
    hsame | ⟨member, members, stored, hhere, -, -, -, -, hstored, hinsert, hsame⟩
  · rw [hsame]
    exact henrolled
  · rw [hsame]
    have hkey : stored.key = route.key := Table.key_of_find? hstored
    refine ⟨henrolled.group, fun m hm => ?_⟩
    change m ∈ members.rows at hm
    rw [Table.rows_insert hinsert] at hm
    rcases List.mem_append.mp hm with hold | hnew
    · exact henrolled.routed m hold
    · obtain rfl := List.mem_singleton.mp hnew
      exact ⟨stored, Table.mem_of_find? hstored, hkey.trans hhere.symm⟩

/-! ### All runs -/

/-- A transaction that leaves routes and members alone keeps what is said about them. -/
theorem keeps_of_same {db db' : Database} (hroutes : db'.channelRoutes = db.channelRoutes)
    (hmembers : db'.channelRouteMembers = db.channelRouteMembers) :
    (Enrolled db → Enrolled db') ∧ (FollowsMode db → FollowsMode db') := by
  constructor
  · intro henrolled
    constructor
    · rw [hroutes]
      exact henrolled.group
    · rw [hroutes, hmembers]
      exact henrolled.routed
  · intro hfollows
    unfold FollowsMode
    rw [hroutes, hmembers]
    exact hfollows

/-- The codes for an activation are no routes. -/
theorem keeps_codes (call : RouteCall) (db : Database)
    (h : (∃ challenge, call = .issueActivation challenge) ∨
      ∃ codeHash channel channelAccount now,
        call = .consumeActivation codeHash channel channelAccount now) :
    ((performRoute call).exec db).2.channelRoutes = db.channelRoutes ∧
      ((performRoute call).exec db).2.channelRouteMembers = db.channelRouteMembers := by
  rcases h with ⟨challenge, rfl⟩ | ⟨codeHash, channel, channelAccount, now, rfl⟩
  · unfold performRoute
    rw [Effect.exec_map, Effect.exec_atomically, StateT.run]
    cases hrun : issueActivation challenge db with
    | error err => exact ⟨rfl, rfl⟩
    | ok outcome =>
      obtain ⟨-, -, _, -, -, hsame⟩ := issueActivation_ok.mp hrun
      simp only
      rw [hsame]
      exact ⟨rfl, rfl⟩
  · unfold performRoute
    rw [Effect.exec_map, Effect.exec_atomically, StateT.run]
    cases hrun : consumeActivation codeHash channel channelAccount now db with
    | error err => exact ⟨rfl, rfl⟩
    | ok outcome =>
      rcases consumeActivation_ok hrun with ⟨-, -, hsame⟩ | ⟨_, -, -, hsame⟩
      · simp only
        rw [hsame]
        exact ⟨rfl, rfl⟩
      · simp only
        rw [hsame]
        exact ⟨rfl, rfl⟩

/-- A new user is no member yet. -/
theorem keeps_provision {user : UserRow} {authorization : AuthorizedAction} {db db' : Database}
    {u : Unit} (h : UserRepository.create user authorization db = .ok (u, db')) :
    (Enrolled db → Enrolled db') ∧ (FollowsMode db → FollowsMode db') := by
  obtain ⟨users, -, rfl⟩ := UserRepository.create_ok h
  exact keeps_of_same rfl rfl

/-- **Every call keeps all members enrolled.** -/
theorem enrolled_advance (g : Stage Database RouteCall (Except PyError RouteAnswer))
    (call : RouteCall) (henrolled : Enrolled g.state) :
    Enrolled (routeMachine.advance g call).state := by
  rw [Machine.advance_state]
  show Enrolled ((performRoute call).exec g.state).2
  cases call with
  | observe channel channelAccount opaqueRef now =>
    unfold performRoute
    rw [Effect.exec_map]
    exact Effect.exec_atomically_keeps henrolled fun _ _ => enrolled_observe henrolled
  | get channel channelAccount opaqueRef => exact henrolled
  | provision user authorization =>
    unfold performRoute
    rw [Effect.exec_map]
    exact Effect.exec_atomically_keeps henrolled fun _ _ h => (keeps_provision h).1 henrolled
  | addMember route userId addedByUserId now =>
    unfold performRoute
    rw [Effect.exec_map]
    exact enrolled_addMember henrolled route userId addedByUserId now
  | issueActivation challenge =>
    obtain ⟨hroutes, hmembers⟩ := keeps_codes (.issueActivation challenge) g.state (.inl ⟨_, rfl⟩)
    exact (keeps_of_same hroutes hmembers).1 henrolled
  | consumeActivation codeHash channel channelAccount now =>
    obtain ⟨hroutes, hmembers⟩ := keeps_codes
      (.consumeActivation codeHash channel channelAccount now) g.state (.inr ⟨_, _, _, _, rfl⟩)
    exact (keeps_of_same hroutes hmembers).1 henrolled
  | setCommandsEnabled channel channelAccount opaqueRef enabled actorUserId now groupMode
      memberUserIds fresh =>
    unfold performRoute
    rw [Effect.exec_map]
    exact Effect.exec_atomically_keeps henrolled fun _ _ => enrolled_setCommandsEnabled henrolled

/-- **Which calls keep the property.** -/
theorem followsMode_step_iff (g : Stage Database RouteCall (Except PyError RouteAnswer))
    (call : RouteCall) (henrolled : Enrolled g.state) (hfollows : FollowsMode g.state) :
    FollowsMode (routeMachine.advance g call).state ↔ Current g call := by
  cases call with
  | addMember route userId addedByUserId now =>
    exact followsMode_addMember_iff henrolled hfollows route userId addedByUserId now
  | observe channel channelAccount opaqueRef now =>
    refine iff_of_true ?_ trivial
    show FollowsMode ((_ <$> Effect.atomically _).exec g.state).2
    rw [Effect.exec_map]
    exact Effect.exec_atomically_keeps hfollows fun _ _ => followsMode_observe henrolled hfollows
  | get channel channelAccount opaqueRef => exact iff_of_true hfollows trivial
  | provision user authorization =>
    refine iff_of_true ?_ trivial
    show FollowsMode ((_ <$> Effect.atomically _).exec g.state).2
    rw [Effect.exec_map]
    exact Effect.exec_atomically_keeps hfollows fun _ _ h => (keeps_provision h).2 hfollows
  | issueActivation challenge =>
    obtain ⟨hroutes, hmembers⟩ := keeps_codes (.issueActivation challenge) g.state (.inl ⟨_, rfl⟩)
    exact iff_of_true ((keeps_of_same hroutes hmembers).2 hfollows) trivial
  | consumeActivation codeHash channel channelAccount now =>
    obtain ⟨hroutes, hmembers⟩ := keeps_codes
      (.consumeActivation codeHash channel channelAccount now) g.state (.inr ⟨_, _, _, _, rfl⟩)
    exact iff_of_true ((keeps_of_same hroutes hmembers).2 hfollows) trivial
  | setCommandsEnabled channel channelAccount opaqueRef enabled actorUserId now groupMode
      memberUserIds fresh =>
    refine iff_of_true ?_ trivial
    show FollowsMode ((_ <$> Effect.atomically _).exec g.state).2
    rw [Effect.exec_map]
    exact Effect.exec_atomically_keeps hfollows fun _ _ =>
      followsMode_setCommandsEnabled henrolled hfollows

/-- The store before any group was seen. -/
def withoutRoutes (db : Database) : Database :=
  { db with channelRoutes := ∅, channelRouteMembers := ∅ }

theorem enrolled_withoutRoutes (db : Database) : Enrolled (withoutRoutes db) :=
  ⟨fun _ hmem => absurd hmem List.not_mem_nil, fun _ hmem => absurd hmem List.not_mem_nil⟩

/-- **Which runs keep the members of a group with its mode.** In a run from a store without routes, no
group that is not internal has a member at any moment, if and only if every member is added while its
group is internal. And where every member is, enabling a group again without a list of members leaves
it with its owner for a member. -/
theorem followsMode_iff (db : Database) (calls : List RouteCall) :
    ((∀ pre, pre <+: calls →
        FollowsMode (routeMachine.replay (Machine.start (withoutRoutes db)) pre).state) ↔
      routeMachine.Follows Current (Machine.start (withoutRoutes db)) calls) ∧
    (routeMachine.Follows Current (Machine.start (withoutRoutes db)) calls →
      ∀ {channel channelAccount opaqueRef actorUserId fresh : String} {now : Instant}
        {groupMode : Option GroupMode} {route : ChannelRoute} {changed : Bool} {db' : Database},
        get channel channelAccount opaqueRef
          (routeMachine.replay (Machine.start (withoutRoutes db)) calls).state = some route →
        route.groupMode ≠ .internal →
        setCommandsEnabled channel channelAccount opaqueRef true actorUserId now groupMode none fresh
          (routeMachine.replay (Machine.start (withoutRoutes db)) calls).state = .ok (changed, db') →
        ∀ member ∈ db'.channelRouteMembers.rows,
          member.routeKey = (channel, channelAccount, opaqueRef) → member.userId = actorUserId) := by
  have hexact := Machine.forall_prefix_iff_follows routeMachine
    (I := fun g => FollowsMode g.state) (J := fun g => Enrolled g.state) enrolled_advance
    followsMode_step_iff (g := Machine.start (withoutRoutes db)) (enrolled_withoutRoutes db)
    (fun _ hmem => absurd hmem List.not_mem_nil) calls
  refine ⟨hexact, fun h => ?_⟩
  have hlast := hexact.mpr h calls (List.prefix_refl calls)
  have henrolled := Machine.replay_invariant routeMachine (J := fun g => Enrolled g.state)
    enrolled_advance (g := Machine.start (withoutRoutes db)) (enrolled_withoutRoutes db) calls
  intro channel channelAccount opaqueRef actorUserId fresh now groupMode route changed db'
  exact reenabled_members henrolled hlast

/-- A group in internal mode, as an event reads it. -/
def seminarRoute : ChannelRoute where
  channel := "qq"
  channelAccount := "bot"
  opaqueRef := "seminar"
  routeKind := .group
  lastSeenAt := 0
  commandsEnabled := true
  ownerUserId := some "alice"
  groupMode := .internal
  sharedOwnerUserId := some "group_1"

/-- The owner enables a group, an event reads it, the owner disables it, the event adds its sender. -/
def lateMember : List RouteCall :=
  [.observe "qq" "bot" "seminar" 0,
    .setCommandsEnabled "qq" "bot" "seminar" true "alice" 1 none none "1",
    .get "qq" "bot" "seminar",
    .setCommandsEnabled "qq" "bot" "seminar" false "alice" 2 none none "2",
    .addMember seminarRoute "bob" "alice" 3]

/-- **A member of a disabled group**: the event adds its sender to the route it has read, and when the
owner enables the group again for nobody else, the sender has access. -/
theorem late_member_stays :
    ∃ db : Database, ∃ g, g = routeMachine.replay (Machine.start (withoutRoutes db)) lateMember ∧
      (g.log[2]?.map Entry.outcome) = some (.ok (.route (some seminarRoute))) ∧
      ¬ FollowsMode g.state ∧
      ((routeMachine.advance g (.setCommandsEnabled "qq" "bot" "seminar" true "alice" 4 none none
        "4")).state.channelRouteMembers.rows.map RouteMember.userId) = ["bob", "alice"] := by
  refine ⟨{ users := ⟨[⟨"alice", "Alice", true⟩, ⟨"bob", "Bob", true⟩], by decide⟩ }, _, rfl, ?_,
    ?_, ?_⟩
  · rfl
  · unfold FollowsMode
    decide +kernel
  · decide +kernel

end ChannelRouteStore

end Zhixu
