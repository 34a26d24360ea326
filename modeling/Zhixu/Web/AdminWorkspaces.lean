import Mathlib.Data.Prod.Lex
import Mathlib.Data.String.Basic
import Zhixu.Application.Updates
import Zhixu.Application.UpdatePolicy
import Zhixu.Application.AgendaServices
import Zhixu.Framework.Rank
import Zhixu.Storage.Briefings
import Zhixu.Storage.ChannelRoutes

/-!
# Workspaces of the administration

An administrator reads their own records and those of the groups they are a member of. Which groups
these are is asked for twice. `_admin_context` joins the memberships with all routes
(`sharedOwnersForMember`); `_workspace_records`, which gives every record the workspace it is shown
in, goes through the list of routes, and that list ends after the two hundred that were seen last.

The two agree exactly if every group that opens a workspace is, or has another route of the same
workspace that is, among these two hundred (`WithinReach`). Where they do not, `_workspace_for_owner`
refuses a record that the lists have read, and the whole list fails.

An answer is modelled as its records, each with its workspace; how a record is written as JSON is left
out where it cannot fail.
-/

open Framework

namespace Zhixu

/-! ### The list of routes -/

/-- `ORDER BY last_seen_at DESC,channel,channel_account,opaque_ref`. -/
def ChannelRoute.recency (route : ChannelRoute) : Instantᵒᵈ ×ₗ (String ×ₗ (String ×ₗ String)) :=
  toLex (OrderDual.toDual route.lastSeenAt, toLex (route.channel, toLex
    (route.channelAccount, route.opaqueRef)))

namespace ChannelRouteStore

/-- `list`. -/
def list (limit : Int) (db : Database) : Except PyError (List ChannelRoute) := do
  raiseIf (¬ (1 ≤ limit ∧ limit ≤ 500)) (.validation "channel route limit is invalid")
  return (db.channelRoutes.rows.insertionSort fun a b => a.recency ≤ b.recency).take limit.toNat

/-- The `limit` that `list` has by default. -/
def defaultLimit : Int := 200

/-- A route opens a workspace to a user: it is an internal group that takes commands, and the user is
a member. -/
structure Opens (db : Database) (userId : String) (route : ChannelRoute) (owner : String) : Prop where
  known : route ∈ db.channelRoutes.rows
  member : isMember route.channel route.channelAccount route.opaqueRef userId db = true
  enabled : route.commandsEnabled = true
  internal : route.groupMode = .internal
  shared : route.sharedOwnerUserId = some owner

end ChannelRouteStore

namespace TaskRepository

/-- `ORDER BY CASE WHEN due_at IS NULL THEN 1 ELSE 0 END, due_at, priority DESC, created_at`. -/
def listOrder (a b : TaskRow) : Bool :=
  match a.dueAt, b.dueAt with
  | some _, none => true
  | none, some _ => false
  | some dueA, some dueB => decide (dueA < dueB) || (decide (dueA = dueB) && urgent a b)
  | none, none => urgent a b
where
  /-- `priority DESC, created_at` -/
  urgent (a b : TaskRow) : Bool :=
    decide (b.priority < a.priority) ||
      (decide (a.priority = b.priority) && decide (a.createdAt ≤ b.createdAt))

/-- `list_for_owner`. -/
def listForOwner (ownerUserId : String) (db : Database) : Except PyError (List Task) :=
  collect (fun row => some <$> fromRow row)
    (db.tasks.select (fun r => r.ownerUserId = ownerUserId) listOrder)

end TaskRepository

namespace NoteRepository

/-- `ORDER BY updated_at DESC,id`. -/
def listOrder (a b : Note) : Bool :=
  let changed (note : Note) : Instant := note.updatedAt.getD 0
  decide (changed b < changed a) || (decide (changed a = changed b) && decide (a.id ≤ b.id))

/-- `list_for_owner`. -/
def listForOwner (ownerUserId : String) (db : Database) : Except PyError (List Note) :=
  collect (fun row => some <$> fromRow row)
    (db.notes.select (fun r => r.ownerUserId = ownerUserId) listOrder)

end NoteRepository

namespace AdminApi

/-! ### Workspaces -/

/-- `AdminPrincipal`. -/
structure AdminPrincipal where
  userId : String
  authentication : AuthenticationStrength

/-- `_admin_context`. -/
def adminContext (principal : AdminPrincipal) (confirmed : Bool) (now : Instant) (db : Database) :
    Except PyError CommandContext :=
  let sharedOwners := ChannelRouteStore.sharedOwnersForMember principal.userId db
  let roles :=
    (if sharedOwners = [] then [] else ["shared_workspace_member"]) ++
      (if UserRepository.hasRole principal.userId "project_admin" db = true then ["project_admin"]
        else [])
  CommandContext.checked principal.userId roles none sharedOwners principal.authentication .adminWeb
    confirmed (some now)

/-- Where the records of an owner are shown. -/
structure Workspace where
  id : String
  kind : String
  label : String
  channel : Option String := none
deriving DecidableEq, Repr

/-- The route shows one of the workspaces that a context may read. -/
def isWorkspaceRoute (context : CommandContext) (db : Database) (route : ChannelRoute) : Bool :=
  route.commandsEnabled && decide (route.groupMode = .internal) &&
    route.sharedOwnerUserId.any (fun owner => context.readableSharedOwnerUserIds.contains owner) &&
    ChannelRouteStore.isMember route.channel route.channelAccount route.opaqueRef
      context.actorUserId db

/-- `key=lambda route: (route.channel, route.channel_account, route.opaque_ref)`. -/
def keyOrder (a b : ChannelRoute) : Bool :=
  decide (toLex (a.channel, toLex (a.channelAccount, a.opaqueRef)) ≤
    toLex (b.channel, toLex (b.channelAccount, b.opaqueRef)))

/-- The loop over the routes. `count` is the number of records so far. -/
def groupRecords : List ChannelRoute → List String → ℕ → List (String × Workspace)
  | [], _, _ => []
  | route :: routes, seen, count =>
    match route.sharedOwnerUserId with
    | none => groupRecords routes seen count
    | some owner =>
      if owner ∈ seen then groupRecords routes seen count
      else
        (owner, {
          id := "group:" ++ route.opaqueRef
          kind := "group"
          label := "内部群 " ++ toString count
          channel := some route.channel }) :: groupRecords routes (owner :: seen) (count + 1)

/-- `_workspace_records`. -/
def workspaceRecords (context : CommandContext) (db : Database) :
    Except PyError (List (String × Workspace)) := do
  let listed ← ChannelRouteStore.list ChannelRouteStore.defaultLimit db
  let routes := (listed.filter (isWorkspaceRoute context db)).insertionSort fun a b =>
    keyOrder a b = true
  return (context.actorUserId, { id := "private", kind := "private", label := "私人空间" }) ::
    groupRecords routes [] 1

/-- `_workspace_for_owner`. -/
def workspaceForOwner (context : CommandContext) (ownerUserId : String) (db : Database) :
    Except PyError Workspace := do
  let records ← workspaceRecords context db
  match records.find? fun record => record.1 = ownerUserId with
  | some (_, workspace) => return workspace
  | none => throw (.permissionDenied "workspace is not readable by the current administrator")

/-- `_read_owner_ids`. -/
def readOwnerIds (context : CommandContext) : List String :=
  context.actorUserId :: context.readableSharedOwnerUserIds

/-- `_read_owners` of the services. -/
def readOwners (context : CommandContext) : List String :=
  if context.requestChannel = .groupChat then context.readableSharedOwnerUserIds
  else context.actorUserId :: context.readableSharedOwnerUserIds

/-! ### Lists -/

/-- A list of the admin API. -/
structure Listing (α β : Type) where
  view : RecordView α
  /-- whose records are read -/
  owners : CommandContext → List String
  /-- `list_for_owner` -/
  listForOwner : String → Database → Except PyError (List α)
  /-- the order of the answer -/
  arrange : List α → List α := fun items => items
  /-- what the JSON of a record computes, apart from the workspace -/
  shown : CommandContext → α → Except PyError β
  owners_readable : ∀ context owner, owner ∈ owners context → owner ∈ readOwnerIds context
  owned : ∀ {owner db items}, listForOwner owner db = .ok items → ∀ item ∈ items,
    view.owner item = owner
  mem_arrange : ∀ {items item}, item ∈ arrange items → item ∈ items

namespace Listing

variable {α β : Type} (listing : Listing α β)

/-- The records of a list, each of which the policy lets be read. -/
def read (current : CommandContext) (db : Database) : Except PyError (List α) := do
  let lists ← (listing.owners current).mapM fun owner => listing.listForOwner owner db
  lists.flatten.forM fun item => do
    let ref ← listing.view.ref item
    let _ ← db.policyEngine.require current .read ref
  return listing.arrange lists.flatten

/-- The JSON of a record. -/
def json (context : CommandContext) (db : Database) (item : α) : Except PyError (β × Workspace) := do
  let shown ← listing.shown context item
  let workspace ← workspaceForOwner context (listing.view.owner item) db
  return (shown, workspace)

/-- The answer of a list. `current` is the context in which its records are read. -/
def serve (current context : CommandContext) (db : Database) :
    Except PyError (List (β × Workspace)) := do
  let items ← listing.read current db
  items.mapM (listing.json context db)

end Listing

theorem readOwners_readable (context : CommandContext) (owner : String)
    (h : owner ∈ readOwners context) : owner ∈ readOwnerIds context := by
  unfold readOwners at h
  split at h
  · exact List.mem_cons_of_mem _ h
  · exact h

/-- Every row that is selected for an owner is loaded as a record of that owner. -/
theorem owned_of_collect {ρ α : Type} {key owner : ρ → String} {T : Table ρ key}
    {le : ρ → ρ → Bool} {load : ρ → Except PyError α} (view : RecordView α)
    (hload : ∀ row item, load row = .ok item → view.owner item = owner row) {ownerUserId : String}
    {items : List α}
    (h : collect (fun row => some <$> load row) (T.select (fun r => owner r = ownerUserId) le) =
      .ok items) : ∀ item ∈ items, view.owner item = ownerUserId := by
  intro item hitem
  obtain ⟨row, hrow, hsome⟩ := (mem_collect h).mp hitem
  obtain ⟨loaded, hloaded, heq⟩ := bind_eq_ok.mp hsome
  obtain rfl := Option.some.inj (Except.ok.inj heq)
  rw [hload row loaded hloaded]
  exact of_decide_eq_true (Table.mem_select.mp hrow).2

/-- The order of `items.sort(key=lambda item: (item.start_at, item.id))`. -/
def startOrder (zones : TimeZones) (a b : AgendaItem) : Bool :=
  if b.startAt.eq zones a.startAt then a.id ≤ b.id else !b.startAt.lt zones a.startAt

/-- The agenda items of an administrator. -/
def agenda (engine : RecurrenceEngine) : Listing AgendaItem AgendaItem where
  view := agendaView
  owners := readOwnerIds
  listForOwner := AgendaRepository.listForOwner engine
  arrange := fun items => items.insertionSort fun a b => startOrder engine.zones a b = true
  shown := fun _ item => .ok item
  owners_readable := fun _ _ h => h
  owned := fun h => owned_of_collect agendaView
    (fun _ _ hrow => (AgendaRepository.fromRow_ok hrow).2.1) h
  mem_arrange := fun h => (List.mem_insertionSort _).mp h

/-- The tasks of an administrator. -/
def tasks : Listing Task Task where
  view := taskView
  owners := readOwnerIds
  listForOwner := TaskRepository.listForOwner
  shown := fun _ item => .ok item
  owners_readable := fun _ _ h => h
  owned := fun h => owned_of_collect taskView
    (fun _ _ hrow => (TaskRepository.fromRow_ok hrow).2.1) h
  mem_arrange := fun h => h

/-- The notes of an administrator. -/
def notes : Listing Note Note where
  view := noteView
  owners := readOwnerIds
  listForOwner := NoteRepository.listForOwner
  shown := fun _ item => .ok item
  owners_readable := fun _ _ h => h
  owned := fun h => owned_of_collect noteView
    (fun _ _ hrow => (NoteRepository.fromRow_ok hrow).2.1) h
  mem_arrange := fun h => h

/-- The next time a day comes, on the date it is in its zone: `next_occurrence` of
`_important_day_json`. -/
def nextOccurrence (zones : TimeZones) (now : Instant) (day : Anniversary) :
    Except PyError (Anniversary × Option Date) := do
  let localNow ← DateTime.load zones now day.timezone
  let occurrence ← day.nextOccurrence (Wall.ordinal localNow.wall)
  return (day, occurrence)

/-- The important days of an administrator. `now` is read where a context has no time. -/
def importantDays (zones : TimeZones) (now : Instant) :
    Listing Anniversary (Anniversary × Option Date) where
  view := anniversaryView
  owners := readOwners
  listForOwner := AnniversaryRepository.listForOwner zones
  shown := fun context day => nextOccurrence zones (context.now.getD now) day
  owners_readable := readOwners_readable
  owned := fun h => owned_of_collect anniversaryView
    (fun row day hrow => by
      obtain ⟨_, -, hday⟩ := bind_eq_ok.mp hrow
      obtain rfl := Except.ok.inj hday
      rfl) h
  mem_arrange := fun h => h

/-- The reminders of an administrator, those that are no longer active too. -/
def reminders (zones : TimeZones) : Listing Reminder Reminder where
  view := reminderView
  owners := readOwners
  listForOwner := ReminderRepository.listForOwner zones
  shown := fun _ reminder => .ok reminder
  owners_readable := readOwners_readable
  owned := fun h => owned_of_collect reminderView
    (fun row reminder hrow => by
      unfold ReminderRepository.fromRow at hrow
      rw [raiseIf_bind_ok, Reminder.checked_ok] at hrow
      obtain ⟨-, -, rfl⟩ := hrow
      rfl) h
  mem_arrange := fun h => h

/-- `_list_agenda`. -/
def listAgenda (engine : RecurrenceEngine) (context : CommandContext) (db : Database) :
    Except PyError (List (AgendaItem × Workspace)) :=
  (agenda engine).serve context context db

/-- `_list_tasks`. -/
def listTasks (context : CommandContext) (db : Database) :
    Except PyError (List (Task × Workspace)) :=
  tasks.serve context context db

/-- `_list_notes`. -/
def listNotes (context : CommandContext) (db : Database) :
    Except PyError (List (Note × Workspace)) :=
  notes.serve context context db

/-- `_list_important_days`. The service reads the clock again. -/
def listImportantDays (zones : TimeZones) (clock : Instant) (context : CommandContext)
    (db : Database) : Except PyError (List ((Anniversary × Option Date) × Workspace)) :=
  (importantDays zones clock).serve (context.at' clock) context db

/-- `_list_reminders`. The service reads the clock again. -/
def listReminders (zones : TimeZones) (clock : Instant) (context : CommandContext) (db : Database) :
    Except PyError (List (Reminder × Workspace)) :=
  (reminders zones).serve (context.at' clock) context db

/-! ### Agreement -/

/-- A list fails only where its records cannot be read or written as JSON by themselves: whoever may
read them is shown their workspaces. -/
def Listing.Served {α β : Type} (listing : Listing α β) (current context : CommandContext)
    (db : Database) : Prop :=
  ∀ items shown, listing.read current db = .ok items →
    items.mapM (listing.shown context) = .ok shown →
      ∃ workspaces, listing.serve current context db = .ok (shown.zip workspaces) ∧
        workspaces.length = shown.length

/-- **Workspaces agree with readable owners.** -/
structure WorkspacesAgree (engine : RecurrenceEngine) (clock : Instant) (context : CommandContext)
    (db : Database) : Prop where
  /-- the workspaces are those of the administrator and of the groups they read -/
  owners : ∃ records, workspaceRecords context db = .ok records ∧
    ∀ owner, owner ∈ records.map Prod.fst ↔ owner = context.actorUserId ∨
      owner ∈ ChannelRouteStore.sharedOwnersForMember context.actorUserId db
  /-- whoever owns what the lists read has a workspace -/
  found : ∀ owner ∈ readOwnerIds context, ∃ workspace,
    workspaceForOwner context owner db = .ok workspace
  agenda : (agenda engine).Served context context db
  tasks : tasks.Served context context db
  notes : notes.Served context context db
  importantDays : (importantDays engine.zones clock).Served (context.at' clock) context db
  reminders : (reminders engine.zones).Served (context.at' clock) context db

/-- **Every group is within reach of the list**: a workspace that is opened to a user is opened by a
route that fewer than two hundred others come before. -/
def WithinReach (userId : String) (db : Database) : Prop :=
  ∀ route owner, ChannelRouteStore.Opens db userId route owner → owner ≠ userId →
    ∃ other, ChannelRouteStore.Opens db userId other owner ∧
      Rank.below ChannelRoute.recency db.channelRoutes.rows other.recency <
        ChannelRouteStore.defaultLimit.toNat

/-! ### The list of routes and the memberships -/

end AdminApi

namespace ChannelRouteStore

/-- The coordinate of a route has its key in it. -/
theorem nodup_recency (db : Database) : (db.channelRoutes.rows.map ChannelRoute.recency).Nodup := by
  have hkeys := db.channelRoutes.nodup
  have hkey : db.channelRoutes.rows.map ChannelRoute.key =
      (db.channelRoutes.rows.map ChannelRoute.recency).map fun recency =>
        ((ofLex (ofLex recency).2).1, ofLex (ofLex (ofLex recency).2).2) := by
    rw [List.map_map]
    rfl
  rw [hkey] at hkeys
  exact List.Nodup.of_map _ hkeys

/-- The list holds the routes that few others come before. -/
theorem mem_list {db : Database} {limit : Int} {routes : List ChannelRoute}
    (h : list limit db = .ok routes) {route : ChannelRoute} :
    route ∈ routes ↔ route ∈ db.channelRoutes.rows ∧
      Rank.below ChannelRoute.recency db.channelRoutes.rows route.recency < limit.toNat := by
  unfold list at h
  obtain ⟨-, h⟩ := raiseIf_bind_ok.mp h
  obtain rfl := Except.ok.inj h
  exact Rank.mem_take_insertionSort (nodup_recency db)

/-- The owners a user may read are those whose workspaces are opened to them. -/
theorem mem_sharedOwnersForMember {db : Database} {userId owner : String} :
    owner ∈ sharedOwnersForMember userId db ↔ ∃ route, Opens db userId route owner := by
  unfold sharedOwnersForMember
  rw [List.mem_insertionSort, List.mem_dedup, List.mem_filterMap]
  constructor
  · rintro ⟨member, hmember, hworkspace⟩
    obtain ⟨hmember, huser⟩ := List.mem_filter.mp hmember
    have huser : member.userId = userId := of_decide_eq_true huser
    unfold workspaceOf at hworkspace
    split at hworkspace
    · cases hworkspace
    · rename_i route hroute
      split at hworkspace
      · rename_i hopen
        obtain ⟨hknown, hkey⟩ := Table.find?_eq_some.mp hroute
        have hsame : (route.channel, route.channelAccount, route.opaqueRef) =
            (member.channel, member.channelAccount, member.opaqueRef) := hkey
        obtain ⟨hchannel, hrest⟩ := Prod.mk.inj hsame
        obtain ⟨haccount, hreference⟩ := Prod.mk.inj hrest
        refine ⟨route, hknown, ?_, hopen.1, hopen.2, hworkspace⟩
        have hfound : db.channelRouteMembers.find? (route.channel, route.channelAccount,
            route.opaqueRef, userId) = some member := by
          rw [Table.find?_eq_some, hchannel, haccount, hreference, ← huser]
          exact ⟨hmember, rfl⟩
        unfold isMember
        rw [hfound]
        rfl
      · cases hworkspace
  · rintro ⟨route, hopens⟩
    obtain ⟨member, hfound⟩ := Option.isSome_iff_exists.mp hopens.member
    obtain ⟨hmember, hkey⟩ := Table.find?_eq_some.mp hfound
    have hsame : (member.channel, member.channelAccount, member.opaqueRef, member.userId) =
        (route.channel, route.channelAccount, route.opaqueRef, userId) := hkey
    obtain ⟨hchannel, hrest⟩ := Prod.mk.inj hsame
    obtain ⟨haccount, hrest⟩ := Prod.mk.inj hrest
    obtain ⟨hreference, huser⟩ := Prod.mk.inj hrest
    refine ⟨member, List.mem_filter.mpr ⟨hmember, decide_eq_true huser⟩, ?_⟩
    have hroute : get member.channel member.channelAccount member.opaqueRef db = some route := by
      unfold get
      rw [Table.find?_eq_some, hchannel, haccount, hreference]
      exact ⟨hopens.known, rfl⟩
    unfold workspaceOf
    rw [hroute]
    simp only
    rw [if_pos ⟨hopens.enabled, hopens.internal⟩, hopens.shared]

end ChannelRouteStore

namespace AdminApi

/-- A workspace is listed once for every owner that has not been seen. -/
theorem mem_groupRecords {routes : List ChannelRoute} {seen : List String} {count : ℕ}
    {owner : String} :
    owner ∈ (groupRecords routes seen count).map Prod.fst ↔
      owner ∉ seen ∧ ∃ route ∈ routes, route.sharedOwnerUserId = some owner := by
  induction routes generalizing seen count with
  | nil => simp [groupRecords]
  | cons route routes ih =>
    unfold groupRecords
    cases hshared : route.sharedOwnerUserId with
    | none =>
      simp only
      rw [ih]
      simp [hshared]
    | some shared =>
      simp only
      by_cases hseen : shared ∈ seen
      · rw [if_pos hseen, ih]
        refine and_congr_right fun hnew => ?_
        constructor
        · rintro ⟨other, hother, howner⟩
          exact ⟨other, List.mem_cons_of_mem _ hother, howner⟩
        · rintro ⟨other, hother, howner⟩
          rcases List.mem_cons.mp hother with rfl | hother
          · rw [hshared] at howner
            obtain rfl := Option.some.inj howner
            exact absurd hseen hnew
          · exact ⟨other, hother, howner⟩
      · rw [if_neg hseen, List.map_cons, List.mem_cons, ih]
        constructor
        · rintro (rfl | ⟨hnew, other, hother, howner⟩)
          · exact ⟨hseen, route, List.mem_cons_self, hshared⟩
          · exact ⟨fun h => hnew (List.mem_cons_of_mem _ h), other,
              List.mem_cons_of_mem _ hother, howner⟩
        · rintro ⟨hnew, other, hother, howner⟩
          by_cases hsame : owner = shared
          · exact .inl hsame
          · refine .inr ⟨fun h => ?_, other, ?_, howner⟩
            · rcases List.mem_cons.mp h with heq | h
              · exact hsame heq
              · exact hnew h
            · rcases List.mem_cons.mp hother with rfl | hother
              · rw [hshared] at howner
                exact absurd (Option.some.inj howner).symm hsame
              · exact hother

/-- The context of an administrator. -/
theorem adminContext_ok {principal : AdminPrincipal} {confirmed : Bool} {now : Instant}
    {db : Database} {context : CommandContext}
    (h : adminContext principal confirmed now db = .ok context) :
    context.actorUserId = principal.userId ∧ context.readableSharedOwnerUserIds =
      ChannelRouteStore.sharedOwnersForMember principal.userId db := by
  unfold adminContext CommandContext.checked at h
  simp only at h
  split at h
  · split at h
    · split at h
      · split at h
        · obtain rfl := Except.ok.inj h
          exact ⟨rfl, rfl⟩
        · cases h
      · cases h
    · cases h
  · cases h

/-! ### Workspaces and owners -/

/-- What a context knows of its administrator: the owners they read are those of the memberships. -/
def ReadsShared (context : CommandContext) (db : Database) : Prop :=
  context.readableSharedOwnerUserIds =
    ChannelRouteStore.sharedOwnersForMember context.actorUserId db

variable {engine : RecurrenceEngine} {clock : Instant} {context : CommandContext} {db : Database}

/-- The routes that show a workspace are those that open it. -/
theorem isWorkspaceRoute_iff (hreads : ReadsShared context db) {route : ChannelRoute} {owner : String}
    (hknown : route ∈ db.channelRoutes.rows) (hshared : route.sharedOwnerUserId = some owner) :
    isWorkspaceRoute context db route = true ↔
      ChannelRouteStore.Opens db context.actorUserId route owner := by
  unfold isWorkspaceRoute
  rw [Bool.and_eq_true, Bool.and_eq_true, Bool.and_eq_true, decide_eq_true_eq, hshared,
    Option.any_some, List.contains_iff_mem, hreads, ChannelRouteStore.mem_sharedOwnersForMember]
  constructor
  · rintro ⟨⟨⟨henabled, hinternal⟩, -⟩, hmember⟩
    exact ⟨hknown, hmember, henabled, hinternal, hshared⟩
  · intro hopens
    exact ⟨⟨⟨hopens.enabled, hopens.internal⟩, route, hopens⟩, hopens.member⟩

/-- **The workspaces that are listed**: the private one, and those of the groups within the first two
hundred routes. -/
theorem workspaceRecords_ok (hreads : ReadsShared context db) :
    ∃ records, workspaceRecords context db = .ok records ∧
      ∀ owner, owner ∈ records.map Prod.fst ↔ owner = context.actorUserId ∨
        ∃ route, ChannelRouteStore.Opens db context.actorUserId route owner ∧
          Rank.below ChannelRoute.recency db.channelRoutes.rows route.recency <
            ChannelRouteStore.defaultLimit.toNat := by
  obtain ⟨listed, hlisted⟩ : ∃ listed,
      ChannelRouteStore.list ChannelRouteStore.defaultLimit db = .ok listed :=
    ⟨_, raiseIf_bind_ok.mpr ⟨by decide, rfl⟩⟩
  refine ⟨_, bind_eq_ok.mpr ⟨listed, hlisted, rfl⟩, ?_⟩
  intro owner
  rw [List.map_cons, List.mem_cons, mem_groupRecords]
  refine or_congr Iff.rfl ?_
  constructor
  · rintro ⟨-, route, hroute, hshared⟩
    obtain ⟨hroute, hshows⟩ := List.mem_filter.mp ((List.mem_insertionSort _).mp hroute)
    obtain ⟨hknown, hrank⟩ := (ChannelRouteStore.mem_list hlisted).mp hroute
    exact ⟨route, (isWorkspaceRoute_iff hreads hknown hshared).mp hshows, hrank⟩
  · rintro ⟨route, hopens, hrank⟩
    refine ⟨List.not_mem_nil, route, (List.mem_insertionSort _).mpr ?_, hopens.shared⟩
    exact List.mem_filter.mpr ⟨(ChannelRouteStore.mem_list hlisted).mpr ⟨hopens.known, hrank⟩,
      (isWorkspaceRoute_iff hreads hopens.known hopens.shared).mpr hopens⟩

/-- A workspace is found for the owners that are listed. -/
theorem workspaceForOwner_ok {records : List (String × Workspace)} {owner : String}
    (hrecords : workspaceRecords context db = .ok records) (h : owner ∈ records.map Prod.fst) :
    ∃ workspace, workspaceForOwner context owner db = .ok workspace := by
  obtain ⟨⟨first, workspace⟩, hmem, rfl⟩ := List.mem_map.mp h
  obtain ⟨found, hfound⟩ := Option.isSome_iff_exists.mp
    (List.find?_isSome.mpr ⟨_, hmem, decide_eq_true rfl⟩ :
      (records.find? fun record => record.1 = first).isSome = true)
  refine ⟨found.2, bind_eq_ok.mpr ⟨records, hrecords, ?_⟩⟩
  simp only [hfound]
  rfl

/-- What is read belongs to an owner whom the administrator reads. -/
theorem Listing.read_owned {α β : Type} (listing : Listing α β) {current : CommandContext}
    {items : List α} (h : listing.read current db = .ok items) :
    ∀ item ∈ items, listing.view.owner item ∈ readOwnerIds current := by
  intro item hitem
  unfold Listing.read at h
  obtain ⟨lists, hlists, h⟩ := bind_eq_ok.mp h
  obtain ⟨_, -, h⟩ := bind_eq_ok.mp h
  obtain rfl := Except.ok.inj h
  obtain ⟨ofOwner, hof, hmem⟩ := List.mem_flatten.mp (listing.mem_arrange hitem)
  obtain ⟨i, hi⟩ := List.getElem?_of_mem hof
  obtain ⟨owner, howner, hlist⟩ := (mapM_get hlists i).2 ofOwner hi
  rw [listing.owned hlist item hmem]
  exact listing.owners_readable current owner (List.mem_of_getElem? howner)

/-- A list is served where every owner has a workspace. -/
theorem Listing.served {α β : Type} (listing : Listing α β) {current : CommandContext}
    (hsame : readOwnerIds current = readOwnerIds context)
    (hfound : ∀ owner ∈ readOwnerIds context, ∃ workspace,
      workspaceForOwner context owner db = .ok workspace) :
    listing.Served current context db := by
  intro items shown hread hshown
  have howned := listing.read_owned hread
  rw [hsame] at howned
  have hall : ∃ workspaces, items.mapM (listing.json context db) = .ok (shown.zip workspaces) ∧
      workspaces.length = shown.length := by
    have hvalues := mapM_eq_ok.mp hshown
    clear hread hshown
    induction hvalues with
    | nil => exact ⟨[], rfl, rfl⟩
    | @cons item value items values hvalue _ ih =>
      obtain ⟨workspaces, hrest, hlength⟩ := ih fun item hitem =>
        howned item (List.mem_cons_of_mem _ hitem)
      obtain ⟨workspace, hworkspace⟩ := hfound _ (howned item List.mem_cons_self)
      have hjson : listing.json context db item = .ok (value, workspace) :=
        bind_eq_ok.mpr ⟨value, hvalue, bind_eq_ok.mpr ⟨workspace, hworkspace, rfl⟩⟩
      refine ⟨workspace :: workspaces, ?_, congrArg Nat.succ hlength⟩
      exact mapM_eq_ok.mpr (.cons hjson (mapM_eq_ok.mp hrest))
  obtain ⟨workspaces, hworkspaces, hlength⟩ := hall
  exact ⟨workspaces, bind_eq_ok.mpr ⟨items, hread, hworkspaces⟩, hlength⟩

/-- Where every group is within reach, the workspaces agree. -/
theorem workspacesAgree_of_withinReach (hreads : ReadsShared context db)
    (hreach : WithinReach context.actorUserId db) : WorkspacesAgree engine clock context db := by
  obtain ⟨records, hrecords, hlisted⟩ := workspaceRecords_ok hreads
  have howners : ∀ owner, owner ∈ records.map Prod.fst ↔ owner = context.actorUserId ∨
      owner ∈ ChannelRouteStore.sharedOwnersForMember context.actorUserId db := by
    intro owner
    rw [hlisted, ChannelRouteStore.mem_sharedOwnersForMember]
    constructor
    · rintro (hself | ⟨route, hopens, -⟩)
      · exact .inl hself
      · exact .inr ⟨route, hopens⟩
    · rintro (hself | ⟨route, hopens⟩)
      · exact .inl hself
      · by_cases hself : owner = context.actorUserId
        · exact .inl hself
        · exact .inr (hreach route owner hopens hself)
  have hfound : ∀ owner ∈ readOwnerIds context, ∃ workspace,
      workspaceForOwner context owner db = .ok workspace := by
    intro owner howner
    refine workspaceForOwner_ok hrecords ((howners owner).mpr ?_)
    rcases List.mem_cons.mp howner with hself | hshared
    · exact .inl hself
    · exact .inr (hreads ▸ hshared)
  exact {
    owners := ⟨records, hrecords, howners⟩
    found := hfound
    agenda := Listing.served _ rfl hfound
    tasks := Listing.served _ rfl hfound
    notes := Listing.served _ rfl hfound
    importantDays := Listing.served _ rfl hfound
    reminders := Listing.served _ rfl hfound }

/-- Where the workspaces agree, every group is within reach. -/
theorem withinReach_of_owners (hreads : ReadsShared context db)
    (howners : ∃ records, workspaceRecords context db = .ok records ∧
      ∀ owner, owner ∈ records.map Prod.fst ↔ owner = context.actorUserId ∨
        owner ∈ ChannelRouteStore.sharedOwnersForMember context.actorUserId db) :
    WithinReach context.actorUserId db := by
  intro route owner hopens hother
  obtain ⟨records, hrecords, hagree⟩ := howners
  obtain ⟨records', hrecords', hlisted⟩ := workspaceRecords_ok hreads
  rw [hrecords] at hrecords'
  obtain rfl := Except.ok.inj hrecords'
  have hmem := (hagree owner).mpr (.inr (ChannelRouteStore.mem_sharedOwnersForMember.mpr
    ⟨route, hopens⟩))
  rcases (hlisted owner).mp hmem with hself | hreach
  · exact absurd hself hother
  · exact hreach

/-- What `_admin_context` builds reads the owners of the memberships. -/
theorem readsShared_of_adminContext {principal : AdminPrincipal} {confirmed : Bool} {now : Instant}
    (h : adminContext principal confirmed now db = .ok context) : ReadsShared context db := by
  obtain ⟨hactor, hreadable⟩ := adminContext_ok h
  unfold ReadsShared
  rw [hreadable, hactor]

/-- **The workspaces of an administrator agree with the owners they read** exactly if every group they
are a member of is within reach of the list of routes. -/
theorem workspaces_agree_iff (engine : RecurrenceEngine) (clock : Instant) (db : Database)
    (principal : AdminPrincipal) (confirmed : Bool) (now : Instant) (context : CommandContext)
    (h : adminContext principal confirmed now db = .ok context) :
    WorkspacesAgree engine clock context db ↔ WithinReach principal.userId db := by
  have hreads := readsShared_of_adminContext h
  rw [← (adminContext_ok h).1]
  constructor
  · intro hagree
    exact withinReach_of_owners hreads hagree.owners
  · exact workspacesAgree_of_withinReach hreads

/-! Alice is a member of a group, of which nothing has been heard for a while. -/

/-- The group. -/
def quietGroup : ChannelRoute where
  channel := "qq"
  channelAccount := "bot"
  opaqueRef := "group"
  routeKind := .group
  commandsEnabled := true
  lastSeenAt := 0
  groupMode := .internal
  sharedOwnerUserId := some "group_1"

/-- A route on which somebody was seen since then. -/
def passerBy (n : ℕ) : ChannelRoute where
  channel := "qq"
  channelAccount := "bot"
  opaqueRef := String.ofList (List.replicate (n + 1) 'a')
  routeKind := .actor
  lastSeenAt := 1

theorem passerBy_key_injective : Function.Injective fun n => (passerBy n).key := by
  intro m n h
  have hlists : List.replicate (m + 1) 'a' = List.replicate (n + 1) 'a' :=
    String.ofList_injective (Prod.mk.inj (Prod.mk.inj h).2).2
  have hlengths := congrArg List.length hlists
  rw [List.length_replicate, List.length_replicate] at hlengths
  exact Nat.succ.inj hlengths

theorem passerBy_key_ne (n : ℕ) : (passerBy n).key ≠ quietGroup.key := by
  intro h
  have hlists : List.replicate (n + 1) 'a' = ['g', 'r', 'o', 'u', 'p'] :=
    String.ofList_injective (Prod.mk.inj (Prod.mk.inj h).2).2
  have hmem : 'g' ∈ List.replicate (n + 1) 'a' := hlists ▸ List.mem_cons_self
  exact absurd (List.eq_of_mem_replicate hmem) (by decide)

/-- The group, and so many passers-by. -/
def afterPassersBy (n : ℕ) : Database where
  users := ⟨[⟨"alice", "Alice", true⟩, ⟨"group_1", "Shared group workspace", true⟩], by decide⟩
  channelRoutes := ⟨quietGroup :: (List.range n).map passerBy, by
    rw [List.map_cons, List.map_map, List.nodup_cons]
    refine ⟨?_, List.nodup_range.map passerBy_key_injective⟩
    intro hmem
    obtain ⟨i, -, hi⟩ := List.mem_map.mp hmem
    exact passerBy_key_ne i hi⟩
  channelRouteMembers := ⟨[⟨"qq", "bot", "group", "alice", "alice", 0⟩], by decide⟩

def aliceAtAdmin : AdminPrincipal := ⟨"alice", .password⟩

def aliceInAdmin : CommandContext where
  actorUserId := "alice"
  roles := ["shared_workspace_member"]
  readableSharedOwnerUserIds := ["group_1"]
  authentication := .password
  requestChannel := .adminWeb
  now := some 1
  actor_nonblank := @rfl Bool false
  sharedOwner_nonblank := CommandContext.noSharedOwner_nonblank
  readable_nonblank := by decide
  readable_nodup := by decide

theorem adminContext_afterPassersBy (n : ℕ) :
    adminContext aliceAtAdmin false 1 (afterPassersBy n) = .ok aliceInAdmin := by
  rfl

/-- After the group come all who passed by. -/
theorem rank_quietGroup (n : ℕ) :
    Rank.below ChannelRoute.recency (afterPassersBy n).channelRoutes.rows quietGroup.recency = n := by
  change Rank.below ChannelRoute.recency (quietGroup :: (List.range n).map passerBy) _ = n
  have hlater : ∀ route ∈ (List.range n).map passerBy,
      decide (route.recency < quietGroup.recency) = true := by
    intro route hroute
    obtain ⟨i, -, rfl⟩ := List.mem_map.mp hroute
    refine decide_eq_true (Prod.Lex.toLex_lt_toLex.mpr (.inl ?_))
    exact OrderDual.toDual_lt_toDual.mpr Int.zero_lt_one
  unfold Rank.below
  rw [List.countP_cons_of_neg (by simp), List.countP_eq_length.mpr hlater, List.length_map,
    List.length_range]

/-- No other route opens the workspace. -/
theorem opens_afterPassersBy {n : ℕ} {route : ChannelRoute} {owner : String}
    (h : ChannelRouteStore.Opens (afterPassersBy n) "alice" route owner) : route = quietGroup := by
  rcases List.mem_cons.mp h.known with hgroup | hpasser
  · exact hgroup
  · obtain ⟨i, -, rfl⟩ := List.mem_map.mp hpasser
    exact absurd h.shared (by simp [passerBy])

/-- With a hundred passers-by the workspaces agree. -/
theorem workspaces_agree_hundred : WorkspacesAgree utcOnly 1 aliceInAdmin (afterPassersBy 100) := by
  refine (workspaces_agree_iff utcOnly 1 (afterPassersBy 100) aliceAtAdmin false 1 aliceInAdmin
    (adminContext_afterPassersBy 100)).mpr ?_
  intro route owner hopens _
  refine ⟨route, hopens, ?_⟩
  rw [opens_afterPassersBy hopens, rank_quietGroup]
  decide

/-- With two hundred, her group has no workspace. -/
theorem passers_by_hide_workspace :
    ¬ ∀ (principal : AdminPrincipal) (confirmed : Bool) (now : Instant) (db : Database)
      (context : CommandContext), adminContext principal confirmed now db = .ok context →
        WorkspacesAgree utcOnly now context db := by
  intro h
  have hagree := h aliceAtAdmin false 1 (afterPassersBy 200) aliceInAdmin
    (adminContext_afterPassersBy 200)
  have hreach := withinReach_of_owners
    (readsShared_of_adminContext (adminContext_afterPassersBy 200)) hagree.owners
  have hopens : ChannelRouteStore.Opens (afterPassersBy 200) "alice" quietGroup "group_1" :=
    ⟨List.mem_cons_self, by decide, rfl, rfl, rfl⟩
  obtain ⟨other, hother, hrank⟩ := hreach quietGroup "group_1" hopens (by decide)
  rw [opens_afterPassersBy hother, rank_quietGroup] at hrank
  exact absurd hrank (by decide)

end AdminApi

end Zhixu
