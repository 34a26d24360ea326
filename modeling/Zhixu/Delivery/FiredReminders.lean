import Zhixu.Domain.Spacing
import Zhixu.Storage.ReminderRuns

/-!
# Where a fired reminder goes

`enqueue_due` writes the deliveries of the reminders with SQL and a payload of its own, and looks
the channel of a target up in `channel_routes`, where the events of a conversation leave it. The
other registry, `outbound_targets`, is not read, and a target found in neither gets a delivery
with an empty channel: no worker of any account claims it, and it does not decode. The reminder is
marked as fired all the same.

`FiredCarried` says what a firing pass owes: a reminder that becomes fired has a delivery that a
worker of one of its target's accounts can claim and that decodes to its card and its buttons
(`Carries`), and one whose target has no channel stays as it is. `firedCarried_iff` says exactly
when a pass that succeeds keeps it (`Routed`): every reminder it fires has a route with a channel
and an account, or a delivery of its key that is fit for it already, and no two of the new deliveries
share an id.

The proof follows the loop. `Passed` says where it stands after some of the due reminders: the
deliveries added are those of reminders passed whose key and id were free (`IsFiring`), and where no
two of the new ids agree each of those has been added. What such a delivery decodes to is
`messageFromRow_delivery`.
-/

open Framework

namespace Zhixu

/-- A channel and account under which a target is registered: a conversation seen there, or an
outbound target. -/
def Registered (db : Database) (targetRef channel channelAccount : String) : Prop :=
  (∃ route ∈ db.channelRoutes.rows, route.opaqueRef = targetRef ∧ route.channel = channel ∧
    route.channelAccount = channelAccount) ∨
  ∃ target ∈ db.outboundTargets.rows, target.opaqueRef = targetRef ∧ target.channel = channel ∧
    target.channelAccount = channelAccount

/-! ### What the delivery of a reminder decodes to -/

/-- A card has a title. -/
theorem isBlank_card (title : String) (fields : List (String × String)) (note : String) :
    isBlank (card title fields note) = false := by
  have hhead : ∀ lines, isBlank (joinLines (("# " ++ title) :: lines)) = false := by
    intro lines
    have hmark : isBlank "# " = false := by decide
    unfold joinLines
    cases lines with
    | nil => rw [String.intercalate_singleton, isBlank_append, hmark, Bool.false_and]
    | cons line lines =>
      rw [String.intercalate_cons_cons, isBlank_append, isBlank_append, isBlank_append, hmark]
      rfl
  unfold card
  simp only
  by_cases hnote : note = ""
  · rw [if_pos hnote]
    exact hhead _
  · rw [if_neg hnote]
    exact hhead _

/-- Buttons with a label and an action are read back as they were written. -/
theorem mapM_checked_nonblank {items : List ButtonPayload}
    (h : ∀ item ∈ items, isBlank item.label = false ∧ isBlank item.action = false) :
    ∃ buttons : List MessageButton,
      items.mapM (fun item => MessageButton.checked item.label item.action item.kind) =
          .ok buttons ∧
        (buttons.map fun b => (⟨b.label, b.action, b.kind⟩ : ButtonPayload)) = items := by
  induction items with
  | nil => exact ⟨[], rfl, rfl⟩
  | cons item items ih =>
    obtain ⟨buttons, hbuttons, hitems⟩ := ih fun item' hitem' =>
      h item' (List.mem_cons_of_mem item hitem')
    have hitem := h item (List.mem_cons_self ..)
    refine ⟨⟨item.label, item.action, item.kind, hitem⟩ :: buttons, ?_, ?_⟩
    · rw [List.mapM_cons, hbuttons]
      unfold MessageButton.checked
      rw [dif_pos hitem]
      rfl
    · rw [List.map_cons, hitems]

namespace ReminderRepository

theorem isBlank_reminderNotificationText {zones : TimeZones} {r : Reminder} {text : String}
    (h : reminderNotificationText zones r = .ok text) : isBlank text = false := by
  unfold reminderNotificationText at h
  obtain ⟨localFireAt, -, h⟩ := bind_eq_ok.mp h
  cases hrelated : r.relatedStartAt with
  | none =>
    rw [hrelated] at h
    obtain rfl := Except.ok.inj h
    exact isBlank_card _ _ _
  | some relatedStartAt =>
    rw [hrelated] at h
    obtain ⟨startsAt, -, h⟩ := bind_eq_ok.mp h
    obtain rfl := Except.ok.inj h
    exact isBlank_card _ _ _

/-- Every button under a reminder has a label and an action. -/
theorem reminderButtons_nonblank (r : Reminder) : ∀ item ∈ reminderButtons r,
    isBlank item.label = false ∧ isBlank item.action = false := by
  have hminutes : isBlank "分钟" = false := by decide
  have hsnooze : isBlank "/提醒稍后 " = false := by decide
  have hdoneLabel : isBlank "完成" = false := by decide
  have hcancelLabel : isBlank "取消" = false := by decide
  have hdone : isBlank "/提醒完成 " = false := by decide
  have hcancel : isBlank "/取消提醒 " = false := by decide
  intro item hitem
  unfold reminderButtons at hitem
  rw [List.mem_append, List.mem_append] at hitem
  rcases hitem with (hlink | hlater) | hlast
  · obtain ⟨link, -, rfl⟩ := List.mem_map.mp hlink
    exact ⟨link.label_valid.1, link.url_valid.1⟩
  · obtain ⟨minutes, -, rfl⟩ := List.mem_map.mp hlater
    refine ⟨?_, ?_⟩
    · show isBlank (minutes ++ "分钟") = false
      rw [isBlank_append, hminutes, Bool.and_false]
    · show isBlank ("/提醒稍后 " ++ r.id ++ " " ++ minutes ++ "分钟") = false
      rw [isBlank_append, hminutes, Bool.and_false]
  · rcases List.mem_pair.mp hlast with rfl | rfl
    · refine ⟨hdoneLabel, ?_⟩
      show isBlank ("/提醒完成 " ++ r.id) = false
      rw [isBlank_append, hdone, Bool.false_and]
    · refine ⟨hcancelLabel, ?_⟩
      show isBlank ("/取消提醒 " ++ r.id) = false
      rw [isBlank_append, hcancel, Bool.false_and]

/-- A route that names a channel and an account. -/
def HasRoute (db : Database) (targetRef : String) : Prop :=
  ∃ route, lastRoute db targetRef = some route ∧ isBlank route.channel = false ∧
    isBlank route.channelAccount = false

/-- **The delivery decodes** to the card and the buttons, when the target has a route. -/
theorem messageFromRow_delivery {platform : Platform} {db : Database} (now : Instant)
    {r : Reminder} {text : String} (hvalid : r.validate platform.zones = .ok ⟨⟩)
    (htext : isBlank text = false) (hroute : HasRoute db r.targetRef) :
    ∃ message, messageFromRow (delivery platform db now r text) = .ok message ∧
      message.text = text ∧ (messageJson message).buttons = reminderButtons r := by
  obtain ⟨route, hlast, hchannel, haccount⟩ := hroute
  unfold Reminder.validate at hvalid
  obtain ⟨hblank, hvalid⟩ := raiseIf_bind_ok.mp hvalid
  obtain ⟨-, hvalid⟩ := raiseIf_bind_ok.mp hvalid
  obtain ⟨-, hvalid⟩ := raiseIf_bind_ok.mp hvalid
  obtain ⟨_, -, hvalid⟩ := bind_eq_ok.mp hvalid
  obtain ⟨-, hvalid⟩ := raiseIf_bind_ok.mp hvalid
  obtain ⟨-, hvalid⟩ := raiseIf_bind_ok.mp hvalid
  obtain ⟨_, hordinary, -⟩ := bind_eq_ok.mp hvalid
  have hclassification := PolicyEngine.requireOrdinaryStorage_ok.mp hordinary
  have htarget : isBlank r.targetRef = false := by
    cases h : isBlank r.targetRef with
    | false => rfl
    | true => exact absurd (.inr (.inr (.inr h))) hblank
  obtain ⟨buttons, hbuttons, hitems⟩ := mapM_checked_nonblank (reminderButtons_nonblank r)
  have hcontent : HasContent text none none none := fun h => by
    rw [htext] at h
    exact absurd h.1 (by decide)
  refine ⟨{
    channel := route.channel, channelAccount := route.channelAccount, targetRef := r.targetRef
    kind := .text, text, buttons, classification := r.classification
    account_nonblank := ⟨hchannel, haccount⟩, target_nonblank := htarget, content := hcontent
    replyContext_short := by decide, ordinary := hclassification }, ?_, rfl, hitems⟩
  unfold messageFromRow delivery
  simp only [hlast, hbuttons, Option.map_some, Option.getD_some]
  show OutboundMessage.checked route.channel route.channelAccount r.targetRef .text text buttons
    none "" r.classification none none = _
  unfold OutboundMessage.checked
  rw [dif_pos ⟨hchannel, haccount⟩, dif_pos htarget, dif_pos hcontent, dif_pos (by decide),
    dif_pos hclassification]

/-- A delivery that decodes has a route. -/
theorem hasRoute_of_messageFromRow {platform : Platform} {db : Database} {now : Instant}
    {r : Reminder} {text : String} {message : OutboundMessage}
    (h : messageFromRow (delivery platform db now r text) = .ok message) :
    HasRoute db r.targetRef := by
  unfold messageFromRow at h
  obtain ⟨buttons, -, h⟩ := bind_eq_ok.mp h
  obtain ⟨calendarPreview, -, h⟩ := bind_eq_ok.mp h
  obtain ⟨dailyAgendaPreview, -, h⟩ := bind_eq_ok.mp h
  unfold OutboundMessage.checked at h
  split at h
  · rename_i haccount
    obtain ⟨hchannel, hchannelAccount⟩ := haccount
    simp only [delivery] at hchannel hchannelAccount
    cases hlast : lastRoute db r.targetRef with
    | none =>
      -- the empty channel of a target without a route
      rw [hlast] at hchannel
      exact absurd hchannel (by decide)
    | some route =>
      rw [hlast] at hchannel hchannelAccount
      exact ⟨route, hlast, hchannel, hchannelAccount⟩
  · cases h

/-! ### What a firing pass owes -/

/-- The delivery is the reminder's, a worker of one of its target's accounts can claim it, and it
decodes to the reminder's card and buttons. -/
structure Carries (platform : Platform) (db : Database) (now : Instant) (r : Reminder)
    (row : OutboxDelivery) : Prop where
  key : row.idempotencyKey = reminderKey r.id r.fireAt
  target : row.targetRef = r.targetRef
  registered : Registered db r.targetRef row.channel row.channelAccount
  claimable : OutboxStore.isDue now (some [(row.channel, row.channelAccount)]) row = true
  card : ∃ message, messageFromRow row = .ok message ∧
    reminderNotificationText platform.zones r = .ok message.text ∧
    (messageJson message).buttons = reminderButtons r

/-- What a pass owes that finds one database and leaves another. -/
structure FiredCarried (platform : Platform) (now : Instant) (lateGraceSeconds : Int)
    (db db' : Database) : Prop where
  carried : ∀ r ∈ db.reminders.rows, r.status = .pending →
    (∃ r', db'.reminders.find? r.id = some r' ∧ r'.status = .fired) →
      ∃ row ∈ db'.outboxDeliveries.rows, Carries platform db' now r row
  kept : ∀ r ∈ db.reminders.rows, r.status = .pending →
    isMissed now lateGraceSeconds r = false →
      (∀ channel channelAccount, ¬ Registered db r.targetRef channel channelAccount) →
        db'.reminders.find? r.id = some r

/-- No delivery has the key of the reminder's firing. -/
def KeyFree (db : Database) (r : Reminder) : Prop :=
  ∀ row ∈ db.outboxDeliveries.rows, row.idempotencyKey ≠ reminderKey r.id r.fireAt

/-- No delivery has the id of the reminder's firing. -/
def IdFree (platform : Platform) (db : Database) (r : Reminder) : Prop :=
  ∀ row ∈ db.outboxDeliveries.rows, row.id ≠ platform.deliveryId (reminderKey r.id r.fireAt)

/-- The new deliveries of a pass have different ids. -/
def IdsApart (platform : Platform) (db : Database) (now : Instant) (lateGraceSeconds : Int) : Prop :=
  ∀ r ∈ due db now, ∀ r' ∈ due db now, isMissed now lateGraceSeconds r = false →
    isMissed now lateGraceSeconds r' = false → KeyFree db r → KeyFree db r' →
      platform.deliveryId (reminderKey r.id r.fireAt) =
        platform.deliveryId (reminderKey r'.id r'.fireAt) → r = r'

/-- Every reminder that is going to be fired has a delivery that is fit for it already, or the way
of its delivery is clear and its target has a route. -/
structure Routed (platform : Platform) (db : Database) (now : Instant) (lateGraceSeconds : Int) :
    Prop where
  served : ∀ r ∈ due db now, isMissed now lateGraceSeconds r = false →
    (∃ row ∈ db.outboxDeliveries.rows, Carries platform db now r row) ∨
      KeyFree db r ∧ IdFree platform db r ∧ HasRoute db r.targetRef
  apart : IdsApart platform db now lateGraceSeconds

/-! ### The loop -/

/-- The delivery is the one the pass writes for the reminder, whose key and id were free. -/
structure IsFiring (platform : Platform) (db : Database) (now : Instant) (r : Reminder)
    (row : OutboxDelivery) : Prop where
  valid : (loaded r).validate platform.zones = .ok ⟨⟩
  written : ∃ text, reminderNotificationText platform.zones r = .ok text ∧
    row = delivery platform db now (loaded r) text
  key_free : KeyFree db r
  id_free : IdFree platform db r

namespace IsFiring

variable {platform : Platform} {db : Database} {now : Instant} {r : Reminder} {row : OutboxDelivery}

theorem key (h : IsFiring platform db now r row) :
    row.idempotencyKey = reminderKey r.id r.fireAt := by
  obtain ⟨text, -, rfl⟩ := h.written
  rfl

theorem id (h : IsFiring platform db now r row) :
    row.id = platform.deliveryId (reminderKey r.id r.fireAt) := by
  obtain ⟨text, -, rfl⟩ := h.written
  rfl

end IsFiring

/-- Where the loop stands after the reminders `done`. -/
structure Passed (platform : Platform) (db : Database) (now : Instant) (lateGraceSeconds : Int)
    (done : List Reminder) (acc : ℕ × Database) : Prop where
  routes : acc.2.channelRoutes = db.channelRoutes
  targets : acc.2.outboundTargets = db.outboundTargets
  reminders : ∀ k, acc.2.reminders.find? k = (db.reminders.find? k).map fun r =>
    if r ∈ done then settled now lateGraceSeconds r else r
  deliveries : ∃ new, acc.2.outboxDeliveries.rows = db.outboxDeliveries.rows ++ new ∧
    ∀ row ∈ new, ∃ r ∈ done, isMissed now lateGraceSeconds r = false ∧
      IsFiring platform db now r row
  complete : IdsApart platform db now lateGraceSeconds →
    ∀ r ∈ done, isMissed now lateGraceSeconds r = false → KeyFree db r → IdFree platform db r →
      ∃ row ∈ acc.2.outboxDeliveries.rows, IsFiring platform db now r row

/-- An accepted delivery is added, and nothing else changes. -/
theorem insertDelivery?_frame {db db' : Database} {row : OutboxDelivery}
    (h : db.insertDelivery? row = some db') :
    db'.outboxDeliveries.rows = db.outboxDeliveries.rows ++ [row] ∧
      db'.reminders = db.reminders ∧ db'.channelRoutes = db.channelRoutes ∧
      db'.outboundTargets = db.outboundTargets := by
  obtain ⟨-, deliveries, hinsert, rfl⟩ := OutboxStore.insertDelivery?_eq_some h
  exact ⟨Table.rows_insert hinsert, rfl, rfl, rfl⟩

/-- The route of a target is read from `channel_routes` alone. -/
theorem delivery_congr (platform : Platform) {db db' : Database}
    (h : db'.channelRoutes = db.channelRoutes) (now : Instant) (r : Reminder) (text : String) :
    delivery platform db' now r text = delivery platform db now r text := by
  unfold delivery lastRoute
  rw [h]

/-- **One pass of the loop.** -/
theorem Passed.step {platform : Platform} {db : Database} {now : Instant} {lateGraceSeconds : Int}
    {done : List Reminder} {row : Reminder} {acc acc' : ℕ × Database}
    (h : Passed platform db now lateGraceSeconds done acc)
    (hrange : ∀ r ∈ db.reminders.rows, Instant.InRange r.fireAt)
    (hdone : ∀ r ∈ done, r ∈ due db now) (hrow : row ∈ due db now) (hnew : row ∉ done)
    (hstep : fireOne platform now lateGraceSeconds acc row = .ok acc') :
    Passed platform db now lateGraceSeconds (done ++ [row]) acc' := by
  obtain ⟨hmem, hpending, -⟩ := mem_due.mp hrow
  obtain ⟨new, hrows, hnewrows⟩ := h.deliveries
  have hnewrows' : ∀ added ∈ new, ∃ r ∈ done ++ [row], isMissed now lateGraceSeconds r = false ∧
      IsFiring platform db now r added := by
    intro added hadded
    obtain ⟨r, hr, hrest⟩ := hnewrows added hadded
    exact ⟨r, List.mem_append_left _ hr, hrest⟩
  obtain ⟨hvalid, ⟨hmissed, rfl⟩ | ⟨hfired, text, htext, ⟨hignored, rfl⟩ | ⟨db₁, hinserted, rfl⟩⟩⟩ :=
    fireOne_cases hstep
  · -- the reminder is skipped, so it owes no delivery
    refine ⟨h.routes, h.targets, ?_, ⟨new, hrows, hnewrows'⟩, ?_⟩
    · exact find?_settle_next hmem hpending hnew h.reminders (by rw [if_pos hmissed]) _ _
    · intro hapart r hr hnot hkey hid
      rcases List.mem_append.mp hr with hold | hthis
      · exact h.complete hapart r hold hnot hkey hid
      · obtain rfl := List.mem_singleton.mp hthis
        rw [hmissed] at hnot
        cases hnot
  · refine ⟨h.routes, h.targets, ?_, ⟨new, hrows, hnewrows'⟩, ?_⟩
    · exact find?_settle_next hmem hpending hnew h.reminders (by rw [hfired]; rfl) _ _
    · intro hapart r hr hnot hkey hid
      rcases List.mem_append.mp hr with hold | hthis
      · exact h.complete hapart r hold hnot hkey hid
      · -- the way was clear, so the delivery cannot have been ignored
        obtain rfl := List.mem_singleton.mp hthis
        have hfree : ∀ row' ∈ acc.2.outboxDeliveries.rows,
            row'.idempotencyKey ≠ reminderKey r.id r.fireAt ∧
              row'.id ≠ platform.deliveryId (reminderKey r.id r.fireAt) := by
          intro row' hrow'
          rw [hrows, List.mem_append] at hrow'
          rcases hrow' with hbefore | hadded
          · exact ⟨hkey row' hbefore, hid row' hbefore⟩
          · obtain ⟨r', hr', hkept, hfiring⟩ := hnewrows row' hadded
            have hdue' := hdone r' hr'
            have hne : r' ≠ r := fun heq => hnew (heq ▸ hr')
            refine ⟨fun heq => ?_, fun heq => ?_⟩
            · obtain ⟨hsame, -⟩ := reminderKey_inj (hrange r' (mem_due.mp hdue').1)
                (hrange r hmem) (hfiring.key.symm.trans heq)
              exact hne (db.reminders.eq_of_key_eq (mem_due.mp hdue').1 hmem hsame)
            · exact hne (hapart r' hdue' r hrow hkept hnot hfiring.key_free hkey
                (hfiring.id.symm.trans heq))
        have hdelivery : IsDelivery platform r (delivery platform acc.2 now (loaded r) text) :=
          ⟨rfl, rfl, rfl, rfl, rfl, rfl⟩
        obtain ⟨db₁, hinserted, -⟩ := insertDelivery?_free acc.2 hdelivery.key hdelivery.id hfree
        rw [hinserted] at hignored
        cases hignored
  · obtain ⟨hadded, hreminders, hroutes, htargets⟩ := insertDelivery?_frame hinserted
    obtain ⟨hkeys, deliveries, hinsert, -⟩ := OutboxStore.insertDelivery?_eq_some hinserted
    have hfree := (Table.insert?_eq_some.mp hinsert).1
    have hfiring : IsFiring platform db now row (delivery platform acc.2 now (loaded row) text) := by
      refine ⟨hvalid, ⟨text, htext, delivery_congr platform h.routes now (loaded row) text⟩, ?_, ?_⟩
      · intro row' hrow'
        exact hkeys row' (hrows ▸ List.mem_append_left new hrow')
      · intro row' hrow'
        exact Table.find?_eq_none.mp hfree row' (hrows ▸ List.mem_append_left new hrow')
    refine ⟨hroutes.trans h.routes, htargets.trans h.targets, ?_,
      ⟨new ++ [delivery platform acc.2 now (loaded row) text], ?_, ?_⟩, ?_⟩
    · refine find?_settle_next hmem hpending hnew (fun k => ?_) (by rw [hfired]; rfl) _ _
      rw [hreminders]
      exact h.reminders k
    · show db₁.outboxDeliveries.rows = _
      rw [hadded, hrows, List.append_assoc]
    · intro row' hrow'
      rcases List.mem_append.mp hrow' with hold | hthis
      · exact hnewrows' row' hold
      · obtain rfl := List.mem_singleton.mp hthis
        exact ⟨row, by simp, hfired, hfiring⟩
    · intro hapart r hr hnot hkey hid
      show ∃ row' ∈ db₁.outboxDeliveries.rows, _
      rw [hadded]
      rcases List.mem_append.mp hr with hold | hthis
      · obtain ⟨row', hrow', hold'⟩ := h.complete hapart r hold hnot hkey hid
        exact ⟨row', List.mem_append_left _ hrow', hold'⟩
      · obtain rfl := List.mem_singleton.mp hthis
        exact ⟨_, List.mem_append_right _ (List.mem_singleton.mpr rfl), hfiring⟩

/-- Where the loop stands at its end. -/
theorem passed_enqueueDue {platform : Platform} {now : Instant} {lateGraceSeconds : Int}
    {db db' : Database} {n : ℕ} (hrange : ∀ r ∈ db.reminders.rows, Instant.InRange r.fireAt)
    (h : enqueueDue platform now lateGraceSeconds db = .ok (n, db')) :
    Passed platform db now lateGraceSeconds (due db now) (n, db') := by
  unfold enqueueDue at h
  rw [raiseIf_bind_ok] at h
  refine foldlM_invariant (Passed platform db now lateGraceSeconds) (nodup_due db now)
    (fun done row acc acc' hdone hrow hnew hpassed hstep =>
      hpassed.step hrange hdone hrow hnew hstep) ?_ h.2
  refine ⟨rfl, rfl, fun k => ?_, ⟨[], by simp, by simp⟩, by simp⟩
  cases hk : db.reminders.find? k <;> simp

/-! ### Deliverable or not -/

theorem registered_congr {db db' : Database} (hroutes : db'.channelRoutes = db.channelRoutes)
    (htargets : db'.outboundTargets = db.outboundTargets) (targetRef channel channelAccount : String) :
    Registered db' targetRef channel channelAccount ↔
      Registered db targetRef channel channelAccount := by
  unfold Registered
  rw [hroutes, htargets]

/-- The route of a target is one of its registrations. -/
theorem registered_lastRoute {db : Database} {targetRef : String} {route : ChannelRoute}
    (h : lastRoute db targetRef = some route) :
    Registered db targetRef route.channel route.channelAccount := by
  obtain ⟨hmem, href⟩ := Table.mem_select.mp (List.mem_of_head? h)
  exact .inl ⟨route, hmem, of_decide_eq_true href, rfl, rfl⟩

/-- A delivery written by the pass to a target with a route is fit for its reminder. -/
theorem IsFiring.carries {platform : Platform} {db : Database} {now : Instant} {r : Reminder}
    {row : OutboxDelivery} (h : IsFiring platform db now r row) (hroute : HasRoute db r.targetRef) :
    Carries platform db now r row := by
  obtain ⟨text, htext, rfl⟩ := h.written
  obtain ⟨message, hmessage, hcard, hbuttons⟩ := messageFromRow_delivery now h.valid
    (isBlank_reminderNotificationText htext) hroute
  obtain ⟨route, hlast, -⟩ := hroute
  have hchannel : (delivery platform db now (loaded r) text).channel = route.channel := by
    show ((lastRoute db r.targetRef).map ChannelRoute.channel).getD "" = route.channel
    rw [hlast]
    rfl
  have haccount : (delivery platform db now (loaded r) text).channelAccount =
      route.channelAccount := by
    show ((lastRoute db r.targetRef).map ChannelRoute.channelAccount).getD "" = _
    rw [hlast]
    rfl
  refine ⟨rfl, rfl, ?_, ?_, message, hmessage, by rw [hcard]; exact htext, hbuttons⟩
  · rw [hchannel, haccount]
    exact registered_lastRoute hlast
  · simp [OutboxStore.isDue, OutboxStore.isWaiting, delivery]

/-- **When fired reminders reach somebody.** -/
theorem firedCarried_iff (platform : Platform) {now : Instant} {lateGraceSeconds : Int}
    {db db' : Database} {n : ℕ} (hrange : ∀ r ∈ db.reminders.rows, Instant.InRange r.fireAt)
    (h : enqueueDue platform now lateGraceSeconds db = .ok (n, db')) :
    FiredCarried platform now lateGraceSeconds db db' ↔
      Routed platform db now lateGraceSeconds := by
  have hpassed := passed_enqueueDue hrange h
  obtain ⟨new, hrows, hnew⟩ := hpassed.deliveries
  -- what is fit for a reminder before the pass is fit for it afterwards
  have hcarries : ∀ r row, Carries platform db' now r row ↔ Carries platform db now r row := by
    intro r row
    have hregistered := registered_congr hpassed.routes hpassed.targets r.targetRef row.channel
      row.channelAccount
    exact ⟨fun hc => ⟨hc.key, hc.target, hregistered.mp hc.registered, hc.claimable, hc.card⟩,
      fun hc => ⟨hc.key, hc.target, hregistered.mpr hc.registered, hc.claimable, hc.card⟩⟩
  have hfate : ∀ r ∈ db.reminders.rows, r ∈ due db now → isMissed now lateGraceSeconds r = false →
      ∃ r', db'.reminders.find? r.id = some r' ∧ r'.status = .fired := by
    intro r hmem hdue hmissed
    refine ⟨settled now lateGraceSeconds r, ?_, ?_⟩
    · rw [hpassed.reminders, Table.find?_of_mem hmem, Option.map_some, if_pos hdue]
    · unfold settled
      rw [hmissed]
      rfl
  constructor
  · intro hcarried
    -- the delivery of a reminder whose key was free is the one the pass wrote for it
    have hown : ∀ r ∈ due db now, isMissed now lateGraceSeconds r = false → KeyFree db r →
        ∃ row ∈ db'.outboxDeliveries.rows, Carries platform db now r row ∧
          IsFiring platform db now r row := by
      intro r hdue hmissed hkey
      obtain ⟨hmem, hpending, -⟩ := mem_due.mp hdue
      obtain ⟨row, hrow, hc⟩ := hcarried.carried r hmem hpending (hfate r hmem hdue hmissed)
      rw [hrows, List.mem_append] at hrow
      rcases hrow with hold | hadded
      · exact absurd hc.key (hkey row hold)
      · obtain ⟨r', hr', -, hfiring⟩ := hnew row hadded
        have hmem' := (mem_due.mp hr').1
        obtain ⟨hsame, -⟩ := reminderKey_inj (hrange r' hmem') (hrange r hmem)
          (hfiring.key.symm.trans hc.key)
        obtain rfl := db.reminders.eq_of_key_eq hmem' hmem hsame
        refine ⟨row, ?_, (hcarries r' row).mp hc, hfiring⟩
        rw [hrows]
        exact List.mem_append_right _ hadded
    refine ⟨?_, ?_⟩
    · intro r hdue hmissed
      by_cases hkey : KeyFree db r
      · obtain ⟨row, -, hc, hfiring⟩ := hown r hdue hmissed hkey
        refine .inr ⟨hkey, hfiring.id_free, ?_⟩
        obtain ⟨text, -, rfl⟩ := hfiring.written
        obtain ⟨message, hmessage, -⟩ := hc.card
        exact hasRoute_of_messageFromRow hmessage
      · obtain ⟨hmem, hpending, -⟩ := mem_due.mp hdue
        obtain ⟨row, hrow, hc⟩ := hcarried.carried r hmem hpending (hfate r hmem hdue hmissed)
        rw [hrows, List.mem_append] at hrow
        rcases hrow with hold | hadded
        · exact .inl ⟨row, hold, (hcarries r row).mp hc⟩
        · -- a delivery of the pass has a key that was free
          obtain ⟨r', hr', -, hfiring⟩ := hnew row hadded
          refine absurd (fun row' hrow' => ?_) hkey
          rw [← hc.key, hfiring.key]
          exact hfiring.key_free row' hrow'
    · intro r hdue r' hdue' hmissed hmissed' hkey hkey' hid
      obtain ⟨row, hrow, hc, hfiring⟩ := hown r hdue hmissed hkey
      obtain ⟨row', hrow', hc', hfiring'⟩ := hown r' hdue' hmissed' hkey'
      have hsame : row = row' := db'.outboxDeliveries.eq_of_key_eq hrow hrow'
        (hfiring.id.trans (hid.trans hfiring'.id.symm))
      subst hsame
      have hmem := (mem_due.mp hdue).1
      have hmem' := (mem_due.mp hdue').1
      exact db.reminders.eq_of_key_eq hmem hmem' (reminderKey_inj (hrange r hmem) (hrange r' hmem')
        (hc.key.symm.trans hc'.key)).1
  · intro hrouted
    refine ⟨?_, ?_⟩
    · rintro r hmem hpending ⟨r', hr', hfired⟩
      -- a reminder that became fired was due, and not missed
      rw [hpassed.reminders, Table.find?_of_mem hmem, Option.map_some] at hr'
      obtain rfl := Option.some.inj hr'
      by_cases hdue : r ∈ due db now
      · rw [if_pos hdue] at hfired
        have hmissed : isMissed now lateGraceSeconds r = false := by
          cases hcase : isMissed now lateGraceSeconds r with
          | false => rfl
          | true => simp [settled, hcase] at hfired
        rcases hrouted.served r hdue hmissed with ⟨row, hrow, hc⟩ | ⟨hkey, hid, hroute⟩
        · refine ⟨row, ?_, (hcarries r row).mpr hc⟩
          rw [hrows]
          exact List.mem_append_left _ hrow
        · obtain ⟨row, hrow, hfiring⟩ := hpassed.complete hrouted.apart r hdue hmissed hkey hid
          exact ⟨row, hrow, (hcarries r row).mpr (hfiring.carries hroute)⟩
      · rw [if_neg hdue, hpending] at hfired
        cases hfired
    · intro r hmem hpending hmissed hunregistered
      rw [hpassed.reminders, Table.find?_of_mem hmem, Option.map_some]
      by_cases hdue : r ∈ due db now
      · -- a due reminder is served, so its target is registered
        rcases hrouted.served r hdue hmissed with ⟨row, -, hc⟩ | ⟨-, -, route, hlast, -⟩
        · exact absurd hc.registered (hunregistered _ _)
        · exact absurd (registered_lastRoute hlast) (hunregistered _ _)
      · rw [if_neg hdue]

/-! A reminder that is due, for a target with a route and for one that is an outbound target only. -/

/-- The database with the reminder to water the plants. -/
def watering : Database := { alone with reminders := ⟨[water], by simp⟩ }

/-- The conversation with Alice has been seen. -/
def wateringRouted : Database :=
  { watering with
    channelRoutes := ⟨[{
      channel := "qq", channelAccount := "bot", opaqueRef := "qq:alice", routeKind := .privateChat
      lastSeenAt := 0 }], by simp⟩ }

/-- The target of Alice is registered, and no event of hers has been seen. -/
def wateringOutbound : Database :=
  { watering with
    outboundTargets := ⟨[{
      id := "qq:alice", channel := "qq", channelAccount := "bot", opaqueRef := "qq:alice"
      targetEnc := "", targetKind := "private", createdAt := 0, updatedAt := 0 }], by simp⟩ }

theorem inRange_watering : ∀ r ∈ wateringRouted.reminders.rows, Instant.InRange r.fireAt := by
  intro r hr
  obtain rfl := List.mem_singleton.mp hr
  decide

theorem firedCarried_watering :
    ∃ db', enqueueDue shanghai (Duration.minutes 1) 300 wateringRouted = .ok (1, db') ∧
      FiredCarried shanghai (Duration.minutes 1) 300 wateringRouted db' := by
  obtain ⟨db', hdb'⟩ : ∃ db', enqueueDue shanghai (Duration.minutes 1) 300 wateringRouted =
      .ok (1, db') := ⟨_, rfl⟩
  refine ⟨db', hdb', (firedCarried_iff shanghai inRange_watering hdb').mpr ⟨?_, ?_⟩⟩
  · intro r hdue _
    obtain rfl := List.mem_singleton.mp (mem_due.mp hdue).1
    have hempty : ∀ row, row ∉ wateringRouted.outboxDeliveries.rows := fun row hrow =>
      List.not_mem_nil hrow
    refine .inr ⟨?_, ?_, ?_⟩
    · exact fun row hrow => absurd hrow (hempty row)
    · exact fun row hrow => absurd hrow (hempty row)
    · exact ⟨_, rfl, by decide, by decide⟩
  · intro r hdue r' hdue' _ _ _ _ _
    obtain rfl := List.mem_singleton.mp (mem_due.mp hdue).1
    exact (List.mem_singleton.mp (mem_due.mp hdue').1).symm

/-- **A reminder that goes nowhere.** Its target is an outbound target, and it is fired into a
delivery of no channel. -/
theorem fired_to_nobody :
    ∃ db', enqueueDue shanghai (Duration.minutes 1) 300 wateringOutbound = .ok (1, db') ∧
      Registered wateringOutbound water.targetRef "qq" "bot" ∧
      ¬ FiredCarried shanghai (Duration.minutes 1) 300 wateringOutbound db' := by
  refine ⟨_, rfl, .inr ⟨_, List.mem_singleton.mpr rfl, rfl, rfl, rfl⟩, fun h => ?_⟩
  obtain ⟨row, hrow, hcarries⟩ := h.carried water (List.mem_singleton.mpr rfl) rfl ⟨_, rfl, rfl⟩
  obtain rfl := List.mem_singleton.mp hrow
  rcases hcarries.registered with ⟨route, hroute, -⟩ | ⟨target, htarget, -, hchannel, -⟩
  · cases hroute
  · obtain rfl := List.mem_singleton.mp htarget
    exact absurd hchannel (by decide)

end ReminderRepository

end Zhixu
