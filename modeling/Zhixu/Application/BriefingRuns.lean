import Zhixu.Application.AgendaRuns
import Zhixu.Application.DailyBriefings
import Zhixu.Delivery.OutboxRuns
import Zhixu.Framework.Listing

/-!
# One briefing a day

The tick of the briefings puts a message into the outbox and notes the date in the briefing, in two
transactions, and either of the two may be the last thing it does. What keeps the briefings from going
out twice is then not the note, which only speaks of one date and which another time zone makes look
like another date, but the idempotency key: it is made of the briefing and the date, and the outbox
takes no key twice. What keeps them from not going out at all is the order: the date is noted after
the delivery is there.

`Consistent` says both of a store. `Serves` is the promise about it: what a step of the program does
keeps it `Consistent`, takes no delivery back and forgets no target. It is kept by the operations on
the outbox and on the briefings (`enqueue_spec`, `serves_markSent`, `serves_create`, `serves_update`,
`serves_delete`), and a tick that relies on it keeps it too (`pass_spec`).

`briefed_once` is about any number of ticks that overlap in any way and are killed anywhere, among
anything that `Serves`: no two deliveries have one key, every date that is noted has been delivered, and
a tick that has come to its end leaves exactly one delivery for each briefing that it found enabled, with
its time of day behind it and a target that is known. The id of a delivery is a digest of the key,
cut off, so this is said of keys whose id no other delivery happens to have.
-/

open Framework

namespace Zhixu

namespace DailyBriefings

open DailyBriefingRepository (targetChannel)

/-- The ids and the keys in the outbox. -/
def issued (db : Database) : List (String × String) :=
  db.outboxDeliveries.rows.map fun row => (row.id, row.idempotencyKey)

/-- The key has its delivery, or another one has the id that belongs to the key. -/
def Settled (runtime : Runtime) (key : String) (db : Database) : Prop :=
  ∃ p ∈ issued db, p.2 = key ∨ p.1 = runtime.briefingDeliveryId key

/-- No key is there twice, and what is noted as sent has been delivered. -/
structure Consistent (runtime : Runtime) (db : Database) : Prop where
  unique : ((issued db).map Prod.snd).Nodup
  noted : ∀ briefing ∈ db.dailyBriefings.rows, ∀ date, briefing.lastSentOn = some date →
    Settled runtime (briefingKey briefing.id date) db

/-- What everything that the program does keeps to. -/
structure Serves (runtime : Runtime) (db db' : Database) : Prop where
  consistent : Consistent runtime db → Consistent runtime db'
  kept : issued db ⊆ issued db'
  known : ∀ targetRef, (targetChannel targetRef db).isSome → (targetChannel targetRef db').isSome

variable {runtime : Runtime} {db db' db'' : Database}

theorem Serves.refl (db : Database) : Serves runtime db db := ⟨id, fun _ h => h, fun _ h => h⟩

theorem Serves.trans (h : Serves runtime db db') (h' : Serves runtime db' db'') :
    Serves runtime db db'' :=
  ⟨fun hdb => h'.consistent (h.consistent hdb), fun _ hp => h'.kept (h.kept hp),
    fun targetRef ht => h'.known targetRef (h.known targetRef ht)⟩

/-- **What is settled stays settled.** -/
theorem Settled.mono {key : String} (h : Settled runtime key db) (hs : issued db ⊆ issued db') :
    Settled runtime key db' := by
  obtain ⟨p, hp, hkey⟩ := h
  exact ⟨p, hs hp, hkey⟩

/-- An operation serves that adds deliveries at most, and notes no date but one that is settled. -/
theorem Serves.of_noted (hunique : ((issued db).map Prod.snd).Nodup → ((issued db').map Prod.snd).Nodup)
    (hkept : issued db ⊆ issued db') (hroutes : db'.channelRoutes = db.channelRoutes)
    (hnoted : ∀ briefing ∈ db'.dailyBriefings.rows, ∀ date, briefing.lastSentOn = some date →
      Settled runtime (briefingKey briefing.id date) db' ∨
        ∃ old ∈ db.dailyBriefings.rows, old.id = briefing.id ∧ old.lastSentOn = some date) :
    Serves runtime db db' := by
  refine ⟨fun hdb => ⟨hunique hdb.unique, fun briefing hb date hdate => ?_⟩, hkept, fun t ht => ?_⟩
  · rcases hnoted briefing hb date hdate with hsettled | ⟨old, hold, hid, holdDate⟩
    · exact hsettled
    · rw [← hid]
      exact (hdb.noted old hold date holdDate).mono hkept
  · unfold targetChannel ReminderRepository.lastRoute at ht ⊢
    rw [hroutes]
    exact ht

/-- **A key belongs to one briefing and one date.** -/
theorem briefingKey_inj {id id' : String} {date date' : Date} (h : Framework.Calendar.InCalendar date)
    (h' : Framework.Calendar.InCalendar date') (hkey : briefingKey id date = briefingKey id' date') :
    id = id' ∧ date = date' := by
  have hlist := congrArg String.toList hkey
  unfold briefingKey at hlist
  simp only [String.toList_append, List.append_assoc] at hlist
  obtain ⟨hid, hdate⟩ := List.append_inj' (List.append_cancel_left hlist)
    (by simp only [List.length_append, isoDate_toList])
  exact ⟨String.toList_injective hid,
    isoDate_inj h h' (String.toList_injective (List.append_cancel_left hdate))⟩

/-! ### The outbox -/

/-- A delivery is refused when its key is there or its id is taken. -/
theorem refused {row : OutboxDelivery} (h : db.insertDelivery? row = none) :
    ∃ p ∈ issued db, p.2 = row.idempotencyKey ∨ p.1 = row.id := by
  unfold Database.insertDelivery? at h
  by_cases hkey : (db.outboxDeliveries.rows.any fun r =>
      decide (r.idempotencyKey = row.idempotencyKey)) = true
  · obtain ⟨r, hr, heq⟩ := List.any_eq_true.mp hkey
    exact ⟨_, List.mem_map_of_mem hr, Or.inl (of_decide_eq_true heq)⟩
  · rw [if_neg hkey, Option.map_eq_none_iff, Table.insert?_eq_none] at h
    obtain ⟨r, hr⟩ := h
    have hid : r.id = row.id := Table.key_of_find? hr
    exact ⟨_, List.mem_map_of_mem (Table.mem_of_find? hr), Or.inr hid⟩

/-- **An enqueue settles its key.** -/
theorem enqueue_spec {request : EnqueueRequest} {accepted : Bool}
    (h : OutboxStore.enqueue request db = .ok (accepted, db')) :
    Serves runtime db db' ∧
      ∃ p ∈ issued db', p.2 = request.idempotencyKey ∨ p.1 = request.deliveryId := by
  unfold OutboxStore.enqueue at h
  rw [raiseIf_bind_ok] at h
  cases hins : db.insertDelivery? request.row with
  | none =>
    rw [hins] at h
    obtain ⟨-, rfl⟩ := Prod.mk.inj (Except.ok.inj h.2)
    exact ⟨Serves.refl db, refused hins⟩
  | some inserted =>
    rw [hins] at h
    simp only [raiseIf_bind_ok] at h
    obtain ⟨-, rfl⟩ := Prod.mk.inj (Except.ok.inj h.2.2)
    obtain ⟨hfresh, T, hT, rfl⟩ := OutboxStore.insertDelivery?_eq_some hins
    have hissued : issued (Database.audit { db with outboxDeliveries := T } {
        occurredAt := request.now
        actorUserId := request.actorUserId
        action := "enqueue"
        resourceKind := "outbox_delivery"
        resourceId := request.deliveryId
        outcome := "completed" }) =
          issued db ++ [(request.deliveryId, request.idempotencyKey)] := by
      show T.rows.map _ = _
      rw [Table.rows_insert hT, List.map_append]
      rfl
    refine ⟨Serves.of_noted ?_ ?_ rfl fun briefing hb date hdate =>
      Or.inr ⟨briefing, hb, rfl, hdate⟩, ?_⟩
    · intro hnodup
      rw [hissued, List.map_append, List.map_singleton]
      refine hnodup.append (List.nodup_singleton _) fun key hkey hnew => ?_
      obtain ⟨p, hp, rfl⟩ := List.mem_map.mp hkey
      obtain ⟨row, hrow, rfl⟩ := List.mem_map.mp hp
      exact hfresh row hrow (List.mem_singleton.mp hnew)
    · rw [hissued]
      exact List.subset_append_left _ _
    · rw [hissued]
      exact ⟨_, List.mem_append_right _ (List.mem_singleton_self _), Or.inl rfl⟩

/-! ### The briefings -/

theorem serves_markSent {briefingId : String} {date : Date} {now : Instant} {answer : Unit}
    (h : DailyBriefingRepository.markSent briefingId date now db = .ok (answer, db'))
    (hsettled : Settled runtime (briefingKey briefingId date) db) : Serves runtime db db' := by
  obtain ⟨-, rfl⟩ := Prod.mk.inj (Except.ok.inj h)
  refine Serves.of_noted id (fun _ hp => hp) rfl fun briefing hb sentOn hsent => ?_
  obtain ⟨old, hold, rfl⟩ := List.mem_map.mp hb
  by_cases hmarked : (decide (old.id = briefingId) && old.enabled) = true
  · rw [if_pos hmarked] at hsent ⊢
    obtain rfl := Option.some.inj hsent
    rw [Bool.and_eq_true, decide_eq_true_eq] at hmarked
    obtain ⟨rfl, -⟩ := hmarked
    exact Or.inl hsettled
  · rw [if_neg hmarked] at hsent ⊢
    exact Or.inr ⟨old, hold, rfl, hsent⟩

theorem serves_create {briefing out : DailyBriefing} {authorization : AuthorizedAction}
    (h : DailyBriefingRepository.create briefing authorization db = .ok (out, db')) :
    Serves runtime db db' := by
  unfold DailyBriefingRepository.create at h
  obtain ⟨_, -, h⟩ := bind_eq_ok.mp h
  rw [raiseIf_bind_ok] at h
  cases hins : db.dailyBriefings.insert? (DailyBriefingRepository.inserted briefing authorization) with
  | none =>
    rw [hins] at h
    cases h.2
  | some T =>
    rw [hins] at h
    obtain ⟨-, rfl⟩ := Prod.mk.inj (Except.ok.inj h.2)
    refine Serves.of_noted id (fun _ hp => hp) rfl fun row hrow date hdate => ?_
    rcases List.mem_append.mp ((Table.rows_insert hins) ▸ hrow) with hold | hnew
    · exact Or.inr ⟨row, hold, rfl, hdate⟩
    · obtain rfl := List.mem_singleton.mp hnew
      cases hdate

/-- **An update** of the time, the time zone, the target or anything else leaves the date alone. -/
theorem serves_update {briefing out : DailyBriefing} {now : Instant}
    {authorization : AuthorizedAction}
    (h : DailyBriefingRepository.update briefing now authorization db = .ok (out, db')) :
    Serves runtime db db' := by
  unfold DailyBriefingRepository.update updateOne at h
  obtain ⟨_, -, h⟩ := bind_eq_ok.mp h
  obtain ⟨⟨_, written⟩, hwritten, h⟩ := bind_eq_ok.mp h
  obtain ⟨-, rfl⟩ := Prod.mk.inj (Except.ok.inj h)
  split at hwritten
  · cases hwritten
  · obtain ⟨-, rfl⟩ := Prod.mk.inj (Except.ok.inj hwritten)
    refine Serves.of_noted id (fun _ hp => hp) rfl fun row hrow date hdate => Or.inr ?_
    obtain ⟨old, hold, rfl⟩ := List.mem_map.mp hrow
    refine ⟨old, hold, ?_, ?_⟩
    · split <;> rfl
    · rw [← hdate]
      split <;> rfl

theorem serves_delete {briefingId : String} {answer : Unit} {authorization : AuthorizedAction}
    (h : DailyBriefingRepository.delete briefingId authorization db = .ok (answer, db')) :
    Serves runtime db db' := by
  unfold DailyBriefingRepository.delete deleteOne at h
  obtain ⟨_, -, h⟩ := bind_eq_ok.mp h
  split at h
  · cases h
  · obtain ⟨-, rfl⟩ := Prod.mk.inj (Except.ok.inj h)
    exact Serves.of_noted id (fun _ hp => hp) rfl fun row hrow date hdate =>
      Or.inr ⟨row, (List.mem_filter.mp hrow).1, rfl, hdate⟩

/-! ### A tick -/

theorem steps_safeOccurrences (engine : RecurrenceEngine) (occurrences : List AgendaOccurrence) :
    Process.Steps (fun db db' => db' = db) (safeOccurrences engine occurrences) := by
  induction occurrences with
  | nil => trivial
  | cons occurrence occurrences ih =>
    exact Process.Steps.bind (fun _ => ⟨rfl, trivial⟩) fun _ => Process.Steps.bind ih fun _ => trivial

/-- Making the message only reads. -/
theorem steps_briefingMessage (briefing : DailyBriefing) (date : Date) (channel : String × String) :
    Process.Steps (fun db db' => db' = db) (briefingMessage runtime briefing date channel) := by
  have hquery : ∀ {α : Type} (f : Database → Except PyError α),
      Process.Steps (fun db db' => db' = db) (Process.query f) := fun f db => ⟨rfl, trivial⟩
  refine Process.Steps.bind (Process.Steps.check _) fun _ => ?_
  refine Process.Steps.bind (Process.Steps.check _) fun _ => ?_
  refine Process.Steps.bind (hquery _) fun _ => Process.Steps.bind (hquery _) fun _ => ?_
  refine Process.Steps.bind (Process.Steps.check _) fun _ => ?_
  refine Process.Steps.bind (hquery _) fun _ => ?_
  exact Process.Steps.bind (steps_safeOccurrences _ _) fun _ => Process.Steps.check _

/-- **One pass.** Where the target is known, it ends with the key settled. -/
theorem pass_spec (now : Instant) (due : DailyBriefing × Date) (db : Database) :
    Process.Under (Serves runtime) (Serves runtime)
      (fun _ db' => Serves runtime db db' ∧ ((targetChannel due.1.targetRef db).isSome →
        Settled runtime (briefingKey due.1.id due.2) db'))
      (deliverBriefing runtime now due) db := by
  refine Process.Under.bind (Process.Under.query Serves.refl fun db₁ h₁ channel hchannel => ?_)
  obtain rfl := Except.ok.inj hchannel
  cases hknown : targetChannel due.1.targetRef db₁ with
  | none =>
    refine Process.Under.pure ⟨h₁, fun ht => ?_⟩
    have hlater := h₁.known _ ht
    rw [hknown] at hlater
    cases hlater
  | some channel =>
    refine Process.Under.bind ((Process.Under.reads (steps_briefingMessage due.1 due.2 channel)
      Serves.refl Serves.refl (fun _ _ _ => Serves.trans) (fun _ _ h => h) db₁).mono ?_)
    intro message db₂ h₂
    refine Process.Under.bind (Process.Under.atomically Serves.refl fun db₃ created db₄ h₃ henq => ?_)
    obtain ⟨(h₄ : Serves runtime db₃ db₄), hsettled⟩ := enqueue_spec henq
    refine ⟨h₄, Process.Under.bind (Process.Under.atomically Serves.refl
      fun db₅ _ db₆ h₅ hmark => ?_)⟩
    have h₆ := serves_markSent hmark (Settled.mono hsettled h₅.kept)
    refine ⟨h₆, Process.Under.pure ⟨?_, fun _ => Settled.mono hsettled (h₅.trans h₆).kept⟩⟩
    exact h₁.trans (h₂.trans (h₃.trans (h₄.trans (h₅.trans h₆))))

/-- The tick owes the briefing for the date: in the store that it found, the briefing was enabled, its
time of day had come and its target was known. -/
structure Owed (runtime : Runtime) (now : Instant) (found : Database) (briefing : DailyBriefing)
    (date : Date) : Prop where
  stored : briefing ∈ found.dailyBriefings.rows
  enabled : briefing.enabled = true
  arrived : ∃ localNow, DateTime.load runtime.zones now briefing.timezone = .ok localNow ∧
    briefing.timeOfDay.micros ≤ Wall.timeOfDay localNow.wall ∧ Wall.ordinal localNow.wall = date
  known : (targetChannel briefing.targetRef found).isSome

/-- A briefing that a tick owes is among those that are due, unless the date is noted. -/
theorem Owed.due {now : Instant} {briefing : DailyBriefing} {date : Date}
    (h : Owed runtime now db briefing date) {due : List (DailyBriefing × Date)}
    (hdue : DailyBriefingRepository.due runtime.zones now db = .ok due) :
    (briefing, date) ∈ due ∨ briefing.lastSentOn = some date := by
  obtain ⟨localNow, hload, hcome, rfl⟩ := h.arrived
  obtain ⟨answer, hanswer⟩ := collect_returns.mp ⟨due, hdue⟩ briefing
    (Table.mem_select.mpr ⟨h.stored, h.enabled⟩)
  obtain ⟨row, hrow, hanswer'⟩ := bind_eq_ok.mp hanswer
  obtain ⟨_, -, hrow⟩ := bind_eq_ok.mp hrow
  obtain rfl := Except.ok.inj hrow
  obtain ⟨date, hdate, hanswer'⟩ := bind_eq_ok.mp hanswer'
  obtain rfl := Except.ok.inj hanswer'
  unfold DailyBriefingRepository.dueOn at hdate
  rw [hload] at hdate
  change (if _ then _ else if _ then _ else _ : Except PyError (Option Date)) = _ at hdate
  rw [if_neg (not_lt.mpr hcome)] at hdate
  by_cases hnoted : briefing.lastSentOn = some (Wall.ordinal localNow.wall)
  · exact Or.inr hnoted
  · rw [if_neg hnoted] at hdate
    obtain rfl := Except.ok.inj hdate
    exact Or.inl ((mem_collect hdue).mpr ⟨briefing, Table.mem_select.mpr ⟨h.stored, h.enabled⟩, hanswer⟩)

/-- **A tick** ends with everything settled that it owes. -/
theorem tick_spec (now : Instant) {act : Database → Database}
    {next : Database → Process Database PyError ℕ} {found : Database}
    (hfirst : briefingTick runtime now = .step act next) (hfound : Consistent runtime found) :
    Serves runtime found (act found) ∧
      Process.Under (Serves runtime) (Serves runtime)
        (fun _ db' => ∀ briefing date, Owed runtime now found briefing date →
          Settled runtime (briefingKey briefing.id date) db') (next found) (act found) := by
  obtain ⟨rfl, rfl⟩ := Process.step.inj hfirst
  refine ⟨Serves.refl found, Process.Under.bind (Process.Under.check fun due hdue => ?_)⟩
  refine Process.Under.mono (Process.Under.countEach (J := fun rest db' => Serves runtime found db' ∧
    ∀ briefing date, Owed runtime now found briefing date →
      (briefing, date) ∈ rest ∨ Settled runtime (briefingKey briefing.id date) db')
    ⟨Serves.refl found, fun briefing date howed => ?_⟩ ?_) ?_
  · exact (howed.due hdue).imp id fun hnoted => hfound.noted briefing howed.stored date hnoted
  · intro x rest db₁ hJ
    obtain ⟨hserves, hrest⟩ := hJ
    refine (pass_spec now x db₁).mono fun _ db₂ hpass => ?_
    refine ⟨hserves.trans hpass.1, fun briefing date howed => ?_⟩
    rcases hrest briefing date howed with hmem | hsettled
    · rcases List.mem_cons.mp hmem with rfl | hmem
      · exact Or.inr (hpass.2 (hserves.known _ howed.known))
      · exact Or.inl hmem
    · exact Or.inr (hsettled.mono hpass.1.kept)
  · intro _ db' hdone briefing date howed
    exact (hdone.2 briefing date howed).resolve_left List.not_mem_nil

/-- **One briefing a day**, whatever is killed and whatever happens in between. -/
theorem briefed_once {db₀ : Database} {ticks : List (Process.Started Instant Database PyError ℕ)}
    (h₀ : Consistent runtime db₀)
    (hrun : Relation.ReflTransGen (Process.Interleaved (Serves runtime) (briefingTick runtime))
      (db₀, []) (db, ticks)) :
    (∀ row ∈ db.outboxDeliveries.rows, ∀ row' ∈ db.outboxDeliveries.rows,
      row.idempotencyKey = row'.idempotencyKey → row = row') ∧
    ∀ briefing date,
      ((briefing ∈ db.dailyBriefings.rows ∧ briefing.lastSentOn = some date) ∨
        ∃ tick ∈ ticks, (∃ n, tick.rest = .answer (.ok n)) ∧
          Owed runtime tick.input tick.found briefing date) →
      (∀ row ∈ db.outboxDeliveries.rows,
        row.id = runtime.briefingDeliveryId (briefingKey briefing.id date) →
          row.idempotencyKey = briefingKey briefing.id date) →
      ∃! row, row ∈ db.outboxDeliveries.rows ∧
        row.idempotencyKey = briefingKey briefing.id date := by
  obtain ⟨hconsistent, hticks⟩ := Process.Interleaved.keeps Serves.refl (fun _ _ _ => Serves.trans)
    (fun _ _ h => h.consistent)
    (fun now found (_ : ℕ) s s' (hs : Serves runtime s s')
      (h : ∀ briefing date, Owed runtime now found briefing date →
        Settled runtime (briefingKey briefing.id date) s) briefing date howed =>
          (h briefing date howed).mono hs.kept)
    (fun now act next found hfirst => tick_spec now hfirst) h₀ hrun
  have hunique : ∀ row ∈ db.outboxDeliveries.rows, ∀ row' ∈ db.outboxDeliveries.rows,
      row.idempotencyKey = row'.idempotencyKey → row = row' := by
    intro row hrow row' hrow' hkey
    have hnodup := hconsistent.unique
    unfold issued at hnodup
    rw [List.map_map] at hnodup
    exact List.inj_on_of_nodup_map hnodup hrow hrow' hkey
  refine ⟨hunique, fun briefing date hcase hown => ?_⟩
  have hsettled : Settled runtime (briefingKey briefing.id date) db := by
    rcases hcase with ⟨hstored, hnoted⟩ | ⟨tick, htick, ⟨n, hended⟩, howed⟩
    · exact hconsistent.noted briefing hstored date hnoted
    · have hanswer := hticks tick htick
      rw [hended] at hanswer
      exact hanswer briefing date howed
  obtain ⟨p, hp, hkey⟩ := hsettled
  obtain ⟨row, hrow, rfl⟩ := List.mem_map.mp hp
  have hmine : row.idempotencyKey = briefingKey briefing.id date := hkey.elim id (hown row hrow)
  exact ⟨row, ⟨hrow, hmine⟩, fun row' hrow' => hunique row' hrow'.1 row hrow (hrow'.2.trans hmine.symm)⟩

/-! A tick that finds the date noted. -/

theorem midnight_in_day : (0 : Int) ≤ 0 ∧ (0 : Int) < 86400000000 := by decide

def morning : DailyBriefing where
  id := "b1"
  ownerUserId := "alice"
  creatorUserId := "alice"
  targetRef := "alice"
  timeOfDay := ⟨0, false, midnight_in_day⟩
  timezone := "UTC"
  lastSentOn := some (Wall.ordinal 0)

def sentMorning : Database where
  channelRoutes := .single ⟨"qq", "default", "alice", .privateChat, false, 0, none, .disabled, none⟩
  dailyBriefings := .single morning
  outboxDeliveries :=
    .single (briefingRequest utcRuntime 0 morning (Wall.ordinal 0) OutboxStore.greeting).row

theorem briefed_once_again : ∃! row, row ∈ sentMorning.outboxDeliveries.rows ∧
    row.idempotencyKey = briefingKey "b1" (Wall.ordinal 0) := by
  have h₀ : Consistent utcRuntime sentMorning := by
    refine ⟨by simp [issued, sentMorning, Framework.Table.single], fun briefing hb date hdate => ?_⟩
    obtain rfl := List.mem_singleton.mp hb
    obtain rfl := Option.some.inj hdate
    exact ⟨_, List.mem_singleton_self _, Or.inl rfl⟩
  refine (briefed_once h₀ (.single (.start (i := 0) rfl))).2 morning (Wall.ordinal 0)
    (Or.inr ⟨_, List.mem_singleton_self _, ⟨0, rfl⟩, ?_⟩) fun row hrow _ => ?_
  · exact ⟨List.mem_singleton_self _, rfl, ⟨_, rfl, by decide, rfl⟩, rfl⟩
  · rw [List.mem_singleton.mp hrow]
    rfl

end DailyBriefings

end Zhixu
