import Zhixu.Domain.LunarCalendar
import Zhixu.Storage.Schedule

/-!
# Daily briefings in the store

What `DailyBriefingRepository` does besides `get` and `update`. A briefing carries the last local
date it was sent on, and is due once its time of day has come on another date than that one, in its
own zone: `due` compares with the date of today and with no other. `mark_sent` writes the date, and
nothing else does: a new briefing has none, and an update leaves it alone.
-/

open Framework

namespace Zhixu

namespace DailyBriefingRepository

/-- The row `create` inserts. -/
def inserted (briefing : DailyBriefing) (authorization : AuthorizedAction) : DailyBriefing :=
  { briefing with
    timeOfDay := briefing.timeOfDay.toMinutes
    lastSentOn := none
    createdAt := some authorization.authorizedAt
    updatedAt := some authorization.authorizedAt }

/-- `create`. -/
def create (briefing : DailyBriefing) (authorization : AuthorizedAction) :
    Transaction Database PyError DailyBriefing := fun db => do
  requireAuthorization authorization .create "daily_briefing" briefing.id briefing.ownerUserId
    briefing.classification
  raiseIf (db.hasUser briefing.ownerUserId = false ∨ db.hasUser briefing.creatorUserId = false)
    integrityConflict
  match db.dailyBriefings.insert? (inserted briefing authorization) with
  | none => throw integrityConflict
  | some dailyBriefings =>
    return ({ briefing with
      createdAt := some authorization.authorizedAt
      updatedAt := some authorization.authorizedAt },
      Database.auditAction { db with dailyBriefings } authorization)

/-- The local date on which a briefing is due, if it is. -/
def dueOn (zones : TimeZones) (now : Instant) (briefing : DailyBriefing) :
    Except PyError (Option Date) := do
  let localNow ← DateTime.load zones now briefing.timezone
  if Wall.timeOfDay localNow.wall < briefing.timeOfDay.micros then return none
  else if briefing.lastSentOn = some (Wall.ordinal localNow.wall) then return none
  else return some (Wall.ordinal localNow.wall)

/-- `due`. -/
def due (zones : TimeZones) (now : Instant) (db : Database) :
    Except PyError (List (DailyBriefing × Date)) :=
  collect (fun row => do
    let briefing ← fromRow zones row
    let date ← dueOn zones now briefing
    return date.map fun date => (briefing, date))
    (db.dailyBriefings.select DailyBriefing.enabled fun a b => a.id ≤ b.id)

/-- `mark_sent`. -/
def markSent (briefingId : String) (sentOn : Date) (now : Instant) :
    Transaction Database PyError Unit := fun db =>
  .ok (⟨⟩, { db with
    dailyBriefings := db.dailyBriefings.updateWhere (fun r => decide (r.id = briefingId) && r.enabled)
      fun r => { r with lastSentOn := some sentOn, updatedAt := some now } })

/-- `target_channel`: the channel and the account of the route a target was last seen on. -/
def targetChannel (targetRef : String) (db : Database) : Option (String × String) :=
  (ReminderRepository.lastRoute db targetRef).map fun route => (route.channel, route.channelAccount)

end DailyBriefingRepository

namespace AnniversaryRepository

/-- `list_for_owner`. -/
def listForOwner (zones : TimeZones) (ownerUserId : String) (db : Database) :
    Except PyError (List Anniversary) :=
  collect (fun row => some <$> fromRow zones row)
    (db.anniversaries.select (fun r => r.ownerUserId = ownerUserId) fun a b =>
      decide ((a.anchorDate.ordinal : Int) < b.anchorDate.ordinal) ||
        (decide (a.anchorDate.ordinal = b.anchorDate.ordinal) && decide (a.id ≤ b.id)))

end AnniversaryRepository

end Zhixu
