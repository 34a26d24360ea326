import Zhixu.Application.ConfirmedPlans
import Zhixu.Framework.Dict

/-!
# The values of a plan

The arguments of a plan are a dictionary from names to Python values, nested as deep as the request
that brought them. `PlanValue` is the type of those values. A number with a fraction is the text that
`repr` gives it, which determines it.

`IntentAction` is what a plan or a message is about.
-/

open Framework

namespace Zhixu

/-- `IntentAction`. -/
inductive IntentAction
  | help
  | listAgenda
  | listAllAgenda
  | viewCalendar
  | createAgenda
  | createAnniversary
  | setNotificationLeads
  | updateAnniversary
  | deleteAnniversary
  | updateDailyBriefing
  | deleteDailyBriefing
  | updateAgendaNotification
  | deleteAgendaNotification
  | createDailyBriefing
  | confirmPlan
  | rejectPlan
  | cancelPlan
  | adjustPlanNotification
  | adjustPlanLead
  | setDisplayName
  | listAnniversaries
  | listDailyBriefings
  | listTasks
  | listReminders
  | listNotes
  | searchNotes
  | createTask
  | createNote
  | addNoteContentBlock
  | moveNoteCategory
  | createReminder
  | cancelReminder
  | cancelAgenda
  | acknowledgeReminder
  | snoozeReminder
  | completeTask
  | postponeTask
  | summarizeNotes
  | answer
  | deleteResource
deriving DecidableEq, Repr

/-- A `time`, with or without a zone. -/
structure PlanTime where
  micros : Int
  zone : Option Zone := none
  in_day : 0 ≤ micros ∧ micros < 86400000000

/-- A key of a dictionary. -/
inductive PlanKey
  | str (value : String)
  | int (value : Int)
  | bool (value : Bool)
  | none
deriving DecidableEq, Repr

/-- `str(key)`. -/
def PlanKey.text : PlanKey → String
  | .str value => value
  | .int value => toString value
  | .bool true => "True"
  | .bool false => "False"
  | .none => "None"

/-- A value in the arguments of a plan. -/
inductive PlanValue
  | none
  | bool (value : Bool)
  | int (value : Int)
  | float (text : String)
  | str (value : String)
  | date (ordinal : Int)
  | time (value : PlanTime)
  | naive (wall : Wall)
  | aware (value : DateTime)
  | notification (value : NotificationProposal)
  | actionLink (value : ActionLink)
  | list (items : List PlanValue)
  | tuple (items : List PlanValue)
  | dict (entries : List (PlanKey × PlanValue))

/-- The arguments of a plan, by their names. -/
abbrev Arguments := List (String × PlanValue)

end Zhixu
