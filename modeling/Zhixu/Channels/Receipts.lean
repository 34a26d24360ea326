import Zhixu.Security.Fields
import Zhixu.Storage.Database

/-!
# Receipts of inbound events

`InboundReceiptStore`: a receipt is reserved before an event is processed and never
removed. The event is known by its channel, its account and the hash of its id, so
`reserve` refuses a second event of the same id whatever became of the first.
-/

open Framework

namespace Zhixu

namespace InboundReceiptStore

variable (references : OpaqueReferenceFactory)

/-- `_hashes`. -/
def hashes (event : InboundEvent) : Except PyError (String × String) := do
  let eventHash ← references.create "evt" [event.channel, event.channelAccount, event.eventId]
  let messageHash ←
    references.create "msg" [event.channel, event.channelAccount, event.text.getD ""]
  return (eventHash, messageHash)

/-- The key an event has its receipt under. -/
def receiptKey (event : InboundEvent) : String × String × String :=
  (event.channel, event.channelAccount,
    references.reference "evt" [event.channel, event.channelAccount, event.eventId])

/-- `reserve`. -/
def reserve (event : InboundEvent) (accepted : Bool) (reasonCode : String) :
    Transaction Database PyError Bool := fun db => do
  let (eventHash, messageHash) ← hashes references event
  raiseIf (¬ Instant.InRange event.receivedAt) .overflow
  let receipt : InboundEventReceipt := {
    channel := event.channel
    channelAccount := event.channelAccount
    eventIdHash := eventHash
    messageHash
    actorRef := event.externalActorRef
    conversationRef := event.externalConversationRef
    intentKind := ""
    outcome := if accepted then "processing" else reasonCode
    receivedAt := event.receivedAt }
  match db.inboundEventReceipts.insert? receipt with
  | none => return (false, db)
  | some inboundEventReceipts => return (true, { db with inboundEventReceipts })

/-- `complete`. -/
def complete (event : InboundEvent) (reasonCode intentKind : String) :
    Transaction Database PyError Unit := fun db => do
  let (eventHash, _) ← hashes references event
  return (⟨⟩, { db with
    inboundEventReceipts := db.inboundEventReceipts.updateWhere
      (fun r => r.key = (event.channel, event.channelAccount, eventHash))
      fun r => { r with intentKind, outcome := reasonCode } })

end InboundReceiptStore

end Zhixu
