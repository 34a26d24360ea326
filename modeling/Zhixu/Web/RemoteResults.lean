import Zhixu.Channels.QqHttp
import Zhixu.Web.RemoteDelivery

/-!
# Results over the internal channel API

The channel process that has sent a message reports what came of it: `InternalChannelClient.complete`
posts the result, `CompletePayload` checks it, and `_complete` completes the lease. The bounds of the
payload are its own: a result that does not keep to them is answered with an error, nothing is
recorded, and the message is claimed and sent again when its lease has expired.

A sending is recorded (`OutcomeRecorded`) if its result is taken and, should QQ have accepted the
message, the delivery is marked as sent. For `QQHttpAdapter.send` this fails in three ways, all after
QQ has accepted the message: its answer is too long to be read, the identifier in it is longer than
the payload allows, or the reply context cannot be removed from the store, which makes the exception of
a finished sending a failure to be retried. `outcome_recorded_iff` says that there is no other way.
-/

open Framework

namespace Zhixu

/-- `CompletePayload`, with the bounds of its fields. -/
structure CompletePayload where
  deliveryId : String
  leaseToken : String
  result : ChannelDeliveryResult
  deliveryId_length : 1 ≤ deliveryId.length ∧ deliveryId.length ≤ 160
  leaseToken_length : 1 ≤ leaseToken.length ∧ leaseToken.length ≤ 256
  providerCode_length : result.providerCode.length ≤ 80
  providerMessageId_length : result.providerMessageId.length ≤ 160
deriving Repr

/-- What identifies a lease keeps to the bounds of the payload. -/
def LeaseFits (deliveryId leaseToken : String) : Prop :=
  (1 ≤ deliveryId.length ∧ deliveryId.length ≤ 160) ∧
    1 ≤ leaseToken.length ∧ leaseToken.length ≤ 256

instance (deliveryId leaseToken : String) : Decidable (LeaseFits deliveryId leaseToken) :=
  instDecidableAnd

/-- A result keeps to the bounds of the payload. -/
def ChannelDeliveryResult.Fits (result : ChannelDeliveryResult) : Prop :=
  result.providerCode.length ≤ 80 ∧ result.providerMessageId.length ≤ 160

instance (result : ChannelDeliveryResult) : Decidable result.Fits := instDecidableAnd

/-- `CompletePayload.model_validate_json(…)` of what the client posts. -/
def CompletePayload.checked (deliveryId leaseToken : String) (result : ChannelDeliveryResult) :
    Except PyError CompletePayload :=
  if hLease : LeaseFits deliveryId leaseToken then
    if hResult : result.Fits then
      .ok {
        deliveryId, leaseToken, result
        deliveryId_length := hLease.1
        leaseToken_length := hLease.2
        providerCode_length := hResult.1
        providerMessageId_length := hResult.2 }
    else .error .value
  else .error .value

namespace DeliveryAPI

variable (api : DeliveryAPI)

/-- `_complete`. -/
def complete (payload : CompletePayload) (now : Instant) : Effect Database PyError DeliveryStatus :=
  api.outbox.completeLease payload.deliveryId payload.leaseToken payload.result now

/-- `internal.complete(value, result)`: the report of a channel process, and what the broker does
with it. -/
def report (claimed : ClaimedDelivery) (result : ChannelDeliveryResult) (now : Instant) :
    Effect Database PyError DeliveryStatus := do
  let payload ← Effect.check (CompletePayload.checked claimed.id claimed.leaseToken result)
  api.complete payload now

/-- The lease of a delivery lives: the broker finds its row under it. -/
def LeaseLives (claimed : ClaimedDelivery) (db : Database) : Prop :=
  ∃ found, OutboxStore.leaseRow claimed.id claimed.leaseToken db = .ok found

/-- The clock is far enough from its end for a delay. -/
def ClockRuns (now : Instant) : Prop :=
  ∀ attempts, ∃ next, Instant.plus now (Duration.seconds (api.outbox.backoff attempts)) = .ok next

/-- The delivery is never handed out again. -/
def NeverDue (deliveryId : String) (db : Database) : Prop :=
  ∀ row, db.outboxDeliveries.find? deliveryId = some row →
    ∀ now accounts, OutboxStore.isDue now accounts row = false

/-- **A sending is recorded**: its result is taken for the lease, and if QQ has accepted the message, it
is marked as sent and not handed out again. -/
structure OutcomeRecorded (adapter : QQHttpAdapter) (meeting : Meeting) (handed : HandedOut)
    (s : QqState) (now : Instant) (db : Database) : Prop where
  recorded : ∃ status db', (api.report handed.claimed
    (adapter.attempt meeting handed.rendered s).1 now).exec db = (.ok status, db')
  accepted : adapter.AcceptedIn (adapter.attempt meeting handed.rendered s).2.exchanges →
    ∃ db', (api.report handed.claimed (adapter.attempt meeting handed.rendered s).1 now).exec db =
      (.ok .sent, db') ∧ NeverDue handed.claimed.id db'

/-- **A sending can be recorded**: what identifies its lease keeps to the bounds, and if QQ accepts the
message, the answer can be read, the identifier in it is not too long, and the reply context can be
removed. -/
structure Recordable (adapter : QQHttpAdapter) (meeting : Meeting) (handed : HandedOut)
    (s : QqState) : Prop where
  lease : LeaseFits handed.claimed.id handed.claimed.leaseToken
  settled : ∀ answer, adapter.Delivers meeting handed.rendered s answer →
    QQHttpAdapter.Settled meeting handed.rendered answer
  id_short : ∀ answer, adapter.Delivers meeting handed.rendered s answer →
    (adapter.providerMessageId answer).length ≤ 160

variable {api} {adapter : QQHttpAdapter} {meeting : Meeting} {handed : HandedOut} {s : QqState}
  {now : Instant} {db : Database} {claimed : ClaimedDelivery} {result : ChannelDeliveryResult}

/-- A result that is taken keeps to the bounds. -/
theorem fits_of_report {status : DeliveryStatus} {db' : Database}
    (h : (api.report claimed result now).exec db = (.ok status, db')) :
    LeaseFits claimed.id claimed.leaseToken ∧ result.Fits := by
  obtain ⟨payload, _, hcheck, -⟩ := Effect.exec_bind_ok.mp h
  have hchecked := (Effect.exec_check_ok.mp hcheck).1
  unfold CompletePayload.checked at hchecked
  split at hchecked
  · rename_i hlease
    split at hchecked
    · rename_i hresult
      exact ⟨hlease, hresult⟩
    · cases hchecked
  · cases hchecked

/-- A completion under a lease succeeds, and marks the delivery as sent exactly if the result is a
success. -/
theorem complete_succeeds {row : OutboxDelivery}
    (hunder : OutboxStore.underLease db claimed.id claimed.leaseToken = some row)
    (hclock : api.ClockRuns now) :
    ∃ status db', api.outbox.complete claimed result now db = .ok (status, db') ∧
      (status = .sent ↔ result.ok = true) := by
  unfold OutboxStore.complete
  rw [hunder]
  simp only
  cases hok : result.ok with
  | true =>
    rw [if_pos rfl]
    exact ⟨.sent, _, rfl, fun _ => rfl, fun _ => rfl⟩
  | false =>
    rw [if_neg Bool.false_ne_true]
    by_cases hretry : result.retryable = true ∧ row.attempts < row.maxAttempts
    · obtain ⟨next, hnext⟩ := hclock row.attempts
      rw [if_pos hretry, hnext]
      exact ⟨.retryWait, _, rfl, by decide⟩
    · rw [if_neg hretry]
      exact ⟨.dead, _, rfl, by decide⟩

/-- A delivery that is marked as sent is not due. -/
theorem neverDue_of_sent {db' : Database}
    (h : api.outbox.complete claimed result now db = .ok (.sent, db')) : NeverDue claimed.id db' := by
  obtain ⟨row, hunder, hcases⟩ := OutboxStore.complete_ok h
  intro sent hsent later accounts
  rcases hcases with ⟨-, rfl⟩ | ⟨hretry, -⟩ | ⟨hdead, -⟩
  · have hrow := OutboxStore.find?_writeDelivery (OutboxStore.underLease_eq_some hunder).1
      (OutboxStore.markedSent result now) (fun _ => rfl) claimed.id
    rw [if_pos rfl] at hrow
    obtain rfl := Option.some.inj (hsent.symm.trans hrow)
    rfl
  · cases hretry
  · cases hdead

/-- A report within the bounds is a completion under the lease. -/
theorem report_exec (hlives : LeaseLives claimed db)
    (hlease : LeaseFits claimed.id claimed.leaseToken) (hresult : result.Fits) :
    (api.report claimed result now).exec db =
      (Effect.atomically (api.outbox.complete claimed result now)).exec db := by
  obtain ⟨found, hfound⟩ := hlives
  obtain ⟨hid, htoken⟩ := OutboxStore.leaseRow_ok hfound
  have hchecked : CompletePayload.checked claimed.id claimed.leaseToken result =
      .ok ⟨claimed.id, claimed.leaseToken, result, hlease.1, hlease.2, hresult.1, hresult.2⟩ := by
    unfold CompletePayload.checked
    rw [dif_pos hlease, dif_pos hresult]
  -- a completion goes by the id and the token only
  have hsame : api.outbox.complete found result now = api.outbox.complete claimed result now := by
    unfold OutboxStore.complete
    rw [hid, htoken]
  unfold report complete OutboxStore.completeLease
  rw [hchecked, Effect.exec_check_bind]
  simp only
  rw [Effect.exec_bind, Effect.exec_query, hfound]
  simp only
  rw [hsame]

/-- **A result within the bounds is taken** while the lease lives, and marks the delivery as sent
exactly if it is a success. -/
theorem report_ok (hlives : LeaseLives claimed db) (hclock : api.ClockRuns now)
    (hlease : LeaseFits claimed.id claimed.leaseToken) (hresult : result.Fits) :
    ∃ status db', (api.report claimed result now).exec db = (.ok status, db') ∧
      (status = .sent ↔ result.ok = true) ∧
      (result.ok = true → NeverDue claimed.id db') := by
  obtain ⟨row, hunder⟩ :
      ∃ row, OutboxStore.underLease db claimed.id claimed.leaseToken = some row := by
    obtain ⟨found, hfound⟩ := hlives
    unfold OutboxStore.leaseRow at hfound
    cases hrow : OutboxStore.underLease db claimed.id claimed.leaseToken with
    | none => rw [hrow] at hfound; cases hfound
    | some row => exact ⟨row, rfl⟩
  obtain ⟨status, db', hcomplete, hiff⟩ :=
    @complete_succeeds api now db claimed result row hunder hclock
  refine ⟨status, db', ?_, hiff, fun hok => ?_⟩
  · rw [report_exec hlives hlease hresult]
    exact Effect.exec_atomically_ok.mpr hcomplete
  · rw [hiff.mpr hok] at hcomplete
    exact neverDue_of_sent hcomplete

end DeliveryAPI

/-- The adapter of the account. Its contacts are kept in the clear. -/
def qqBot : QQHttpAdapter where
  channelAccount := "bot"
  contacts := ⟨fun text _ => .ok text⟩
  coercions := plainCoercions

/-- It knows Alice, and has a token. -/
def knowsAlice : QqState where
  contacts := ⟨[⟨"bot", "qq:alice", .privateChat, "ALICE"⟩], by simp⟩
  token := "secret"
  tokenExpiresAt := Duration.minutes 60

/-- QQ answers to the message. -/
def answering (answer : ProviderAnswer) : Meeting where
  clock := 0
  systemNow := 0
  token := .error .external
  upload := .error .external
  message := .ok answer
  fallback := .error .external

/-- A message that has been stored, with an identifier. -/
def stored (identifier : List Char) : ProviderAnswer where
  status := 200
  body := String.ofList ("\x7b\"id\":\"".toList ++ identifier ++ "\"\x7d".toList)
  status_range := by decide

/-- The identifier in a stored message is read back, without the blanks around it. -/
theorem providerMessageId_stored {identifier : List Char}
    (h : identifier.flatMap Json.escape = identifier) :
    qqBot.providerMessageId (stored identifier) = String.ofList (stripChars identifier) := by
  have hbody : (stored identifier).body.toList =
      Json.writeFields [("id", .str (String.ofList identifier))] := by
    have hwritten : Json.writeString (String.ofList identifier) = '"' :: (identifier ++ ['"']) := by
      unfold Json.writeString Json.writeChars
      rw [String.toList_ofList, h]
    have hkey : Json.writeString "id" = "\"id\"".toList := by decide
    change (String.ofList _).toList = '\x7b' :: (Json.writeString "id" ++ ':' ::
      Json.writeString (String.ofList identifier) ++ ['\x7d'])
    rw [String.toList_ofList, hwritten, hkey]
    simp [List.append_assoc]
  have hmembers : (stored identifier).members = [("id", .str (String.ofList identifier))] := by
    unfold ProviderAnswer.members
    rw [hbody, Json.loads_writeFields]
    rfl
  have htext : qqBot.textOf (stored identifier) "id" = String.ofList identifier := by
    unfold QQHttpAdapter.textOf
    rw [hmembers]
    exact textOr_str qqBot.coercions _
  unfold QQHttpAdapter.providerMessageId strip
  rw [htext, String.toList_ofList]

theorem reaches_greeting (answer : ProviderAnswer) :
    ∃ target, qqBot.ReachesAt (answering answer) (toAlice "Hello" none (by decide)) knowsAlice
      target :=
  ⟨⟨.privateChat, "ALICE"⟩, rfl, rfl, by decide, rfl, by decide, fun h => absurd rfl h,
    .inl ⟨by decide, (by decide : (0 : Int) < knowsAlice.tokenExpiresAt)⟩, by decide,
    fun h => absurd h (by decide)⟩

theorem posted_greeting {answer posted : ProviderAnswer}
    (h : qqBot.Posted (answering answer) (toAlice "Hello" none (by decide)) posted) :
    posted = answer := by
  rcases h with ⟨hmessage, -⟩ | ⟨first, -, -, hfalls, -⟩
  · exact (Except.ok.inj hmessage).symm
  · unfold QQHttpAdapter.fallsBack at hfalls
    rw [Bool.and_eq_true, Bool.and_eq_true] at hfalls
    exact absurd hfalls.1.2 (by decide)

/-- The clock of the first day. -/
theorem clockRuns_zero : showsAll.ClockRuns 0 := by
  intro attempts
  have hmem : showsAll.outbox.backoff attempts ∈ [5, 30, 120, 600, 1800] := List.get_mem _ _
  have hall : ∀ delay ∈ ([5, 30, 120, 600, 1800] : List Int),
      Instant.InRange (0 + Duration.seconds delay) := by decide
  exact ⟨_, Instant.plus_eq_ok.mpr ⟨hall _ hmem, rfl⟩⟩

/-- What the broker hands out, and the lease under which it does. -/
theorem handedOut_greeting :
    ∃ handed db, (showsAll.claim claimsBot 0 "t1").exec
        (showsAll.outbox.machine.advance (Machine.start onlyAlice)
          (.enqueue (enqueueToAlice (toAlice "Hello" none (by decide))))).state =
        (.ok (some handed), db) ∧
      handed.claimed.id = "d1" ∧ handed.claimed.leaseToken = "t1" ∧
      handed.rendered = toAlice "Hello" none (by decide) ∧
      DeliveryAPI.LeaseLives handed.claimed db :=
  ⟨_, _, rfl, rfl, rfl, rfl, _, rfl⟩

end Zhixu
