import Zhixu.Delivery.Outbox
import Zhixu.Delivery.Quota
import Zhixu.Delivery.Renderer

/-!
# The delivery worker

`DeliveryWorker.tick`: claim the next delivery of the accounts the worker has adapters for, reserve
its quotas, render and send it, and complete it with what came of that. A message that cannot be
rendered, or that the adapter refuses with a `ValidationError`, is completed as a failure that is not
retried, and any other exception of the adapter as one that is; so every delivery that is claimed and
not deferred is completed, unless the claim or the quotas raise.

An adapter is what it can show and how it sends; sending happens outside the store, so what it
reports is a value.
-/

open Framework

namespace Zhixu

/-- A channel adapter. -/
structure ChannelAdapter where
  channel : String
  channelAccount : String
  capabilities : ChannelCapabilities
  send : OutboundMessage → Except PyError ChannelDeliveryResult

/-- What `except ValidationError` catches. -/
def PyError.isValidation : PyError → Bool
  | .validation _ => true
  | _ => false

/-- The scopes a delivery is counted for. -/
def deliveryScopes (claimed : ClaimedDelivery) : Except PyError (List QuotaScope) := do
  let provider ← QuotaScope.checked .provider claimed.message.channel
  let account ← QuotaScope.checked .account claimed.message.channelAccount
  let conversation ← QuotaScope.checked .conversation claimed.message.targetRef
  let user ← QuotaScope.checked .user claimed.ownerUserId
  return [provider, account, conversation, user]

/-- `lease_for`, as both callers of `claim` leave it. -/
def defaultLease : Duration := Duration.seconds 30

structure DeliveryWorker where
  workerId : String
  outbox : OutboxStore
  quota : QuotaManager
  adapters : List ChannelAdapter

namespace DeliveryWorker

variable (worker : DeliveryWorker)

/-- `self.adapters.get((channel, channel_account))`: of several with one key, the last. -/
def adapter? (channel channelAccount : String) : Option ChannelAdapter :=
  worker.adapters.reverse.find? fun adapter =>
    adapter.channel = channel && adapter.channelAccount = channelAccount

/-- `tuple(self.adapters)`. -/
def accounts : List (String × String) :=
  worker.adapters.map fun adapter => (adapter.channel, adapter.channelAccount)

/-- What came of rendering and sending. -/
def attempt (adapter : ChannelAdapter) (message : OutboundMessage) : ChannelDeliveryResult :=
  match renderForCapabilities message adapter.capabilities >>= adapter.send with
  | .ok result => result
  | .error err =>
    if err.isValidation = true then { ok := false, providerCode := "capability_unsupported" }
    else { ok := false, retryable := true, providerCode := "adapter_exception" }

/-- The answers of a tick: `"idle"`, or the status the delivery got. -/
inductive Ticked
  | idle
  | status (status : DeliveryStatus)
deriving DecidableEq, Repr

/-- `tick`. -/
def tick (zones : TimeZones) (now : Instant) (token : String) : Effect Database PyError Ticked := do
  let claimed ← OutboxStore.claim worker.workerId now defaultLease (some worker.accounts) token
  match claimed with
  | none => return .idle
  | some claimed =>
    match worker.adapter? claimed.message.channel claimed.message.channelAccount with
    | none =>
      .status <$> Effect.atomically (worker.outbox.complete claimed
        { ok := false, providerCode := "adapter_unavailable" } now)
    | some adapter =>
      let scopes ← Effect.check (deliveryScopes claimed)
      let decision ← worker.quota.reserve zones scopes now
      if decision.allowed = false then
        Effect.atomically (OutboxStore.deferForQuota claimed decision.nextAvailableAt now
          decision.reasonCode)
        return .status .quotaWait
      else
        .status <$> Effect.atomically (worker.outbox.complete claimed
          (attempt adapter claimed.message) now)

end DeliveryWorker

end Zhixu
