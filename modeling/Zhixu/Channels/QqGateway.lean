import Zhixu.Channels.Contracts

/-!
# The QQ gateway client

`QQGatewayProtocol.handle` and the part of the runner around it. The client keeps
the sequence number of the last frame in memory (`QQGatewayState`), saves it with
the session after a forwarded event, and asks for the frames behind it when it
reconnects (`handshakePayload`).

Whatever may fail fails by fate: a `Fate` says how acknowledging, mapping,
forwarding and saving turn out for one frame, so every failure at every point is
some fate. Mapping reads and writes the contact store and may raise as well.

The order of the writes is the point of the model. The sequence is advanced
before anything else is done with a frame. It is put back when forwarding raises,
inside the `try` of the source, while the call of the mapper stands before it.
-/

open Framework

namespace Zhixu

/-- The opcodes of the gateway. -/
def opDispatch : Int := 0
def opHeartbeat : Int := 1
def opReconnect : Int := 7
def opInvalidSession : Int := 9
def opHeartbeatAck : Int := 11

structure QQGatewayState where
  sessionId : String := ""
  sequence : Option Int := none
  resumeUrl : String := ""
  heartbeatAcknowledged : Bool := true
deriving DecidableEq, Repr

/-- The part of `payload["d"]` that is read outside the mapper. -/
structure PayloadData where
  truthy : Bool := true
  sessionId : String := ""
  resumeGatewayUrl : String := ""
  id : String := ""
deriving DecidableEq, Repr

/-- A frame of the gateway. `s` is present when it is an integer. -/
structure GatewayPayload where
  op : Int
  s : Option Int := none
  t : String := ""
  d : PayloadData := {}
deriving DecidableEq, Repr

/-- How the calls made for a frame turn out. -/
structure Fate where
  acknowledging : Except PyError Unit := .ok ⟨⟩
  mapping : Except PyError (Option InboundEvent) := .ok none
  forwarding : Except PyError Unit := .ok ⟨⟩
  saving : Except PyError Unit := .ok ⟨⟩

/-- The state in memory and the saved session. -/
structure GatewayStore where
  memory : QQGatewayState := {}
  saved : Option QQGatewayState := none
deriving DecidableEq, Repr

inductive GatewayAction
  | heartbeatAck
  | reconnect
  | ignored
  | ready
  | resumed
  | event
deriving DecidableEq, Repr

inductive Handshake
  | identify
  | resume (sessionId : String) (sequence : Int)
deriving DecidableEq, Repr

namespace QQGatewayProtocol

/-- `handshake_payload`, without its token. -/
def handshakePayload (state : QQGatewayState) : Handshake :=
  match state.sequence with
  | none => .identify
  | some sequence => if state.sessionId = "" then .identify else .resume state.sessionId sequence

/-- `heartbeat_payload`, as its effect on the state. -/
def heartbeat (store : GatewayStore) : GatewayStore :=
  { store with memory := { store.memory with heartbeatAcknowledged := false } }

/-- `self.state.sequence = …`. -/
def setSequence (sequence : Option Int) (store : GatewayStore) : GatewayStore :=
  { store with memory := { store.memory with sequence } }

/-- The sequence number of the frame, when it has one. -/
def advanceTo (payload : GatewayPayload) (store : GatewayStore) : GatewayStore :=
  match payload.s with
  | none => store
  | some sequence => setSequence (some sequence) store

/-- `session_store.save`. What is loaded again counts its heartbeat as acknowledged. -/
def save (fate : Fate) : Effect GatewayStore PyError Unit := do
  Effect.check fate.saving
  Effect.write fun store =>
    { store with saved := some { store.memory with heartbeatAcknowledged := true } }

/-- `session_store.clear`. -/
def clear (fate : Fate) : Effect GatewayStore PyError Unit := do
  Effect.check fate.saving
  Effect.write fun store => { store with saved := none }

/-- The part of `handle` for a dispatch that carries a message. -/
def handleMessage (fate : Fate) (previousSequence : Option Int) :
    Effect GatewayStore PyError GatewayAction := do
  let event ← Effect.check fate.mapping
  match event with
  | none => return .ignored
  | some _ => do
    Effect.onError (Effect.check fate.forwarding) (setSequence previousSequence)
    save fate
    return .event

/-- The part of `handle` for a dispatch. -/
def handleDispatch (fate : Fate) (payload : GatewayPayload) (previousSequence : Option Int) :
    Effect GatewayStore PyError GatewayAction :=
  if payload.t = "READY" then do
    Effect.write fun store => { store with
      memory := { store.memory with
        sessionId := payload.d.sessionId, resumeUrl := payload.d.resumeGatewayUrl } }
    save fate
    return .ready
  else if payload.t = "RESUMED" then do
    save fate
    return .resumed
  else handleMessage fate previousSequence

/-- `handle`. -/
def handle (fate : Fate) (payload : GatewayPayload) :
    Effect GatewayStore PyError GatewayAction := do
  let previousSequence ← Effect.query fun store => .ok store.memory.sequence
  Effect.write (advanceTo payload)
  if payload.op = opHeartbeatAck then do
    Effect.write fun store =>
      { store with memory := { store.memory with heartbeatAcknowledged := true } }
    return .heartbeatAck
  else if payload.op = opReconnect then return .reconnect
  else if payload.op = opInvalidSession then
    if payload.d.truthy then return .reconnect
    else do
      Effect.write fun store => { store with memory := {} }
      clear fate
      return .reconnect
  else if payload.op ≠ opDispatch then return .ignored
  else handleDispatch fate payload previousSequence

/-- What the runner does with a frame other than HELLO: an interaction is acknowledged
before it is handled. -/
def deliver (fate : Fate) (payload : GatewayPayload) :
    Effect GatewayStore PyError GatewayAction :=
  if payload.op = opDispatch ∧ payload.t = "INTERACTION_CREATE" ∧ payload.d.id ≠ "" then do
    Effect.check fate.acknowledging
    handle fate payload
  else handle fate payload

end QQGatewayProtocol

end Zhixu
