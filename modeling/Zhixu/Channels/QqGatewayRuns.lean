import Zhixu.Channels.QqGateway
import Zhixu.Framework.Machine
import Zhixu.Framework.Resume

/-!
# No dispatch is skipped, while mapping does not raise

Runs of the gateway client against a server. A run consists of handshakes,
frames with any fate, heartbeats, lost connections and restarts of the process,
which keep the saved session only. The journal of a run records which numbered
dispatches were received in which session, and which of them were finished:
forwarded, mapped to nothing, or of the kind that carries no message.

The server is outside the repository. `ServerInOrder` states what it promises:
dispatches of one session come in increasing order, a resume sends everything
behind the number it names, a new session has a new id, and only dispatches are
numbered.

`Safe` is the invariant: the cursors in memory and on disk cover what was
received. Each frame either keeps the cursor or moves it to a frame that was
finished (`Safe.frame`). Mapping is the exception. The cursor is advanced before the
mapper is called and stays there when it raises, so a run keeps `Safe` as long as
no unfinished frame meets this fate (`MapsUnfinished`), and `never_skips` proves
that this is the exact condition at every step.
-/

open Framework

namespace Zhixu

namespace QQGatewayProtocol

/-! ### Runs -/

/-- Where a connection stands: none, one whose new session has not begun, or one that
has delivered a session up to a number. -/
inductive Link
  | closed
  | awaitingReady
  | live (session : String) (cursor : Int)
deriving DecidableEq, Repr

/-- The client, its connection, and the journal of the run. -/
structure GatewayClient where
  store : GatewayStore := {}
  link : Link := .closed
  received : List (String × Int) := []
  finished : List (String × Int) := []
deriving DecidableEq, Repr

inductive GatewayCall
  | hello
  | frame (payload : GatewayPayload) (fate : Fate)
  | heartbeat
  | drop
  | restart

/-- The dispatch carries a message, or might. -/
def IsMessage (payload : GatewayPayload) : Prop := payload.t ≠ "READY" ∧ payload.t ≠ "RESUMED"

instance (payload : GatewayPayload) : Decidable (IsMessage payload) :=
  inferInstanceAs (Decidable (_ ∧ _))

/-- The runner gets past the acknowledgement of an interaction. -/
def Acknowledged (fate : Fate) (payload : GatewayPayload) : Prop :=
  payload.t = "INTERACTION_CREATE" → payload.d.id ≠ "" → fate.acknowledging = .ok ⟨⟩

instance (fate : Fate) (payload : GatewayPayload) : Decidable (Acknowledged fate payload) :=
  inferInstanceAs (Decidable (_ → _ → _))

/-- The mapper raises. -/
def Fate.unmapped (fate : Fate) : Bool := !fate.mapping.isOk

/-- The fate finishes the dispatch: its message was forwarded, or mapped to nothing, or
there is none. -/
def Finishes (fate : Fate) (payload : GatewayPayload) : Prop :=
  IsMessage payload → Acknowledged fate payload ∧
    match fate.mapping with
    | .ok none => True
    | .ok (some _) => fate.forwarding = .ok ⟨⟩
    | .error _ => False

instance (fate : Fate) (payload : GatewayPayload) : Decidable (Finishes fate payload) := by
  unfold Finishes
  cases fate.mapping with
  | error err => infer_instance
  | ok event => cases event <;> infer_instance

theorem not_finishes_of_unmapped {fate : Fate} {payload : GatewayPayload}
    (hmessage : IsMessage payload) (hunmapped : Fate.unmapped fate = true) :
    ¬ Finishes fate payload := by
  intro hdone
  have hmapped := (hdone hmessage).2
  unfold Fate.unmapped at hunmapped
  cases hmap : fate.mapping with
  | error err =>
    rw [hmap] at hmapped
    exact hmapped
  | ok event =>
    rw [hmap] at hunmapped
    exact absurd hunmapped (by simp [Except.isOk, Except.toBool])

/-- The session a dispatch belongs to. -/
def sessionOf (link : Link) (payload : GatewayPayload) : String :=
  match link with
  | .live session _ => if payload.t = "READY" then payload.d.sessionId else session
  | _ => payload.d.sessionId

/-- The entry of the journal for a frame. -/
def journalEntry (link : Link) (payload : GatewayPayload) : List (String × Int) :=
  if payload.op = opDispatch then
    match payload.s with
    | some n => [(sessionOf link payload, n)]
    | none => []
  else []

/-- Where the connection stands after a frame: an exception and a request to reconnect
close it. -/
def linkAfter (link : Link) (payload : GatewayPayload) :
    Except PyError GatewayAction → Link
  | .error _ => .closed
  | .ok .reconnect => .closed
  | .ok _ =>
    if payload.op = opDispatch then
      match payload.s with
      | some n => .live (sessionOf link payload) n
      | none => link
    else link

inductive GatewayAnswer
  | handshake (sent : Handshake)
  | handled (outcome : Except PyError GatewayAction)
  | done

/-- One step of the client. -/
def stepClient (client : GatewayClient) : GatewayCall → GatewayAnswer × GatewayClient
  | .hello =>
    let sent := handshakePayload client.store.memory
    (.handshake sent, { client with
      link := match sent with
        | .identify => .awaitingReady
        | .resume session cursor => .live session cursor })
  | .frame payload fate =>
    let result := (deliver fate payload).exec client.store
    let entry := journalEntry client.link payload
    (.handled result.1, {
      store := result.2
      link := linkAfter client.link payload result.1
      received := entry ++ client.received
      finished := if Finishes fate payload then entry ++ client.finished else client.finished })
  | .heartbeat => (.done, { client with store := heartbeat client.store })
  | .drop => (.done, { client with link := .closed })
  | .restart =>
    (.done, { client with
      store := { client.store with memory := client.store.saved.getD {} }
      link := .closed })

def machine : Machine GatewayClient GatewayCall GatewayAnswer where
  exec := stepClient

abbrev GatewayStage := Stage GatewayClient GatewayCall GatewayAnswer

/-- What the server promises about a dispatch: a session begins with READY and a new id,
and goes on in increasing order, over nothing that it sent before. -/
def DispatchInOrder (link : Link) (received : List (String × Int)) (payload : GatewayPayload) :
    Prop :=
  match link with
  | .closed => False
  | .awaitingReady =>
    payload.t = "READY" ∧ payload.s.isSome = true ∧ payload.d.sessionId ≠ "" ∧
      ∀ e ∈ received, e.1 ≠ payload.d.sessionId
  | .live session cursor =>
    payload.t ≠ "READY" ∧ ∀ n ∈ payload.s, cursor < n ∧
      ∀ e ∈ received, e.1 = session → cursor < e.2 → ¬ e.2 < n

instance (link : Link) (received : List (String × Int)) (payload : GatewayPayload) :
    Decidable (DispatchInOrder link received payload) :=
  match link with
  | .closed => .isFalse not_false
  | .awaitingReady => inferInstanceAs (Decidable (_ ∧ _ ∧ _ ∧ _))
  | .live session cursor =>
    inferInstanceAs (Decidable (_ ∧ ∀ n ∈ payload.s, cursor < n ∧
      ∀ e ∈ received, e.1 = session → cursor < e.2 → ¬ e.2 < n))

/-- What the server promises about the frames it sends: only dispatches are numbered. -/
def ServerInOrder (client : GatewayClient) : GatewayCall → Prop
  | .frame payload _ =>
    if payload.op = opDispatch then DispatchInOrder client.link client.received payload
    else payload.s = none
  | _ => True

instance (client : GatewayClient) (call : GatewayCall) : Decidable (ServerInOrder client call) :=
  match call with
  | .frame payload _ =>
    inferInstanceAs (Decidable (if payload.op = opDispatch then _ else _))
  | .hello | .heartbeat | .drop | .restart => .isTrue trivial

/-- No numbered message meets a mapper that raises, unless it was finished before. -/
def MapsUnfinished (client : GatewayClient) : GatewayCall → Prop
  | .frame payload fate =>
    payload.op = opDispatch → IsMessage payload → Acknowledged fate payload →
      Fate.unmapped fate = true → ∀ n ∈ payload.s,
        (sessionOf client.link payload, n) ∈ client.finished
  | _ => True

/-! ### What a frame does -/

/-- The state after `save`. -/
def savedNow (store : GatewayStore) : GatewayStore :=
  { store with saved := some { store.memory with heartbeatAcknowledged := true } }

theorem exec_save (fate : Fate) (store : GatewayStore) :
    (save fate).exec store =
      match fate.saving with
      | .ok _ => (.ok ⟨⟩, savedNow store)
      | .error err => (.error err, store) := by
  unfold save
  rw [Effect.exec_check_bind]
  cases fate.saving <;> rfl

/-- A dispatch reaches `handleDispatch` with the sequence advanced. -/
theorem exec_handle_dispatch {fate : Fate} {payload : GatewayPayload} (store : GatewayStore)
    (hop : payload.op = opDispatch) :
    (handle fate payload).exec store =
      (handleDispatch fate payload store.memory.sequence).exec (advanceTo payload store) := by
  unfold handle
  rw [Effect.exec_bind, Effect.exec_query]
  simp only
  rw [Effect.exec_bind, Effect.exec_write]
  simp only
  rw [if_neg (by rw [hop]; decide), if_neg (by rw [hop]; decide), if_neg (by rw [hop]; decide),
    if_neg (not_not.mpr hop)]

/-- Two states of one session at one number. -/
def SameCursor (a b : QQGatewayState) : Prop :=
  a.sessionId = b.sessionId ∧ a.sequence = b.sequence

/-- What a frame that is no dispatch leaves: the session as it was, or none. -/
inductive Aside (store : GatewayStore) (outcome : Except PyError GatewayAction)
    (store' : GatewayStore) : Prop
  | kept (memory : SameCursor store'.memory store.memory) (saved : store'.saved = store.saved)
  | reset (memory : store'.memory = {}) (saved : store'.saved = store.saved ∨ store'.saved = none)
      (closes : outcome = .ok .reconnect ∨ ∃ err, outcome = .error err)

theorem deliver_aside (fate : Fate) {payload : GatewayPayload} (store : GatewayStore)
    (hop : payload.op ≠ opDispatch) (hs : payload.s = none) :
    Aside store ((deliver fate payload).exec store).1 ((deliver fate payload).exec store).2 := by
  have hadvance : advanceTo payload store = store := by
    unfold advanceTo
    rw [hs]
  unfold deliver
  rw [if_neg fun h => hop h.1]
  unfold handle
  rw [Effect.exec_bind, Effect.exec_query]
  simp only
  rw [Effect.exec_bind, Effect.exec_write, hadvance]
  simp only
  by_cases hack : payload.op = opHeartbeatAck
  · rw [if_pos hack]
    exact .kept ⟨rfl, rfl⟩ rfl
  rw [if_neg hack]
  by_cases hreconnect : payload.op = opReconnect
  · rw [if_pos hreconnect]
    exact .kept ⟨rfl, rfl⟩ rfl
  rw [if_neg hreconnect]
  by_cases hinvalid : payload.op = opInvalidSession
  · rw [if_pos hinvalid]
    by_cases htruthy : payload.d.truthy = true
    · rw [if_pos htruthy]
      exact .kept ⟨rfl, rfl⟩ rfl
    · rw [if_neg htruthy, Effect.exec_bind, Effect.exec_write]
      simp only
      rw [Effect.exec_bind]
      unfold clear
      rw [Effect.exec_check_bind]
      cases fate.saving with
      | error err => exact .reset rfl (Or.inl rfl) (Or.inr ⟨err, rfl⟩)
      | ok _ => exact .reset rfl (Or.inr rfl) (Or.inl rfl)
  · rw [if_neg hinvalid, if_pos hop]
    exact .kept ⟨rfl, rfl⟩ rfl

/-- What a dispatch of a running session leaves. -/
inductive Dispatched (fate : Fate) (payload : GatewayPayload) (store : GatewayStore)
    (outcome : Except PyError GatewayAction) (store' : GatewayStore) : Prop
  | refused (unfinished : ¬ Finishes fate payload)
      (cause : ¬ Acknowledged fate payload ∨ Fate.unmapped fate = false) (memory : SameCursor store'.memory store.memory)
      (saved : store'.saved = store.saved) (err : PyError) (raised : outcome = .error err)
  | lost (message : IsMessage payload) (acknowledged : Acknowledged fate payload)
      (unmapped : Fate.unmapped fate = true)
      (memory : SameCursor store'.memory (advanceTo payload store).memory)
      (saved : store'.saved = store.saved) (err : PyError) (raised : outcome = .error err)
  | finished (done : Finishes fate payload)
      (memory : SameCursor store'.memory (advanceTo payload store).memory)
      (saved : store'.saved = store.saved ∨
        ∃ row, store'.saved = some row ∧ SameCursor row (advanceTo payload store).memory)
      (open' : outcome ≠ .ok .reconnect)

theorem advanceTo_saved (payload : GatewayPayload) (store : GatewayStore) :
    (advanceTo payload store).saved = store.saved := by
  unfold advanceTo
  cases payload.s <;> rfl

/-- The message of a dispatch, once its interaction is acknowledged. -/
theorem handleMessage_cases {fate : Fate} {payload : GatewayPayload} (store : GatewayStore)
    (hmessage : IsMessage payload) (hack : Acknowledged fate payload) :
    Dispatched fate payload store
      ((handleMessage fate store.memory.sequence).exec (advanceTo payload store)).1
      ((handleMessage fate store.memory.sequence).exec (advanceTo payload store)).2 := by
  have hsaved := advanceTo_saved payload store
  unfold handleMessage
  rw [Effect.exec_check_bind]
  cases hmap : fate.mapping with
  | error err =>
    have hunmapped : Fate.unmapped fate = true := by
      unfold Fate.unmapped
      rw [hmap]
      rfl
    exact .lost hmessage hack hunmapped ⟨rfl, rfl⟩ hsaved err rfl
  | ok event =>
    have hmapped : Fate.unmapped fate = false := by
      unfold Fate.unmapped
      rw [hmap]
      rfl
    cases event with
    | none =>
      have hdone : Finishes fate payload := fun _ => ⟨hack, by rw [hmap]; trivial⟩
      exact .finished hdone ⟨rfl, rfl⟩ (Or.inl hsaved) (by simp)
    | some event =>
      simp only
      rw [Effect.exec_bind, Effect.exec_onError, Effect.exec_check]
      cases hforward : fate.forwarding with
      | error err =>
        have hnot : ¬ Finishes fate payload := by
          intro hdone
          have hforwarded := (hdone hmessage).2
          rw [hmap] at hforwarded
          exact absurd (hforward.symm.trans hforwarded) (by simp)
        refine .refused hnot (Or.inr hmapped) ⟨?_, rfl⟩ hsaved err rfl
        change (advanceTo payload store).memory.sessionId = store.memory.sessionId
        unfold advanceTo
        cases payload.s <;> rfl
      | ok _ =>
        have hdone : Finishes fate payload := fun _ => ⟨hack, by rw [hmap]; exact hforward⟩
        simp only
        rw [Effect.exec_bind, exec_save]
        cases fate.saving with
        | error err => exact .finished hdone ⟨rfl, rfl⟩ (Or.inl hsaved) (by simp)
        | ok _ =>
          exact .finished hdone ⟨rfl, rfl⟩ (Or.inr ⟨_, rfl, rfl, rfl⟩) (by simp)

/-- **What a dispatch does** in a session that has begun. -/
theorem deliver_dispatched (fate : Fate) {payload : GatewayPayload} (store : GatewayStore)
    (hop : payload.op = opDispatch) (hready : payload.t ≠ "READY") :
    Dispatched fate payload store ((deliver fate payload).exec store).1
      ((deliver fate payload).exec store).2 := by
  by_cases hresumed : payload.t = "RESUMED"
  · -- a session that goes on; only saving can fail
    have hdone : Finishes fate payload := fun hmessage => absurd hresumed hmessage.2
    unfold deliver
    rw [if_neg fun h => absurd (hresumed.symm.trans h.2.1) (by decide),
      exec_handle_dispatch store hop]
    unfold handleDispatch
    rw [if_neg hready, if_pos hresumed, Effect.exec_bind, exec_save]
    cases fate.saving with
    | error err =>
      exact .finished hdone ⟨rfl, rfl⟩ (Or.inl (advanceTo_saved payload store)) (by simp)
    | ok _ => exact .finished hdone ⟨rfl, rfl⟩ (Or.inr ⟨_, rfl, rfl, rfl⟩) (by simp)
  · have hmessage : IsMessage payload := ⟨hready, hresumed⟩
    have hhandle : (handle fate payload).exec store =
        (handleMessage fate store.memory.sequence).exec (advanceTo payload store) := by
      rw [exec_handle_dispatch store hop]
      unfold handleDispatch
      rw [if_neg hready, if_neg hresumed]
    unfold deliver
    by_cases hinteraction :
        payload.op = opDispatch ∧ payload.t = "INTERACTION_CREATE" ∧ payload.d.id ≠ ""
    · rw [if_pos hinteraction, Effect.exec_check_bind]
      cases hack : fate.acknowledging with
      | error err =>
        have hnotack : ¬ Acknowledged fate payload := by
          intro hacknowledged
          exact absurd (hack.symm.trans (hacknowledged hinteraction.2.1 hinteraction.2.2)) (by simp)
        have hnot : ¬ Finishes fate payload := fun hdone => hnotack (hdone hmessage).1
        exact .refused hnot (Or.inl hnotack) ⟨rfl, rfl⟩ rfl err rfl
      | ok _ =>
        simp only
        rw [hhandle]
        exact handleMessage_cases store hmessage fun _ _ => hack
    · rw [if_neg hinteraction, hhandle]
      refine handleMessage_cases store hmessage fun ht hid => ?_
      exact absurd ⟨hop, ht, hid⟩ hinteraction

/-- What the first dispatch of a session leaves. -/
theorem deliver_ready (fate : Fate) {payload : GatewayPayload} (store : GatewayStore)
    (hop : payload.op = opDispatch) (hready : payload.t = "READY") {n : Int}
    (hs : payload.s = some n) :
    let result := (deliver fate payload).exec store
    result.2.memory.sessionId = payload.d.sessionId ∧ result.2.memory.sequence = some n ∧
      (result.2.saved = store.saved ∨ ∃ row, result.2.saved = some row ∧
        row.sessionId = payload.d.sessionId ∧ row.sequence = some n) ∧
      result.1 ≠ .ok .reconnect := by
  have hadvance : advanceTo payload store = setSequence (some n) store := by
    unfold advanceTo
    rw [hs]
  unfold deliver
  rw [if_neg fun h => absurd (hready.symm.trans h.2.1) (by decide),
    exec_handle_dispatch store hop, hadvance]
  unfold handleDispatch
  rw [if_pos hready, Effect.exec_bind, Effect.exec_write]
  simp only
  rw [Effect.exec_bind, exec_save]
  cases fate.saving with
  | error err => exact ⟨rfl, rfl, Or.inl rfl, by simp⟩
  | ok _ => exact ⟨rfl, rfl, Or.inr ⟨_, rfl, rfl, rfl⟩, by simp⟩

/-! ### The invariant -/

/-- A dispatch of the session was received. -/
def Known (client : GatewayClient) (session : String) : Prop :=
  ∃ e ∈ client.received, e.1 = session

/-- The saved session, when it is this one, is not ahead of the cursor. -/
def Behind (client : GatewayClient) (session : String) (cursor : Int) : Prop :=
  ∀ row, client.store.saved = some row → row.sessionId = session →
    ∀ c, row.sequence = some c → c ≤ cursor

/-- **The cursors are safe.** -/
structure Safe (client : GatewayClient) : Prop where
  memory_covered : ∀ c, client.store.memory.sequence = some c →
    Covers client.received client.finished client.store.memory.sessionId c
  saved_covered : ∀ row, client.store.saved = some row → ∀ c, row.sequence = some c →
    Covers client.received client.finished row.sessionId c
  memory_known : client.store.memory.sessionId ≠ "" →
    Known client client.store.memory.sessionId
  saved_known : ∀ row, client.store.saved = some row → Known client row.sessionId
  behind : client.store.memory.sessionId ≠ "" → ∀ c, client.store.memory.sequence = some c →
    Behind client client.store.memory.sessionId c
  live : ∀ session cursor, client.link = .live session cursor →
    client.store.memory.sessionId = session ∧ client.store.memory.sequence = some cursor ∧
      session ≠ "" ∧ Known client session ∧ Behind client session cursor

/-- A frame that keeps the session in memory and the saved one, on a connection that goes
on or closes. -/
theorem Safe.keep {client : GatewayClient} (h : Safe client) {store' : GatewayStore}
    {link' : Link} (hmemory : SameCursor store'.memory client.store.memory)
    (hsaved : store'.saved = client.store.saved) (hlink : link' = .closed ∨ link' = client.link) :
    Safe { client with store := store', link := link' } := by
  obtain ⟨hsession, hsequence⟩ := hmemory
  refine ⟨?_, ?_, ?_, ?_, ?_, ?_⟩
  · intro c hc
    have hcovered := h.memory_covered c (hsequence ▸ hc)
    rw [← hsession] at hcovered
    exact hcovered
  · intro row hrow
    exact h.saved_covered row (hsaved ▸ hrow)
  · intro hne
    have hknown := h.memory_known (hsession ▸ hne)
    rw [← hsession] at hknown
    exact hknown
  · intro row hrow
    exact h.saved_known row (hsaved ▸ hrow)
  · intro hne c hc row hrow hsame
    have hsame' : row.sessionId = client.store.memory.sessionId := hsame.trans hsession
    exact h.behind (hsession ▸ hne) c (hsequence ▸ hc) row (hsaved ▸ hrow) hsame'
  · intro session cursor hlive
    rcases hlink with hclosed | hopen
    · exact absurd (hclosed.symm.trans hlive) (by simp)
    · obtain ⟨hs, hc, hne, hknown, hbehind⟩ := h.live session cursor (hopen.symm.trans hlive)
      refine ⟨hsession.trans hs, hsequence.trans hc, hne, hknown, fun row hrow => ?_⟩
      exact hbehind row (hsaved ▸ hrow)

/-- The session in memory is given up. -/
theorem Safe.forget {client : GatewayClient} (h : Safe client) {store' : GatewayStore}
    (hmemory : store'.memory = {})
    (hsaved : store'.saved = client.store.saved ∨ store'.saved = none) :
    Safe { client with store := store', link := .closed } := by
  have hold : ∀ row, store'.saved = some row → client.store.saved = some row := by
    intro row hrow
    rcases hsaved with hsame | hnone
    · exact hsame ▸ hrow
    · exact absurd (hnone.symm.trans hrow) (by simp)
  refine ⟨?_, ?_, ?_, ?_, ?_, ?_⟩
  · intro c hc
    rw [show store'.memory.sequence = none by rw [hmemory]] at hc
    cases hc
  · intro row hrow
    exact h.saved_covered row (hold row hrow)
  · intro hne
    exact absurd (by rw [hmemory]) hne
  · intro row hrow
    exact h.saved_known row (hold row hrow)
  · intro hne
    exact absurd (by rw [hmemory]) hne
  · intro session cursor hlive
    cases hlive

/-- A numbered dispatch beyond the cursor that leaves the session as it was. -/
theorem Safe.refuse {client : GatewayClient} (h : Safe client) {session : String} {cursor n : Int}
    (hlive : client.link = .live session cursor) (hn : cursor < n) {store' : GatewayStore}
    (hmemory : SameCursor store'.memory client.store.memory)
    (hsaved : store'.saved = client.store.saved) :
    Safe { client with
      store := store', link := .closed, received := (session, n) :: client.received } := by
  obtain ⟨hsession, hsequence, -, -, hbehind⟩ := h.live session cursor hlive
  have hkept := h.keep hmemory hsaved (Or.inl rfl)
  refine ⟨?_, ?_, ?_, ?_, hkept.behind, ?_⟩
  · intro c hc
    have hcovered := hkept.memory_covered c hc
    have hcursor : c = cursor :=
      Option.some.inj ((hmemory.2 ▸ hc).symm.trans hsequence)
    have hsame : store'.memory.sessionId = session := hmemory.1.trans hsession
    rw [hcursor] at hcovered ⊢
    rw [hsame] at hcovered ⊢
    exact hcovered.receive_ahead hn
  · intro row hrow c hc
    have hcovered := hkept.saved_covered row hrow c hc
    by_cases hsame : row.sessionId = session
    · -- the saved session is this one, and not ahead of it
      have hle : c ≤ cursor := hbehind row (hsaved ▸ hrow) hsame c hc
      rw [hsame] at hcovered ⊢
      exact hcovered.receive_ahead (lt_of_le_of_lt hle hn)
    · exact hcovered.receive_other (Ne.symm hsame) n
  · intro hne
    obtain ⟨e, he, hes⟩ := hkept.memory_known hne
    exact ⟨e, List.mem_cons_of_mem _ he, hes⟩
  · intro row hrow
    obtain ⟨e, he, hes⟩ := hkept.saved_known row hrow
    exact ⟨e, List.mem_cons_of_mem _ he, hes⟩
  · intro s c hclosed
    cases hclosed

/-- A numbered dispatch moves the cursor to itself, and is finished now or was before. -/
theorem Safe.move {client : GatewayClient} (h : Safe client) {session : String} {n : Int}
    (hcovers : ∀ finished', client.finished ⊆ finished' → (session, n) ∈ finished' →
      Covers ((session, n) :: client.received) finished' session n)
    (hbehind : Behind client session n) (hne : session ≠ "") {store' : GatewayStore}
    {link' : Link} {finished' : List (String × Int)} (hsession : store'.memory.sessionId = session)
    (hsequence : store'.memory.sequence = some n)
    (hsaved : store'.saved = client.store.saved ∨
      ∃ row, store'.saved = some row ∧ row.sessionId = session ∧ row.sequence = some n)
    (hlink : link' = .closed ∨ link' = .live session n)
    (hmore : client.finished ⊆ finished') (hn : (session, n) ∈ finished') :
    Safe ⟨store', link', (session, n) :: client.received, finished'⟩ := by
  have hnew := hcovers finished' hmore hn
  have hknown : Known ⟨store', link', (session, n) :: client.received, finished'⟩ session :=
    ⟨(session, n), List.mem_cons_self .., rfl⟩
  -- a saved session is either the one in memory or the one from before
  have hrows : ∀ row, store'.saved = some row → client.store.saved = some row ∨
      (row.sessionId = session ∧ row.sequence = some n) := by
    intro row hrow
    rcases hsaved with hsame | ⟨row', hrow', hs, hc⟩
    · exact Or.inl (hsame ▸ hrow)
    · obtain rfl := Option.some.inj (hrow'.symm.trans hrow)
      exact Or.inr ⟨hs, hc⟩
  have hbehind' : Behind ⟨store', link', (session, n) :: client.received, finished'⟩ session n := by
    intro row hrow hsame c hc
    rcases hrows row hrow with hold | ⟨-, hcursor⟩
    · exact hbehind row hold hsame c hc
    · exact le_of_eq (Option.some.inj (hc.symm.trans hcursor))
  refine ⟨?_, ?_, ?_, ?_, ?_, ?_⟩
  · intro c hc
    obtain rfl : n = c := Option.some.inj (hsequence.symm.trans hc)
    change Covers _ _ store'.memory.sessionId n
    rw [hsession]
    exact hnew
  · intro row hrow c hc
    rcases hrows row hrow with hold | ⟨hs, hcursor⟩
    · have hcovered := h.saved_covered row hold c hc
      by_cases hsame : row.sessionId = session
      · have hle : c ≤ n := hbehind row hold hsame c hc
        rw [hsame]
        exact hnew.mono hle
      · intro m hm hmem
        rcases List.mem_cons.mp hmem with heq | hreceived
        · exact absurd (Prod.mk.inj heq).1 hsame
        · exact hmore (hcovered m hm hreceived)
    · obtain rfl : n = c := Option.some.inj (hcursor.symm.trans hc)
      rw [hs]
      exact hnew
  · intro _
    change Known _ store'.memory.sessionId
    rw [hsession]
    exact hknown
  · intro row hrow
    rcases hrows row hrow with hold | ⟨hs, -⟩
    · obtain ⟨e, he, hes⟩ := h.saved_known row hold
      exact ⟨e, List.mem_cons_of_mem _ he, hes⟩
    · rw [hs]
      exact hknown
  · intro _ c hc
    obtain rfl : n = c := Option.some.inj (hsequence.symm.trans hc)
    change Behind _ store'.memory.sessionId n
    rw [hsession]
    exact hbehind'
  · intro s c hlive
    rcases hlink with hclosed | hopen
    · exact absurd (hclosed.symm.trans hlive) (by simp)
    · obtain ⟨rfl, rfl⟩ := Link.live.inj (hopen.symm.trans hlive)
      exact ⟨hsession, hsequence, hne, hknown, hbehind'⟩

/-- A dispatch without a number, after which the session in memory may be saved. -/
theorem Safe.resave {client : GatewayClient} (h : Safe client) {session : String} {cursor : Int}
    (hlive : client.link = .live session cursor) {store' : GatewayStore} {link' : Link}
    (hmemory : SameCursor store'.memory client.store.memory)
    (hsaved : store'.saved = client.store.saved ∨
      ∃ row, store'.saved = some row ∧ SameCursor row client.store.memory)
    (hlink : link' = .closed ∨ link' = client.link) :
    Safe { client with store := store', link := link' } := by
  rcases hsaved with hsame | ⟨row, hrow, hcursor⟩
  · exact h.keep hmemory hsame hlink
  obtain ⟨hsession, hsequence, hne, hknown, -⟩ := h.live session cursor hlive
  obtain ⟨hs, hc⟩ := hmemory
  have hrowSession : row.sessionId = session := hcursor.1.trans hsession
  have hrowCursor : row.sequence = some cursor := hcursor.2.trans hsequence
  have honly : ∀ row', store'.saved = some row' → row' = row :=
    fun row' hrow' => Option.some.inj (hrow'.symm.trans hrow)
  have hcovered := h.memory_covered cursor hsequence
  rw [hsession] at hcovered
  have hbehind : Behind { client with store := store', link := link' } session cursor := by
    intro row' hrow' _ c hc'
    obtain rfl := honly row' hrow'
    exact le_of_eq (Option.some.inj (hc'.symm.trans hrowCursor))
  refine ⟨?_, ?_, ?_, ?_, ?_, ?_⟩
  · intro c hc'
    have hcursor' : c = cursor := Option.some.inj ((hc ▸ hc').symm.trans hsequence)
    change Covers client.received client.finished store'.memory.sessionId c
    rw [hs, hsession, hcursor']
    exact hcovered
  · intro row' hrow' c hc'
    obtain rfl := honly row' hrow'
    obtain rfl : cursor = c := Option.some.inj (hrowCursor.symm.trans hc')
    rw [hrowSession]
    exact hcovered
  · intro _
    change Known _ store'.memory.sessionId
    rw [hs, hsession]
    exact hknown
  · intro row' hrow'
    obtain rfl := honly row' hrow'
    rw [hrowSession]
    exact hknown
  · intro _ c hc'
    have hcursor' : c = cursor := Option.some.inj ((hc ▸ hc').symm.trans hsequence)
    change Behind _ store'.memory.sessionId c
    rw [hs, hsession, hcursor']
    exact hbehind
  · intro s c hlive'
    rcases hlink with hclosed | hopen
    · exact absurd (hclosed.symm.trans hlive') (by simp)
    · obtain ⟨rfl, rfl⟩ := Link.live.inj (hlive.symm.trans (hopen.symm.trans hlive'))
      exact ⟨hs.trans hsession, hc.trans hsequence, hne, hknown, hbehind⟩

/-- After a dispatch the connection is closed or goes on from it. -/
theorem linkAfter_dispatch (link : Link) {payload : GatewayPayload}
    (outcome : Except PyError GatewayAction) (hop : payload.op = opDispatch) :
    linkAfter link payload outcome = .closed ∨
      linkAfter link payload outcome =
        match payload.s with
        | some n => .live (sessionOf link payload) n
        | none => link := by
  cases outcome with
  | error err => exact Or.inl rfl
  | ok action =>
    unfold linkAfter
    cases action <;> simp [hop]

theorem linkAfter_aside {link : Link} {payload : GatewayPayload}
    {outcome : Except PyError GatewayAction} (hop : payload.op ≠ opDispatch) :
    linkAfter link payload outcome = .closed ∨ linkAfter link payload outcome = link := by
  cases outcome with
  | error err => exact Or.inl rfl
  | ok action =>
    unfold linkAfter
    cases action <;> simp [hop]

/-- The client after a numbered dispatch. -/
theorem step_numbered {client : GatewayClient} {payload : GatewayPayload} {fate : Fate}
    (hop : payload.op = opDispatch) {n : Int} (hs : payload.s = some n) :
    (stepClient client (.frame payload fate)).2 =
      ⟨((deliver fate payload).exec client.store).2,
        linkAfter client.link payload ((deliver fate payload).exec client.store).1,
        (sessionOf client.link payload, n) :: client.received,
        if Finishes fate payload then (sessionOf client.link payload, n) :: client.finished
          else client.finished⟩ := by
  have hentry : journalEntry client.link payload = [(sessionOf client.link payload, n)] := by
    unfold journalEntry
    rw [if_pos hop, hs]
  unfold stepClient
  simp only [hentry, List.cons_append, List.nil_append]

/-- The client after a frame without a number. -/
theorem step_unnumbered {client : GatewayClient} {payload : GatewayPayload} {fate : Fate}
    (hs : payload.s = none) :
    (stepClient client (.frame payload fate)).2 = { client with
      store := ((deliver fate payload).exec client.store).2
      link := linkAfter client.link payload ((deliver fate payload).exec client.store).1 } := by
  have hentry : journalEntry client.link payload = [] := by
    unfold journalEntry
    rw [hs]
    simp
  unfold stepClient
  simp only [hentry, List.nil_append, ite_self]

/-- The frame is no dispatch. -/
theorem Safe.aside {client : GatewayClient} (h : Safe client) {payload : GatewayPayload}
    {fate : Fate} (hop : payload.op ≠ opDispatch) (hs : payload.s = none) :
    Safe (stepClient client (.frame payload fate)).2 := by
  rw [step_unnumbered hs]
  cases deliver_aside fate client.store hop hs with
  | kept hmemory hsaved => exact h.keep hmemory hsaved (linkAfter_aside hop)
  | reset hmemory hsaved hcloses =>
    have hclosed : linkAfter client.link payload
        ((deliver fate payload).exec client.store).1 = .closed := by
      rcases hcloses with hreconnect | ⟨err, herr⟩
      · rw [hreconnect]
        rfl
      · rw [herr]
        rfl
    rw [hclosed]
    exact h.forget hmemory hsaved

/-- The frame begins a session. -/
theorem Safe.ready {client : GatewayClient} (h : Safe client) {payload : GatewayPayload}
    {fate : Fate} (hop : payload.op = opDispatch) (hready : payload.t = "READY") {n : Int}
    (hs : payload.s = some n) (hsession : sessionOf client.link payload = payload.d.sessionId)
    (hne : payload.d.sessionId ≠ "") (hfresh : ∀ e ∈ client.received, e.1 ≠ payload.d.sessionId) :
    Safe (stepClient client (.frame payload fate)).2 := by
  have hdone : Finishes fate payload := fun hmessage => absurd hready hmessage.1
  rw [step_numbered hop hs, if_pos hdone, hsession]
  obtain ⟨hmemory, hsequence, hsaved, -⟩ := deliver_ready fate client.store hop hready hs
  have hlink := linkAfter_dispatch client.link ((deliver fate payload).exec client.store).1 hop
  rw [hs, hsession] at hlink
  refine h.move ?_ ?_ hne hmemory hsequence hsaved hlink (List.subset_cons_self ..)
    (List.mem_cons_self ..)
  · intro finished' _ hn
    exact Covers.fresh (fun m hm => hfresh _ hm rfl) hn
  · -- nothing of the session was saved before
    intro row hrow hsame
    obtain ⟨e, he, hes⟩ := h.saved_known row hrow
    exact absurd (hes.trans hsame) (hfresh e he)

/-- The frame is a dispatch of a session that has begun. -/
theorem Safe.dispatch {client : GatewayClient} (h : Safe client) {payload : GatewayPayload}
    {fate : Fate} {session : String} {cursor : Int} (hlive : client.link = .live session cursor)
    (hop : payload.op = opDispatch) (hready : payload.t ≠ "READY")
    (horder : ∀ n ∈ payload.s, cursor < n ∧
      ∀ e ∈ client.received, e.1 = session → cursor < e.2 → ¬ e.2 < n)
    (hmaps : MapsUnfinished client (.frame payload fate)) :
    Safe (stepClient client (.frame payload fate)).2 := by
  obtain ⟨hsession, hsequence, hne, -, hbehind⟩ := h.live session cursor hlive
  have hof : sessionOf client.link payload = session := by
    unfold sessionOf
    rw [hlive]
    simp only
    rw [if_neg hready]
  have hlink := linkAfter_dispatch client.link ((deliver fate payload).exec client.store).1 hop
  have hdispatched := deliver_dispatched fate client.store hop hready
  cases hs : payload.s with
  | none =>
    rw [hs] at hlink
    have hadvance : advanceTo payload client.store = client.store := by
      unfold advanceTo
      rw [hs]
    rw [step_unnumbered hs]
    cases hdispatched with
    | refused _ _ hmemory hsaved => exact h.keep hmemory hsaved hlink
    | lost _ _ _ hmemory hsaved =>
      rw [hadvance] at hmemory
      exact h.keep hmemory hsaved hlink
    | finished _ hmemory hsaved =>
      rw [hadvance] at hmemory hsaved
      exact h.resave hlive hmemory hsaved hlink
  | some n =>
    rw [hs, hof] at hlink
    obtain ⟨hn, hgap⟩ := horder n hs
    have hadvance : (advanceTo payload client.store).memory.sessionId = session ∧
        (advanceTo payload client.store).memory.sequence = some n := by
      unfold advanceTo
      rw [hs]
      exact ⟨hsession, rfl⟩
    have hcovered := h.memory_covered cursor hsequence
    rw [hsession] at hcovered
    have hbehind' : Behind client session n :=
      fun row hrow hsame c hc => (hbehind row hrow hsame c hc).trans hn.le
    have hcovers : ∀ finished', client.finished ⊆ finished' → (session, n) ∈ finished' →
        Covers ((session, n) :: client.received) finished' session n := by
      intro finished' hmore hmem
      refine hcovered.advance hmore hmem fun m hcm hmn hreceived => ?_
      exact hgap (session, m) hreceived rfl hcm hmn
    rw [step_numbered hop hs, hof]
    cases hdispatched with
    | refused hunfinished _ hmemory hsaved err hraised =>
      rw [if_neg hunfinished, hraised]
      exact h.refuse hlive hn hmemory hsaved
    | lost hmessage hack hunmapped hmemory hsaved err hraised =>
      -- the mapper raised, so the dispatch was finished before
      rw [if_neg (not_finishes_of_unmapped hmessage hunmapped)]
      have hbefore := hmaps hop hmessage hack hunmapped n hs
      rw [hof] at hbefore
      exact h.move hcovers hbehind' hne (hmemory.1.trans hadvance.1) (hmemory.2.trans hadvance.2)
        (Or.inl hsaved) hlink (List.Subset.refl _) hbefore
    | finished hdone hmemory hsaved =>
      rw [if_pos hdone]
      refine h.move hcovers hbehind' hne (hmemory.1.trans hadvance.1) (hmemory.2.trans hadvance.2) ?_
        hlink (List.subset_cons_self ..) (List.mem_cons_self ..)
      rcases hsaved with hsame | ⟨row, hrow, hcursor⟩
      · exact Or.inl hsame
      · exact Or.inr ⟨row, hrow, hcursor.1.trans hadvance.1, hcursor.2.trans hadvance.2⟩

/-- **A frame keeps the cursors safe**, when it meets the conditions. -/
theorem Safe.frame {client : GatewayClient} (h : Safe client) {payload : GatewayPayload}
    {fate : Fate} (hserver : ServerInOrder client (.frame payload fate))
    (hmaps : MapsUnfinished client (.frame payload fate)) :
    Safe (stepClient client (.frame payload fate)).2 := by
  simp only [ServerInOrder] at hserver
  by_cases hop : payload.op = opDispatch
  swap
  · rw [if_neg hop] at hserver
    exact h.aside hop hserver
  rw [if_pos hop] at hserver
  cases hlink : client.link with
  | closed =>
    rw [hlink] at hserver
    exact absurd hserver not_false
  | awaitingReady =>
    rw [hlink] at hserver
    obtain ⟨hready, hsome, hne, hfresh⟩ := hserver
    obtain ⟨n, hs⟩ := Option.isSome_iff_exists.mp hsome
    refine h.ready hop hready hs ?_ hne hfresh
    rw [hlink]
    rfl
  | live session cursor =>
    rw [hlink] at hserver
    exact h.dispatch hlink hop hserver.1 hserver.2 hmaps

theorem handshakePayload_resume {state : QQGatewayState} {session : String} {cursor : Int}
    (h : handshakePayload state = .resume session cursor) :
    state.sessionId = session ∧ state.sequence = some cursor ∧ session ≠ "" := by
  unfold handshakePayload at h
  cases hsequence : state.sequence with
  | none =>
    rw [hsequence] at h
    cases h
  | some sequence =>
    rw [hsequence] at h
    simp only at h
    by_cases hempty : state.sessionId = ""
    · rw [if_pos hempty] at h
      cases h
    · rw [if_neg hempty] at h
      obtain ⟨rfl, rfl⟩ := Handshake.resume.inj h
      exact ⟨rfl, rfl, hempty⟩

/-- **Every step keeps the cursors safe.** -/
theorem Safe.step {client : GatewayClient} (h : Safe client) {call : GatewayCall}
    (hserver : ServerInOrder client call) (hmaps : MapsUnfinished client call) :
    Safe (stepClient client call).2 := by
  cases call with
  | frame payload fate => exact h.frame hserver hmaps
  | heartbeat => exact h.keep ⟨rfl, rfl⟩ rfl (Or.inr rfl)
  | drop => exact h.keep ⟨rfl, rfl⟩ rfl (Or.inl rfl)
  | hello =>
    refine ⟨h.memory_covered, h.saved_covered, h.memory_known, h.saved_known, h.behind, ?_⟩
    intro session cursor hlive
    change (match handshakePayload client.store.memory with
      | .identify => Link.awaitingReady
      | .resume session cursor => Link.live session cursor) = .live session cursor at hlive
    cases hsent : handshakePayload client.store.memory with
    | identify =>
      rw [hsent] at hlive
      cases hlive
    | resume s c =>
      rw [hsent] at hlive
      obtain ⟨rfl, rfl⟩ := Link.live.inj hlive
      obtain ⟨rfl, hsequence, hne⟩ := handshakePayload_resume hsent
      exact ⟨rfl, hsequence, hne, h.memory_known hne, h.behind hne _ hsequence⟩
  | restart =>
    -- the saved session becomes the one in memory
    cases hsaved : client.store.saved with
    | none =>
      have hstep : (stepClient client .restart).2 = { client with
          store := { client.store with memory := {} }, link := .closed } := by
        simp only [stepClient, hsaved, Option.getD_none]
      rw [hstep]
      exact h.forget rfl (Or.inl rfl)
    | some row =>
      have hstep : (stepClient client .restart).2 = { client with
          store := { client.store with memory := row }, link := .closed } := by
        simp only [stepClient, hsaved, Option.getD_some]
      rw [hstep]
      refine ⟨h.saved_covered row hsaved, h.saved_covered, fun _ => h.saved_known row hsaved,
        h.saved_known, ?_, ?_⟩
      · intro _ c hc row' hrow' _ c' hc'
        obtain rfl : row = row' := Option.some.inj (hsaved.symm.trans hrow')
        exact le_of_eq (Option.some.inj (hc'.symm.trans hc))
      · intro session cursor hlive
        cases hlive

/-! ### No dispatch is skipped -/

/-- A resume would omit nothing: neither the one that a handshake would send now nor the
one of a process started from the saved session. -/
def ResumesSafely (client : GatewayClient) : Prop :=
  (∀ session s, handshakePayload client.store.memory = .resume session s →
    Covers client.received client.finished session s) ∧
  ∀ row, client.store.saved = some row → ∀ s, row.sequence = some s →
    Covers client.received client.finished row.sessionId s

theorem Safe.resumesSafely {client : GatewayClient} (h : Safe client) : ResumesSafely client := by
  refine ⟨fun session s hsent => ?_, h.saved_covered⟩
  obtain ⟨rfl, hsequence, -⟩ := handshakePayload_resume hsent
  exact h.memory_covered s hsequence

/-- **A mapper that raises loses its message.** -/
theorem Safe.mapsUnfinished {client : GatewayClient} (h : Safe client) {call : GatewayCall}
    (hserver : ServerInOrder client call) (hsafe : ResumesSafely (stepClient client call).2) :
    MapsUnfinished client call := by
  cases call with
  | hello | heartbeat | drop | restart => exact trivial
  | frame payload fate =>
    intro hop hmessage hack hunmapped n hs
    by_contra hmissed
    simp only [ServerInOrder] at hserver
    rw [if_pos hop] at hserver
    cases hlink : client.link with
    | closed =>
      rw [hlink] at hserver
      exact hserver
    | awaitingReady =>
      rw [hlink] at hserver
      exact hmessage.1 hserver.1
    | live session cursor =>
      obtain ⟨hsession, -, hne, -⟩ := h.live session cursor hlink
      have hof : sessionOf client.link payload = session := by
        unfold sessionOf
        rw [hlink]
        simp only
        rw [if_neg hmessage.1]
      rw [step_numbered hop hs, if_neg (not_finishes_of_unmapped hmessage hunmapped), hof]
        at hsafe
      rw [hof] at hmissed
      cases deliver_dispatched fate client.store hop hmessage.1 with
      | refused _ hcause =>
        rcases hcause with hnotack | hmapped
        · exact hnotack hack
        · exact absurd (hmapped.symm.trans hunmapped) (by simp)
      | finished hdone => exact not_finishes_of_unmapped hmessage hunmapped hdone
      | lost _ _ _ hmemory =>
        -- the cursor in memory now stands on the message
        have hresume : handshakePayload ((deliver fate payload).exec client.store).2.memory =
            .resume session n := by
          have hadvance : (advanceTo payload client.store).memory.sessionId = session ∧
              (advanceTo payload client.store).memory.sequence = some n := by
            unfold advanceTo
            rw [hs]
            exact ⟨hsession, rfl⟩
          unfold handshakePayload
          rw [hmemory.2, hadvance.2]
          simp only
          rw [hmemory.1, hadvance.1, if_neg hne]
        exact not_covers (List.mem_cons_self ..) hmissed (hsafe.1 session n hresume)

/-- What the server promises, and the condition on the mapper. -/
def InOrder (g : GatewayStage) (call : GatewayCall) : Prop :=
  ServerInOrder g.state call ∧ MapsUnfinished g.state call

/-- **The gateway never skips a dispatch**, while no unfinished message meets a mapper that
raises. In every run of this kind the cursor in memory and the saved one cover what was
received. The condition is exact: after such a run, the next step keeps both cursors
safe if and only if it meets the condition. -/
theorem never_skips {g : GatewayStage} (hrun : machine.Reaches InOrder (Machine.start {}) g) :
    ResumesSafely g.state ∧ ∀ call, ServerInOrder g.state call →
      (ResumesSafely (machine.advance g call).state ↔ MapsUnfinished g.state call) := by
  have hsafe : Safe g.state := by
    refine Machine.Reaches.invariant (I := fun g => Safe g.state) ?_ hrun
      fun g call hcall h => h.step hcall.1 hcall.2
    refine ⟨?_, ?_, ?_, ?_, ?_, ?_⟩
    · intro c hc
      cases hc
    · intro row hrow
      cases hrow
    · intro hne
      exact absurd rfl hne
    · intro row hrow
      cases hrow
    · intro hne
      exact absurd rfl hne
    · intro session cursor hlive
      cases hlive
  refine ⟨hsafe.resumesSafely, fun call hserver => ⟨fun h => ?_, fun hmaps => ?_⟩⟩
  · exact hsafe.mapsUnfinished hserver h
  · exact (hsafe.step hserver hmaps).resumesSafely

/-! A session of three messages, whose second one is forwarded at the second try. -/

def fromGroup : InboundEvent where
  eventId := "e1"
  channel := "qq"
  channelAccount := "bot"
  externalActorRef := "actor"
  externalConversationRef := "group"
  conversationKind := .group
  messageKind := .text
  receivedAt := 0
  text := some "hello"
  refs_nonblank := by decide
  text_nonblank := by decide

def ready : GatewayPayload := { op := 0, s := some 1, t := "READY", d := { sessionId := "session" } }

def message (n : Int) : GatewayPayload := { op := 0, s := some n, t := "GROUP_AT_MESSAGE_CREATE" }

def forwarded : Fate := { mapping := .ok (some fromGroup) }

def unforwarded : Fate := { mapping := .ok (some fromGroup), forwarding := .error .external }

def secondTry : List GatewayCall :=
  [.hello, .frame ready {}, .frame (message 2) forwarded, .frame (message 3) unforwarded, .hello,
    .frame (message 3) forwarded, .restart, .hello]

instance (client : GatewayClient) (call : GatewayCall) : Decidable (MapsUnfinished client call) :=
  match call with
  | .frame payload fate =>
    inferInstanceAs (Decidable (payload.op = opDispatch → IsMessage payload →
      Acknowledged fate payload → Fate.unmapped fate = true → ∀ n ∈ payload.s,
        (sessionOf client.link payload, n) ∈ client.finished))
  | .hello | .heartbeat | .drop | .restart => .isTrue trivial

instance (g : GatewayStage) (call : GatewayCall) : Decidable (InOrder g call) :=
  inferInstanceAs (Decidable (_ ∧ _))

theorem never_skips_retried :
    ResumesSafely (machine.replay (Machine.start {}) secondTry).state :=
  (never_skips (Machine.Reaches.of_follows (by decide))).1

/-- **A dispatch is skipped.** The mapper raises on the second dispatch of a session; the
next handshake resumes behind it. -/
theorem unmapped_is_skipped :
    ¬ ∀ g, machine.Reaches (fun g call => ServerInOrder g.state call) (Machine.start {}) g →
      ResumesSafely g.state := by
  intro hall
  have hrun : machine.Follows (fun g call => ServerInOrder g.state call) (Machine.start {})
      [.hello, .frame ready {}, .frame (message 2) { mapping := .error .external }] := by decide
  have hsafe := (hall _ (Machine.Reaches.of_follows hrun)).1 "session" 2 (by decide)
  have hfinished := hsafe 2 le_rfl (by decide)
  exact absurd hfinished (by decide)

end QQGatewayProtocol

end Zhixu
