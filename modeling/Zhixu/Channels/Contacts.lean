import Zhixu.Channels.QqHttp
import Zhixu.Framework.LastWrite
import Zhixu.Security.Fields
import Zhixu.Storage.ChannelRoutes

/-!
# Contacts of QQ and routes

`QQContactStore.record` keeps what the gateway has seen of somebody: the raw identifier, encrypted, and
the kind of the sighting, under an opaque reference. A private contact and an actor in a group have one
reference, so that a person is recognised in both places. `ChannelRouteStore.observe` keeps the kind of
a route under the same reference. In both stores the latest sighting replaces the kind.

A private contact can be sent to (`messageUrl` has a place for it), and a private route is what an
identity can be bound to. `StayReachable` asks that both remain so for the rest of a run of sightings.
Both stores are registers that keep the last write, so `stayReachable_iff` reads the exact condition off
the sightings that follow: no reference of a private contact is recorded as anything else, which is what
any message of that person in a group does.
-/

open Framework

namespace Zhixu

/-! ### Endpoints -/

/-- The characters that `urllib.parse.quote` leaves alone. -/
def isUnreserved (c : Char) : Bool := c.isAlphanum || c ∈ ['_', '.', '-', '~']

/-- A byte, percent-encoded. -/
def percentByte (b : UInt8) : List Char :=
  ['%', Nat.digitChar (b.toNat / 16) |>.toUpper, Nat.digitChar (b.toNat % 16) |>.toUpper]

/-- `urllib.parse.quote(…, safe="")`. -/
def quote (s : String) : String :=
  String.ofList (s.toList.flatMap fun c =>
    if isUnreserved c = true then [c] else (String.utf8EncodeChar c).flatMap percentByte)

example : quote "a/b ü" = "a%2Fb%20%C3%BC" := by decide +kernel

/-- `API_BASE`. -/
def apiBase : String := "https://api.sgroup.qq.com"

/-- `_message_endpoint`. -/
def messageUrl (target : ResolvedQQTarget) : Except PyError String :=
  match target.kind with
  | .privateChat => .ok (apiBase ++ "/v2/users/" ++ quote target.identifier ++ "/messages")
  | .group => .ok (apiBase ++ "/v2/groups/" ++ quote target.identifier ++ "/messages")
  | .channel => .ok (apiBase ++ "/channels/" ++ quote target.identifier ++ "/messages")
  | .actor => .error (.validation "QQ target kind cannot receive messages")

/-! ### Recording a contact -/

/-- A kind of contact or route, by its text. -/
def kindOf (text : String) : Option RouteKind :=
  [.privateChat, .group, .channel, .actor].find? fun kind => contactKind kind = text

namespace ContactRow

/-- A sighting replaces the ciphertext and the kind. -/
def seen (encrypted : String) (kind : RouteKind) (row : ContactRow) : ContactRow :=
  { row with externalTargetEnc := encrypted, kind }

theorem key_seen (encrypted : String) (kind : RouteKind) (row : ContactRow) :
    (row.seen encrypted kind).key = row.key := rfl

end ContactRow

/-- What `QQContactStore` works with: the two primitives, and the accounts that have been registered. -/
structure ContactBook where
  cipher : FieldCipher
  decrypt : String → String → Except PyError String
  references : OpaqueReferenceFactory
  accounts : List String

namespace ContactBook

variable (book : ContactBook)

/-- The store of the adapter. -/
def store : QQContactStore := ⟨book.decrypt⟩

/-- The text that a ciphertext is bound to. -/
def sealingContext (channelAccount : String) (kind : RouteKind) (opaqueRef : String) : String :=
  "qq-contact:" ++ channelAccount ++ ":" ++ contactKind kind ++ ":" ++ opaqueRef

/-- The reference of a contact. Private contacts and actors have one. -/
def reference (channelAccount : String) (kind : RouteKind) (raw : String) : Except PyError String :=
  if kind = .privateChat ∨ kind = .actor then
    book.references.create "identity" ["qq", channelAccount, raw]
  else book.references.create "qqc" [channelAccount, contactKind kind, raw]

/-- A call of `record`, and the nonce drawn for it. -/
structure Sighting where
  channelAccount : String
  kind : String
  externalIdentifier : String
  nonce : String
  now : Instant

/-- The store after the row of a sighting. -/
def recorded (row : ContactRow) (s : QqState) : QqState := { s with
  contacts := s.contacts.upsert row (ContactRow.seen row.externalTargetEnc row.kind)
    (ContactRow.key_seen row.externalTargetEnc row.kind) }

/-- `record`. The id of a row is its reference, so another account's row stands in the way. -/
def record (call : Sighting) : Transaction QqState PyError String := fun s =>
  match kindOf call.kind with
  | none => .error (.validation "unsupported QQ contact kind")
  | some kind => do
    let raw := strip call.externalIdentifier
    raiseIf (raw = "") (.validation "QQ external identifier is required")
    let opaqueRef ← book.reference call.channelAccount kind raw
    let encrypted ← book.cipher.encrypt call.nonce raw
      (sealingContext call.channelAccount kind opaqueRef)
    ChannelRouteStore.utcText call.now
    raiseIf (call.channelAccount ∉ book.accounts ∨
      ∃ row ∈ s.contacts.rows, row.opaqueRef = opaqueRef ∧ row.channelAccount ≠ call.channelAccount)
      .integrity
    let row : ContactRow :=
      { channelAccount := call.channelAccount, opaqueRef, kind, externalTargetEnc := encrypted }
    return (opaqueRef, recorded row s)

/-- Calls of `record`, one after another. A failed one leaves the store as it is. -/
def machine : Machine QqState Sighting (Except PyError String) where
  exec s call := (Effect.atomically (book.record call)).exec s

/-! ### What a sighting does -/

section Steps

variable {book} {call : Sighting} {s s' : QqState} {opaqueRef : String}

/-- The row of a sighting replaces what was there. -/
theorem find?_recorded (row : ContactRow) (s : QqState) (key : String × String) :
    (recorded row s).contacts.find? key =
      if key = row.key then some row else s.contacts.find? key := by
  refine (Table.find?_upsert ..).trans ?_
  by_cases hkey : key = row.key
  · rw [if_pos hkey, if_pos hkey]
    cases hfound : s.contacts.find? key with
    | none => rfl
    | some known =>
      -- of a known row only the key stays, and that is the key of the new one
      obtain ⟨haccount, href⟩ := Prod.mk.inj ((Table.key_of_find? hfound).trans hkey)
      change some (ContactRow.mk known.channelAccount known.opaqueRef row.kind row.externalTargetEnc) = _
      rw [haccount, href]
  · rw [if_neg hkey, if_neg hkey]

/-- A sighting is taken as one of a kind, under a reference. -/
structure Takes (book : ContactBook) (s : QqState) (call : Sighting) (kind : RouteKind)
    (opaqueRef : String) : Prop where
  kind_eq : kindOf call.kind = some kind
  given : strip call.externalIdentifier ≠ ""
  reference_eq : book.reference call.channelAccount kind (strip call.externalIdentifier) = .ok opaqueRef
  inRange : Instant.InRange call.now
  registered : call.channelAccount ∈ book.accounts
  own : ∀ row ∈ s.contacts.rows, row.opaqueRef = opaqueRef → row.channelAccount = call.channelAccount

/-- The row of a sighting. -/
def rowOf (book : ContactBook) (call : Sighting) (kind : RouteKind) (opaqueRef : String) :
    ContactRow where
  channelAccount := call.channelAccount
  opaqueRef := opaqueRef
  kind := kind
  externalTargetEnc := "enc:v1:" ++ book.cipher.token call.nonce (strip call.externalIdentifier)
    (sealingContext call.channelAccount kind opaqueRef)

theorem sealingContext_ne_empty (channelAccount : String) (kind : RouteKind) (opaqueRef : String) :
    sealingContext channelAccount kind opaqueRef ≠ "" := by
  intro h
  have hlist := congrArg String.toList h
  simp [sealingContext] at hlist

/-- **What is recorded** is a sighting that is taken, and it leaves its row. -/
theorem record_ok : book.record call s = .ok (opaqueRef, s') ↔
    ∃ kind, Takes book s call kind opaqueRef ∧ s' = recorded (rowOf book call kind opaqueRef) s := by
  unfold record
  constructor
  · intro h
    cases hkind : kindOf call.kind with
    | none =>
      rw [hkind] at h
      cases h
    | some kind =>
      rw [hkind] at h
      obtain ⟨hgiven, h⟩ := raiseIf_bind_ok.mp h
      obtain ⟨ref, href, h⟩ := bind_eq_ok.mp h
      obtain ⟨encrypted, hencrypt, h⟩ := bind_eq_ok.mp h
      obtain ⟨_, hrange, h⟩ := bind_eq_ok.mp h
      obtain ⟨hfree, h⟩ := raiseIf_bind_ok.mp h
      obtain ⟨rfl, rfl⟩ := Prod.mk.inj (Except.ok.inj h)
      obtain ⟨-, hencrypt⟩ := raiseIf_bind_ok.mp hencrypt
      obtain rfl := Except.ok.inj hencrypt
      push Not at hfree
      exact ⟨kind, ⟨hkind, hgiven, href, ChannelRouteStore.utcText_ok.mp hrange, hfree.1, hfree.2⟩, rfl⟩
  · rintro ⟨kind, h, rfl⟩
    rw [h.kind_eq]
    refine raiseIf_bind_ok.mpr ⟨h.given, bind_eq_ok.mpr ⟨_, h.reference_eq, bind_eq_ok.mpr
      ⟨_, raiseIf_bind_ok.mpr ⟨sealingContext_ne_empty _ _ _, rfl⟩, bind_eq_ok.mpr
        ⟨⟨⟩, ChannelRouteStore.utcText_ok.mpr h.inRange, raiseIf_bind_ok.mpr ⟨?_, rfl⟩⟩⟩⟩⟩
    push Not
    exact ⟨h.registered, h.own⟩

/-- What a sealed text is opened to. -/
def Opens (book : ContactBook) : Prop :=
  ∀ nonce plaintext context,
    book.decrypt ("enc:v1:" ++ book.cipher.token nonce plaintext context) context = .ok plaintext

/-- What a reference resolves to. -/
def read (book : ContactBook) (s : QqState) (key : String × String) : Option ResolvedQQTarget :=
  (s.contacts.find? key).bind fun row =>
    (book.decrypt row.externalTargetEnc (sealingContext key.1 row.kind key.2)).toOption.map fun
      identifier => { kind := row.kind, identifier }

/-- A store that can be read resolves a reference to what is read there. -/
theorem resolve_eq_ok {meeting : Meeting} (hquiet : meeting.contact = .ok ⟨⟩) {channelAccount : String}
    {target : ResolvedQQTarget} :
    book.store.resolve meeting channelAccount opaqueRef s = .ok target ↔
      book.read s (channelAccount, opaqueRef) = some target := by
  unfold QQContactStore.resolve read
  rw [hquiet]
  cases hfound : s.contacts.find? (channelAccount, opaqueRef) with
  | none => simp [bind, Except.bind, throw, throwThe, MonadExceptOf.throw]
  | some row =>
    change (book.decrypt row.externalTargetEnc (sealingContext channelAccount row.kind opaqueRef) >>=
      fun identifier => Except.ok { kind := row.kind, identifier }) = .ok target ↔ _
    cases hopen : book.decrypt row.externalTargetEnc
        (sealingContext channelAccount row.kind opaqueRef) with
    | error e => simp [hopen, bind, Except.bind, Except.toOption]
    | ok identifier => simp [hopen, bind, Except.bind, Except.toOption]

/-- What a call writes. -/
def writes (book : ContactBook) (s : QqState) (call : Sighting) :
    Option ((String × String) × ResolvedQQTarget) :=
  (book.record call s).toOption.bind fun out => (kindOf call.kind).map fun kind =>
    ((call.channelAccount, out.1), { kind, identifier := strip call.externalIdentifier })

theorem writes_eq_some {key : String × String} {target : ResolvedQQTarget} :
    book.writes s call = some (key, target) ↔
      key.1 = call.channelAccount ∧ Takes book s call target.kind key.2 ∧
        target.identifier = strip call.externalIdentifier := by
  unfold writes
  cases hrecord : book.record call s with
  | error e =>
    refine iff_of_false (by simp [Except.toOption]) ?_
    rintro ⟨-, htakes, -⟩
    rw [record_ok.mpr ⟨_, htakes, rfl⟩] at hrecord
    cases hrecord
  | ok out =>
    obtain ⟨ref, s'⟩ := out
    obtain ⟨kind, htakes, -⟩ := record_ok.mp hrecord
    constructor
    · intro h
      rw [htakes.kind_eq] at h
      obtain ⟨rfl, rfl⟩ := Prod.mk.inj (Option.some.inj h)
      exact ⟨rfl, htakes, rfl⟩
    · obtain ⟨account, ref'⟩ := key
      obtain ⟨kind', identifier⟩ := target
      rintro ⟨haccount, htakes', hidentifier⟩
      simp only at haccount htakes' hidentifier
      obtain rfl := Option.some.inj (htakes.kind_eq.symm.trans htakes'.kind_eq)
      obtain rfl := Except.ok.inj (htakes.reference_eq.symm.trans htakes'.reference_eq)
      rw [htakes.kind_eq, haccount, hidentifier]
      rfl

theorem exec_of_takes {kind : RouteKind} (h : Takes book s call kind opaqueRef) :
    (book.machine.exec s call).2 = recorded (rowOf book call kind opaqueRef) s := by
  change ((Effect.atomically (book.record call)).exec s).2 = _
  rw [Effect.exec_atomically, show (book.record call).run s = _ from record_ok.mpr ⟨kind, h, rfl⟩]

theorem exec_of_not_takes (h : ∀ kind opaqueRef, ¬ Takes book s call kind opaqueRef) :
    (book.machine.exec s call).2 = s := by
  change ((Effect.atomically (book.record call)).exec s).2 = _
  rw [Effect.exec_atomically]
  cases hrecord : (book.record call).run s with
  | error e => rfl
  | ok out =>
    obtain ⟨kind, htakes, -⟩ := record_ok.mp hrecord
    exact absurd htakes (h kind _)

theorem read_written (hopens : book.Opens) (s : QqState) (call : Sighting) (key : String × String)
    (target : ResolvedQQTarget) (h : book.writes s call = some (key, target)) :
    book.read (book.machine.exec s call).2 key = some target := by
  obtain ⟨account, ref⟩ := key
  obtain ⟨kind, identifier⟩ := target
  obtain ⟨haccount, htakes, hidentifier⟩ := writes_eq_some.mp h
  simp only at haccount htakes hidentifier
  unfold read
  rw [exec_of_takes htakes, find?_recorded, haccount, hidentifier,
    if_pos (show (call.channelAccount, ref) = (rowOf book call kind ref).key from rfl)]
  change Option.map _ (book.decrypt ("enc:v1:" ++ book.cipher.token call.nonce
    (strip call.externalIdentifier) (sealingContext call.channelAccount kind ref))
      (sealingContext call.channelAccount kind ref)).toOption = _
  rw [hopens]
  rfl

theorem read_other (s : QqState) (call : Sighting) (key : String × String)
    (h : ∀ target, book.writes s call ≠ some (key, target)) :
    book.read (book.machine.exec s call).2 key = book.read s key := by
  by_cases htakes : ∃ kind opaqueRef, Takes book s call kind opaqueRef
  · obtain ⟨kind, opaqueRef, htakes⟩ := htakes
    have hkey : key ≠ (rowOf book call kind opaqueRef).key := by
      rintro rfl
      exact h ⟨kind, strip call.externalIdentifier⟩ (writes_eq_some.mpr ⟨rfl, htakes, rfl⟩)
    unfold read
    rw [exec_of_takes htakes, find?_recorded, if_neg hkey]
  · push Not at htakes
    rw [exec_of_not_takes htakes]

/-- The contacts as registers. -/
def registers (book : ContactBook) (hopens : book.Opens) :
    Machine.Registers book.machine (String × String) ResolvedQQTarget where
  read := book.read
  writes := book.writes
  read_written := read_written hopens
  read_other := read_other

end Steps

end ContactBook

/-! ### Observing a route -/

namespace ChannelRouteStore

/-- A call of `observe`. -/
structure Observation where
  channel : String
  channelAccount : String
  opaqueRef : String
  kind : String
  now : Instant

/-- `observe`, of a kind that is a text. -/
def observeText (call : Observation) : Transaction Database PyError Unit := fun db =>
  match kindOf call.kind with
  | none => .error (.validation "channel route kind is invalid")
  | some kind => observe call.channel call.channelAccount call.opaqueRef kind call.now db

/-- Calls of `observe`, one after another. -/
def machine : Machine Database Observation (Except PyError Unit) where
  exec db call := (Effect.atomically (observeText call)).exec db

/-- The key of the route that an observation is about. -/
def Observation.key (call : Observation) : String × String × String :=
  (call.channel, call.channelAccount, call.opaqueRef)

/-- An observation is taken as one of a kind. -/
structure Takes (call : Observation) (kind : RouteKind) : Prop where
  kind_eq : kindOf call.kind = some kind
  given : ¬ (isBlank call.channel = true ∨ isBlank call.channelAccount = true ∨
    isBlank call.opaqueRef = true)
  inRange : Instant.InRange call.now

/-- The kind of a route. -/
def routeKind (db : Database) (key : String × String × String) : Option RouteKind :=
  (db.channelRoutes.find? key).map (·.routeKind)

/-- What an observation writes. -/
def writes (_ : Database) (call : Observation) : Option ((String × String × String) × RouteKind) :=
  if isBlank call.channel = true ∨ isBlank call.channelAccount = true ∨ isBlank call.opaqueRef = true ∨
      ¬ Instant.InRange call.now then none
  else (kindOf call.kind).map fun kind => (call.key, kind)

section Steps

variable {call : Observation} {db : Database} {key : String × String × String} {kind : RouteKind}

theorem writes_eq_some (db : Database) :
    writes db call = some (key, kind) ↔ key = call.key ∧ Takes call kind := by
  unfold writes
  split_ifs with hrefused
  · refine iff_of_false (by simp) ?_
    rintro ⟨-, htakes⟩
    have hgiven := htakes.given
    have hrange := htakes.inRange
    tauto
  · push Not at hrefused
    constructor
    · intro h
      obtain ⟨kind', hkind, h⟩ := Option.map_eq_some_iff.mp h
      obtain ⟨rfl, rfl⟩ := Prod.mk.inj h
      exact ⟨rfl, hkind, by tauto, hrefused.2.2.2⟩
    · rintro ⟨rfl, htakes⟩
      rw [htakes.kind_eq]
      rfl

/-- What an observation that is taken leaves at every key. -/
theorem routeKind_exec (h : Takes call kind) (key : String × String × String) :
    routeKind (machine.exec db call).2 key = if key = call.key then some kind else routeKind db key := by
  have hobserve : (observeText call).run db = .ok (⟨⟩, { db with
      channelRoutes := db.channelRoutes.upsert
        { channel := call.channel, channelAccount := call.channelAccount, opaqueRef := call.opaqueRef,
          routeKind := kind, lastSeenAt := call.now }
        fun known => { known with routeKind := kind, lastSeenAt := call.now } }) := by
    change observeText call db = _
    unfold observeText
    rw [h.kind_eq]
    exact raiseIf_bind_ok.mpr ⟨h.given, bind_eq_ok.mpr ⟨⟨⟩, utcText_ok.mpr h.inRange, rfl⟩⟩
  change routeKind ((Effect.atomically (observeText call)).exec db).2 key = _
  rw [Effect.exec_atomically, hobserve]
  refine (congrArg (Option.map _) (Table.find?_upsert ..)).trans ?_
  change Option.map _ (if key = call.key then _ else _) = _
  by_cases hkey : key = call.key
  · rw [if_pos hkey, if_pos hkey]
    cases db.channelRoutes.find? key with
    | none => rfl
    | some known => rfl
  · rw [if_neg hkey, if_neg hkey]
    rfl

theorem exec_of_not_takes (h : ∀ kind, ¬ Takes call kind) : (machine.exec db call).2 = db := by
  change ((Effect.atomically (observeText call)).exec db).2 = _
  rw [Effect.exec_atomically]
  cases hobserve : (observeText call).run db with
  | error e => rfl
  | ok out =>
    obtain ⟨⟨⟩, db'⟩ := out
    change observeText call db = _ at hobserve
    unfold observeText at hobserve
    cases hkind : kindOf call.kind with
    | none =>
      rw [hkind] at hobserve
      cases hobserve
    | some kind =>
      rw [hkind] at hobserve
      obtain ⟨hgiven, -⟩ := raiseIf_bind_ok.mp hobserve
      exact absurd ⟨hkind, hgiven, (observe_ok hobserve).1⟩ (h kind)

end Steps

theorem read_written (db : Database) (call : Observation) (key : String × String × String)
    (kind : RouteKind) (h : writes db call = some (key, kind)) :
    routeKind (machine.exec db call).2 key = some kind := by
  obtain ⟨hkey, htakes⟩ := (writes_eq_some db).mp h
  rw [routeKind_exec htakes, if_pos hkey]

theorem read_other (db : Database) (call : Observation) (key : String × String × String)
    (h : ∀ kind, writes db call ≠ some (key, kind)) :
    routeKind (machine.exec db call).2 key = routeKind db key := by
  by_cases htakes : ∃ kind, Takes call kind
  · obtain ⟨kind, htakes⟩ := htakes
    rw [routeKind_exec htakes, if_neg fun hkey => h kind ((writes_eq_some db).mpr ⟨hkey, htakes⟩)]
  · push Not at htakes
    rw [exec_of_not_takes htakes]

/-- The kinds of the routes as registers. -/
def registers : Machine.Registers machine (String × String × String) RouteKind where
  read := routeKind
  writes := writes
  read_written := read_written
  read_other := read_other

end ChannelRouteStore

/-! ### Staying reachable -/

section Reachable

variable (book : ContactBook) (s : QqState) (sightings : List ContactBook.Sighting) (db : Database)
  (observations : List ChannelRouteStore.Observation)

/-- **Contacts stay reachable.** Behind a sighting in private its reference resolves to the raw
identifier, and to a target that has the endpoint of a user; and behind an observation of a private
conversation the route is private. -/
structure StayReachable : Prop where
  contacts : ∀ done call later opaqueRef, done ++ call :: later <+: sightings →
    ContactBook.Takes book (book.machine.after s done) call .privateChat opaqueRef →
    ∀ meeting : Meeting, meeting.contact = .ok ⟨⟩ → ∃ target,
      book.store.resolve meeting call.channelAccount opaqueRef
        (book.machine.after s (done ++ call :: later)) = .ok target ∧
      target.identifier = strip call.externalIdentifier ∧ target.kind = .privateChat ∧
      messageUrl target = .ok (apiBase ++ "/v2/users/" ++ quote (strip call.externalIdentifier) ++
        "/messages")
  routes : ∀ done call later, done ++ call :: later <+: observations →
    ChannelRouteStore.Takes call .privateChat →
    ∃ route, ChannelRouteStore.get call.channel call.channelAccount call.opaqueRef
        (ChannelRouteStore.machine.after db (done ++ call :: later)) = some route ∧
      route.routeKind = .privateChat

/-- Nothing that is recorded or observed later, under the reference of something private, is anything
else. -/
structure NothingElseSeen : Prop where
  contacts : ∀ done call between last opaqueRef kind,
    done ++ call :: (between ++ [last]) <+: sightings →
    ContactBook.Takes book (book.machine.after s done) call .privateChat opaqueRef →
    ContactBook.Takes book (book.machine.after s (done ++ call :: between)) last kind opaqueRef →
    last.channelAccount = call.channelAccount →
      kind = .privateChat ∧ strip last.externalIdentifier = strip call.externalIdentifier
  routes : ∀ done call between last kind,
    done ++ call :: (between ++ [last]) <+: observations →
    ChannelRouteStore.Takes call .privateChat → ChannelRouteStore.Takes last kind →
    last.key = call.key → kind = .privateChat

variable {book s sightings db observations}

/-- A sending that meets with nothing. -/
def quiet : Meeting where
  clock := 0
  systemNow := 0
  token := .error .value
  upload := .error .value
  message := .error .value
  fallback := .error .value

/-- **What is private stays reachable**, exactly if nothing else is seen under its reference. -/
theorem stayReachable_iff (hopens : book.Opens) :
    StayReachable book s sightings db observations ↔
      NothingElseSeen book s sightings observations := by
  constructor
  · intro h
    have hcontacts : (ContactBook.registers book hopens).Lasts (·.kind = .privateChat) s sightings := by
      intro done call later key target hprefix hwrites hprivate
      obtain ⟨haccount, htakes, hidentifier⟩ := ContactBook.writes_eq_some.mp hwrites
      rw [hprivate] at htakes
      obtain ⟨target', hresolve, hidentifier', hkind, -⟩ :=
        h.contacts done call later key.2 hprefix htakes quiet rfl
      have hread := (ContactBook.resolve_eq_ok rfl).mp hresolve
      have hsame : target' = target := by
        obtain ⟨kind, identifier⟩ := target
        obtain ⟨kind', identifier'⟩ := target'
        simp only at hprivate hkind hidentifier hidentifier'
        rw [hprivate, hkind, hidentifier, hidentifier']
      rw [← haccount, hsame] at hread
      exact hread
    have hroutes : ChannelRouteStore.registers.Lasts (· = .privateChat) db observations := by
      intro done call later key kind hprefix hwrites hprivate
      obtain ⟨rfl, htakes⟩ := (ChannelRouteStore.writes_eq_some db).mp hwrites
      obtain rfl := hprivate
      obtain ⟨route, hroute, hkind⟩ := h.routes done call later hprefix htakes
      exact (congrArg (Option.map _) hroute).trans (congrArg some hkind)
    refine ⟨fun done call between last opaqueRef kind hprefix htakes hlast haccount => ?_,
      fun done call between last kind hprefix htakes hlast hkey => ?_⟩
    · have hsame := Machine.Registers.lasts_iff.mp hcontacts done call between last
        (call.channelAccount, opaqueRef) ⟨.privateChat, strip call.externalIdentifier⟩
        ⟨kind, strip last.externalIdentifier⟩ hprefix
        (ContactBook.writes_eq_some.mpr ⟨rfl, htakes, rfl⟩) rfl
        (ContactBook.writes_eq_some.mpr ⟨haccount.symm, hlast, rfl⟩)
      exact ResolvedQQTarget.mk.inj hsame
    · exact Machine.Registers.lasts_iff.mp hroutes done call between last call.key .privateChat kind
        hprefix ((ChannelRouteStore.writes_eq_some db).mpr ⟨rfl, htakes⟩) rfl
        ((ChannelRouteStore.writes_eq_some db).mpr ⟨hkey.symm, hlast⟩)
  · intro h
    have hcontacts : (ContactBook.registers book hopens).NeverReplaced (·.kind = .privateChat) s
        sightings := by
      intro done call between last key target target' hprefix hwrites hprivate hlast
      obtain ⟨haccount, htakes, hidentifier⟩ := ContactBook.writes_eq_some.mp hwrites
      obtain ⟨haccount', htakes', hidentifier'⟩ := ContactBook.writes_eq_some.mp hlast
      rw [hprivate] at htakes
      obtain ⟨hkind, hstrip⟩ := h.contacts done call between last key.2 target'.kind hprefix htakes
        htakes' (haccount'.symm.trans haccount)
      obtain ⟨kind, identifier⟩ := target
      obtain ⟨kind', identifier'⟩ := target'
      simp only at hprivate hkind hidentifier hidentifier'
      rw [hprivate, hkind, hidentifier, hidentifier', hstrip]
    have hroutes : ChannelRouteStore.registers.NeverReplaced (· = .privateChat) db observations := by
      intro done call between last key kind kind' hprefix hwrites hprivate hlast
      obtain ⟨rfl, htakes⟩ := (ChannelRouteStore.writes_eq_some db).mp hwrites
      obtain ⟨hkey, htakes'⟩ := (ChannelRouteStore.writes_eq_some db).mp hlast
      obtain rfl := hprivate
      exact h.routes done call between last kind' hprefix htakes htakes' hkey.symm
    refine ⟨fun done call later opaqueRef hprefix htakes meeting hquiet => ?_,
      fun done call later hprefix htakes => ?_⟩
    · have hread := Machine.Registers.lasts_iff.mpr hcontacts done call later
        (call.channelAccount, opaqueRef) ⟨.privateChat, strip call.externalIdentifier⟩ hprefix
        (ContactBook.writes_eq_some.mpr ⟨rfl, htakes, rfl⟩) rfl
      exact ⟨_, (ContactBook.resolve_eq_ok hquiet).mpr hread, rfl, rfl, rfl⟩
    · have hkind := Machine.Registers.lasts_iff.mpr hroutes done call later call.key .privateChat
        hprefix ((ChannelRouteStore.writes_eq_some db).mpr ⟨rfl, htakes⟩) rfl
      exact Option.map_eq_some_iff.mp hkind

end Reachable

/-! ### Alice speaks in a group -/

/-- A sealed text names its context, and opens in no other. -/
def plainBook : ContactBook where
  cipher := ⟨fun _ plaintext context => context ++ "\x00" ++ plaintext⟩
  decrypt sealedText context :=
    let header := ("enc:v1:" ++ (context ++ "\x00")).toList
    if header.isPrefixOf sealedText.toList = true then
      .ok (String.ofList (sealedText.toList.drop header.length))
    else .error (.validation "encrypted field authentication failed")
  references := ⟨fun payload => payload⟩
  accounts := ["bot"]

theorem plainBook_opens : plainBook.Opens := by
  intro nonce plaintext context
  have hlist : ("enc:v1:" ++ (context ++ "\x00" ++ plaintext)).toList =
      ("enc:v1:" ++ (context ++ "\x00")).toList ++ plaintext.toList := by
    simp only [String.toList_append, List.append_assoc]
  unfold plainBook
  simp only [hlist]
  rw [if_pos (List.isPrefixOf_iff_prefix.mpr (List.prefix_append _ _)), List.drop_left,
    String.ofList_toList]

/-- A sighting of Alice. -/
def aliceSeen (kind : String) : ContactBook.Sighting :=
  { channelAccount := "bot", kind, externalIdentifier := "alice", nonce := "", now := 0 }

/-- An observation of her. -/
def aliceObserved (kind : String) : ChannelRouteStore.Observation :=
  { channel := "qq", channelAccount := "bot", opaqueRef := "identity_alice", kind, now := 0 }

/-- Seen in private twice, Alice stays reachable. -/
theorem alice_reachable :
    StayReachable plainBook {} [aliceSeen "private", aliceSeen "private"] {}
      [aliceObserved "private", aliceObserved "private"] := by
  refine (stayReachable_iff plainBook_opens).mpr ⟨?_, ?_⟩
  · intro done call between last opaqueRef kind hprefix _ hlast _
    have hcall : call = aliceSeen "private" := by
      have hmem := hprefix.subset (List.mem_append_right done (List.mem_cons_self ..))
      simpa using hmem
    have hseen : last = aliceSeen "private" := by
      have hmem := hprefix.subset (show last ∈ done ++ call :: (between ++ [last]) by simp)
      simpa using hmem
    obtain rfl := hcall
    obtain rfl := hseen
    exact ⟨(Option.some.inj hlast.kind_eq).symm, rfl⟩
  · intro done call between last kind hprefix _ hlast _
    have hseen : last = aliceObserved "private" := by
      have hmem := hprefix.subset (show last ∈ done ++ call :: (between ++ [last]) by simp)
      simpa using hmem
    obtain rfl := hseen
    exact (Option.some.inj hlast.kind_eq).symm

/-- Seen in a group, Alice is no longer reachable. -/
theorem alice_unreachable :
    ¬ StayReachable plainBook {} [aliceSeen "private", aliceSeen "actor"] {}
      [aliceObserved "private", aliceObserved "actor"] := by
  intro h
  have htakes : ContactBook.Takes plainBook {} (aliceSeen "private") .privateChat
      "identity_qq\x00bot\x00alice" := by
    refine ⟨?_, ?_, ?_, ?_, ?_, ?_⟩
    all_goals decide +kernel
  obtain ⟨target, hresolve, -, hkind, -⟩ := h.contacts [] (aliceSeen "private") [aliceSeen "actor"] _
    List.prefix_rfl htakes quiet rfl
  have hactor : plainBook.store.resolve quiet "bot" "identity_qq\x00bot\x00alice"
      (plainBook.machine.after {} [aliceSeen "private", aliceSeen "actor"]) =
        .ok ⟨.actor, "alice"⟩ := by decide +kernel
  obtain rfl := Except.ok.inj (hactor.symm.trans hresolve)
  cases hkind

end Zhixu
