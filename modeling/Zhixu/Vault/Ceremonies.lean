import Zhixu.Vault.Passkeys

/-!
# Runs of passkey ceremonies

A run is any list of the four calls, by any users, with any responses and any readings of the clock.
That readings do not decrease and that challenges are drawn fresh is not needed. A response is only
assumed to be verified with a count that exceeds the stored one, unless both are zero.

`Sound` says what the ceremonies are for. Each registration and each proof comes from a challenge of
its own, which is the user's, made for that purpose and not expired (`Led`, `once`). A credential
proves no other user than the one it was registered for. Sign counts do not fall. And a call that
raises leaves the credentials and the unconsumed challenges alone (`Rejected`).

`once`, `own` and `counts` hold in every run, since every call moves the tables one way (`moved_exec`).
The other two can fail at a finishing call whose response is accepted, and at no other call: `Led` when
the second reading is not before the expiry, `Rejected` when the second reading plus five minutes is
past the year 9999. So a run is sound exactly if no call is of that kind (`ceremonies_iff`).
-/

open Framework

namespace Zhixu.Vault

/-! ### Calls -/

/-- A call of a `PasskeyManager`, with what it draws and the readings of the clock it takes. -/
inductive PasskeyCall
  | beginRegistration (userId userName displayName : String) (challenge : Bytes) (token : String)
      (now : Moment)
  | finishRegistration (userId : String) (credential : PasskeyResponse) (now verified : Moment)
  | beginAuthentication (userId : String) (challenge : Bytes) (token : String) (now : Moment)
  | finishAuthentication (userId : String) (credential : PasskeyResponse) (now verified : Moment)

inductive PasskeyAnswer
  | options (text : String)
  | registered (credentialId : String)
  | proved (proof : StepUpProof)
deriving DecidableEq

/-- A finishing call: whose it is, what for, and its two readings of the clock. -/
structure Finishing where
  userId : String
  purpose : Purpose
  now : Moment
  verified : Moment

def PasskeyCall.finishing : PasskeyCall → Option Finishing
  | finishRegistration userId _ now verified => some ⟨userId, .registration, now, verified⟩
  | finishAuthentication userId _ now verified => some ⟨userId, .authentication, now, verified⟩
  | _ => none

namespace PasskeyManager

variable (manager : PasskeyManager)

/-- The code of a call. -/
def handle : PasskeyCall → PasskeyM PasskeyAnswer
  | .beginRegistration userId userName displayName challenge token now =>
    .options <$> manager.beginRegistration userId userName displayName challenge token now
  | .finishRegistration userId credential now verified =>
    .registered <$> manager.finishRegistration userId credential now verified
  | .beginAuthentication userId challenge token now =>
    .options <$> manager.beginAuthentication userId challenge token now
  | .finishAuthentication userId credential now verified =>
    .proved <$> manager.finishAuthentication userId credential now verified

/-- The ceremonies as a machine. -/
def machine : Machine PasskeyTables PasskeyCall (Except PasskeyError PasskeyAnswer) where
  exec tables call := (manager.handle call).exec tables

/-- The tables after a run of calls. -/
def after (tables : PasskeyTables) (calls : List PasskeyCall) : PasskeyTables :=
  (manager.machine.replay (Machine.start tables) calls).state

end PasskeyManager

/-! ### What is promised -/

section Promises

variable (manager : PasskeyManager) (tables : PasskeyTables)

/-- A challenge leads to the answer of a call: it was there to be consumed, and the call consumed it. -/
structure LedTo (call : PasskeyCall) (row : PasskeyChallenge) : Prop where
  answered : ∃ answer, (manager.machine.exec tables call).1 = .ok answer
  stored : tables.challenges.find? row.id = some row
  unconsumed : row.consumedAt = none
  consumed : ∃ time, (manager.machine.exec tables call).2.challenges.find? row.id =
    some { row with consumedAt := some time }

/-- The response of a call is verified against the bytes of a challenge; for a proof, with the key of
a credential of the user. -/
def VerifiedAgainst (challenge : Bytes) : PasskeyCall → Prop
  | .finishRegistration _ credential _ _ => ∃ verification,
    manager.registrationVerifier credential challenge manager.rpId manager.expectedOrigin =
      .ok verification
  | .finishAuthentication userId credential _ _ => ∃ stored publicKey count,
    credential.credentialId manager.rendering = .ok stored.credentialId ∧
      PasskeyManager.registered tables userId stored.credentialId = some stored ∧
      unb64 stored.publicKey = .ok publicKey ∧
      manager.authenticationVerifier credential challenge manager.rpId manager.expectedOrigin
        publicKey stored.signCount = .ok count
  | _ => False

/-- What a challenge may lead to: an answer to its own user, for its own purpose, before its expiry. -/
structure Proper (call : PasskeyCall) (finish : Finishing) (row : PasskeyChallenge) : Prop where
  user : row.userId = finish.userId
  purpose : row.purpose = finish.purpose
  picked : finish.now.1 < row.expiresAt.1
  consumed : finish.verified.1 < row.expiresAt.1
  verified : ∃ challenge, unb64 row.challenge = .ok challenge ∧
    VerifiedAgainst manager tables challenge call

/-- A finishing call that answers does so for one challenge, and properly. -/
def Led (call : PasskeyCall) : Prop :=
  ∀ finish, call.finishing = some finish →
    (∃ answer, (manager.machine.exec tables call).1 = .ok answer) →
      ∃ row, LedTo manager tables call row ∧ Proper manager tables call finish row ∧
        ∀ row', LedTo manager tables call row' → row' = row

/-- A call that raises leaves the credentials and the unconsumed challenges alone. -/
def Rejected (call : PasskeyCall) : Prop :=
  ∀ e, (manager.machine.exec tables call).1 = .error e →
    (manager.machine.exec tables call).2.credentials = tables.credentials ∧
      ∀ row : PasskeyChallenge, row.consumedAt = none →
        (row ∈ (manager.machine.exec tables call).2.challenges.rows ↔
          row ∈ tables.challenges.rows)

/-- **What the ceremonies promise** of a run of calls. -/
structure Sound (calls : List PasskeyCall) : Prop where
  led : ∀ pre call post, calls = pre ++ call :: post → Led manager (manager.after tables pre) call
  once : ∀ pre call mid call' post, calls = pre ++ call :: (mid ++ call' :: post) →
    ∀ row row', LedTo manager (manager.after tables pre) call row →
      LedTo manager (manager.after tables (pre ++ call :: mid)) call' row' → row.id ≠ row'.id
  own : ∀ pre call post proof, calls = pre ++ call :: post →
    (manager.machine.exec (manager.after tables pre) call).1 = .ok (.proved proof) →
      (∃ finish, call.finishing = some finish ∧ proof.userId = finish.userId) ∧
        (∃ stored, (manager.after tables pre).credentials.find? proof.credentialId = some stored) ∧
        ∀ other, other <+: calls → ∀ stored,
          (manager.after tables other).credentials.find? proof.credentialId = some stored →
            stored.userId = proof.userId
  counts : ∀ early late, early <+: late → late <+: calls → ∀ id stored,
    (manager.after tables early).credentials.find? id = some stored →
      ∃ stored', (manager.after tables late).credentials.find? id = some stored' ∧
        stored.signCount ≤ stored'.signCount
  rejected : ∀ pre call post, calls = pre ++ call :: post →
    Rejected manager (manager.after tables pre) call

/-- **The condition**: a finishing call whose response is accepted consumes the challenge before it
expires, and a proof ends before the year 10000. -/
def Prompt : PasskeyCall → Prop
  | .finishRegistration userId credential now verified =>
    ∀ row challenge verification credentials, Registers manager tables userId credential now verified
      row challenge verification credentials → verified.1 < row.expiresAt.1
  | .finishAuthentication userId credential now verified =>
    ∀ row challenge stored publicKey count, Authenticates manager tables userId credential now row
      challenge stored publicKey count →
        verified.1 < row.expiresAt.1 ∧ Instant.InRange (verified.1 + Duration.minutes 5)
  | _ => True

end Promises

/-! ### One call -/

section Calls

variable {manager : PasskeyManager} {tables tables' : PasskeyTables}

/-- What a challenge can become: itself, or itself consumed. -/
def Keeps (row row' : PasskeyChallenge) : Prop :=
  row' = row ∨ row.consumedAt = none ∧ ∃ time, row' = { row with consumedAt := some time }

/-- **The direction of the tables.** -/
structure Moved (tables tables' : PasskeyTables) : Prop where
  challenges : ∀ {id row}, tables.challenges.find? id = some row →
    ∃ row', tables'.challenges.find? id = some row' ∧ Keeps row row'
  credentials : ∀ {id stored}, tables.credentials.find? id = some stored →
    ∃ stored', tables'.credentials.find? id = some stored' ∧ stored'.userId = stored.userId ∧
      stored.signCount ≤ stored'.signCount

theorem Keeps.trans {row row' row'' : PasskeyChallenge} (h : Keeps row row') (h' : Keeps row' row'') :
    Keeps row row'' := by
  rcases h' with rfl | ⟨hopen, time, rfl⟩
  · exact h
  · rcases h with rfl | ⟨-, time', rfl⟩
    · exact .inr ⟨hopen, time, rfl⟩
    · exact nomatch hopen

theorem Moved.refl (tables : PasskeyTables) : Moved tables tables :=
  ⟨fun h => ⟨_, h, .inl rfl⟩, fun h => ⟨_, h, rfl, le_rfl⟩⟩

theorem Moved.trans {tables'' : PasskeyTables} (h : Moved tables tables') (h' : Moved tables' tables'') :
    Moved tables tables'' where
  challenges hfind := by
    obtain ⟨row', hfind', hkeeps⟩ := h.challenges hfind
    obtain ⟨row'', hfind'', hkeeps'⟩ := h'.challenges hfind'
    exact ⟨row'', hfind'', hkeeps.trans hkeeps'⟩
  credentials hfind := by
    obtain ⟨stored', hfind', huser, hcount⟩ := h.credentials hfind
    obtain ⟨stored'', hfind'', huser', hcount'⟩ := h'.credentials hfind'
    exact ⟨stored'', hfind'', huser'.trans huser, hcount.trans hcount'⟩

/-- Storing a challenge adds a row, or raises and adds none. -/
theorem storeChallenge_cases {ttl : Duration} {userId : String} {purpose : Purpose}
    {challenge : Bytes} {token : String} {now : Moment} :
    (∃ row challenges, tables.challenges.insert? row = some challenges ∧
      (storeChallenge ttl userId purpose challenge token now).exec tables =
        (.ok (), { tables with challenges })) ∨
    ∃ e, (storeChallenge ttl userId purpose challenge token now).exec tables = (.error e, tables) := by
  unfold storeChallenge
  rw [Effect.exec_atomically]
  cases hexpires : now.plus ttl with
  | error e => exact .inr ⟨e, rfl⟩
  | ok expiresAt =>
    cases hinsert : tables.challenges.insert? {
      id := "challenge_" ++ token
      userId, purpose
      challenge := b64 challenge
      expiresAt
      consumedAt := none } with
    | none =>
      refine .inr ⟨.integrity, ?_⟩
      simp only [StateT.run, bind, Except.bind, hinsert]
      rfl
    | some challenges =>
      refine .inl ⟨_, challenges, hinsert, ?_⟩
      simp only [StateT.run, bind, Except.bind, hinsert]
      rfl

/-- A first call stores a challenge, or raises and stores none. -/
theorem begin_cases {call : PasskeyCall} (hfinish : call.finishing = none) :
    (∃ answer row challenges, tables.challenges.insert? row = some challenges ∧
      manager.machine.exec tables call = (.ok answer, { tables with challenges })) ∨
    ∃ e, manager.machine.exec tables call = (.error e, tables) := by
  cases call with
  | finishRegistration userId credential now verified => exact nomatch hfinish
  | finishAuthentication userId credential now verified => exact nomatch hfinish
  | beginRegistration userId userName displayName challenge token now =>
    change (∃ answer row challenges, _ ∧ (PasskeyAnswer.options <$>
      manager.beginRegistration userId userName displayName challenge token now).exec tables = _) ∨
      ∃ e, (PasskeyAnswer.options <$>
        manager.beginRegistration userId userName displayName challenge token now).exec tables = _
    rw [Effect.exec_map]
    unfold PasskeyManager.beginRegistration
    rw [Effect.exec_bind, Effect.exec_query]
    cases descriptors userId tables with
    | error e => exact .inr ⟨e, rfl⟩
    | ok existing =>
      simp only
      rw [Effect.exec_bind, Effect.exec_check]
      cases manager.generateRegistrationOptions manager.rpId manager.rpName (manager.sha256 userId)
          userName displayName existing challenge with
      | error e => exact .inr ⟨e, rfl⟩
      | ok options =>
        simp only
        rw [Effect.exec_bind]
        rcases storeChallenge_cases with ⟨row, challenges, hinsert, hexec⟩ | ⟨e, hexec⟩
        · rw [hexec]
          exact .inl ⟨.options options, row, challenges, hinsert, rfl⟩
        · rw [hexec]
          exact .inr ⟨e, rfl⟩
  | beginAuthentication userId challenge token now =>
    change (∃ answer row challenges, _ ∧ (PasskeyAnswer.options <$>
      manager.beginAuthentication userId challenge token now).exec tables = _) ∨
      ∃ e, (PasskeyAnswer.options <$>
        manager.beginAuthentication userId challenge token now).exec tables = _
    rw [Effect.exec_map]
    unfold PasskeyManager.beginAuthentication
    rw [Effect.exec_bind, Effect.exec_query]
    cases descriptors userId tables with
    | error e => exact .inr ⟨e, rfl⟩
    | ok existing =>
      simp only
      rw [Effect.exec_bind, Effect.exec_check]
      cases raiseIf (existing = []) (PasskeyError.permission "user has no registered passkey") with
      | error e => exact .inr ⟨e, rfl⟩
      | ok u =>
        simp only
        rw [Effect.exec_bind, Effect.exec_check]
        cases manager.generateAuthenticationOptions manager.rpId existing challenge with
        | error e => exact .inr ⟨e, rfl⟩
        | ok options =>
          simp only
          rw [Effect.exec_bind]
          rcases storeChallenge_cases with ⟨row, challenges, hinsert, hexec⟩ | ⟨e, hexec⟩
          · rw [hexec]
            exact .inl ⟨.options options, row, challenges, hinsert, rfl⟩
          · rw [hexec]
            exact .inr ⟨e, rfl⟩

/-- A finishing call that consumes the challenge it picked. -/
structure Consumes (manager : PasskeyManager) (tables : PasskeyTables) (call : PasskeyCall)
    (finish : Finishing) (row : PasskeyChallenge) : Prop where
  picks : ∃ challenge, Picks tables finish.userId finish.purpose finish.now row challenge ∧
    VerifiedAgainst manager tables challenge call
  challenges : (manager.machine.exec tables call).2.challenges =
    (tables.consume row.id finish.verified).challenges

/-- **A finishing call, by cases.** It consumes the challenge it picked, and then the condition says
that this was before the expiry and that the call answers; or it raises and wrote nothing. -/
theorem finishing_cases {call : PasskeyCall} {finish : Finishing}
    (hfinish : call.finishing = some finish) :
    (∃ row, Consumes manager tables call finish row ∧
      (Prompt manager tables call ↔ finish.verified.1 < row.expiresAt.1 ∧
        ∃ answer, (manager.machine.exec tables call).1 = .ok answer)) ∨
    Prompt manager tables call ∧ ∃ e, manager.machine.exec tables call = (.error e, tables) := by
  cases call with
  | beginRegistration userId userName displayName challenge token now => exact nomatch hfinish
  | beginAuthentication userId challenge token now => exact nomatch hfinish
  | finishRegistration userId credential now verified =>
    obtain rfl := Option.some.inj hfinish
    have hmap : manager.machine.exec tables (.finishRegistration userId credential now verified) =
        ((((manager.finishRegistration userId credential now verified).exec tables).1.map .registered),
          ((manager.finishRegistration userId credential now verified).exec tables).2) :=
      Effect.exec_map _ _ _
    rcases @finishRegistration_cases manager tables userId credential now verified with
      ⟨row, challenge, verification, credentials, haccepted, hexec⟩ | ⟨hnot, e, hexec⟩
    · rw [hexec] at hmap
      refine .inl ⟨row, ⟨⟨challenge, haccepted.picks, verification, haccepted.verifies⟩, ?_⟩, ?_⟩
      · rw [hmap]
      · constructor
        · intro hprompt
          exact ⟨hprompt row challenge verification credentials haccepted, _, congrArg Prod.fst hmap⟩
        · rintro ⟨hbefore, -⟩ row' challenge' verification' credentials' haccepted'
          obtain ⟨rfl, -⟩ := haccepted.picks.unique haccepted'.picks
          exact hbefore
    · rw [hexec] at hmap
      exact .inr ⟨fun row challenge verification credentials h => absurd h (hnot _ _ _ _), e, hmap⟩
  | finishAuthentication userId credential now verified =>
    obtain rfl := Option.some.inj hfinish
    have hmap : manager.machine.exec tables (.finishAuthentication userId credential now verified) =
        ((((manager.finishAuthentication userId credential now verified).exec tables).1.map .proved),
          ((manager.finishAuthentication userId credential now verified).exec tables).2) :=
      Effect.exec_map _ _ _
    rcases @finishAuthentication_cases manager tables userId credential now verified with
      ⟨row, challenge, stored, publicKey, count, haccepted, hexec⟩ | ⟨hnot, e, hexec⟩
    · rw [hexec] at hmap
      refine .inl ⟨row, ⟨⟨challenge, haccepted.picks, stored, publicKey, count, haccepted.names,
        haccepted.found, haccepted.key, haccepted.verifies⟩, ?_⟩, ?_⟩
      · rw [hmap]
        rfl
      · rw [hmap]
        constructor
        · intro hprompt
          obtain ⟨hbefore, hrange⟩ := hprompt row challenge stored publicKey count haccepted
          refine ⟨hbefore, .proved ⟨userId, stored.credentialId, verified, ⟨_, hrange⟩⟩, ?_⟩
          unfold Moment.plus
          rw [dif_pos hrange]
          rfl
        · rintro ⟨hbefore, answer, hanswer⟩ row' challenge' stored' publicKey' count' haccepted'
          obtain ⟨rfl, -⟩ := haccepted.picks.unique haccepted'.picks
          refine ⟨hbefore, ?_⟩
          by_contra hrange
          unfold Moment.plus at hanswer
          rw [dif_neg hrange] at hanswer
          exact nomatch hanswer
    · rw [hexec] at hmap
      exact .inr ⟨fun _ _ _ _ _ h => absurd h (hnot _ _ _ _ _), e, hmap⟩

/-- What is consumed is the challenge the call picked, and no other. -/
theorem Consumes.ledTo {call : PasskeyCall} {finish : Finishing} {row : PasskeyChallenge}
    (h : Consumes manager tables call finish row)
    (hanswer : ∃ answer, (manager.machine.exec tables call).1 = .ok answer) :
    LedTo manager tables call row ∧ ∀ row', LedTo manager tables call row' → row' = row := by
  obtain ⟨challenge, hpicks, -⟩ := h.picks
  obtain ⟨hfind, -, -, hopen⟩ := hpicks.stored
  refine ⟨⟨hanswer, hfind, hopen, finish.verified, ?_⟩, fun row' hled => ?_⟩
  · rw [h.challenges, find?_consume hfind hopen, if_pos rfl]
  · by_cases hid : row'.id = row.id
    · have hstored := hled.stored
      rw [hid, hfind] at hstored
      exact (Option.some.inj hstored).symm
    · -- another challenge is as it was, and it was not consumed
      obtain ⟨time, hconsumed⟩ := hled.consumed
      rw [h.challenges, find?_consume hfind hopen, if_neg hid, hled.stored] at hconsumed
      have hsame := congrArg PasskeyChallenge.consumedAt (Option.some.inj hconsumed)
      exact nomatch hled.unconsumed.symm.trans hsame

/-- **One call** keeps its two promises exactly if it meets the condition. -/
theorem led_and_rejected_iff (call : PasskeyCall) :
    Led manager tables call ∧ Rejected manager tables call ↔ Prompt manager tables call := by
  cases hfinish : call.finishing with
  | none =>
    have hprompt : Prompt manager tables call := by
      cases call with
      | beginRegistration userId userName displayName challenge token now => exact trivial
      | beginAuthentication userId challenge token now => exact trivial
      | finishRegistration userId credential now verified => exact nomatch hfinish
      | finishAuthentication userId credential now verified => exact nomatch hfinish
    refine iff_of_true ⟨fun finish hsome => ?_, fun e he => ?_⟩ hprompt
    · exact nomatch hfinish.symm.trans hsome
    · rcases @begin_cases manager tables call hfinish with
        ⟨answer, row, challenges, -, hexec⟩ | ⟨e', hexec⟩
      · rw [hexec] at he
        exact nomatch he
      · rw [hexec]
        exact ⟨rfl, fun _ _ => Iff.rfl⟩
  | some finish =>
    rcases @finishing_cases manager tables call finish hfinish with
      ⟨row, hconsumes, hprompt⟩ | ⟨hprompt, e, hexec⟩
    · rw [hprompt]
      obtain ⟨challenge, hpicks, hverified⟩ := hconsumes.picks
      obtain ⟨hfind, huser, hpurpose, hopen⟩ := hpicks.stored
      constructor
      · rintro ⟨hled, hrejected⟩
        cases hanswer : (manager.machine.exec tables call).1 with
        | ok answer =>
          obtain ⟨row', hledTo, hproper, -⟩ := hled finish hfinish ⟨answer, hanswer⟩
          obtain rfl := (hconsumes.ledTo ⟨answer, hanswer⟩).2 row' hledTo
          exact ⟨hproper.consumed, answer, rfl⟩
        | error e =>
          -- the challenge was there unconsumed, and is not any more
          have hmem := ((hrejected e hanswer).2 row hopen).mpr (Table.mem_of_find? hfind)
          rw [hconsumes.challenges] at hmem
          have hstill := Table.find?_of_mem hmem
          rw [find?_consume hfind hopen, if_pos rfl] at hstill
          have hsame := congrArg PasskeyChallenge.consumedAt (Option.some.inj hstill)
          exact nomatch hopen.symm.trans hsame.symm
      · rintro ⟨hbefore, answer, hanswer⟩
        refine ⟨fun finish' hfinish' hanswer' => ?_, fun e he => nomatch hanswer.symm.trans he⟩
        obtain rfl := Option.some.inj (hfinish.symm.trans hfinish')
        obtain ⟨hledTo, hunique⟩ := hconsumes.ledTo hanswer'
        have hproper : Proper manager tables call finish row :=
          ⟨huser, hpurpose, hpicks.current, hbefore, challenge, hpicks.bytes, hverified⟩
        exact ⟨row, hledTo, hproper, hunique⟩
    · refine iff_of_true ⟨fun finish' _ hanswer => ?_, fun e' _ => ?_⟩ hprompt
      · obtain ⟨answer, hanswer⟩ := hanswer
        rw [hexec] at hanswer
        exact nomatch hanswer
      · rw [hexec]
        exact ⟨rfl, fun _ _ => Iff.rfl⟩

/-- The challenges after a consumption. -/
theorem keeps_consume {row : PasskeyChallenge} {time : Moment}
    (hfind : tables.challenges.find? row.id = some row) (hopen : row.consumedAt = none) {id : String}
    {other : PasskeyChallenge} (hother : tables.challenges.find? id = some other) :
    ∃ other', (tables.consume row.id time).challenges.find? id = some other' ∧ Keeps other other' := by
  rw [find?_consume hfind hopen]
  by_cases hid : id = row.id
  · rw [if_pos hid]
    rw [hid, hfind] at hother
    obtain rfl := Option.some.inj hother
    exact ⟨_, rfl, .inr ⟨hopen, time, rfl⟩⟩
  · rw [if_neg hid]
    exact ⟨other, hother, .inl rfl⟩

theorem moved_begin {call : PasskeyCall} (hfinish : call.finishing = none) :
    Moved tables (manager.machine.exec tables call).2 := by
  rcases @begin_cases manager tables call hfinish with
    ⟨answer, row, challenges, hinsert, hexec⟩ | ⟨e, hexec⟩
  · rw [hexec]
    refine ⟨fun {id other} hother => ⟨other, ?_, .inl rfl⟩, fun hstored => ⟨_, hstored, rfl, le_rfl⟩⟩
    change challenges.find? id = some other
    rw [Table.find?_insert hinsert, if_neg]
    · exact hother
    · rintro rfl
      exact nomatch (Table.insert?_eq_some.mp hinsert).1.symm.trans hother
  · rw [hexec]
    exact .refl tables

/-- Using a credential keeps its user, and its count does not fall. -/
theorem counted_use (hcounting : manager.Counting) {userId : String} {credential : PasskeyResponse}
    {now verified : Moment} {row : PasskeyChallenge} {challenge publicKey : Bytes}
    {stored : PasskeyCredential} {count : Int}
    (haccepted : Authenticates manager tables userId credential now row challenge stored publicKey
      count) {id : String} {other : PasskeyCredential} (hother : tables.credentials.find? id = some other) :
    ∃ other', (stepUp tables userId row stored count verified).credentials.find? id = some other' ∧
      other'.userId = other.userId ∧ other.signCount ≤ other'.signCount := by
  obtain ⟨hfind, -⟩ := registered_some.mp haccepted.found
  have hnew : (stepUp tables userId row stored count verified).credentials.find? id =
      some (if other.credentialId = stored.credentialId && other.userId = userId then
        { other with signCount := count, lastUsedAt := some verified } else other) := by
    unfold stepUp PasskeyTables.use
    rw [Table.find?_updateWhere, credentials_consume, hother]
    rfl
  rw [hnew]
  by_cases hused : other.credentialId = stored.credentialId ∧ other.userId = userId
  · -- the credential that was used: its count was the one the response was verified with
    have hsame : other = stored := by
      have hkey := Table.key_of_find? hother
      rw [← hkey, hused.1, hfind] at hother
      exact (Option.some.inj hother).symm
    have hle : stored.signCount ≤ count := by
      rcases hcounting haccepted.verifies with hlt | ⟨hzero, hzero'⟩
      · exact hlt.le
      · rw [hzero, hzero']
    refine ⟨_, rfl, ?_⟩
    rw [if_pos (by simp [hused])]
    rw [hsame]
    exact ⟨rfl, hle⟩
  · refine ⟨_, rfl, ?_⟩
    rw [if_neg (by simpa using hused)]
    exact ⟨rfl, le_rfl⟩

/-- **The step lemma**: every call moves the tables one way. -/
theorem moved_exec (hcounting : manager.Counting) (tables : PasskeyTables) (call : PasskeyCall) :
    Moved tables (manager.machine.exec tables call).2 := by
  cases call with
  | beginRegistration userId userName displayName challenge token now =>
    exact moved_begin rfl
  | beginAuthentication userId challenge token now => exact moved_begin rfl
  | finishRegistration userId credential now verified =>
    change Moved tables ((PasskeyAnswer.registered <$>
      manager.finishRegistration userId credential now verified).exec tables).2
    rw [Effect.exec_map]
    rcases @finishRegistration_cases manager tables userId credential now verified with
      ⟨row, challenge, verification, credentials, haccepted, hexec⟩ | ⟨-, e, hexec⟩
    · rw [hexec]
      obtain ⟨hfind, -, -, hopen⟩ := haccepted.picks.stored
      refine ⟨keeps_consume hfind hopen, fun {id stored} hstored => ⟨stored, ?_, rfl, le_rfl⟩⟩
      have hfree := (Table.insert?_eq_some.mp haccepted.inserts).1
      change credentials.find? id = some stored
      rw [Table.find?_insert haccepted.inserts, if_neg]
      · exact hstored
      · rintro rfl
        exact nomatch hfree.symm.trans hstored
    · rw [hexec]
      exact .refl tables
  | finishAuthentication userId credential now verified =>
    change Moved tables ((PasskeyAnswer.proved <$>
      manager.finishAuthentication userId credential now verified).exec tables).2
    rw [Effect.exec_map]
    rcases @finishAuthentication_cases manager tables userId credential now verified with
      ⟨row, challenge, stored, publicKey, count, haccepted, hexec⟩ | ⟨-, e, hexec⟩
    · rw [hexec]
      obtain ⟨hfind, -, -, hopen⟩ := haccepted.picks.stored
      refine ⟨keeps_consume hfind hopen, fun {id other} hother => ?_⟩
      exact counted_use hcounting haccepted hother
    · rw [hexec]
      exact .refl tables

end Calls

/-! ### Runs -/

section Runs

variable {manager : PasskeyManager} {tables : PasskeyTables}

theorem after_snoc (pre : List PasskeyCall) (call : PasskeyCall) :
    manager.after tables (pre ++ [call]) = (manager.machine.exec (manager.after tables pre) call).2 := by
  unfold PasskeyManager.after
  rw [Machine.replay_append]
  rfl

/-- **The run lemma**: a run moves the tables one way. -/
theorem moved_after (hcounting : manager.Counting) {early late : List PasskeyCall}
    (h : early <+: late) : Moved (manager.after tables early) (manager.after tables late) := by
  obtain ⟨rest, rfl⟩ := h
  unfold PasskeyManager.after
  rw [Machine.replay_append]
  exact manager.machine.replay_moves Moved.refl (fun _ _ _ => Moved.trans) (moved_exec hcounting) _ rest

theorem map_ne_proved {α : Type} {f : α → PasskeyAnswer} {r : Except PasskeyError α}
    {proof : StepUpProof} (hf : ∀ a, f a ≠ .proved proof) : r.map f ≠ .ok (.proved proof) := by
  cases r with
  | error e => exact nofun
  | ok a => exact fun h => hf a (Except.ok.inj h)

/-- A proof is one of the user of the call, with a credential of that user. -/
theorem proved_own {call : PasskeyCall} {proof : StepUpProof}
    (h : (manager.machine.exec tables call).1 = .ok (.proved proof)) :
    (∃ finish, call.finishing = some finish ∧ proof.userId = finish.userId) ∧
      ∃ stored, tables.credentials.find? proof.credentialId = some stored ∧
        stored.userId = proof.userId := by
  have hexec : (manager.machine.exec tables call).1 = ((manager.handle call).exec tables).1 := rfl
  rw [hexec] at h
  cases call with
  | beginRegistration userId userName displayName challenge token now =>
    unfold PasskeyManager.handle at h
    rw [Effect.exec_map] at h
    exact absurd h (map_ne_proved fun _ => nofun)
  | finishRegistration userId credential now verified =>
    unfold PasskeyManager.handle at h
    rw [Effect.exec_map] at h
    exact absurd h (map_ne_proved fun _ => nofun)
  | beginAuthentication userId challenge token now =>
    unfold PasskeyManager.handle at h
    rw [Effect.exec_map] at h
    exact absurd h (map_ne_proved fun _ => nofun)
  | finishAuthentication userId credential now verified =>
    unfold PasskeyManager.handle at h
    rw [Effect.exec_map] at h
    rcases @finishAuthentication_cases manager tables userId credential now verified with
      ⟨row, challenge, stored, publicKey, count, haccepted, hcase⟩ | ⟨-, e, hcase⟩
    · rw [hcase] at h
      obtain ⟨hfind, huser⟩ := registered_some.mp haccepted.found
      cases hexpires : verified.plus (Duration.minutes 5) with
      | error e =>
        rw [hexpires] at h
        exact nomatch h
      | ok expiresAt =>
        rw [hexpires] at h
        obtain rfl := PasskeyAnswer.proved.inj (Except.ok.inj h)
        exact ⟨⟨_, rfl, rfl⟩, stored, hfind, huser⟩
    · rw [hcase] at h
      exact nomatch h

/-- **Single use.** Two calls of a run are not answered for one challenge. -/
theorem ledTo_once (hcounting : manager.Counting) {pre mid : List PasskeyCall}
    {call call' : PasskeyCall} {row row' : PasskeyChallenge}
    (h : LedTo manager (manager.after tables pre) call row)
    (h' : LedTo manager (manager.after tables (pre ++ call :: mid)) call' row') : row.id ≠ row'.id := by
  intro hid
  obtain ⟨time, hconsumed⟩ := h.consumed
  rw [← after_snoc] at hconsumed
  have hprefix : pre ++ [call] <+: pre ++ call :: mid := ⟨mid, by simp⟩
  obtain ⟨later, hlater, hkeeps⟩ := (moved_after hcounting hprefix).challenges hconsumed
  rw [hid, h'.stored] at hlater
  obtain rfl := Option.some.inj hlater
  rcases hkeeps with hsame | ⟨hopen, -⟩
  · have hnone := h'.unconsumed
    rw [hsame] at hnone
    exact nomatch hnone
  · exact nomatch hopen

/-- A credential has one user all along a run. -/
theorem user_stable (hcounting : manager.Counting) {calls one other : List PasskeyCall}
    (hone : one <+: calls) (hother : other <+: calls) {id : String}
    {stored stored' : PasskeyCredential}
    (h : (manager.after tables one).credentials.find? id = some stored)
    (h' : (manager.after tables other).credentials.find? id = some stored') :
    stored'.userId = stored.userId := by
  rcases List.prefix_or_prefix_of_prefix hone hother with hle | hle
  · obtain ⟨later, hlater, huser, -⟩ := (moved_after hcounting hle).credentials h
    rw [h'] at hlater
    obtain rfl := Option.some.inj hlater
    exact huser
  · obtain ⟨later, hlater, huser, -⟩ := (moved_after hcounting hle).credentials h'
    rw [h] at hlater
    obtain rfl := Option.some.inj hlater
    exact huser.symm

/-- A sound run meets the condition at each of its calls. -/
theorem Sound.prompt {calls : List PasskeyCall} (h : Sound manager tables calls)
    (pre : List PasskeyCall) (call : PasskeyCall) (post : List PasskeyCall)
    (hcalls : calls = pre ++ call :: post) : Prompt manager (manager.after tables pre) call :=
  (led_and_rejected_iff call).mp ⟨h.led pre call post hcalls, h.rejected pre call post hcalls⟩

/-- **Passkey ceremonies.** A run of calls is sound exactly if every finishing call whose response is
accepted consumes its challenge before the expiry, and for a proof leaves five minutes before the end
of the year 9999. -/
theorem ceremonies_iff (manager : PasskeyManager) (hcounting : manager.Counting)
    (tables : PasskeyTables) (calls : List PasskeyCall) :
    Sound manager tables calls ↔
      manager.machine.Follows (fun stage call => Prompt manager stage.state call)
        (Machine.start tables) calls := by
  rw [Machine.follows_iff]
  constructor
  · intro h
    exact h.prompt
  · intro h
    have hboth : ∀ pre call post, calls = pre ++ call :: post →
        Led manager (manager.after tables pre) call ∧
          Rejected manager (manager.after tables pre) call :=
      fun pre call post hcalls => (led_and_rejected_iff call).mpr (h pre call post hcalls)
    refine ⟨fun pre call post hcalls => (hboth pre call post hcalls).1, ?_, ?_, ?_,
      fun pre call post hcalls => (hboth pre call post hcalls).2⟩
    · intro pre call mid call' post _ row row' hled hled'
      exact ledTo_once hcounting hled hled'
    · intro pre call post proof hcalls hproof
      obtain ⟨hfinish, stored, hstored, huser⟩ := proved_own hproof
      refine ⟨hfinish, ⟨stored, hstored⟩, fun other hother stored' hstored' => ?_⟩
      have hpre : pre <+: calls := ⟨call :: post, hcalls.symm⟩
      exact (user_stable hcounting hpre hother hstored hstored').trans huser
    · intro early late hle _ id stored hstored
      obtain ⟨stored', hstored', -, hcount⟩ := (moved_after hcounting hle).credentials hstored
      exact ⟨stored', hstored', hcount⟩

end Runs

/-! ### Two runs -/

/-- A manager as the tests build it: the response to an authentication counts one further. -/
def syntheticManager : PasskeyManager where
  rpId := "example.invalid"
  rpName := "Synthetic RP"
  expectedOrigin := "https://example.invalid"
  rendering := ⟨fun _ => "", fun _ => false⟩
  sha256 := fun _ => []
  generateRegistrationOptions := fun _ _ _ _ _ _ _ => .ok "options"
  generateAuthenticationOptions := fun _ _ _ => .ok "options"
  registrationVerifier := fun _ _ _ _ => .ok ⟨[1], [2], 0⟩
  authenticationVerifier := fun _ _ _ _ _ stored => .ok (stored + 1)

theorem syntheticManager_counting : syntheticManager.Counting := by
  intro response challenge rpId origin publicKey stored count h
  obtain rfl := Except.ok.inj h
  exact .inl (lt_add_one stored)

/-- A time, if it is one of a datetime. -/
def Moment.at (t : Int) : Moment := if h : Instant.InRange t then ⟨t, h⟩ else .epoch

/-- A registration and a step-up, a second between any two readings of the clock. -/
def ceremony : List PasskeyCall :=
  [.beginRegistration "user_test" "synthetic-user" "Synthetic User" [7] "a" (.at 0),
    .finishRegistration "user_test" (.object []) (.at 1000000) (.at 2000000),
    .beginAuthentication "user_test" [8] "b" (.at 3000000),
    .finishAuthentication "user_test" (.object [("id", .str "AQ")]) (.at 4000000)
      (.at 5000000)]

/-- The expiry of the newest challenge is the one of any challenge picked. -/
theorem Picks.expiry {tables : PasskeyTables} {userId : String} {purpose : Purpose} {now : Moment}
    {row : PasskeyChallenge} {challenge : Bytes} {n : Int}
    (h : Picks tables userId purpose now row challenge)
    (hn : (newestChallenge tables userId purpose).map (fun row => row.expiresAt.1) = some n) :
    row.expiresAt.1 = n := by
  rw [h.newest] at hn
  exact Option.some.inj hn

theorem ceremonies_iff_ceremony : Sound syntheticManager {} ceremony := by
  refine (ceremonies_iff syntheticManager syntheticManager_counting {} ceremony).mpr
    ⟨trivial, ?_, trivial, ?_, trivial⟩
  · intro row challenge verification credentials h
    rw [h.picks.expiry (n := 300000000) (by decide +kernel)]
    decide
  · intro row challenge stored publicKey count h
    rw [h.picks.expiry (n := 303000000) (by decide +kernel)]
    decide

/-- A registration, a second after midnight, that takes six minutes to verify. -/
def lateRegistration : PasskeyCall :=
  .finishRegistration "user_test" (.object []) (.at 1000000) (.at 360000000)

/-- A step-up four minutes before the end of the year 9999. -/
def lastStepUp : PasskeyCall :=
  .finishAuthentication "user_test" (.object [("id", .str "AQ")]) (.at 253402300560000000)
    (.at 253402300560000000)

/-- The challenge of the late registration. -/
def beforeLate : List PasskeyCall :=
  [.beginRegistration "user_test" "synthetic-user" "Synthetic User" [7] "a" (.at 0)]

/-- The credential and the challenge of the last step-up. -/
def beforeLast : List PasskeyCall :=
  [.beginRegistration "user_test" "synthetic-user" "Synthetic User" [7] "a" (.at 0),
    .finishRegistration "user_test" (.object []) (.at 1000000) (.at 2000000),
    .beginAuthentication "user_test" [8] "b" (.at 253402300380000000)]

theorem late_answers : (syntheticManager.machine.exec (syntheticManager.after {} beforeLate)
    lateRegistration).1.isOk = true := by decide +kernel

theorem last_raises : (syntheticManager.machine.exec (syntheticManager.after {} beforeLast)
    lastStepUp).1.isOk = false := by decide +kernel

theorem last_writes : (syntheticManager.machine.exec (syntheticManager.after {} beforeLast)
    lastStepUp).2 ≠ syntheticManager.after {} beforeLast := by decide +kernel

/-- The promises fail in both runs: the first registers a credential for an expired challenge, the
second raises when the challenge is already consumed. -/
theorem not_sound_late : syntheticManager.Counting ∧
    ¬ Sound syntheticManager {} (beforeLate ++ [lateRegistration]) ∧
    ¬ Sound syntheticManager {} (beforeLast ++ [lastStepUp]) := by
  refine ⟨syntheticManager_counting, fun h => ?_, fun h => ?_⟩
  · have hprompt := h.prompt beforeLate lateRegistration [] rfl
    have hfinishing : lateRegistration.finishing =
        some ⟨"user_test", .registration, .at 1000000, .at 360000000⟩ := rfl
    rcases finishing_cases hfinishing with ⟨row, hconsumes, hiff⟩ | ⟨-, e, hexec⟩
    · obtain ⟨challenge, hpicks, -⟩ := hconsumes.picks
      have hbefore := (hiff.mp hprompt).1
      rw [hpicks.expiry (n := 300000000) (by decide +kernel)] at hbefore
      exact absurd hbefore (by decide)
    · have hanswers := late_answers
      rw [hexec] at hanswers
      exact nomatch hanswers
  · have hprompt := h.prompt beforeLast lastStepUp [] rfl
    have hfinishing : lastStepUp.finishing = some ⟨"user_test", .authentication,
        .at 253402300560000000, .at 253402300560000000⟩ := rfl
    rcases finishing_cases hfinishing with ⟨row, -, hiff⟩ | ⟨-, e, hexec⟩
    · obtain ⟨-, answer, hanswer⟩ := hiff.mp hprompt
      have hraises := last_raises
      rw [hanswer] at hraises
      exact nomatch hraises
    · exact last_writes (by rw [hexec])

end Zhixu.Vault
