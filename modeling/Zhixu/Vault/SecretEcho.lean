import Mathlib.Data.List.Infix
import Zhixu.Framework.JsonDump
import Zhixu.Vault.UseAudit

/-!
# Secrets that come back

`use` does not return a result in which the secret occurs. It looks for the text of the secret in the
JSON text of the result, where some characters stand for themselves and others are escaped.

`PyValue` is what an executor may return, and `Contains` says that a text is one of its strings, as a
value or as a key, at any depth. A string of a result stands in the JSON text in quotes
(`quote_infix_dumps`), so a secret that is part of the string is found wherever it is part of its own
escaped form. It is also found if it is part of what stands in every JSON text of a result.

No other secret is found in every result that has it. The two results that show this have it between
two runs of one character, longer than the secret and of neither its first nor its last character: an
occurrence cannot begin or end in a run (`infix_padded`), so it lies in the escaped form or in what
surrounds the runs, and the two results have different surroundings (`always_seen`).

What is looked for is the text in the buffer after the executor has returned, which need not be the
secret any more. The results are about that text, whatever it is.
-/

open Framework

namespace Zhixu.Vault

/-! ### Results -/

/-- A key of a `dict`, as `json.dumps` tells them apart. -/
inductive PyKey
  | str (value : String)
  | int (value : Int)
  | float (text : List Char)
  | bool (value : Bool)
  | none
  /-- of another type -/
  | other
deriving DecidableEq

/-- A value, as `json.dumps` tells them apart. -/
inductive PyValue
  | none
  | bool (value : Bool)
  | int (value : Int)
  | float (text : List Char)
  | str (value : String)
  /-- a `list` or a `tuple` -/
  | list (items : List PyValue)
  | dict (members : List (PyKey × PyValue))
  /-- of another type -/
  | other

/-- The data of a result. -/
abbrev PyDict := List (PyKey × PyValue)

/-- `true` or `false`. -/
def boolText (value : Bool) : List Char :=
  if value = true then ['t', 'r', 'u', 'e'] else ['f', 'a', 'l', 's', 'e']

/-- A key, as the string it becomes. -/
def PyKey.dumps : PyKey → Except VaultError (List Char)
  | .str value => .ok (Json.quote value)
  | .int value => .ok ('"' :: (Json.writeInt value ++ ['"']))
  | .float text => .ok ('"' :: (text ++ ['"']))
  | .bool value => .ok ('"' :: (boolText value ++ ['"']))
  | .none => .ok ['"', 'n', 'u', 'l', 'l', '"']
  | .other => .error (.type "keys must be str, int, float, bool or None")

mutual

/-- `json.dumps(value, ensure_ascii=False, default=lambda _value: "<unsupported>")`. -/
def PyValue.dumps : PyValue → Except VaultError (List Char)
  | .none => .ok ['n', 'u', 'l', 'l']
  | .bool value => .ok (boolText value)
  | .int value => .ok (Json.writeInt value)
  | .float text => .ok text
  | .str value => .ok (Json.quote value)
  | .list items => do
    let body ← dumpsItems items
    return '[' :: (body ++ [']'])
  | .dict members => do
    let body ← dumpsMembers members
    return '\x7b' :: (body ++ ['\x7d'])
  | .other => .ok (Json.quote "<unsupported>")

/-- The items of a list, between its brackets. -/
def dumpsItems : List PyValue → Except VaultError (List Char)
  | [] => .ok []
  | [value] => value.dumps
  | value :: rest => do
    let first ← value.dumps
    let others ← dumpsItems rest
    return first ++ ([',', ' '] ++ others)

/-- The members of a `dict`, between its braces. -/
def dumpsMembers : List (PyKey × PyValue) → Except VaultError (List Char)
  | [] => .ok []
  | [(key, value)] => do
    let name ← key.dumps
    let first ← value.dumps
    return name ++ ([':', ' '] ++ first)
  | (key, value) :: rest => do
    let name ← key.dumps
    let first ← value.dumps
    let others ← dumpsMembers rest
    return name ++ ([':', ' '] ++ (first ++ ([',', ' '] ++ others)))

end

/-- The JSON text of a result. -/
def dumpsResult (code : String) (data : PyDict) : Except VaultError (List Char) :=
  (PyValue.dict [(.str "code", .str code), (.str "data", .dict data)]).dumps

/-- A string of a value, at any depth. -/
inductive Contains (text : String) : PyValue → Prop
  | str : Contains text (.str text)
  | item {items : List PyValue} {value : PyValue} (mem : value ∈ items) (inside : Contains text value) :
      Contains text (.list items)
  | key {members : PyDict} {value : PyValue} (mem : (PyKey.str text, value) ∈ members) :
      Contains text (.dict members)
  | member {members : PyDict} {key : PyKey} {value : PyValue} (mem : (key, value) ∈ members)
      (inside : Contains text value) : Contains text (.dict members)

/-- The secret occurs in the code or in a string of the data. -/
def Echoes (secret : List Char) (result : ExecutionResult PyDict) : Prop :=
  secret <:+: result.code.toList ∨
    ∃ text, Contains text (.dict result.data) ∧ secret <:+: text.toList

/-- The escaped form of a text. -/
def escaped (text : List Char) : List Char := text.flatMap Json.escapeControl

/-- What every JSON text of a result begins with. -/
def openingText : List Char := ['\x7b', '"', 'c', 'o', 'd', 'e', '"', ':', ' ', '"']

/-- What stands in it between the code and the data. -/
def dataText : List Char := ['"', ',', ' ', '"', 'd', 'a', 't', 'a', '"', ':', ' ', '\x7b']

/-- What it ends with. -/
def closingText : List Char := ['\x7d', '\x7d']

/-- A text that is found in the JSON text of every result with the secret in it. -/
def AlwaysSeen (secret text : List Char) : Prop :=
  text <:+: escaped secret ∨ text <:+: openingText ∨ text <:+: dataText ∨ text <:+: closingText

/-! ### The strings of a result in its JSON text -/

theorem dumpsItems_infix {items : List PyValue} {value : PyValue} (h : value ∈ items)
    {out : List Char} (hout : dumpsItems items = .ok out) :
    ∃ part, value.dumps = .ok part ∧ part <:+: out := by
  induction items generalizing out with
  | nil => exact absurd h List.not_mem_nil
  | cons first items ih =>
    cases items with
    | nil =>
      rw [List.mem_singleton] at h
      rw [dumpsItems] at hout
      rw [h]
      exact ⟨out, hout, List.infix_rfl⟩
    | cons next items =>
      rw [dumpsItems] at hout
      · obtain ⟨part, hpart, hout⟩ := bind_eq_ok.mp hout
        obtain ⟨others, hothers, hout⟩ := bind_eq_ok.mp hout
        obtain rfl := Except.ok.inj hout
        rcases List.mem_cons.mp h with rfl | hrest
        · exact ⟨part, hpart, (List.prefix_append _ _).isInfix⟩
        · obtain ⟨part', hpart', hinfix⟩ := ih hrest hothers
          exact ⟨part', hpart', hinfix.trans
            ((List.suffix_append _ _).trans (List.suffix_append _ _)).isInfix⟩
      · exact fun hnil => absurd hnil (by simp)

theorem dumpsMembers_infix {members : PyDict} {key : PyKey} {value : PyValue}
    (h : (key, value) ∈ members) {out : List Char} (hout : dumpsMembers members = .ok out) :
    ∃ name part, key.dumps = .ok name ∧ value.dumps = .ok part ∧ name <:+: out ∧ part <:+: out := by
  induction members generalizing out with
  | nil => exact absurd h List.not_mem_nil
  | cons first members ih =>
    obtain ⟨key', value'⟩ := first
    cases members with
    | nil =>
      rw [List.mem_singleton, Prod.mk.injEq] at h
      obtain ⟨rfl, rfl⟩ := h
      rw [dumpsMembers] at hout
      obtain ⟨name, hname, hout⟩ := bind_eq_ok.mp hout
      obtain ⟨part, hpart, hout⟩ := bind_eq_ok.mp hout
      obtain rfl := Except.ok.inj hout
      exact ⟨name, part, hname, hpart, (List.prefix_append _ _).isInfix,
        ((List.suffix_append _ _).trans (List.suffix_append _ _)).isInfix⟩
    | cons next members =>
      rw [dumpsMembers] at hout
      · obtain ⟨name, hname, hout⟩ := bind_eq_ok.mp hout
        obtain ⟨part, hpart, hout⟩ := bind_eq_ok.mp hout
        obtain ⟨others, hothers, hout⟩ := bind_eq_ok.mp hout
        obtain rfl := Except.ok.inj hout
        have htail : part ++ ([',', ' '] ++ others) <:+
            name ++ ([':', ' '] ++ (part ++ ([',', ' '] ++ others))) :=
          (List.suffix_append _ _).trans (List.suffix_append _ _)
        rcases List.mem_cons.mp h with hhere | hrest
        · obtain ⟨rfl, rfl⟩ := Prod.mk.inj hhere
          exact ⟨name, part, hname, hpart, (List.prefix_append _ _).isInfix,
            (List.prefix_append _ _).isInfix.trans htail.isInfix⟩
        · obtain ⟨name', part', hname', hpart', hin, hin'⟩ := ih hrest hothers
          have hothers : others <:+: name ++ ([':', ' '] ++ (part ++ ([',', ' '] ++ others))) :=
            (((List.suffix_append _ _).trans (List.suffix_append _ _)).trans htail).isInfix
          exact ⟨name', part', hname', hpart', hin.trans hothers, hin'.trans hothers⟩
      · exact fun hnil => absurd hnil (by simp)

/-- **A string of a value stands in its JSON text**, in quotes. -/
theorem quote_infix_dumps {text : String} {value : PyValue} (h : Contains text value)
    {out : List Char} (hout : value.dumps = .ok out) : Json.quote text <:+: out := by
  induction h generalizing out with
  | str =>
    rw [PyValue.dumps] at hout
    obtain rfl := Except.ok.inj hout
    exact List.infix_rfl
  | item mem _ ih =>
    rw [PyValue.dumps] at hout
    obtain ⟨body, hbody, hout⟩ := bind_eq_ok.mp hout
    obtain rfl := Except.ok.inj hout
    obtain ⟨part, hpart, hinfix⟩ := dumpsItems_infix mem hbody
    have hbody : body <:+: '[' :: (body ++ [']']) :=
      (List.prefix_append body _).isInfix.trans (List.suffix_cons _ _).isInfix
    exact ((ih hpart).trans hinfix).trans hbody
  | key mem =>
    rw [PyValue.dumps] at hout
    obtain ⟨body, hbody, hout⟩ := bind_eq_ok.mp hout
    obtain rfl := Except.ok.inj hout
    obtain ⟨name, part, hname, -, hinfix, -⟩ := dumpsMembers_infix mem hbody
    obtain rfl := Except.ok.inj hname
    have hbody : body <:+: '\x7b' :: (body ++ ['\x7d']) :=
      (List.prefix_append body _).isInfix.trans (List.suffix_cons _ _).isInfix
    exact hinfix.trans hbody
  | member mem _ ih =>
    rw [PyValue.dumps] at hout
    obtain ⟨body, hbody, hout⟩ := bind_eq_ok.mp hout
    obtain rfl := Except.ok.inj hout
    obtain ⟨name, part, -, hpart, -, hinfix⟩ := dumpsMembers_infix mem hbody
    have hbody : body <:+: '\x7b' :: (body ++ ['\x7d']) :=
      (List.prefix_append body _).isInfix.trans (List.suffix_cons _ _).isInfix
    exact ((ih hpart).trans hinfix).trans hbody

/-- The JSON text of a result, in its parts. -/
theorem dumpsResult_ok {code : String} {data : PyDict} {out : List Char} :
    dumpsResult code data = .ok out ↔ ∃ body, dumpsMembers data = .ok body ∧
      out = openingText ++ (escaped code.toList ++ (dataText ++ (body ++ closingText))) := by
  have htext : ∀ body : List Char, '\x7b' :: ((Json.quote "code" ++ ([':', ' '] ++
      (Json.quote code ++ ([',', ' '] ++ (Json.quote "data" ++ ([':', ' '] ++
        ('\x7b' :: (body ++ ['\x7d'])))))))) ++ ['\x7d']) =
      openingText ++ (escaped code.toList ++ (dataText ++ (body ++ closingText))) := by
    intro body
    have hcode : Json.quote "code" = ['"', 'c', 'o', 'd', 'e', '"'] := by decide
    have hdata : Json.quote "data" = ['"', 'd', 'a', 't', 'a', '"'] := by decide
    rw [hcode, hdata]
    simp [openingText, dataText, closingText, escaped, Json.quote]
  unfold dumpsResult
  cases hbody : dumpsMembers data with
  | error e =>
    constructor
    · intro h
      simp [PyValue.dumps, dumpsMembers, PyKey.dumps, hbody, bind, Except.bind] at h
    · rintro ⟨body, h, -⟩
      exact absurd h (by simp)
  | ok body =>
    have hdumps : (PyValue.dict [(.str "code", .str code), (.str "data", .dict data)]).dumps =
        .ok (openingText ++ (escaped code.toList ++ (dataText ++ (body ++ closingText)))) := by
      rw [← htext]
      simp [PyValue.dumps, dumpsMembers, PyKey.dumps, hbody, bind, Except.bind, pure, Except.pure]
    rw [hdumps]
    constructor
    · intro h
      exact ⟨body, rfl, (Except.ok.inj h).symm⟩
    · rintro ⟨body', h, hout⟩
      obtain rfl := Except.ok.inj h
      exact congrArg Except.ok hout.symm

/-! ### Occurrences between runs of a character -/

/-- An occurrence cannot begin or end in a run of a character that is as long as it is, when that is
neither its first character nor its last. -/
theorem infix_padded {α : Type} {text front back : List α} {c : α} {n : ℕ} (hne : text ≠ [])
    (hn : text.length ≤ n) (hfirst : text.head? ≠ some c) (hlast : text.getLast? ≠ some c)
    (h : text <:+: front ++ (List.replicate n c ++ back)) : text <:+: front ∨ text <:+: back := by
  -- what is not empty and inside the run begins and ends with its character
  have hrun : ∀ {part : List α}, part ≠ [] → part <:+: List.replicate n c →
      part.head? = some c ∧ part.getLast? = some c := by
    intro part hpart hin
    rw [(List.infix_replicate_iff.mp hin).2]
    have hpos : part.length ≠ 0 := fun hzero => hpart (List.length_eq_zero_iff.mp hzero)
    exact ⟨by rw [List.head?_replicate, if_neg hpos], by rw [List.getLast?_replicate, if_neg hpos]⟩
  rcases List.infix_append_iff_ne_nil.mp h with hfront | hrest | ⟨u, v, hu, hv, rfl, -, hprefix⟩
  · exact .inl hfront
  · rcases List.infix_append_iff_ne_nil.mp hrest with hin | hback | ⟨u, v, hu, hv, rfl, hsuffix, -⟩
    · exact absurd (hrun hne hin).1 hfirst
    · exact .inr hback
    · -- it would begin in the run
      have hhead := (hrun hu hsuffix.isInfix).1
      rw [List.head?_append, hhead] at hfirst
      exact absurd rfl hfirst
  · -- it would end in the run
    have hlength : v.length ≤ (List.replicate n c).length := by
      rw [List.length_append] at hn
      rw [List.length_replicate]
      omega
    have hin := List.prefix_of_prefix_length_le hprefix (List.prefix_append _ _) hlength
    have hend := (hrun hv hin.isInfix).2
    rw [List.getLast?_append, hend] at hlast
    exact absurd rfl hlast

/-- A character that a text neither begins nor ends with. -/
theorem exists_padding (text : List Char) :
    ∃ c, Json.escapeControl c = [c] ∧ text.head? ≠ some c ∧ text.getLast? ≠ some c := by
  by_cases ha : text.head? ≠ some 'a' ∧ text.getLast? ≠ some 'a'
  · exact ⟨'a', by decide, ha⟩
  by_cases hb : text.head? ≠ some 'b' ∧ text.getLast? ≠ some 'b'
  · exact ⟨'b', by decide, hb⟩
  refine ⟨'c', by decide, ?_, ?_⟩
  · intro hc
    rw [hc] at ha hb
    simp_all
  · intro hc
    rw [hc] at ha hb
    simp_all

theorem escaped_run {c : Char} (hc : Json.escapeControl c = [c]) (n : ℕ) :
    escaped (List.replicate n c) = List.replicate n c := by
  unfold escaped
  induction n with
  | zero => rfl
  | succ n ih => rw [List.replicate_succ, List.flatMap_cons, hc, ih, List.singleton_append]

theorem escaped_append (text text' : List Char) :
    escaped (text ++ text') = escaped text ++ escaped text' := List.flatMap_append

theorem escaped_padded {c : Char} (hc : Json.escapeControl c = [c]) (n : ℕ) (text : List Char) :
    escaped (List.replicate n c ++ (text ++ List.replicate n c)) =
      List.replicate n c ++ (escaped text ++ List.replicate n c) := by
  rw [escaped_append, escaped_append, escaped_run hc]

/-- What stands behind the code, when there is no data and when there is, has little in common. -/
theorem common_surroundings {text : List Char} (h : text <:+: dataText ++ closingText)
    (h' : text <:+: dataText ++ ['"'] ∨ text <:+: ['"', ':', ' ', 'n', 'u', 'l', 'l', '\x7d', '\x7d']) :
    text <:+: openingText ∨ text <:+: dataText ∨ text <:+: closingText := by
  obtain ⟨tail, hprefix, hsuffix⟩ := List.infix_iff_prefix_suffix.mp h
  have hall : ∀ tail ∈ (dataText ++ closingText).tails, ∀ text ∈ tail.inits,
      (text <:+: dataText ++ ['"'] ∨
        text <:+: ['"', ':', ' ', 'n', 'u', 'l', 'l', '\x7d', '\x7d']) →
      text <:+: openingText ∨ text <:+: dataText ∨ text <:+: closingText := by decide
  exact hall tail ((List.mem_tails _ _).mpr hsuffix) text ((List.mem_inits _ _).mpr hprefix) h'

/-- The result with the secret in its code, between two runs, and the data it comes with. -/
def paddedResult (secret : List Char) (c : Char) (n : ℕ) (data : PyDict) : ExecutionResult PyDict where
  ok := true
  code := String.ofList (List.replicate n c ++ (secret ++ List.replicate n c))
  data := data

/-- **What is found in every result with the secret in it.** -/
theorem always_seen {secret text : List Char} (hne : text ≠ [])
    (h : ∀ result out, Echoes secret result → dumpsResult result.code result.data = .ok out →
      text <:+: out) : AlwaysSeen secret text := by
  obtain ⟨c, hc, hfirst, hlast⟩ := exists_padding text
  have hechoes : ∀ data, Echoes secret (paddedResult secret c text.length data) := by
    intro data
    left
    show secret <:+: (String.ofList _).toList
    rw [String.toList_ofList]
    exact (List.prefix_append _ _).isInfix.trans (List.suffix_append _ _).isInfix
  -- where the text is found in the two results
  have hpadded : ∀ data body, dumpsMembers data = .ok body →
      text <:+: openingText ∨ text <:+: escaped secret ∨
        text <:+: dataText ++ (body ++ closingText) := by
    intro data body hbody
    have hfound := h (paddedResult secret c text.length data) _ (hechoes data)
      (dumpsResult_ok.mpr ⟨body, hbody, rfl⟩)
    show _ ∨ _ ∨ _
    unfold paddedResult at hfound
    simp only [String.toList_ofList] at hfound
    rw [escaped_padded hc, List.append_assoc] at hfound
    rcases infix_padded hne le_rfl hfirst hlast hfound with hopening | hrest
    · exact .inl hopening
    · rw [List.append_assoc] at hrest
      exact .inr (infix_padded hne le_rfl hfirst hlast hrest)
  rcases hpadded [] [] rfl with hopening | hescaped | hempty
  · exact .inr (.inl hopening)
  · exact .inl hescaped
  have hmember : dumpsMembers [(.str (String.ofList (List.replicate text.length c)), .none)] =
      .ok ('"' :: (List.replicate text.length c ++
        ['"', ':', ' ', 'n', 'u', 'l', 'l'])) := by
    have hquote : Json.quote (String.ofList (List.replicate text.length c)) =
        '"' :: (List.replicate text.length c ++ ['"']) := by
      unfold Json.quote
      rw [String.toList_ofList, ← escaped, escaped_run hc]
    simp [dumpsMembers, PyKey.dumps, PyValue.dumps, hquote, bind, Except.bind, pure, Except.pure]
  rcases hpadded _ _ hmember with hopening | hescaped | hfull
  · exact .inr (.inl hopening)
  · exact .inl hescaped
  · have hsplit : dataText ++ ('"' :: (List.replicate text.length c ++
        ['"', ':', ' ', 'n', 'u', 'l', 'l']) ++ closingText) =
        (dataText ++ ['"']) ++ (List.replicate text.length c ++
          ['"', ':', ' ', 'n', 'u', 'l', 'l', '\x7d', '\x7d']) := by
      simp [closingText]
    rw [hsplit] at hfull
    exact .inr (common_surroundings hempty (infix_padded hne le_rfl hfirst hlast hfull))

/-! ### What is seen -/

/-- **A secret that is its own escaped form, or a part of it, is seen** in every result that has it;
so is what stands in every JSON text. -/
theorem seen_of_alwaysSeen {secret text : List Char} (h : AlwaysSeen secret text)
    {result : ExecutionResult PyDict} (hechoes : Echoes secret result) {out : List Char}
    (hout : dumpsResult result.code result.data = .ok out) : text <:+: out := by
  obtain ⟨body, hbody, rfl⟩ := dumpsResult_ok.mp hout
  have hopening : openingText <:+: openingText ++
      (escaped result.code.toList ++ (dataText ++ (body ++ closingText))) :=
    (List.prefix_append _ _).isInfix
  have hdata : dataText <:+: openingText ++
      (escaped result.code.toList ++ (dataText ++ (body ++ closingText))) :=
    (List.prefix_append _ _).isInfix.trans
      ((List.suffix_append _ _).trans (List.suffix_append _ _)).isInfix
  have hclosing : closingText <:+: openingText ++
      (escaped result.code.toList ++ (dataText ++ (body ++ closingText))) :=
    ((((List.suffix_append _ _).trans (List.suffix_append _ _)).trans
      (List.suffix_append _ _)).trans (List.suffix_append _ _)).isInfix
  rcases h with hescaped | hin | hin | hin
  · refine hescaped.trans ?_
    rcases hechoes with hcode | ⟨inside, hcontains, hinside⟩
    · have hcode : escaped secret <:+: escaped result.code.toList := hcode.flatMap _
      exact hcode.trans ((List.prefix_append _ _).isInfix.trans (List.suffix_append _ _).isInfix)
    · -- the string stands in the text of the data
      have hquoted : Json.quote inside <:+: '\x7b' :: (body ++ ['\x7d']) := by
        refine quote_infix_dumps hcontains ?_
        rw [PyValue.dumps, hbody]
        rfl
      have hescaped : escaped secret <:+: Json.quote inside :=
        (hinside.flatMap Json.escapeControl).trans
          ((List.prefix_append _ _).isInfix.trans (List.suffix_cons _ _).isInfix)
      have hobject : '\x7b' :: (body ++ ['\x7d']) <:+: dataText ++ (body ++ closingText) :=
        ⟨['"', ',', ' ', '"', 'd', 'a', 't', 'a', '"', ':', ' '], ['\x7d'], by
          simp [dataText, closingText]⟩
      exact ((hescaped.trans hquoted).trans hobject).trans
        ((List.suffix_append _ _).trans (List.suffix_append _ _)).isInfix
  · exact hin.trans hopening
  · exact hin.trans hdata
  · exact hin.trans hclosing

/-! ### The service -/

section Service

variable {Data Request : Type}

/-- The service with another executor. -/
def VaultService.serving (service : VaultService Data Request)
    (executor : MachineSecretExecutor Data Request) : VaultService Data Request :=
  { service with executors := fun _ => some executor }

/-- What is handed over does not depend on the executor that gets it. -/
theorem HandOver.serving {service : VaultService Data Request} {s s₁ : VaultState}
    {token secretId executorName : String} {grant : VerifiedGrant}
    {executor : MachineSecretExecutor Data Request} {secret : Bytes}
    (h : HandOver service s token secretId executorName grant executor secret s₁)
    (executor' : MachineSecretExecutor Data Request) :
    HandOver (service.serving executor') s token secretId executorName grant executor' secret s₁ := by
  have hexec := h.exec
  refine ⟨?_⟩
  unfold VaultService.prepareUse at hexec ⊢
  obtain ⟨⟨grant', metadata⟩, s₂, hauthorized, hrest⟩ := Effect.exec_bind_ok.mp hexec
  refine Effect.exec_bind_ok.mpr ⟨(grant', metadata), s₂, hauthorized, ?_⟩
  simp only at hrest ⊢
  cases hexecutor : service.executors executorName with
  | none =>
    rw [hexecutor] at hrest
    obtain ⟨u, s₃, -, hthrow⟩ := Effect.exec_bind_ok.mp hrest
    exact absurd (Prod.mk.inj hthrow).1 (by simp)
  | some found =>
    rw [hexecutor] at hrest
    obtain ⟨plaintext, s₃, hdecrypt, hpure⟩ := Effect.exec_bind_ok.mp hrest
    rw [Effect.exec_pure, Prod.mk.injEq] at hpure
    obtain ⟨hpair, rfl⟩ := hpure
    simp only [Except.ok.injEq, Prod.mk.injEq] at hpair
    obtain ⟨rfl, -, rfl⟩ := hpair
    exact Effect.exec_bind_ok.mpr ⟨plaintext, s₃, hdecrypt, rfl⟩

/-- A use goes on with what the executor returns. -/
theorem HandOver.exec_use {service : VaultService Data Request} {s s₁ : VaultState}
    {token secretId executorName : String} {grant : VerifiedGrant}
    {executor : MachineSecretExecutor Data Request} {secret : Bytes}
    (h : HandOver service s token secretId executorName grant executor secret s₁) {request : Request}
    {execution : Execution Data} (hexecution : executor s₁.ticks secret request = execution) :
    (service.use token secretId executorName request).exec s =
      (service.finishUse grant secretId execution).exec s₁ := by
  unfold VaultService.use
  rw [Effect.exec_bind, h.exec]
  show (service.finishUse grant secretId (executor s₁.ticks secret request)).exec s₁ = _
  rw [hexecution]

/-- A result in which the buffer's text is not seen is returned once its success is recorded. -/
theorem finishUse_returns {service : VaultService Data Request} {s₁ : VaultState}
    {grant : VerifiedGrant} {secretId : String} {result : ExecutionResult Data} {buffer : Bytes}
    {out text : List Char} (hdumps : service.dumps result.code result.data = .ok out)
    (htext : secretText buffer = .ok text) (hunseen : ¬ text <:+: out)
    (hrecord : ((service.recordSuccess grant .use secretId).exec s₁).1 = .ok ()) :
    ((service.finishUse grant secretId ⟨.returned result, buffer⟩).exec s₁).1 = .ok result := by
  unfold VaultService.finishUse
  simp only
  rw [Effect.exec_check_bind, hdumps]
  simp only
  rw [Effect.exec_check_bind, htext]
  simp only
  rw [if_neg fun hseen => hunseen hseen.2, Effect.exec_bind]
  rcases hexec : (service.recordSuccess grant .use secretId).exec s₁ with ⟨r, s₂⟩
  rw [hexec] at hrecord
  simp only at hrecord
  rw [hrecord]
  rfl

/-- How `use` ends when a result can be serialised and the buffer holds a text. -/
theorem finishUse_raises_iff {service : VaultService Data Request} {s₁ : VaultState}
    {grant : VerifiedGrant} {secretId : String} {result : ExecutionResult Data} {buffer : Bytes}
    {out text : List Char} (hdumps : service.dumps result.code result.data = .ok out)
    (htext : secretText buffer = .ok text) :
    (∃ e, ((service.finishUse grant secretId ⟨.returned result, buffer⟩).exec s₁).1 = .error e) ↔
      (text ≠ [] ∧ text <:+: out) ∨
        ∃ e, ((service.recordSuccess grant .use secretId).exec s₁).1 = .error e := by
  unfold VaultService.finishUse
  simp only
  rw [Effect.exec_check_bind, hdumps]
  simp only
  rw [Effect.exec_check_bind, htext]
  simp only
  by_cases hseen : text ≠ [] ∧ text <:+: out
  · rw [if_pos hseen]
    refine iff_of_true ?_ (.inl hseen)
    rw [Effect.exec_bind]
    rcases (service.recordDenial grant.subject .use secretId "secret_echo_blocked").exec s₁ with
      ⟨r, s₂⟩
    cases r with
    | error e => exact ⟨e, rfl⟩
    | ok u => exact ⟨_, rfl⟩
  · rw [if_neg hseen, Effect.exec_bind]
    rcases (service.recordSuccess grant .use secretId).exec s₁ with ⟨r, s₂⟩
    cases r with
    | error e => exact iff_of_true ⟨e, rfl⟩ (.inr ⟨e, rfl⟩)
    | ok u =>
      refine iff_of_false ?_ ?_
      · rintro ⟨e, h⟩
        exact absurd h (by simp)
      · rintro (h | ⟨e, h⟩)
        · exact hseen h
        · exact absurd h (by simp)

/-- Whatever text the buffer holds after the executor is one that is always seen. -/
def BufferSeen (plain : List Char) (buffer : Bytes) : Prop :=
  ∀ text, secretText buffer = .ok text → text ≠ [] ∧ AlwaysSeen plain text

/-- **When a secret cannot be returned.** Let a use hand a secret over to its executor. Let `plain` be
its text, and `buffer` what the executor leaves of it, the secret itself as a rule. Every result with
the text in it raises exactly if what is in the buffer is always seen, or if the success of the use
cannot be recorded in any case. -/
theorem use_raises_iff {service : VaultService PyDict Request} (hdumps : service.dumps = dumpsResult)
    {s s₁ : VaultState} {token secretId executorName : String} {grant : VerifiedGrant}
    {handed : MachineSecretExecutor PyDict Request} {secret : Bytes}
    (h : HandOver service s token secretId executorName grant handed secret s₁) (plain : List Char)
    (buffer : Bytes) (request : Request) :
    (∀ executor result, executor s₁.ticks secret request = ⟨.returned result, buffer⟩ →
      Echoes plain result →
        ∃ e, (((service.serving executor).use token secretId executorName request).exec s).1 =
          .error e) ↔
      BufferSeen plain buffer ∨
        ∃ e, ((service.recordSuccess grant .use secretId).exec s₁).1 = .error e := by
  have huse : ∀ executor result, executor s₁.ticks secret request = ⟨.returned result, buffer⟩ →
      ((service.serving executor).use token secretId executorName request).exec s =
        (service.finishUse grant secretId ⟨.returned result, buffer⟩).exec s₁ := by
    intro executor result hresult
    exact (h.serving executor).exec_use hresult
  constructor
  · intro hraises
    by_cases hrecord : ∃ e, ((service.recordSuccess grant .use secretId).exec s₁).1 = .error e
    · exact .inr hrecord
    refine .inl fun text htext => ?_
    have hseen : ∀ result out, Echoes plain result →
        dumpsResult result.code result.data = .ok out → text ≠ [] ∧ text <:+: out := by
      intro result out hechoes hout
      have hraise := hraises (fun _ _ _ => ⟨.returned result, buffer⟩) result rfl hechoes
      rw [huse _ result rfl, finishUse_raises_iff (by rw [hdumps]; exact hout) htext] at hraise
      exact hraise.resolve_right hrecord
    have hself : Echoes plain ⟨true, String.ofList plain, []⟩ := by
      left
      show plain <:+: (String.ofList plain).toList
      rw [String.toList_ofList]
    have hne := (hseen _ _ hself (dumpsResult_ok.mpr ⟨[], rfl, rfl⟩)).1
    exact ⟨hne, always_seen hne fun result out hechoes hout => (hseen result out hechoes hout).2⟩
  · intro hcond executor result hresult hechoes
    rw [huse executor result hresult]
    cases hout : dumpsResult result.code result.data with
    | error e =>
      refine ⟨e, ?_⟩
      unfold VaultService.finishUse
      simp only
      rw [Effect.exec_check_bind, hdumps, hout]
    | ok out =>
      cases htext : secretText buffer with
      | error e =>
        refine ⟨e, ?_⟩
        unfold VaultService.finishUse
        simp only
        rw [Effect.exec_check_bind, hdumps, hout]
        simp only
        rw [Effect.exec_check_bind, htext]
      | ok text =>
        rw [finishUse_raises_iff (by rw [hdumps]; exact hout) htext]
        rcases hcond with hbuffer | hrecord
        · obtain ⟨hne, halways⟩ := hbuffer text htext
          exact .inl ⟨hne, seen_of_alwaysSeen halways hechoes hout⟩
        · exact .inr hrecord

end Service

/-! ### A secret with a quotation mark -/

section Example

/-- The example's vault, whose executors return data. -/
def returningService (executor : MachineSecretExecutor PyDict Unit) : VaultService PyDict Unit where
  env := (usingService raisingExecutor).env
  verifier := (usingService raisingExecutor).verifier
  executors := fun _ => some executor
  dumps := dumpsResult

@[simp] theorem returningService_dumps (executor : MachineSecretExecutor PyDict Unit) :
    (returningService executor).dumps = dumpsResult := rfl

@[simp] theorem returningService_serving (executor executor' : MachineSecretExecutor PyDict Unit) :
    (returningService executor).serving executor' = returningService executor' := rfl

/-- An executor that returns a text as its code. -/
def echoing (text : List Char) : MachineSecretExecutor PyDict Unit :=
  fun _ secret _ => ⟨.returned ⟨true, String.ofList text, []⟩, secret⟩

theorem echoing_apply (text : List Char) (tick : ℕ) (secret : Bytes) (request : Unit) :
    echoing text tick secret request = ⟨.returned ⟨true, String.ofList text, []⟩, secret⟩ := rfl

/-- The vault is set up and a machine secret is stored. -/
def storingCalls (secret : Bytes) : List (ℕ × VaultCall Unit) :=
  [(0, .initializeVault "correct horse"),
    (0, .create "create" ⟨"s", "user_a", "label", .machine, secret, none, none⟩)]

/-- The state of the vault before the use, by an executor that returns the text. -/
def storedSecret (text : List Char) (secret : Bytes) : VaultState :=
  viewAfter (returningService (echoing text)) tenMinutes newHost 0 (storingCalls secret)

/-- The use. -/
def echoingUse (text : List Char) (secret : Bytes) : Except VaultError (ExecutionResult PyDict) :=
  (((returningService (echoing text)).use "use" "s" "pat" ()).exec (storedSecret text secret)).1

theorem echoingUse_eq (text : List Char) (secret : Bytes) : echoingUse text secret =
    (((returningService (echoing text)).use "use" "s" "pat" ()).exec (storedSecret text secret)).1 :=
  rfl

/-- The example's ring is open, so that a success is recorded. -/
theorem exec_recordSuccess_stored {text : List Char} {s₁ : VaultState} {stored secret : Bytes}
    {executor : MachineSecretExecutor PyDict Unit}
    (h : HandOver (returningService (echoing text)) (storedSecret text stored) "use" "s" "pat"
      exampleGrant executor secret s₁) :
    (((returningService (echoing text)).recordSuccess exampleGrant .use "s").exec s₁).1 = .ok () := by
  have hideal : (returningService (echoing text)).env.hmac.Ideal := tableHmac_ideal
  have hnew : Chained (returningService (echoing text)).env.hmac newHost.database := chained_empty rfl
  obtain ⟨hlog, htimed⟩ :=
    chained_viewAfter tenMinutes hideal hnew timed_newHost (storingCalls stored) 0
  have hstate := handedState htimed h
  -- the example's clock stands still
  have hstill : ¬ (600000000 : Int) ≤ 0 - 0 := by decide
  obtain ⟨auditKey, s₂, hrecord, -⟩ := exec_recordAccess_open hideal (hlog.of_logKept hstate.audit)
    hstate.keys hstate.used (fun _ _ _ hexpired => hstill hexpired) exampleGrant.subject
    VaultAction.use.value "s" "completed" ""
  exact congrArg Prod.fst hrecord

theorem secretText_utf8 (text : List Char) : secretText (utf8 text) = .ok text := by
  unfold secretText
  rw [utf8Decode_utf8]

theorem echoes_self (text : List Char) : Echoes text ⟨true, String.ofList text, []⟩ := by
  left
  show text <:+: (String.ofList text).toList
  rw [String.toList_ofList]

/-- The use goes on from where the secret is handed over. -/
theorem exec_use_echoing {text plain : List Char} {secret : Bytes} {s s₁ : VaultState}
    (h : HandOver (returningService (echoing text)) s "use" "s" "pat" exampleGrant (echoing text)
      secret s₁) (hplain : secretText secret = .ok plain)
    (hunseen : ¬ plain <:+: openingText ++ (escaped text ++ (dataText ++ closingText)))
    (hrecord : (((returningService (echoing text)).recordSuccess exampleGrant .use "s").exec s₁).1 =
      .ok ()) :
    (((returningService (echoing text)).use "use" "s" "pat" ()).exec s).1 =
      .ok ⟨true, String.ofList text, []⟩ := by
  have hdumps : (returningService (echoing text)).dumps (String.ofList text) [] =
      .ok (openingText ++ (escaped text ++ (dataText ++ closingText))) := by
    rw [returningService_dumps]
    refine dumpsResult_ok.mpr ⟨[], rfl, ?_⟩
    rw [String.toList_ofList, List.nil_append]
  have huse := h.exec_use (echoing_apply text s₁.ticks secret ())
  have hreturns := @finishUse_returns _ _ _ _ _ _ ⟨true, String.ofList text, []⟩ _ _ _ hdumps hplain
    hunseen hrecord
  rw [← huse] at hreturns
  exact hreturns

set_option maxRecDepth 20000 in
theorem handOver_quoted : ∃ s₁, HandOver (returningService (echoing ['a', '"', 'b']))
    (storedSecret ['a', '"', 'b'] [97, 34, 98]) "use" "s" "pat" exampleGrant
    (echoing ['a', '"', 'b']) [97, 34, 98] s₁ := by
  have hanswer : (((returningService (echoing ['a', '"', 'b'])).prepareUse "use" "s" "pat").exec
      (storedSecret ['a', '"', 'b'] [97, 34, 98])).1 =
        .ok (exampleGrant, echoing ['a', '"', 'b'], [97, 34, 98]) := by rfl
  generalize storedSecret ['a', '"', 'b'] [97, 34, 98] = s at hanswer ⊢
  exact ⟨_, handOver_of_answer hanswer⟩

set_option maxRecDepth 20000 in
theorem handOver_plain : ∃ s₁, HandOver (returningService (echoing ['p'])) (storedSecret ['p'] [112])
    "use" "s" "pat" exampleGrant (echoing ['p']) [112] s₁ := by
  have hanswer : (((returningService (echoing ['p'])).prepareUse "use" "s" "pat").exec
      (storedSecret ['p'] [112])).1 = .ok (exampleGrant, echoing ['p'], [112]) := by rfl
  generalize storedSecret ['p'] [112] = s at hanswer ⊢
  exact ⟨_, handOver_of_answer hanswer⟩

/-- **A secret with a quotation mark in it comes back.** The quotation mark is escaped in the JSON
text, so the secret is not found there. -/
theorem quoted_secret_returned :
    secretText [97, 34, 98] = .ok ['a', '"', 'b'] ∧
      Echoes ['a', '"', 'b'] ⟨true, String.ofList ['a', '"', 'b'], []⟩ ∧
      echoingUse ['a', '"', 'b'] [97, 34, 98] = .ok ⟨true, String.ofList ['a', '"', 'b'], []⟩ := by
  have hbytes : utf8 ['a', '"', 'b'] = [97, 34, 98] := rfl
  have htext := secretText_utf8 ['a', '"', 'b']
  rw [hbytes] at htext
  obtain ⟨s₁, hand⟩ := handOver_quoted
  refine ⟨htext, echoes_self _, ?_⟩
  rw [echoingUse_eq]
  exact exec_use_echoing hand htext (by decide) (exec_recordSuccess_stored hand)

/-- A secret of one letter does not. -/
theorem plain_secret_blocked : ∃ e, echoingUse ['p'] [112] = .error e := by
  have hbytes : utf8 ['p'] = [112] := rfl
  have htext := secretText_utf8 ['p']
  rw [hbytes] at htext
  have hseen : BufferSeen ['p'] [112] := by
    intro text hfound
    rw [htext] at hfound
    obtain rfl := Except.ok.inj hfound
    exact ⟨by decide, .inl (by decide)⟩
  obtain ⟨s₁, hand⟩ := handOver_plain
  rw [echoingUse_eq]
  have hraises := (use_raises_iff (returningService_dumps _) hand ['p'] [112] ()).mpr (.inl hseen)
    (echoing ['p']) ⟨true, String.ofList ['p'], []⟩ (echoing_apply _ _ _ _) (echoes_self ['p'])
  rw [returningService_serving] at hraises
  exact hraises

end Example

end Zhixu.Vault
