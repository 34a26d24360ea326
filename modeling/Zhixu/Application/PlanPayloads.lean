import Zhixu.Application.PlanCodec
import Zhixu.Application.PlanRevisions

/-!
# The payload of a plan

Between a message and the next the arguments of a plan are a JSON text. `payload` writes them and
`readPayload` reads them, and what is read is what survives of each argument (`readPayload_payload`), as
long as the arguments can be written at all (`Writable`).

They can: a proposal whose fields have the values that their types allow (`ModelIntentProposal.Typed`)
has arguments that can be written, what survives of such arguments can be written again, and so can
arguments that have been updated or set anew.
-/

open Framework

namespace Zhixu

namespace PlanCodec

variable (codec : PlanCodec)

/-- The arguments as the dictionary that is encoded. -/
def asValue (arguments : Arguments) : PlanValue :=
  .dict (arguments.map fun entry => (.str entry.1, entry.2))

/-- `json.dumps(_encode_plan_value(arguments))`. -/
def payload (arguments : Arguments) : String := String.ofList (codec.encodeText (asValue arguments))

/-- `_decode_plan_value(json.loads(payload_json))`, if that is a dictionary. -/
def readPayload (text : String) : Option Arguments :=
  match codec.decodeText text.toList with
  | .ok (.dict entries) => some (entries.map fun entry => (entry.1.text, entry.2))
  | _ => none

/-- What survives of arguments. -/
def kept (arguments : Arguments) : Arguments :=
  arguments.map fun entry => (entry.1, codec.stored entry.2)

/-- Arguments that can be written. -/
structure Writable (arguments : Arguments) : Prop where
  all : ∀ entry ∈ arguments, codec.Storable entry.2
  distinct : (arguments.map Prod.fst).Nodup
  untagged : "$type" ∉ arguments.map Prod.fst

variable {codec}

theorem storedEntries_eq_map (entries : List (PlanKey × PlanValue)) :
    codec.storedEntries entries =
      entries.map fun entry => (.str entry.1.text, codec.stored entry.2) := by
  induction entries with
  | nil => rfl
  | cons entry rest ih =>
    obtain ⟨key, value⟩ := entry
    rw [storedEntries, ih, List.map_cons]

theorem storedItems_eq_map (items : List PlanValue) :
    codec.storedItems items = items.map codec.stored := by
  induction items with
  | nil => rfl
  | cons item rest ih => rw [storedItems, ih, List.map_cons]

theorem Writable.storable {arguments : Arguments} (h : codec.Writable arguments) :
    codec.Storable (asValue arguments) := by
  have hkeys : ((arguments.map fun entry => (PlanKey.str entry.1, entry.2)).map fun entry =>
      entry.1.text) = arguments.map Prod.fst := by
    rw [List.map_map]
    rfl
  refine .dict ?_ ?_ ?_
  · intro entry hentry
    obtain ⟨argument, hargument, rfl⟩ := List.mem_map.mp hentry
    exact h.all argument hargument
  · rw [hkeys]
    exact h.distinct
  · rw [hkeys]
    exact h.untagged

/-- **What is read** of arguments that were written. -/
theorem readPayload_payload {arguments : Arguments} (h : codec.Writable arguments) :
    codec.readPayload (codec.payload arguments) = some (codec.kept arguments) := by
  have hdecoded := decodeText_encodeText h.storable
  unfold readPayload payload
  rw [String.toList_ofList, hdecoded]
  change some ((codec.storedEntries (arguments.map fun entry => (PlanKey.str entry.1, entry.2))).map
    fun entry => (entry.1.text, entry.2)) = _
  rw [storedEntries_eq_map, List.map_map, List.map_map]
  rfl

theorem find?_kept (arguments : Arguments) (name : String) :
    Dict.find? (codec.kept arguments) name = (Dict.find? arguments name).map codec.stored :=
  Dict.find?_map codec.stored arguments name

/-- What survives can be stored again. -/
theorem Storable.stored {value : PlanValue} (h : codec.Storable value) :
    codec.Storable (codec.stored value) := by
  induction h with
  | none => exact .none
  | bool value => exact .bool value
  | int value => exact .int value
  | float value => exact .float value
  | str value => exact .str value
  | date in_calendar => exact .date in_calendar
  | time own_offset => exact .time own_offset
  | naive in_range => exact .naive in_range
  | aware in_range offset_fits => exact .aware in_range offset_fits
  | notification valid => exact .notification valid
  | actionLink valid => exact .actionLink valid
  | @list items _ ih =>
    rw [PlanCodec.stored, storedItems_eq_map]
    exact .list (List.forall_mem_map.mpr ih)
  | @tuple items _ ih =>
    rw [PlanCodec.stored, storedItems_eq_map]
    exact .list (List.forall_mem_map.mpr ih)
  | @dict entries _ distinct untagged ih =>
    rw [PlanCodec.stored, storedEntries_eq_map]
    have hkeys : ((entries.map fun entry => (PlanKey.str entry.1.text, codec.stored entry.2)).map
        fun entry => entry.1.text) = entries.map fun entry => entry.1.text := by
      rw [List.map_map]
      rfl
    refine .dict (List.forall_mem_map.mpr ih) ?_ ?_
    · rw [hkeys]
      exact distinct
    · rw [hkeys]
      exact untagged

theorem Writable.kept {arguments : Arguments} (h : codec.Writable arguments) :
    codec.Writable (codec.kept arguments) := by
  have hkeys : (codec.kept arguments).map Prod.fst = arguments.map Prod.fst := by
    unfold PlanCodec.kept
    rw [List.map_map]
    rfl
  refine ⟨?_, ?_, ?_⟩
  · intro entry hentry
    obtain ⟨argument, hargument, rfl⟩ := List.mem_map.mp hentry
    exact (h.all argument hargument).stored
  · rw [hkeys]
    exact h.distinct
  · rw [hkeys]
    exact h.untagged

theorem Writable.set {arguments : Arguments} (h : codec.Writable arguments) {name : String}
    {value : PlanValue} (hname : name ≠ "$type") (hvalue : codec.Storable value) :
    codec.Writable (Dict.set arguments name value) := by
  refine ⟨?_, Dict.nodup_set h.distinct name value, ?_⟩
  · intro entry hentry
    rcases Dict.mem_set hentry with hold | rfl
    · exact h.all entry hold
    · exact hvalue
  · rw [Dict.keys_set]
    split_ifs with hmem
    · exact h.untagged
    · intro htype
      rcases List.mem_append.mp htype with hold | hnew
      · exact h.untagged hold
      · exact hname (List.mem_singleton.mp hnew).symm

theorem Writable.update {arguments new : Arguments} (h : codec.Writable arguments)
    (hnew : codec.Writable new) : codec.Writable (Dict.update arguments new) := by
  obtain ⟨hall, -, huntagged⟩ := hnew
  induction new generalizing arguments with
  | nil => exact h
  | cons entry rest ih =>
    rw [List.map_cons, List.mem_cons, not_or] at huntagged
    obtain ⟨hentry, hrest⟩ := List.forall_mem_cons.mp hall
    exact ih (h.set (fun heq => huntagged.1 heq.symm) hentry) hrest huntagged.2

theorem Writable.erase {arguments : Arguments} (h : codec.Writable arguments) (name : String) :
    codec.Writable (Dict.erase arguments name) := by
  have hsub : (Dict.erase arguments name).Sublist arguments := List.filter_sublist
  exact ⟨fun entry hentry => h.all entry (hsub.subset hentry),
    (hsub.map Prod.fst).nodup h.distinct, fun htype => h.untagged ((hsub.map Prod.fst).subset htype)⟩

end PlanCodec

/-! ### Proposals that can be written -/

namespace SecretRedactor

theorem placeholder_length {cs matched rest : List Char} {index : ℕ}
    (h : placeholder cs = some (index, matched, rest)) :
    10 ≤ matched.length ∧ matched.length + rest.length ≤ cs.length := by
  unfold placeholder at h
  have hmark : "<SECRET_".toList.length = 8 := by decide
  simp only at h
  split at h
  · rename_i hprefix
    split at h
    · rename_i number tail hdigits hdrop
      split at h
      · cases h
      · rename_i hne
        obtain ⟨-, hrest⟩ := Prod.mk.inj (Option.some.inj h)
        obtain ⟨rfl, rfl⟩ := Prod.mk.inj hrest
        have hlength := congrArg List.length hdrop
        rw [List.length_drop, List.length_drop, List.length_cons] at hlength
        have hpos := List.length_pos_iff.mpr hne
        rw [List.length_append, List.length_append, List.length_singleton, hmark]
        rw [hmark] at hlength hpos
        omega
    · cases h
  · cases h

/-- Blanking makes a text no longer, and does not empty it. -/
theorem substitute_length {put : List Char} (hput : 1 ≤ put.length ∧ put.length ≤ 10) (bound : ℕ)
    (cs : List Char) :
    (substitute (fun _ _ => put) bound cs).length ≤ cs.length ∧
      (1 ≤ bound → 1 ≤ cs.length → 1 ≤ (substitute (fun _ _ => put) bound cs).length) := by
  induction bound generalizing cs with
  | zero => exact ⟨Nat.zero_le _, fun h => absurd h (by decide)⟩
  | succ bound ih =>
    cases cs with
    | nil => exact ⟨le_rfl, fun _ h => absurd h (by decide)⟩
    | cons c cs =>
      unfold substitute
      cases hfound : placeholder (c :: cs) with
      | none =>
        simp only [List.length_cons]
        exact ⟨Nat.succ_le_succ (ih cs).1, fun _ _ => Nat.succ_le_succ (Nat.zero_le _)⟩
      | some found =>
        obtain ⟨index, matched, rest⟩ := found
        obtain ⟨hmatched, hlength⟩ := placeholder_length hfound
        have hrest := (ih rest).1
        simp only [List.length_append]
        exact ⟨by omega, fun _ _ => by omega⟩

theorem blank_length (text : String) :
    (blank text).length ≤ text.length ∧ (1 ≤ text.length → 1 ≤ (blank text).length) := by
  unfold blank
  by_cases hempty : text = ""
  · rw [if_pos hempty]
    exact ⟨le_rfl, id⟩
  · rw [if_neg hempty, String.length_ofList]
    have hput : 1 ≤ "（已隐藏）".toList.length ∧ "（已隐藏）".toList.length ≤ 10 := by decide
    have h := substitute_length hput text.length text.toList
    rw [String.length_toList] at h
    exact ⟨h.1, fun hpos => h.2 hpos hpos⟩

end SecretRedactor

/-- A datetime as there are: of the years 1 to 9999, and less than a day off. -/
structure DateTime.Exists (zones : TimeZones) (value : DateTime) : Prop where
  in_range : Instant.InRange value.wall
  offset_fits : |value.utcoffset zones| < 86400000000

namespace ModelIntentProposal

/-- **What the types of the fields say** about a proposal and the links of its message. -/
structure Typed (codec : PlanCodec) (reading : MessageReading) (proposal : ModelIntentProposal) :
    Prop where
  fireAt : ∀ value ∈ proposal.fireAt, DateTime.Exists codec.zones value
  dueAt : ∀ value ∈ proposal.dueAt, DateTime.Exists codec.zones value
  startAt : ∀ value ∈ proposal.startAt, DateTime.Exists codec.zones value
  endAt : ∀ value ∈ proposal.endAt, DateTime.Exists codec.zones value
  anchorDate : ∀ ordinal ∈ proposal.anchorDate, Calendar.InCalendar ordinal
  briefingTime : ∀ value ∈ proposal.briefingTime, ∀ zone ∈ value.zone,
    ∃ offset, zone = .fixed offset ∧ |offset| < 86400000000
  notifications : ∀ value ∈ proposal.notifications, value.Valid
  links : ∀ link ∈ reading.links, codec.validUrl link.url = true

variable {codec : PlanCodec} {reading : MessageReading} {proposal : ModelIntentProposal}

theorem forall_nonempty {P : PlanValue → Prop} {items : List PlanValue}
    {wrap : List PlanValue → PlanValue} (h : P (wrap items)) :
    ∀ value ∈ (nonempty items).map wrap, P value := by
  intro value hvalue
  unfold nonempty at hvalue
  split_ifs at hvalue
  · cases hvalue
  · obtain rfl := Option.some.inj hvalue
    exact h

theorem forall_map {α : Type} {P : PlanValue → Prop} {write : α → PlanValue} {value : Option α}
    (h : ∀ a ∈ value, P (write a)) : ∀ written ∈ value.map write, P written := by
  intro written hwritten
  obtain ⟨a, ha, rfl⟩ := Option.map_eq_some_iff.mp hwritten
  exact h a ha

theorem forall_flag {P : PlanValue → Prop} {flag : Prop} [Decidable flag] (h : P (.bool true)) :
    ∀ value ∈ (if flag then some (PlanValue.bool true) else none), P value := by
  intro value hvalue
  split_ifs at hvalue
  · obtain rfl := Option.some.inj hvalue
    exact h
  · cases hvalue

/-- The notifications and the links of a proposal can be stored. -/
theorem Typed.storable_lists (h : proposal.Typed codec reading) :
    codec.Storable (.list proposal.blanked) ∧
      codec.Storable (.list ((proposal.actionLinks reading).map .actionLink)) := by
  constructor
  · refine .list (List.forall_mem_map.mpr fun item hitem => .notification ?_)
    obtain ⟨hwall, hoffset, htext⟩ := h.notifications item hitem
    obtain ⟨hshorter, hpos⟩ := SecretRedactor.blank_length item.text
    exact ⟨hwall, hoffset, hpos htext.1, hshorter.trans htext.2⟩
  · refine .list (List.forall_mem_map.mpr fun link hlink => .actionLink ?_)
    obtain ⟨source, hsource, rfl⟩ := List.mem_map.mp hlink
    have hvalid := h.links source.1 (List.fst_mem_of_mem_zipIdx hsource)
    cases proposal.labelOf (source.2 + 1) with
    | none => exact hvalid
    | some label =>
      have hurl : (source.1.relabel label).url = source.1.url := by
        unfold ActionLink.relabel
        split_ifs <;> rfl
      change codec.validUrl (source.1.relabel label).url = true
      rw [hurl]
      exact hvalid

theorem Typed.storable (h : proposal.Typed codec reading) :
    ∀ field ∈ proposal.entries reading, ∀ value ∈ field.2, codec.Storable value := by
  have htext : ∀ {write : String → String} {text : Option String},
      ∀ value ∈ text.map fun text => PlanValue.str (write text), codec.Storable value :=
    forall_map fun text _ => .str _
  have hmoment : ∀ {moment : Option DateTime},
      (∀ value ∈ moment, DateTime.Exists codec.zones value) →
        ∀ value ∈ moment.map PlanValue.aware, codec.Storable value :=
    fun hexists => forall_map fun value hvalue =>
      .aware (hexists value hvalue).in_range (hexists value hvalue).offset_fits
  have hnumber : ∀ {number : Option Int}, ∀ value ∈ number.map PlanValue.int, codec.Storable value :=
    forall_map fun number _ => .int number
  have hnumbers : ∀ {numbers : List Int},
      ∀ value ∈ (nonempty (numbers.map PlanValue.int)).map PlanValue.tuple, codec.Storable value :=
    forall_nonempty (.tuple (List.forall_mem_map.mpr fun number _ => .int number))
  obtain ⟨hnotifications, hlinks⟩ := h.storable_lists
  unfold entries
  simp only [List.forall_mem_cons]
  refine ⟨htext, htext, htext, htext, hmoment h.fireAt, hmoment h.dueAt, hmoment h.startAt,
    hmoment h.endAt, htext, forall_map fun ordinal hordinal => .date (h.anchorDate ordinal hordinal),
    forall_map fun value hvalue => .time (h.briefingTime value hvalue), ?_,
    forall_nonempty hlinks, ?_, ?_, hnumber, hnumber, ?_, hnumber, hnumber, forall_flag (.bool true),
    forall_nonempty (.tuple (List.forall_mem_map.mpr fun part _ => .str part)), hnumbers, hnumbers, ?_,
    forall_flag (.bool true), htext, htext, htext, fun _ hnil => (nomatch hnil)⟩
  · by_cases hdrops : reading.dropsNotifications = true
    · rw [if_pos hdrops, if_pos hdrops]
      rintro _ ⟨⟩
      exact .list fun _ hnil => nomatch hnil
    · rw [if_neg hdrops, if_neg hdrops]
      exact forall_nonempty hnotifications
  · rintro _ ⟨⟩
    exact .str _
  · rintro _ ⟨⟩
    exact .str _
  · rintro _ ⟨⟩
    exact .bool _
  · rintro _ ⟨⟩
    exact .bool _

/-- The names of the arguments of a proposal. -/
theorem names_entries : (proposal.entries reading).map Prod.fst =
    ["query", "title", "body", "answer", "fire_at", "due_at", "start_at", "end_at",
      "recurrence_rule", "anchor_date", "briefing_time", "notifications", "links", "kind", "calendar",
      "lunar_month", "lunar_day", "lunar_leap", "year", "month", "notification_defaulted",
      "category_path", "advance_days", "lead_minutes", "include_in_daily_briefing", "private", "task_id",
      "reminder_id", "resource_id"] := rfl

/-- **The arguments of a proposal can be written.** -/
theorem Typed.writable (h : proposal.Typed codec reading) :
    codec.Writable (Dict.present (proposal.entries reading)) := by
  have hsub := Dict.keys_present (proposal.entries reading)
  rw [names_entries] at hsub
  refine ⟨?_, hsub.nodup (by decide), fun htype => absurd (hsub.subset htype) (by decide)⟩
  intro entry hentry
  obtain ⟨field, hfield, hpresent⟩ := List.mem_filterMap.mp hentry
  obtain ⟨value, hvalue, rfl⟩ := Option.map_eq_some_iff.mp hpresent
  exact h.storable field hfield value hvalue

end ModelIntentProposal

end Zhixu
