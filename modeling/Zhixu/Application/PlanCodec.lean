import Zhixu.Application.PlanValues
import Zhixu.Domain.IsoText
import Zhixu.Domain.JsonValue
import Zhixu.Framework.JsonDump
import Zhixu.Application.UpdatePolicy

/-!
# Storing the arguments of a plan

While a plan waits, its arguments are a JSON text. `_encode_plan_value` turns what JSON has no word for
into an object that names its type under `$type`, and `_decode_plan_value` builds the value anew, which
checks it anew. Tuples are written as lists and the keys of dictionaries as texts.
-/

open Framework

namespace Zhixu

/-- What the codec works with: the zones, the offset that a zone has without a date, which URLs a link may
have, and how `str` and `bool` treat values read from JSON. -/
structure PlanCodec where
  zones : TimeZones
  standing : String → Option Int
  validUrl : String → Bool
  coercions : Coercions

/-- No control character, checked along the text. -/
instance decidableUncontrolled (s : String) : Decidable (∀ c ∈ s.toList, 32 ≤ c.toNat) :=
  List.decidableBAll (fun c => 32 ≤ c.toNat) s.toList

/-- `ActionLink(label, url)`. -/
def ActionLink.checked (validUrl : String → Bool) (label url : String) : Except PyError ActionLink :=
  if label_valid : isBlank label = false ∧ label.length ≤ 40 then
    if url_valid : isBlank url = false ∧ url.length ≤ 2048 ∧ ∀ c ∈ url.toList, 32 ≤ c.toNat then
      if validUrl url = true then .ok { label, url, label_valid, url_valid }
      else .error (.validation "action links require an HTTPS URL without credentials")
    else .error (.validation "action link URL is invalid")
  else .error (.validation "action link label is invalid")

/-- A time of day that has been read. -/
def PlanTime.checked (micros : Int) (offset : Option Int) : Except PyError PlanTime :=
  if in_day : 0 ≤ micros ∧ micros < 86400000000 then
    .ok { micros, zone := offset.map .fixed, in_day }
  else .error .value

/-- What `ModelNotificationProposal` asks of its fields. -/
structure NotificationProposal.Valid (proposal : NotificationProposal) : Prop where
  wall : proposal.timeOfDay.aware = false
  offset : -366 ≤ proposal.dayOffset ∧ proposal.dayOffset ≤ 366
  text : 1 ≤ proposal.text.length ∧ proposal.text.length ≤ 500

namespace PlanCodec

variable (codec : PlanCodec)

/-! ### Encoding -/

/-- An object that names its type. -/
def tagged (type : String) (value : Json) : Json := .obj [("$type", .str type), ("value", value)]

/-- `utcoffset()` of a time. -/
def timeOffset : Option Zone → Option Int
  | none => none
  | some (.fixed offset) => some offset
  | some (.named key) => codec.standing key

/-- `model_dump(mode="json")`. -/
def dumpNotification (proposal : NotificationProposal) : Json :=
  .obj [("time_of_day", .str (String.ofList (Iso.timeText proposal.timeOfDay.micros none))),
    ("day_offset", .int proposal.dayOffset), ("text", .str proposal.text)]

mutual

/-- `_encode_plan_value`. -/
def encode : PlanValue → Json
  | .none => .null
  | .bool value => .bool value
  | .int value => .int value
  | .float text => .float text.toList
  | .str value => .str value
  | .date ordinal => tagged "date" (.str (isoDate ordinal))
  | .time value => tagged "time"
      (.str (String.ofList (Iso.timeText value.micros (codec.timeOffset value.zone))))
  | .naive wall => tagged "datetime" (.str (String.ofList (Iso.dateTimeText wall none)))
  | .aware value => tagged "datetime"
      (.str (String.ofList (Iso.dateTimeText value.wall (some (value.utcoffset codec.zones)))))
  | .notification value => tagged "notification" (dumpNotification value)
  | .actionLink value => tagged "action_link"
      (.obj [("label", .str value.label), ("url", .str value.url)])
  | .list items => .arr (encodeItems items)
  | .tuple items => .arr (encodeItems items)
  | .dict entries => .obj (Dict.ofEntries (encodeEntries entries))

/-- The items of a list. -/
def encodeItems : List PlanValue → List Json
  | [] => []
  | item :: rest => encode item :: encodeItems rest

/-- The entries of a dictionary, under the texts of their keys. -/
def encodeEntries : List (PlanKey × PlanValue) → List (String × Json)
  | [] => []
  | (key, value) :: rest => (key.text, encode value) :: encodeEntries rest

end

/-- The JSON text of a value. -/
def encodeText (value : PlanValue) : List Char := Json.dumps (codec.encode value)

/-! ### Decoding -/

/-- A datetime that has been read. -/
def dateTimeOf : Wall × Option Int → PlanValue
  | (wall, none) => .naive wall
  | (wall, some offset) => .aware { wall, zone := .fixed offset }

/-- `datetime.fromisoformat`. -/
def decodeDateTime (text : String) : Except PyError PlanValue :=
  match Iso.readDateTime text.toList with
  | none => .error .value
  | some read => .ok (dateTimeOf read)

/-- `date.fromisoformat`. -/
def decodeDate (text : String) : Except PyError PlanValue :=
  match Iso.readDate text.toList with
  | none => .error .value
  | some ordinal => .ok (.date ordinal)

/-- `time.fromisoformat`. -/
def decodeTime (text : String) : Except PyError PlanTime :=
  match Iso.readTime text.toList with
  | none => .error .value
  | some (micros, offset) => PlanTime.checked micros offset

/-- `ModelNotificationProposal.model_validate_json`. -/
def validateNotification (fields : List (String × Json)) : Except PyError NotificationProposal :=
  if ∃ field ∈ fields, field.1 ∉ ["time_of_day", "day_offset", "text"] then .error .value
  else
    match Dict.find? fields "time_of_day", (Dict.find? fields "day_offset").getD (.int 0),
        Dict.find? fields "text" with
    | some (.str time), .int dayOffset, some (.str text) => do
      let value ← decodeTime time
      raiseIf (value.zone ≠ none) .value
      raiseIf (¬ (-366 ≤ dayOffset ∧ dayOffset ≤ 366)) .value
      raiseIf (¬ (1 ≤ text.length ∧ text.length ≤ 500)) .value
      return { timeOfDay := { micros := value.micros, in_day := value.in_day }, dayOffset, text }
    | _, _, _ => .error .value

/-- The value of an object that names its type, if it is one of those that are known. -/
def decodeTagged (members : List (String × Json)) : Option (Except PyError PlanValue) :=
  match Dict.find? members "$type", Dict.find? members "value" with
  | some (.str type), some (.str text) =>
    if type = "datetime" then some (decodeDateTime text)
    else if type = "date" then some (decodeDate text)
    else if type = "time" then some (.time <$> decodeTime text)
    else none
  | some (.str type), some (.obj fields) =>
    if type = "notification" then some (.notification <$> validateNotification fields)
    else if type = "action_link" then
      some (.actionLink <$> ActionLink.checked codec.validUrl
        (codec.coercions.textOr (Dict.find? fields "label") "")
        (codec.coercions.textOr (Dict.find? fields "url") ""))
    else none
  | _, _ => none

mutual

/-- The objects of a JSON value as dictionaries, in which a later member replaces an earlier one. -/
def dicts : Json → Json
  | .arr items => .arr (dictsItems items)
  | .obj members => .obj (Dict.ofEntries (dictsMembers members))
  | value => value

/-- The items of an array. -/
def dictsItems : List Json → List Json
  | [] => []
  | item :: rest => dicts item :: dictsItems rest

/-- The members of an object. -/
def dictsMembers : List (String × Json) → List (String × Json)
  | [] => []
  | (key, value) :: rest => (key, dicts value) :: dictsMembers rest

end

mutual

/-- `_decode_plan_value`. -/
def decode : Json → Except PyError PlanValue
  | .null => .ok .none
  | .bool value => .ok (.bool value)
  | .int value => .ok (.int value)
  | .float text => .ok (.float (String.ofList text))
  | .str value => .ok (.str value)
  | .arr items => do
    let items ← decodeItems items
    return .list items
  | .obj members =>
    match codec.decodeTagged members with
    | some value => value
    | none => do
      let entries ← decodeMembers members
      return .dict entries

/-- The items of a list. -/
def decodeItems : List Json → Except PyError (List PlanValue)
  | [] => .ok []
  | item :: rest => do
    let value ← decode item
    let values ← decodeItems rest
    return value :: values

/-- The members of an object that names no type. -/
def decodeMembers : List (String × Json) → Except PyError (List (PlanKey × PlanValue))
  | [] => .ok []
  | (key, item) :: rest => do
    let value ← decode item
    let entries ← decodeMembers rest
    return (.str key, value) :: entries

end

/-- What a stored text is decoded to. -/
def decodeText (text : List Char) : Except PyError PlanValue := do
  let value ← jsonLoads text
  codec.decode (dicts value)

/-! ### What survives -/

mutual

/-- **What survives** of a value: a tuple becomes a list, a key becomes its text, and an aware datetime
keeps its reading and its offset, which is its zone from now on. -/
def stored : PlanValue → PlanValue
  | .tuple items => .list (storedItems items)
  | .list items => .list (storedItems items)
  | .dict entries => .dict (storedEntries entries)
  | .aware value => .aware { wall := value.wall, zone := .fixed (value.utcoffset codec.zones) }
  | value => value

/-- The items of a list. -/
def storedItems : List PlanValue → List PlanValue
  | [] => []
  | item :: rest => stored item :: storedItems rest

/-- The entries of a dictionary. -/
def storedEntries : List (PlanKey × PlanValue) → List (PlanKey × PlanValue)
  | [] => []
  | (key, value) :: rest => (.str key.text, stored value) :: storedEntries rest

end

/-- The values that can be stored. No dictionary has the key `$type`, or two keys of one text, and a time
of day that has a zone has an offset of its own. -/
inductive Storable : PlanValue → Prop
  | none : Storable .none
  | bool (value : Bool) : Storable (.bool value)
  | int (value : Int) : Storable (.int value)
  | float (value : Json.Decimal) : Storable (.float (String.ofList value.text))
  | str (value : String) : Storable (.str value)
  | date {ordinal : Int} (in_calendar : Calendar.InCalendar ordinal) : Storable (.date ordinal)
  | time {value : PlanTime}
      (own_offset : ∀ zone ∈ value.zone, ∃ offset, zone = .fixed offset ∧ |offset| < 86400000000) :
      Storable (.time value)
  | naive {wall : Wall} (in_range : Instant.InRange wall) : Storable (.naive wall)
  | aware {value : DateTime} (in_range : Instant.InRange value.wall)
      (offset_fits : |value.utcoffset codec.zones| < 86400000000) : Storable (.aware value)
  | notification {value : NotificationProposal} (valid : value.Valid) : Storable (.notification value)
  | actionLink {value : ActionLink} (valid : codec.validUrl value.url = true) :
      Storable (.actionLink value)
  | list {items : List PlanValue} (all : ∀ item ∈ items, Storable item) : Storable (.list items)
  | tuple {items : List PlanValue} (all : ∀ item ∈ items, Storable item) : Storable (.tuple items)
  | dict {entries : List (PlanKey × PlanValue)} (all : ∀ entry ∈ entries, Storable entry.2)
      (distinct : (entries.map fun entry => entry.1.text).Nodup)
      (untagged : "$type" ∉ entries.map fun entry => entry.1.text) : Storable (.dict entries)

/-! ### The round trip -/

section RoundTrip

variable {codec}

/-- A value is encoded as something that can be written, that has dictionaries for objects, and that is
decoded to what survives of the value. -/
structure Survives (codec : PlanCodec) (value : PlanValue) : Prop where
  legible : Json.Legible (codec.encode value)
  dicts_eq : dicts (codec.encode value) = codec.encode value
  decode_eq : codec.decode (codec.encode value) = .ok (codec.stored value)

theorem encodeEntries_eq_map (entries : List (PlanKey × PlanValue)) :
    codec.encodeEntries entries = entries.map fun entry => (entry.1.text, codec.encode entry.2) := by
  induction entries with
  | nil => rfl
  | cons entry rest ih =>
    obtain ⟨key, value⟩ := entry
    rw [encodeEntries, ih, List.map_cons]

/-- Items that survive, survive together. -/
theorem survives_items {items : List PlanValue} (h : ∀ item ∈ items, Survives codec item) :
    (∀ item ∈ codec.encodeItems items, Json.Legible item) ∧
      dictsItems (codec.encodeItems items) = codec.encodeItems items ∧
      codec.decodeItems (codec.encodeItems items) = .ok (codec.storedItems items) := by
  induction items with
  | nil => exact ⟨fun _ hmem => absurd hmem List.not_mem_nil, rfl, rfl⟩
  | cons item rest ih =>
    have hitem := h item (List.mem_cons_self ..)
    obtain ⟨hlegible, hdicts, hdecode⟩ := ih fun other hmem => h other (List.mem_cons_of_mem item hmem)
    rw [encodeItems]
    refine ⟨List.forall_mem_cons.mpr ⟨hitem.legible, hlegible⟩, ?_, ?_⟩
    · rw [dictsItems, hitem.dicts_eq, hdicts]
    · rw [decodeItems, hitem.decode_eq, hdecode]
      rfl

theorem survives_entries {entries : List (PlanKey × PlanValue)}
    (h : ∀ entry ∈ entries, Survives codec entry.2) :
    (∀ member ∈ codec.encodeEntries entries, Json.Legible member.2) ∧
      dictsMembers (codec.encodeEntries entries) = codec.encodeEntries entries ∧
      codec.decodeMembers (codec.encodeEntries entries) = .ok (codec.storedEntries entries) := by
  induction entries with
  | nil => exact ⟨fun _ hmem => absurd hmem List.not_mem_nil, rfl, rfl⟩
  | cons entry rest ih =>
    obtain ⟨key, value⟩ := entry
    have hvalue := h (key, value) (List.mem_cons_self ..)
    obtain ⟨hlegible, hdicts, hdecode⟩ := ih fun other hmem => h other (List.mem_cons_of_mem _ hmem)
    rw [encodeEntries]
    refine ⟨List.forall_mem_cons.mpr ⟨hvalue.legible, hlegible⟩, ?_, ?_⟩
    · rw [dictsMembers, hvalue.dicts_eq, hdicts]
    · rw [decodeMembers, hvalue.decode_eq, hdecode]
      rfl

/-- An object that names its type survives if what it names is decoded. -/
theorem survives_tagged {value : PlanValue} {type : String} {json : Json}
    (hencode : codec.encode value = tagged type json) (hlegible : Json.Legible json)
    (hdicts : dicts json = json)
    (hdecode : codec.decodeTagged [("$type", .str type), ("value", json)] =
      some (.ok (codec.stored value))) : Survives codec value := by
  refine ⟨?_, ?_, ?_⟩
  · rw [hencode]
    exact .obj (List.forall_mem_cons.mpr ⟨.str type, List.forall_mem_singleton.mpr hlegible⟩)
  · rw [hencode]
    change Json.obj (Dict.ofEntries [("$type", .str type), ("value", dicts json)]) = _
    rw [hdicts]
    rfl
  · rw [hencode]
    unfold tagged
    rw [decode, hdecode]

theorem survives_text {value : PlanValue} {type text : String}
    (hencode : codec.encode value = tagged type (.str text))
    (hdecode : codec.decodeTagged [("$type", .str type), ("value", .str text)] =
      some (.ok (codec.stored value))) : Survives codec value :=
  survives_tagged hencode (.str text) rfl hdecode

/-- A time of day that has an offset of its own, or no zone, reads back. -/
theorem decodeTime_text {value : PlanTime}
    (h : ∀ zone ∈ value.zone, ∃ offset, zone = .fixed offset ∧ |offset| < 86400000000) :
    decodeTime (String.ofList (Iso.timeText value.micros (codec.timeOffset value.zone))) =
      .ok value := by
  obtain ⟨micros, zone, in_day⟩ := value
  obtain ⟨offset, hoffset, hfits, hzone⟩ : ∃ offset, codec.timeOffset zone = offset ∧
      Iso.OffsetFits offset ∧ offset.map Zone.fixed = zone := by
    cases zone with
    | none => exact ⟨none, rfl, Iso.offsetFits_none, rfl⟩
    | some zone =>
      obtain ⟨offset, rfl, hlt⟩ := h zone rfl
      refine ⟨some offset, rfl, ?_, rfl⟩
      rintro _ ⟨⟩
      exact hlt
  unfold decodeTime
  rw [String.toList_ofList]
  simp only [hoffset]
  rw [Iso.readTime_timeText in_day hfits]
  change PlanTime.checked micros offset = _
  unfold PlanTime.checked
  rw [dif_pos in_day]
  simp only [hzone]

/-- A notification that is valid is validated. -/
theorem validateNotification_dump {value : NotificationProposal} (h : value.Valid) :
    validateNotification [("time_of_day", .str (String.ofList (Iso.timeText value.timeOfDay.micros none))),
      ("day_offset", .int value.dayOffset), ("text", .str value.text)] = .ok value := by
  obtain ⟨⟨micros, aware, in_day⟩, dayOffset, text⟩ := value
  obtain rfl : aware = false := h.wall
  have htime : decodeTime (String.ofList (Iso.timeText micros none)) =
      .ok { micros, zone := none, in_day } := by
    have hread := Iso.readTime_timeText in_day Iso.offsetFits_none
    unfold decodeTime
    rw [String.toList_ofList, hread]
    exact dif_pos in_day
  unfold validateNotification
  rw [if_neg (by simp)]
  change (decodeTime (String.ofList (Iso.timeText micros none)) >>= _) = _
  rw [htime]
  exact bind_eq_ok.mpr ⟨_, rfl, raiseIf_bind_ok.mpr ⟨fun hzone => hzone rfl, raiseIf_bind_ok.mpr
    ⟨not_not.mpr h.offset, raiseIf_bind_ok.mpr ⟨not_not.mpr h.text, rfl⟩⟩⟩⟩

theorem checked_link {value : ActionLink} (h : codec.validUrl value.url = true) :
    ActionLink.checked codec.validUrl value.label value.url = .ok value := by
  unfold ActionLink.checked
  rw [dif_pos value.label_valid, dif_pos value.url_valid, if_pos h]

theorem textOr_str {text : String} (h : isBlank text = false) :
    codec.coercions.textOr (some (.str text)) "" = text := by
  have hne : text ≠ "" := by
    rintro rfl
    exact absurd h (by decide)
  exact if_pos (decide_eq_true hne)

/-- **What can be stored survives.** -/
theorem Storable.survives {value : PlanValue} (h : codec.Storable value) : Survives codec value := by
  induction h with
  | none => exact ⟨.null, rfl, rfl⟩
  | bool value => exact ⟨.bool value, rfl, rfl⟩
  | int value => exact ⟨.int value, rfl, rfl⟩
  | float value =>
    refine ⟨?_, rfl, ?_⟩
    · change Json.Legible (.float (String.ofList value.text).toList)
      rw [String.toList_ofList]
      exact value.legible
    · change Except.ok (PlanValue.float (String.ofList (String.ofList value.text).toList)) = _
      rw [String.toList_ofList]
      rfl
  | str value => exact ⟨.str value, rfl, rfl⟩
  | @date ordinal in_calendar =>
    refine survives_text rfl ?_
    change some (decodeDate (isoDate ordinal)) = _
    unfold decodeDate
    rw [Iso.readDate_isoDate in_calendar]
    rfl
  | @time value own_offset =>
    refine survives_text rfl ?_
    change some (PlanValue.time <$> decodeTime _) = _
    rw [decodeTime_text own_offset]
    rfl
  | @naive wall in_range =>
    refine survives_text rfl ?_
    change some (decodeDateTime _) = _
    unfold decodeDateTime
    rw [String.toList_ofList, Iso.readDateTime_text in_range Iso.offsetFits_none]
    rfl
  | @aware value in_range offset_fits =>
    refine survives_text rfl ?_
    change some (decodeDateTime _) = _
    unfold decodeDateTime
    rw [String.toList_ofList, Iso.readDateTime_text in_range]
    · rfl
    · rintro _ ⟨⟩
      exact offset_fits
  | @notification value valid =>
    refine survives_tagged rfl ?_ rfl ?_
    · exact .obj (List.forall_mem_cons.mpr ⟨.str _, List.forall_mem_cons.mpr ⟨.int _,
        List.forall_mem_singleton.mpr (.str _)⟩⟩)
    · change some (PlanValue.notification <$> validateNotification _) = _
      rw [validateNotification_dump valid]
      rfl
  | @actionLink value valid =>
    refine survives_tagged rfl ?_ rfl ?_
    · exact .obj (List.forall_mem_cons.mpr ⟨.str _, List.forall_mem_singleton.mpr (.str _)⟩)
    · change some (PlanValue.actionLink <$> ActionLink.checked codec.validUrl
        (codec.coercions.textOr (some (.str value.label)) "")
        (codec.coercions.textOr (some (.str value.url)) "")) = _
      rw [textOr_str value.label_valid.1, textOr_str value.url_valid.1, checked_link valid]
      rfl
  | @list items _ ih =>
    obtain ⟨hlegible, hdicts, hdecode⟩ := survives_items ih
    refine ⟨.arr hlegible, ?_, ?_⟩
    · change Json.arr (dictsItems (codec.encodeItems items)) = _
      rw [hdicts]
      rfl
    · change (codec.decodeItems (codec.encodeItems items) >>= _) = _
      rw [hdecode]
      rfl
  | @tuple items _ ih =>
    obtain ⟨hlegible, hdicts, hdecode⟩ := survives_items ih
    refine ⟨.arr hlegible, ?_, ?_⟩
    · change Json.arr (dictsItems (codec.encodeItems items)) = _
      rw [hdicts]
      rfl
    · change (codec.decodeItems (codec.encodeItems items) >>= _) = _
      rw [hdecode]
      rfl
  | @dict entries _ distinct untagged ih =>
    obtain ⟨hlegible, hdicts, hdecode⟩ := survives_entries ih
    have hkeys : (codec.encodeEntries entries).map Prod.fst =
        entries.map fun entry => entry.1.text := by
      rw [encodeEntries_eq_map, List.map_map]
      rfl
    have hentries : codec.encode (.dict entries) = .obj (codec.encodeEntries entries) := by
      rw [encode, Dict.ofEntries_of_nodup (by rwa [hkeys])]
    have htag : codec.decodeTagged (codec.encodeEntries entries) = Option.none := by
      unfold decodeTagged
      rw [Dict.find?_eq_none.mpr (by rwa [hkeys])]
    refine ⟨?_, ?_, ?_⟩
    · rw [hentries]
      exact .obj hlegible
    · rw [hentries, dicts, hdicts, Dict.ofEntries_of_nodup (by rwa [hkeys])]
    · rw [hentries, decode, htag]
      change (codec.decodeMembers (codec.encodeEntries entries) >>= _) = _
      rw [hdecode]
      rfl

theorem decodeText_encodeText {value : PlanValue} (h : codec.Storable value) :
    codec.decodeText (codec.encodeText value) = .ok (codec.stored value) := by
  have hsurvives := h.survives
  unfold decodeText encodeText jsonLoads
  rw [Json.loads_of_legible hsurvives.legible]
  change codec.decode (dicts (codec.encode value)) = _
  rw [hsurvives.dicts_eq, hsurvives.decode_eq]

end RoundTrip

/-- In UTC, which has its offset only on a date. -/
def utcCodec : PlanCodec where
  zones := utcOnly.zones
  standing _ := none
  validUrl url := startsWith url "https://"
  coercions := { repr := fun _ => "", int := fun _ => .error .value, nonzero := fun _ => true }

theorem eight_in_day : (0 : Int) ≤ 28800000000 ∧ (28800000000 : Int) < 86400000000 := by decide

/-- A reminder at eight, announced a day and an hour before. -/
def reminderPlan : PlanValue :=
  .dict [(.str "title", .str "dinner"), (.str "fire_at", .aware { wall := 28800000000, zone := .named "UTC" }),
    (.str "lead_minutes", .tuple [.int 1440, .int 60]),
    (.str "notifications", .list [.notification {
      timeOfDay := { micros := 28800000000, in_day := eight_in_day }, dayOffset := -1, text := "soon" }])]

theorem reminderPlan_storable : utcCodec.Storable reminderPlan := by
  refine .dict ?_ (by decide) (by decide)
  refine List.forall_mem_cons.mpr ⟨.str _, List.forall_mem_cons.mpr ⟨.aware (by decide) (by decide),
    List.forall_mem_cons.mpr ⟨.tuple ?_, List.forall_mem_singleton.mpr (.list ?_)⟩⟩⟩
  · exact List.forall_mem_cons.mpr ⟨.int _, List.forall_mem_singleton.mpr (.int _)⟩
  · exact List.forall_mem_singleton.mpr (.notification ⟨rfl, by decide, by decide⟩)

/-- The keys 1 and "1". -/
def twoOnes : PlanValue := .dict [(.int 1, .str "a"), (.str "1", .str "b")]

/-- The key "1" alone. -/
def oneOne : PlanValue := .dict [(.str "1", .str "b")]

/-- Eight in the zone UTC, which `time` knows no offset of. -/
def eightInZone : PlanTime := { micros := 28800000000, zone := some (.named "UTC"), in_day := eight_in_day }

end PlanCodec

end Zhixu
