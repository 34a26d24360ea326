import Zhixu.Domain.DateTime
import Zhixu.Domain.Timestamp

/-!
# Dates and times as ISO texts

`isoformat` and `fromisoformat` of dates, of times of day, and of datetimes with and without an offset.
The readers take the extended format that the writers use, and what may be left out of it (the seconds,
the fraction, the time of a datetime); an offset is written with its seconds only if it has some.

Every text is put together from numbers of fixed width, and `readNumber_digits` reads one of them back
in front of anything. The readers look at the next character to see what follows, so each round trip
(`readDate_isoDate`, `readTime_isoTime`, `readDateTime_isoDateTime`) is the same steps in the same order,
with what follows known to begin with the right sign.
-/

open Framework

namespace Zhixu

namespace Iso

/-! ### Writing -/

/-- The fraction of a second, if there is one. -/
def fractionText (micros : Int) : List Char :=
  if micros % 1000000 = 0 then [] else '.' :: digits 6 (micros % 1000000).toNat

/-- `time.isoformat()` of a naive time. -/
def clockText (micros : Int) : List Char :=
  digits 2 (micros / 3600000000).toNat ++ ':' :: (digits 2 (micros / 60000000 % 60).toNat ++
    ':' :: (digits 2 (micros / 1000000 % 60).toNat ++ fractionText micros))

/-- An offset from UTC. -/
def offsetText (offset : Int) : List Char :=
  (if offset < 0 then '-' else '+') :: (digits 2 (|offset| / 3600000000).toNat ++
    ':' :: (digits 2 (|offset| / 60000000 % 60).toNat ++
      if |offset| % 60000000 = 0 then []
      else ':' :: (digits 2 (|offset| / 1000000 % 60).toNat ++ fractionText |offset|)))

/-- `time.isoformat()`. -/
def timeText (micros : Int) (offset : Option Int) : List Char :=
  clockText micros ++ (offset.map offsetText).getD []

/-- `datetime.isoformat()`. -/
def dateTimeText (wall : Wall) (offset : Option Int) : List Char :=
  (isoDate (Wall.ordinal wall)).toList ++ 'T' :: timeText (Wall.timeOfDay wall) offset

/-! ### Reading -/

/-- The value of a digit. -/
def digitValue (c : Char) : Option ℕ := if c.isDigit = true then some (c.toNat - 48) else none

/-- So many digits, behind a number that has been read. -/
def readNumber : ℕ → ℕ → List Char → Option (ℕ × List Char)
  | 0, acc, cs => some (acc, cs)
  | _ + 1, _, [] => none
  | width + 1, acc, c :: cs => (digitValue c).bind fun d => readNumber width (10 * acc + d) cs

/-- A time, as its hours, minutes, seconds and microseconds. -/
structure Clock where
  hour : ℕ
  minute : ℕ := 0
  second : ℕ := 0
  micro : ℕ := 0

/-- The microseconds of a time. -/
def Clock.micros (clock : Clock) : Int :=
  clock.hour * 3600000000 + clock.minute * 60000000 + clock.second * 1000000 + clock.micro

/-- A fraction of three or six digits, in microseconds. -/
def readFraction : List Char → Option (ℕ × List Char)
  | '.' :: cs =>
    match readNumber 6 0 cs with
    | some out => some out
    | none => (readNumber 3 0 cs).map fun out => (1000 * out.1, out.2)
  | cs => some (0, cs)

/-- `HH[:MM[:SS[.fff[fff]]]]`. -/
def readClock (cs : List Char) : Option (Clock × List Char) :=
  (readNumber 2 0 cs).bind fun (hour, cs) =>
    match cs with
    | ':' :: cs => (readNumber 2 0 cs).bind fun (minute, cs) =>
      match cs with
      | ':' :: cs => (readNumber 2 0 cs).bind fun (second, cs) =>
        (readFraction cs).map fun (micro, cs) => ({ hour, minute, second, micro }, cs)
      | cs => some ({ hour, minute }, cs)
    | cs => some ({ hour }, cs)

/-- An offset, behind its sign, that is all there is. -/
def readOffset (negative : Bool) (cs : List Char) : Option Int :=
  (readClock cs).bind fun (clock, rest) =>
    if rest = [] ∧ clock.micros < 86400000000 then
      some (if negative = true then -clock.micros else clock.micros)
    else none

/-- What stands behind a time: nothing, or an offset. -/
def readZone : List Char → Option (Option Int)
  | [] => some none
  | ['Z'] => some (some 0)
  | '+' :: cs => (readOffset false cs).map some
  | '-' :: cs => (readOffset true cs).map some
  | _ => none

/-- `time.fromisoformat`, as microseconds and an offset. -/
def readTime (cs : List Char) : Option (Int × Option Int) :=
  (readClock cs).bind fun (clock, rest) =>
    if clock.hour < 24 ∧ clock.minute < 60 ∧ clock.second < 60 then
      (readZone rest).map fun offset => (clock.micros, offset)
    else none

/-- `date.fromisoformat`. -/
def readDate (cs : List Char) : Option Int :=
  (readNumber 4 0 cs).bind fun (year, cs) =>
    match cs with
    | '-' :: cs => (readNumber 2 0 cs).bind fun (month, cs) =>
      match cs with
      | '-' :: cs => (readNumber 2 0 cs).bind fun (day, cs) =>
        if cs = [] ∧ Calendar.IsDate year month day then some (Calendar.toOrdinal year month day)
        else none
      | _ => none
    | _ => none

/-- `datetime.fromisoformat`, as a reading and an offset. -/
def readDateTime (cs : List Char) : Option (Wall × Option Int) :=
  (readDate (cs.take 10)).bind fun ordinal =>
    match cs.drop 10 with
    | [] => some (Wall.midnight ordinal, none)
    | _ :: cs => (readTime cs).map fun (micros, offset) =>
      ((Wall.midnight ordinal : Int) + micros, offset)

/-! ### Numbers -/

theorem digitValue_digitChar {d : ℕ} (h : d < 10) : digitValue (Nat.digitChar d) = some d := by
  have hall : ∀ d < 10, digitValue (Nat.digitChar d) = some d := by decide
  exact hall d h

/-- The last digit is read last. -/
theorem readNumber_succ (width acc : ℕ) (cs : List Char) :
    readNumber (width + 1) acc cs =
      (readNumber width acc cs).bind fun out => readNumber 1 out.1 out.2 := by
  induction width generalizing acc cs with
  | zero => rfl
  | succ width ih =>
    cases cs with
    | nil => rfl
    | cons c cs =>
      change ((digitValue c).bind fun d => readNumber (width + 1) (10 * acc + d) cs) =
        ((digitValue c).bind fun d => readNumber width (10 * acc + d) cs).bind _
      cases digitValue c with
      | none => rfl
      | some d => exact ih (10 * acc + d) cs

/-- **A number of fixed width** reads back. -/
theorem readNumber_digits {width n : ℕ} (acc : ℕ) (h : n < 10 ^ width) (rest : List Char) :
    readNumber width acc (digits width n ++ rest) = some (acc * 10 ^ width + n, rest) := by
  induction width generalizing n rest with
  | zero =>
    rw [pow_zero] at h
    obtain rfl : n = 0 := by omega
    change some (acc, rest) = _
    rw [pow_zero, mul_one, Nat.add_zero]
  | succ width ih =>
    rw [pow_succ] at h
    rw [digits, List.append_assoc, readNumber_succ, ih (by omega)]
    change (digitValue (Nat.digitChar (n % 10))).bind _ = _
    rw [digitValue_digitChar (Nat.mod_lt n (by decide))]
    change some (10 * (acc * 10 ^ width + n / 10) + n % 10, rest) = _
    rw [pow_succ]
    congr 2
    have hmul : acc * (10 ^ width * 10) = 10 * (acc * 10 ^ width) := by
      rw [Nat.mul_comm (10 ^ width) 10, Nat.mul_left_comm]
    rw [hmul]
    omega

/-- A number from zero up, in as many digits as it needs at most. -/
theorem readNumber_int {width : ℕ} {n : Int} (h : 0 ≤ n ∧ n < 10 ^ width) (rest : List Char) :
    readNumber width 0 (digits width n.toNat ++ rest) = some (n.toNat, rest) := by
  have hlt : n.toNat < 10 ^ width := by
    refine (Int.toNat_lt h.1).mpr ?_
    push_cast
    exact h.2
  rw [readNumber_digits 0 hlt, Nat.zero_mul, Nat.zero_add]

/-! ### Times -/

/-- What does not begin with a point has no fraction. -/
theorem readFraction_text (micros : Int) {rest : List Char} (h : ∀ c ∈ rest.head?, c ≠ '.') :
    readFraction (fractionText micros ++ rest) = some ((micros % 1000000).toNat, rest) := by
  unfold fractionText
  split_ifs with hzero
  · rw [hzero]
    cases rest with
    | nil => rfl
    | cons c rest =>
      have hc := h c rfl
      change readFraction (c :: rest) = some (0, c :: rest)
      unfold readFraction
      split
      · rename_i heq
        exact absurd (List.cons.inj heq).1 hc
      · rfl
  · have hread := @readNumber_int 6 (micros % 1000000) (by omega) rest
    rw [List.cons_append]
    unfold readFraction
    simp only [hread]

/-- **A time reads back**, in front of what does not go on with a fraction. -/
theorem readClock_clockText {micros : Int} (h : 0 ≤ micros ∧ micros < 86400000000) {rest : List Char}
    (hrest : ∀ c ∈ rest.head?, c ≠ '.') :
    readClock (clockText micros ++ rest) = some ({
      hour := (micros / 3600000000).toNat
      minute := (micros / 60000000 % 60).toNat
      second := (micros / 1000000 % 60).toNat
      micro := (micros % 1000000).toNat }, rest) := by
  unfold clockText readClock
  rw [List.append_assoc, readNumber_int (by omega)]
  simp only [Option.bind_some, List.cons_append, List.append_assoc]
  rw [readNumber_int (by omega)]
  simp only [Option.bind_some]
  rw [readNumber_int (by omega)]
  simp only [Option.bind_some]
  rw [readFraction_text micros hrest]
  rfl

/-- The time that has been read. -/
theorem micros_parts {micros : Int} (h : 0 ≤ micros) :
    Clock.micros {
      hour := (micros / 3600000000).toNat
      minute := (micros / 60000000 % 60).toNat
      second := (micros / 1000000 % 60).toNat
      micro := (micros % 1000000).toNat } = micros := by
  unfold Clock.micros
  simp only
  omega

/-- The size of an offset reads back as a time. -/
theorem readClock_offset {size : Int} (h : 0 ≤ size ∧ size < 86400000000) :
    ∃ clock : Clock, clock.micros = size ∧
      readClock (digits 2 (size / 3600000000).toNat ++ ':' :: (digits 2 (size / 60000000 % 60).toNat ++
        if size % 60000000 = 0 then []
        else ':' :: (digits 2 (size / 1000000 % 60).toNat ++ fractionText size))) =
          some (clock, []) := by
  have hhour := @readNumber_int 2 (size / 3600000000) (by omega)
  have hminute := @readNumber_int 2 (size / 60000000 % 60) (by omega)
  by_cases hseconds : size % 60000000 = 0
  · refine ⟨{ hour := (size / 3600000000).toNat, minute := (size / 60000000 % 60).toNat }, ?_, ?_⟩
    · unfold Clock.micros
      simp only
      omega
    · unfold readClock
      rw [if_pos hseconds, hhour]
      simp only [Option.bind_some]
      rw [hminute]
      rfl
  · have hsecond := @readNumber_int 2 (size / 1000000 % 60) (by omega) (fractionText size)
    have hfraction := @readFraction_text size [] (fun c hc => nomatch hc)
    rw [List.append_nil] at hfraction
    refine ⟨_, micros_parts h.1, ?_⟩
    unfold readClock
    rw [if_neg hseconds, hhour]
    simp only [Option.bind_some]
    rw [hminute]
    simp only [Option.bind_some, hsecond, hfraction]
    rfl

/-- **An offset reads back**, behind its sign. -/
theorem readOffset_text {offset : Int} (h : |offset| < 86400000000) (negative : Bool) :
    readOffset negative (offsetText offset).tail =
      some (if negative = true then -|offset| else |offset|) := by
  obtain ⟨clock, hmicros, hread⟩ := readClock_offset ⟨abs_nonneg offset, h⟩
  unfold offsetText
  rw [List.tail_cons]
  unfold readOffset
  rw [hread, Option.bind_some]
  simp only [hmicros]
  rw [if_pos ⟨trivial, h⟩]

theorem readZone_offsetText {offset : Int} (h : |offset| < 86400000000) :
    readZone (offsetText offset) = some (some offset) := by
  have hread := readOffset_text h
  by_cases hneg : offset < 0
  · have htext : offsetText offset = '-' :: (offsetText offset).tail := by
      unfold offsetText
      rw [if_pos hneg]
      rfl
    rw [htext]
    change (readOffset true (offsetText offset).tail).map some = _
    rw [hread, abs_of_neg hneg]
    simp
  · have htext : offsetText offset = '+' :: (offsetText offset).tail := by
      unfold offsetText
      rw [if_neg hneg]
      rfl
    rw [htext]
    change (readOffset false (offsetText offset).tail).map some = _
    rw [hread, abs_of_nonneg (not_lt.mp hneg)]
    simp

/-- An offset that Python accepts is of less than a day. -/
def OffsetFits (offset : Option Int) : Prop := ∀ o ∈ offset, |o| < 86400000000

theorem offsetFits_none : OffsetFits none := fun _ hmem => nomatch hmem

/-- **A time of day reads back.** -/
theorem readTime_timeText {micros : Int} (h : 0 ≤ micros ∧ micros < 86400000000) {offset : Option Int}
    (hoffset : OffsetFits offset) : readTime (timeText micros offset) = some (micros, offset) := by
  have hzone : readZone ((offset.map offsetText).getD []) = some offset := by
    cases offset with
    | none => rfl
    | some offset => exact readZone_offsetText (hoffset offset rfl)
  have hhead : ∀ c ∈ ((offset.map offsetText).getD []).head?, c ≠ '.' := by
    cases offset with
    | none => exact fun c hc => nomatch hc
    | some offset =>
      change ∀ c ∈ (offsetText offset).head?, c ≠ '.'
      unfold offsetText
      rintro c ⟨⟩
      split_ifs <;> decide
  unfold readTime timeText
  rw [readClock_clockText h hhead]
  simp only [Option.bind_some]
  rw [if_pos (by omega), hzone, micros_parts h.1]
  rfl

/-! ### Dates -/

/-- **A date reads back.** -/
theorem readDate_isoDate {ordinal : Int} (h : Calendar.InCalendar ordinal) :
    readDate (isoDate ordinal).toList = some ordinal := by
  obtain ⟨hy1, hy2, hm1, hm2, hd1, hd2⟩ := Calendar.isDate_civil h
  have hdays := Calendar.daysInMonth_bounds (Calendar.civil ordinal).1 (Calendar.civil ordinal).2.1
  have hyear := @readNumber_int 4 (Calendar.civil ordinal).1 (by omega)
  have hmonth := @readNumber_int 2 (Calendar.civil ordinal).2.1 (by omega)
  have hday := @readNumber_int 2 (Calendar.civil ordinal).2.2 (by omega) []
  rw [List.append_nil] at hday
  unfold readDate isoDate
  simp only [String.toList_ofList]
  rw [hyear]
  simp only [Option.bind_some]
  rw [hmonth]
  simp only [Option.bind_some, hday]
  rw [Int.toNat_of_nonneg (by omega), Int.toNat_of_nonneg (by omega), Int.toNat_of_nonneg (by omega),
    if_pos ⟨trivial, Calendar.isDate_civil h⟩, Calendar.ordinal_civil]

/-- **A datetime reads back.** -/
theorem readDateTime_text {wall : Wall} (h : Instant.InRange wall) {offset : Option Int}
    (hoffset : OffsetFits offset) :
    readDateTime (dateTimeText wall offset) = some (wall, offset) := by
  have hlength := isoDate_toList (Wall.ordinal wall)
  have hday : 0 ≤ Wall.timeOfDay wall ∧ Wall.timeOfDay wall < 86400000000 := by
    unfold Wall.timeOfDay
    omega
  have htake : (dateTimeText wall offset).take 10 = (isoDate (Wall.ordinal wall)).toList :=
    List.take_left' hlength
  have hdrop : (dateTimeText wall offset).drop 10 = 'T' :: timeText (Wall.timeOfDay wall) offset :=
    List.drop_left' hlength
  have hwall : (Wall.midnight (Wall.ordinal wall) : Int) + Wall.timeOfDay wall = wall := by
    simp only [Wall.midnight, Wall.ordinal, Wall.timeOfDay]
    omega
  unfold readDateTime
  rw [htake, readDate_isoDate (Wall.inCalendar_ordinal h), hdrop]
  simp only [Option.bind_some]
  rw [readTime_timeText hday hoffset, Option.map_some, hwall]

end Iso

end Zhixu
