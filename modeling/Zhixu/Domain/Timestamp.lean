import Zhixu.Domain.Time
import Mathlib.Data.List.Basic

/-!
# Stored timestamps

`_dump_datetime` writes an instant as its ISO text in UTC, with a fractional
part only when the microseconds are not zero. The text is built from decimal
numbers of fixed width (`digits`), so it determines the instant
(`isoformat_injective`).

Two texts of different length end differently: the shorter has a digit where
the longer has the hyphen after its month. So a text that ends in a timestamp
determines both the timestamp and what stands before it
(`append_isoformat_inj`), which is what makes the keys derived from timestamps
unambiguous.
-/

open Framework

namespace Zhixu

/-- The last `width` decimal digits of a number. -/
def digits : ℕ → ℕ → List Char
  | 0, _ => []
  | width + 1, n => digits width (n / 10) ++ [Nat.digitChar (n % 10)]

@[simp] theorem length_digits (width n : ℕ) : (digits width n).length = width := by
  induction width generalizing n with
  | zero => rfl
  | succ width ih => rw [digits, List.length_append, ih, List.length_singleton]

theorem digitChar_inj {a b : ℕ} (ha : a < 10) (hb : b < 10)
    (h : Nat.digitChar a = Nat.digitChar b) : a = b := by
  have hall : ∀ a < 10, ∀ b < 10, Nat.digitChar a = Nat.digitChar b → a = b := by decide
  exact hall a ha b hb h

/-- Numbers that fit in the width are told apart by their digits. -/
theorem digits_inj {width m n : ℕ} (hm : m < 10 ^ width) (hn : n < 10 ^ width)
    (h : digits width m = digits width n) : m = n := by
  induction width generalizing m n with
  | zero =>
    rw [pow_zero] at hm hn
    omega
  | succ width ih =>
    rw [digits, digits] at h
    obtain ⟨hinit, hlast⟩ := List.append_inj h (by simp)
    have hmod := digitChar_inj (Nat.mod_lt m (by decide)) (Nat.mod_lt n (by decide))
      (List.singleton_inj.mp hlast)
    have hdiv : m / 10 = n / 10 := by
      refine ih ?_ ?_ hinit
      · rw [pow_succ] at hm; omega
      · rw [pow_succ] at hn; omega
    omega

/-- The date and the time of day of a text, to the second. -/
def isoSeconds (t : Int) : List Char :=
  let date := Calendar.civil (Wall.ordinal t)
  digits 4 date.1.toNat ++ '-' :: (digits 2 date.2.1.toNat ++ '-' :: (digits 2 date.2.2.toNat ++
    'T' :: (digits 2 (Wall.timeOfDay t / 3600000000).toNat ++
      ':' :: (digits 2 (Wall.timeOfDay t / 60000000 % 60).toNat ++
        ':' :: digits 2 (Wall.timeOfDay t / 1000000 % 60).toNat))))

/-- The fractional part, if there is one, and the offset. -/
def isoTail (t : Int) : List Char :=
  if t % 1000000 = 0 then "+00:00".toList
  else '.' :: (digits 6 (t % 1000000).toNat ++ "+00:00".toList)

/-- `value.astimezone(UTC).isoformat()`. -/
def isoformat (t : Int) : String := String.ofList (isoSeconds t ++ isoTail t)

@[simp] theorem length_isoSeconds (t : Int) : (isoSeconds t).length = 19 := by
  simp [isoSeconds]

theorem length_isoTail (t : Int) :
    (isoTail t).length = if t % 1000000 = 0 then 6 else 13 := by
  unfold isoTail
  split_ifs <;> simp

/-- A number read from its digits, when it is in range. -/
theorem digits_int_inj {width : ℕ} {m n : Int} (hm : 0 ≤ m ∧ m < 10 ^ width)
    (hn : 0 ≤ n ∧ n < 10 ^ width) (h : digits width m.toNat = digits width n.toNat) : m = n := by
  have hnat : m.toNat = n.toNat := by
    refine digits_inj ?_ ?_ h
    · have : ((m.toNat : ℕ) : Int) < ((10 ^ width : ℕ) : Int) := by push_cast; omega
      exact_mod_cast this
    · have : ((n.toNat : ℕ) : Int) < ((10 ^ width : ℕ) : Int) := by push_cast; omega
      exact_mod_cast this
  omega

/-- The text to the second determines the second. -/
theorem isoSeconds_inj {t u : Int} (ht : Instant.InRange t) (hu : Instant.InRange u)
    (h : isoSeconds t = isoSeconds u) : t / 1000000 = u / 1000000 := by
  obtain ⟨hy1, hy2, hm1, hm2, hd1, hd2⟩ := Calendar.isDate_civil (Wall.inCalendar_ordinal ht)
  obtain ⟨hy1', hy2', hm1', hm2', hd1', hd2'⟩ := Calendar.isDate_civil (Wall.inCalendar_ordinal hu)
  have hdays := Calendar.daysInMonth_bounds (Calendar.civil (Wall.ordinal t)).1
    (Calendar.civil (Wall.ordinal t)).2.1
  have hdays' := Calendar.daysInMonth_bounds (Calendar.civil (Wall.ordinal u)).1
    (Calendar.civil (Wall.ordinal u)).2.1
  have htod := Wall.timeOfDay_bounds t
  have htod' := Wall.timeOfDay_bounds u
  unfold isoSeconds at h
  -- peel the fields off, all of fixed width
  obtain ⟨hyear, h⟩ := List.append_inj h (by simp)
  rw [List.cons.injEq] at h
  obtain ⟨hmonth, h⟩ := List.append_inj h.2 (by simp)
  rw [List.cons.injEq] at h
  obtain ⟨hday, h⟩ := List.append_inj h.2 (by simp)
  rw [List.cons.injEq] at h
  obtain ⟨hhour, h⟩ := List.append_inj h.2 (by simp)
  rw [List.cons.injEq] at h
  obtain ⟨hminute, h⟩ := List.append_inj h.2 (by simp)
  rw [List.cons.injEq] at h
  have hyear := digits_int_inj (by omega) (by omega) hyear
  have hmonth := digits_int_inj (by omega) (by omega) hmonth
  have hday := digits_int_inj (by omega) (by omega) hday
  have hhour := digits_int_inj (by omega) (by omega) hhour
  have hminute := digits_int_inj (by omega) (by omega) hminute
  have hsecond := digits_int_inj (by omega) (by omega) h.2
  have hord : Wall.ordinal t = Wall.ordinal u := by
    rw [← Calendar.ordinal_civil (Wall.ordinal t), ← Calendar.ordinal_civil (Wall.ordinal u),
      hyear, hmonth, hday]
  have hsplit := Wall.midnight_add_timeOfDay t
  have hsplit' := Wall.midnight_add_timeOfDay u
  rw [hord] at hsplit
  unfold Wall.midnight at hsplit hsplit'
  omega

/-- **A timestamp determines its instant.** -/
theorem isoformat_injective {t u : Int} (ht : Instant.InRange t) (hu : Instant.InRange u)
    (h : isoformat t = isoformat u) : t = u := by
  have hlist : isoSeconds t ++ isoTail t = isoSeconds u ++ isoTail u := by
    have := congrArg String.toList h
    simpa [isoformat] using this
  obtain ⟨hsec, htail⟩ := List.append_inj hlist (by simp)
  have hseconds := isoSeconds_inj ht hu hsec
  have hmicros : t % 1000000 = u % 1000000 := by
    have hlen := congrArg List.length htail
    rw [length_isoTail, length_isoTail] at hlen
    unfold isoTail at htail
    by_cases h0 : t % 1000000 = 0
    · by_cases h0' : u % 1000000 = 0
      · rw [h0, h0']
      · rw [if_pos h0, if_neg h0'] at hlen; omega
    · by_cases h0' : u % 1000000 = 0
      · rw [if_neg h0, if_pos h0'] at hlen; omega
      · rw [if_neg h0, if_neg h0', List.cons.injEq] at htail
        obtain ⟨hdigits, -⟩ := List.append_inj htail.2 (by simp)
        exact digits_int_inj (by omega) (by omega) hdigits
  omega

/-- The character of a text that tells the two lengths apart. -/
theorem head_isoSeconds (t : Int) : ∃ d, d < 10 ∧ (isoSeconds t).head? = some (Nat.digitChar d) := by
  unfold isoSeconds
  simp only [digits, List.nil_append, List.cons_append, List.head?_cons]
  exact ⟨_, Nat.mod_lt _ (by decide), rfl⟩

theorem drop_isoSeconds (t : Int) : ((isoSeconds t).drop 7).head? = some '-' := by
  simp [isoSeconds, digits]

/-- **What ends in a timestamp determines it** and what stands before it. -/
theorem append_isoformat_inj {p q : List Char} {t u : Int} (ht : Instant.InRange t)
    (hu : Instant.InRange u)
    (h : p ++ (isoformat t).toList = q ++ (isoformat u).toList) : p = q ∧ t = u := by
  -- texts of different length differ where the longer has the hyphen after its month
  have hmixed : ∀ {p q : List Char} {t u : Int}, t % 1000000 = 0 → u % 1000000 ≠ 0 →
      p ++ (isoformat t).toList ≠ q ++ (isoformat u).toList := by
    intro p q t u h0 h0' heq
    unfold isoformat at heq
    rw [String.toList_ofList, String.toList_ofList] at heq
    have hlen : (isoSeconds t ++ isoTail t).length = 25 := by
      rw [List.length_append, length_isoSeconds, length_isoTail, if_pos h0]
    have hsplit : q ++ (isoSeconds u ++ isoTail u) =
        (q ++ (isoSeconds u).take 7) ++ ((isoSeconds u).drop 7 ++ isoTail u) := by
      rw [List.append_assoc, ← List.append_assoc ((isoSeconds u).take 7), List.take_append_drop]
    rw [hsplit] at heq
    obtain ⟨-, htails⟩ := List.append_inj' heq (by
      rw [hlen, List.length_append, List.length_drop, length_isoSeconds, length_isoTail,
        if_neg h0'])
    obtain ⟨d, hd, hhead⟩ := head_isoSeconds t
    have hheads := congrArg List.head? htails
    rw [List.head?_append, hhead, List.head?_append, drop_isoSeconds] at hheads
    -- a digit is no hyphen
    simp at hheads
  by_cases h0 : t % 1000000 = 0
  · by_cases h0' : u % 1000000 = 0
    · obtain ⟨hp, hiso⟩ := List.append_inj' h (by
        simp [isoformat, length_isoTail, h0, h0'])
      exact ⟨hp, isoformat_injective ht hu (String.toList_injective hiso)⟩
    · exact absurd h (hmixed h0 h0')
  · by_cases h0' : u % 1000000 = 0
    · exact absurd h.symm (hmixed h0' h0)
    · obtain ⟨hp, hiso⟩ := List.append_inj' h (by
        simp [isoformat, length_isoTail, h0, h0'])
      exact ⟨hp, isoformat_injective ht hu (String.toList_injective hiso)⟩

/-! ### Dates -/

/-- `date.isoformat()`. -/
def isoDate (ordinal : Int) : String :=
  let date := Calendar.civil ordinal
  String.ofList (digits 4 date.1.toNat ++ '-' :: (digits 2 date.2.1.toNat ++
    '-' :: digits 2 date.2.2.toNat))

theorem isoDate_toList (ordinal : Int) : (isoDate ordinal).toList.length = 10 := by
  simp [isoDate]

/-- A date is determined by its text. -/
theorem isoDate_inj {d e : Int} (hd : Calendar.InCalendar d) (he : Calendar.InCalendar e)
    (h : isoDate d = isoDate e) : d = e := by
  obtain ⟨hy1, hy2, hm1, hm2, hd1, hd2⟩ := Calendar.isDate_civil hd
  obtain ⟨hy1', hy2', hm1', hm2', hd1', hd2'⟩ := Calendar.isDate_civil he
  have hdays := Calendar.daysInMonth_bounds (Calendar.civil d).1 (Calendar.civil d).2.1
  have hdays' := Calendar.daysInMonth_bounds (Calendar.civil e).1 (Calendar.civil e).2.1
  have hlist := congrArg String.toList h
  simp only [isoDate, String.toList_ofList] at hlist
  obtain ⟨hyear, hlist⟩ := List.append_inj hlist (by simp)
  rw [List.cons.injEq] at hlist
  obtain ⟨hmonth, hlist⟩ := List.append_inj hlist.2 (by simp)
  rw [List.cons.injEq] at hlist
  have hyear := digits_int_inj (by omega) (by omega) hyear
  have hmonth := digits_int_inj (by omega) (by omega) hmonth
  have hday := digits_int_inj (by omega) (by omega) hlist.2
  rw [← Calendar.ordinal_civil d, ← Calendar.ordinal_civil e, hyear, hmonth, hday]

end Zhixu
