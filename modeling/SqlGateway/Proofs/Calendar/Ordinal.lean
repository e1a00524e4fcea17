import Mathlib.Algebra.Order.BigOperators.Group.List
import Mathlib.Algebra.Order.Ring.Canonical
import Mathlib.Algebra.Order.Ring.Nat
import SqlGateway.Calendar.Date

/-!
# The numbering of days

A year begins where the one before it ends, and so does a month within its year. So days are
numbered in their order (`Date.ordinal_lt_iff`), and every number up to that of 31 December 9999 is
the number of a day, which `Date.ofOrdinal` finds (`Date.ordinal_ofOrdinal`).
-/

namespace SqlGateway.Date

/-! ## Years -/

/-- The days of a year. -/
def daysInYear (year : Nat) : Nat := (monthLengths (isLeap year)).sum

theorem daysInYear_eq (year : Nat) : daysInYear year = if isLeap year then 366 else 365 := by
  unfold daysInYear
  cases isLeap year <;> rfl

theorem isLeap_iff {year : Nat} :
    isLeap year = true ↔ 4 ∣ year ∧ (¬100 ∣ year ∨ 400 ∣ year) := by
  simp [isLeap, Nat.dvd_iff_mod_eq_zero]

theorem daysBeforeYear_succ {year : Nat} (h : 1 ≤ year) :
    daysBeforeYear (year + 1) = daysBeforeYear year + daysInYear year := by
  obtain ⟨y, rfl⟩ := Nat.exists_eq_add_of_le' h
  have hless : y / 100 ≤ y / 4 := Nat.div_le_div_left (by decide) (by decide)
  simp only [daysInYear_eq, isLeap_iff, daysBeforeYear, Nat.add_sub_cancel, Nat.succ_div]
  by_cases hfour : 4 ∣ y + 1
  · by_cases hcentury : 100 ∣ y + 1
    · by_cases hera : 400 ∣ y + 1
      · simp only [hfour, hcentury, hera, if_true, or_true, and_true]
        clear hfour hcentury hera
        omega
      · simp only [hfour, hcentury, hera, if_true, if_false, not_true, or_self, and_false]
        clear hfour hcentury hera
        omega
    · have hera : ¬400 ∣ y + 1 := fun hera => hcentury (Dvd.dvd.trans (by decide) hera)
      simp only [hfour, hcentury, hera, if_true, if_false, not_false_iff, true_or, and_true]
      clear hfour hcentury hera
      omega
  · have hcentury : ¬100 ∣ y + 1 := fun hcentury => hfour (Dvd.dvd.trans (by decide) hcentury)
    have hera : ¬400 ∣ y + 1 := fun hera => hfour (Dvd.dvd.trans (by decide) hera)
    simp only [hfour, hcentury, hera, if_false, false_and]
    clear hfour hcentury hera
    omega

/-- A year is over before a later one begins. -/
theorem daysBeforeYear_le {year later : Nat} (h : 1 ≤ year) (hlater : year < later) :
    daysBeforeYear year + daysInYear year ≤ daysBeforeYear later := by
  induction later, hlater using Nat.le_induction with
  | base => exact (daysBeforeYear_succ h).ge
  | succ later hlater ih =>
    rw [daysBeforeYear_succ (by omega : 1 ≤ later)]
    omega

/-! ## Months -/

theorem daysInMonth_eq (year : Nat) {month : Nat} (h : 1 ≤ month ∧ month ≤ 12) :
    ∃ hlt : month - 1 < (monthLengths (isLeap year)).length,
      daysInMonth year month = (monthLengths (isLeap year))[month - 1] := by
  have hlt : month - 1 < (monthLengths (isLeap year)).length := by
    show month - 1 < 12
    omega
  refine ⟨hlt, ?_⟩
  rw [daysInMonth, if_neg (by omega), List.getElem?_eq_getElem hlt, Option.getD_some]

theorem monthLengths_le (leap : Bool) : ∀ length ∈ monthLengths leap, length ≤ 31 := by
  cases leap <;> decide

theorem day_le {d : Date} (h : d.Valid) : d.day ≤ 31 := by
  obtain ⟨-, -, hfirst, hlast, -, hday⟩ := h
  obtain ⟨hlt, hlength⟩ := daysInMonth_eq d.year ⟨hfirst, hlast⟩
  exact hday.trans (hlength ▸ monthLengths_le _ _ (List.getElem_mem hlt))

theorem daysBeforeMonth_eq (year month : Nat) :
    daysBeforeMonth year month = ((monthLengths (isLeap year)).take (month - 1)).sum :=
  List.sum_eq_foldl.symm

/-- The first months up to the given one, all of their days counted. -/
theorem daysBeforeMonth_add (year : Nat) {month : Nat} (h : 1 ≤ month ∧ month ≤ 12) :
    daysBeforeMonth year month + daysInMonth year month =
      ((monthLengths (isLeap year)).take month).sum := by
  obtain ⟨hlt, hlength⟩ := daysInMonth_eq year h
  rw [daysBeforeMonth_eq, hlength, ← List.sum_take_succ _ _ hlt, Nat.sub_add_cancel h.1]

/-- A month is over before a later one begins. -/
theorem daysBeforeMonth_le (year : Nat) {month later : Nat} (h : 1 ≤ month ∧ month ≤ 12)
    (hlater : month < later) :
    daysBeforeMonth year month + daysInMonth year month ≤ daysBeforeMonth year later := by
  rw [daysBeforeMonth_add year h, daysBeforeMonth_eq]
  exact List.monotone_sum_take _ (by omega)

/-- No month ends after its year. -/
theorem daysBeforeMonth_le_year (year : Nat) {month : Nat} (h : 1 ≤ month ∧ month ≤ 12) :
    daysBeforeMonth year month + daysInMonth year month ≤ daysInYear year := by
  have hall : (monthLengths (isLeap year)).take 12 = monthLengths (isLeap year) :=
    List.take_of_length_le (Nat.le_refl 12)
  rw [daysBeforeMonth_add year h, daysInYear]
  calc ((monthLengths (isLeap year)).take month).sum
      ≤ ((monthLengths (isLeap year)).take 12).sum := List.monotone_sum_take _ h.2
    _ = (monthLengths (isLeap year)).sum := by rw [hall]

/-! ## Days in their order -/

/-- A day comes before another one: in an earlier year, or in an earlier month of the same year, or
earlier in the same month. -/
def Before (d e : Date) : Prop :=
  d.year < e.year ∨ d.year = e.year ∧ (d.month < e.month ∨ d.month = e.month ∧ d.day < e.day)

theorem eq_iff {d e : Date} :
    d = e ↔ d.year = e.year ∧ d.month = e.month ∧ d.day = e.day := by
  cases d
  cases e
  rw [Date.mk.injEq]

theorem before_or (d e : Date) : d.Before e ∨ d = e ∨ e.Before d := by
  rw [eq_iff]
  unfold Before
  omega

/-- Days with something to follow are compared field by field. -/
theorem before_or_eq_and (d e : Date) (next : Prop) :
    d.Before e ∨ d = e ∧ next ↔
      d.year < e.year ∨ d.year = e.year ∧
        (d.month < e.month ∨ d.month = e.month ∧
          (d.day < e.day ∨ d.day = e.day ∧ next)) := by
  simp only [Before, eq_iff, or_assoc, and_or_left, and_assoc]

section

variable {d e : Date}

/-- The number of a day lies within its year. -/
theorem ordinal_bounds (hd : d.Valid) : daysBeforeYear d.year < d.ordinal ∧
    d.ordinal ≤ daysBeforeYear d.year + daysInYear d.year := by
  obtain ⟨-, -, hfirst, hlast, hday, hlength⟩ := hd
  have hmonth := daysBeforeMonth_le_year d.year ⟨hfirst, hlast⟩
  unfold ordinal
  omega

theorem ordinal_lt_of_before (hd : d.Valid) (he : e.Valid) (h : d.Before e) :
    d.ordinal < e.ordinal := by
  rcases h with hyear | ⟨hyear, hmonth | ⟨hmonth, hday⟩⟩
  · have hover := daysBeforeYear_le hd.1 hyear
    have hearlier := (ordinal_bounds hd).2
    have hlater := (ordinal_bounds he).1
    omega
  · obtain ⟨-, -, hfirst, hlast, -, hlength⟩ := hd
    obtain ⟨-, -, -, -, hday, -⟩ := he
    have hover := daysBeforeMonth_le d.year ⟨hfirst, hlast⟩ hmonth
    unfold ordinal
    rw [← hyear]
    omega
  · unfold ordinal
    rw [hyear, hmonth]
    omega

/-- Of two days the earlier one has the smaller number. -/
theorem ordinal_lt_iff (hd : d.Valid) (he : e.Valid) : d.ordinal < e.ordinal ↔ d.Before e := by
  refine ⟨fun hlt => ?_, ordinal_lt_of_before hd he⟩
  rcases before_or d e with h | rfl | h
  · exact h
  · exact absurd hlt (Nat.lt_irrefl _)
  · exact absurd hlt (ordinal_lt_of_before he hd h).asymm

theorem ordinal_eq_iff (hd : d.Valid) (he : e.Valid) : d.ordinal = e.ordinal ↔ d = e := by
  refine ⟨fun h => ?_, congrArg _⟩
  rcases before_or d e with hbefore | hsame | hbefore
  · exact absurd h (ordinal_lt_of_before hd he hbefore).ne
  · exact hsame
  · exact absurd h (ordinal_lt_of_before he hd hbefore).ne'

theorem ordinal_pos (hd : d.Valid) : 1 ≤ d.ordinal :=
  Nat.one_le_of_lt (ordinal_bounds hd).1

theorem ordinal_le_last (hd : d.Valid) : d.ordinal ≤ lastOrdinal := by
  have hend : daysBeforeYear 10000 = lastOrdinal := rfl
  have hover : daysBeforeYear d.year + daysInYear d.year ≤ daysBeforeYear 10000 :=
    daysBeforeYear_le hd.1 (Nat.lt_succ_of_le hd.2.1)
  have hbound := (ordinal_bounds hd).2
  omega

end

/-! ## The day of a number -/

/-- The month and the day that are found lie `rest` days after the first of `month`. -/
theorem monthAndDay_spec (month : Nat) {rest : Nat} {lengths : List Nat} (h : rest < lengths.sum) :
    ∃ k day, monthAndDay month rest lengths = (month + k, day) ∧
      (lengths.take k).sum + day = rest + 1 ∧ 1 ≤ day ∧
      ∃ hk : k < lengths.length, day ≤ lengths[k] := by
  induction lengths generalizing month rest with
  | nil => exact absurd h (Nat.not_lt_zero _)
  | cons length lengths ih =>
    rw [monthAndDay]
    by_cases hlt : rest < length
    · rw [if_pos hlt]
      exact ⟨0, rest + 1, rfl, Nat.zero_add _, Nat.succ_pos _, Nat.succ_pos _, hlt⟩
    · rw [if_neg hlt]
      rw [List.sum_cons] at h
      have hrest : rest - length < lengths.sum := by omega
      obtain ⟨k, day, heq, hsum, hday, hk, hle⟩ := ih (month + 1) hrest
      refine ⟨k + 1, day, ?_, ?_, hday, Nat.succ_lt_succ hk, hle⟩
      · rw [heq, Nat.add_assoc, Nat.add_comm 1 k]
      · rw [List.take_succ_cons, List.sum_cons]
        omega

theorem ofYearDay_spec {year rest : Nat} (hyear : 1 ≤ year ∧ year ≤ 9999)
    (h : rest < daysInYear year) :
    (ofYearDay year rest).Valid ∧
      (ofYearDay year rest).ordinal = daysBeforeYear year + rest + 1 := by
  obtain ⟨k, day, heq, hsum, hday, hk, hle⟩ := monthAndDay_spec 1 h
  have hlast : k < 12 := hk
  have hmonth : 1 ≤ 1 + k ∧ 1 + k ≤ 12 := by omega
  have hdate : ofYearDay year rest = ⟨year, 1 + k, day⟩ := by
    rw [ofYearDay, heq]
  have hindex : 1 + k - 1 = k := Nat.add_sub_cancel_left 1 k
  obtain ⟨_, hlength⟩ := daysInMonth_eq year hmonth
  simp only [hindex] at hlength
  rw [hdate]
  constructor
  · exact ⟨hyear.1, hyear.2, hmonth.1, hmonth.2, hday, hlength ▸ hle⟩
  · have hbefore : daysBeforeMonth year (1 + k) = ((monthLengths (isLeap year)).take k).sum := by
      rw [daysBeforeMonth_eq, hindex]
    simp only [ordinal, hbefore]
    omega

/-- The day that is found for a number is one of the calendar, and it has that number. A number is
taken apart into eras of 400 years, centuries, cycles of four years and years; the last century of
an era and the last year of a cycle are a day longer than the others. -/
theorem ordinal_ofOrdinal {n : Nat} (hpos : 1 ≤ n) (hlast : n ≤ lastOrdinal) :
    (ofOrdinal n).Valid ∧ (ofOrdinal n).ordinal = n := by
  unfold ofOrdinal
  extract_lets n' era dayOfEra century dayOfCentury cycle dayOfCycle yearOfCycle
  have hera : n' = 146097 * era + dayOfEra := (Nat.div_add_mod n' 146097).symm
  have hcentury : dayOfEra = 36524 * century + dayOfCentury ∧ century ≤ 3 ∧
      dayOfCentury ≤ 36524 ∧ (century < 3 → dayOfCentury < 36524) := by omega
  have hcycle : dayOfCentury = 1461 * cycle + dayOfCycle ∧ dayOfCycle ≤ 1460 ∧ cycle ≤ 24 := by
    omega
  have hyear : 365 * yearOfCycle ≤ dayOfCycle ∧ yearOfCycle ≤ 3 ∧
      (yearOfCycle < 3 → dayOfCycle < 365 * yearOfCycle + 365) := by omega
  have hn : n = n' + 1 := (Nat.sub_add_cancel hpos).symm
  have hend : n' < 3652059 := by
    have : n ≤ 3652059 := hlast
    omega
  clear_value n' era dayOfEra century dayOfCentury cycle dayOfCycle yearOfCycle
  generalize hrest : dayOfCycle - yearOfCycle * 365 = rest
  generalize hnumber : 400 * era + 100 * century + 4 * cycle + yearOfCycle = y
  have hfours : y / 4 = 100 * era + 25 * century + cycle := by omega
  have hcenturies : y / 100 = 4 * era + century := by omega
  have heras : y / 400 = era := by omega
  have hdays : daysBeforeYear (y + 1) + rest + 1 = n := by
    rw [daysBeforeYear, Nat.add_sub_cancel, hfours, hcenturies, heras]
    omega
  have hlength : rest < daysInYear (y + 1) := by
    rw [daysInYear_eq]
    by_cases hleap : isLeap (y + 1) = true
    · rw [if_pos hleap]
      omega
    · rw [if_neg hleap]
      have hshort : yearOfCycle = 3 → cycle = 24 ∧ century < 3 := by
        intro hlastYear
        have hfour : 4 ∣ y + 1 := by omega
        have hcommon : 100 ∣ y + 1 ∧ ¬400 ∣ y + 1 := by
          simpa only [isLeap_iff, hfour, true_and, not_or, not_not] using hleap
        omega
      omega
  obtain ⟨hvalid, hordinal⟩ := ofYearDay_spec (by omega) hlength
  exact ⟨hvalid, hordinal.trans hdays⟩

end SqlGateway.Date
