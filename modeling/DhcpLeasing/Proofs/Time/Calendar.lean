import DhcpLeasing.Time.Calendar
import Mathlib

/-!
# Days and dates

Every day has a date, and the date has that day: `toDays_ofDays`.
-/

namespace DhcpLeasing.Date

/-! ## Years -/

/-- A year is as long as its months. -/
lemma daysBeforeYear_succ (year : ℤ) :
    daysBeforeYear (year + 1) = daysBeforeYear year + (monthLengths year).sum := by
  have hsum : ((monthLengths year).sum : ℤ) = if isLeapYear year then 366 else 365 := by
    unfold monthLengths
    split <;> rfl
  rw [hsum]
  unfold daysBeforeYear isLeapYear
  simp only [decide_eq_true_eq]
  split <;> omega

/-- The year of a day, which the guess at it misses by one at most. -/
lemma yearOfDay_spec (days : ℤ) :
    daysBeforeYear (yearOfDay days) ≤ days ∧ days < daysBeforeYear (yearOfDay days + 1) := by
  unfold yearOfDay
  simp only
  split
  · next hearly =>
    rw [Int.sub_add_cancel]
    refine ⟨?_, hearly⟩
    simp only [daysBeforeYear] at *
    omega
  · split
    · next hlate =>
      refine ⟨hlate, ?_⟩
      simp only [daysBeforeYear] at *
      omega
    · exact ⟨by omega, by omega⟩

lemma daysBeforeYear_mono {a b : ℤ} (h : a ≤ b) : daysBeforeYear a ≤ daysBeforeYear b := by
  simp only [daysBeforeYear]
  omega

/-- Days of a span of years have their year in it. -/
lemma yearOfDay_mem {first last days : ℤ} (hfirst : daysBeforeYear first ≤ days)
    (hlast : days < daysBeforeYear (last + 1)) :
    first ≤ yearOfDay days ∧ yearOfDay days ≤ last := by
  obtain ⟨hbegin, hend⟩ := yearOfDay_spec days
  constructor
  · by_contra hearly
    have hmono := daysBeforeYear_mono (show yearOfDay days + 1 ≤ first by omega)
    omega
  · by_contra hlate
    have hmono := daysBeforeYear_mono (show last + 1 ≤ yearOfDay days by omega)
    omega

/-! ## Months -/

/-- The month of a day of a year, and the day of the month. -/
lemma splitDay_spec {lengths : List ℕ} {day : ℕ} (h : day < lengths.sum) :
    (splitDay lengths day).1 < lengths.length ∧
      (splitDay lengths day).2 < lengths.getD (splitDay lengths day).1 0 ∧
      (lengths.take (splitDay lengths day).1).sum + (splitDay lengths day).2 = day := by
  induction lengths generalizing day with
  | nil => simp at h
  | cons length rest ih =>
    rw [splitDay]
    split
    · next hlt => simpa using hlt
    · next hle =>
      rw [List.sum_cons] at h
      have hrest : day - length < rest.sum := by omega
      obtain ⟨hmonth, hday, hsum⟩ := ih hrest
      refine ⟨by simpa using hmonth, by simpa using hday, ?_⟩
      simp only [List.take_succ_cons, List.sum_cons]
      omega

lemma monthLength_le (year : ℤ) (month : ℕ) : (monthLengths year).getD month 0 ≤ 31 := by
  have hall : ∀ length ∈ monthLengths year, length ≤ 31 := by
    unfold monthLengths
    split <;> decide
  rw [List.getD_eq_getElem?_getD]
  cases hlength : (monthLengths year)[month]? with
  | none => simp
  | some length => exact hall length (List.mem_of_getElem? hlength)

/-! ## Dates -/

lemma ofDays_eq (days : ℤ) :
    ofDays days =
      ⟨yearOfDay days,
        (splitDay (monthLengths (yearOfDay days))
          (days - daysBeforeYear (yearOfDay days)).toNat).1 + 1,
        (splitDay (monthLengths (yearOfDay days))
          (days - daysBeforeYear (yearOfDay days)).toNat).2 + 1⟩ := rfl

lemma day_lt_sum (days : ℤ) : (days - daysBeforeYear (yearOfDay days)).toNat <
    (monthLengths (yearOfDay days)).sum := by
  obtain ⟨hfirst, hlast⟩ := yearOfDay_spec days
  rw [daysBeforeYear_succ] at hlast
  omega

/-- The date of a day is a date. -/
theorem isValid_ofDays (days : ℤ) : (ofDays days).isValid := by
  obtain ⟨hmonth, hday, -⟩ := splitDay_spec (day_lt_sum days)
  rw [ofDays_eq, isValid]
  have htwelve : (monthLengths (yearOfDay days)).length = 12 := rfl
  simp only [Bool.and_eq_true, decide_eq_true_eq, Nat.add_sub_cancel]
  omega

/-- The date of a day has that day. -/
theorem toDays_ofDays (days : ℤ) : (ofDays days).toDays = days := by
  obtain ⟨-, -, hsum⟩ := splitDay_spec (day_lt_sum days)
  obtain ⟨hfirst, -⟩ := yearOfDay_spec days
  rw [ofDays_eq, toDays]
  simp only [Nat.add_sub_cancel, ← List.sum_eq_foldl]
  omega

end DhcpLeasing.Date
