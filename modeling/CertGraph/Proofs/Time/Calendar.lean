import CertGraph.Time.Instant
import Mathlib.Algebra.Ring.Nat
import Mathlib.Data.List.GetD
import Mathlib.Order.Monotone.Basic

/- The calendar: days and dates determine each other. -/
set_option autoImplicit false
set_option relaxedAutoImplicit false

namespace CertGraph.Time

namespace Date

private theorem sum_monthLengths (year : Nat) :
    (monthLengths year).sum = if isLeap year then 366 else 365 := by
  simp only [monthLengths]
  split <;> rfl

private theorem isLeap_iff (year : Nat) :
    isLeap year = true ↔ year % 4 = 0 ∧ (year % 100 ≠ 0 ∨ year % 400 = 0) := by
  simp [isLeap]

private theorem daysBeforeYear_succ {year : Nat} (positive : 1 ≤ year) :
    daysBeforeYear (year + 1) = daysBeforeYear year + (monthLengths year).sum := by
  have century : (year - 1) / 100 ≤ (year - 1) / 4 := by omega
  have byFour : year / 4 = (year - 1) / 4 + if year % 4 = 0 then 1 else 0 := by split <;> omega
  have byCentury : year / 100 = (year - 1) / 100 + if year % 100 = 0 then 1 else 0 := by
    split <;> omega
  have byCycle : year / 400 = (year - 1) / 400 + if year % 400 = 0 then 1 else 0 := by
    split <;> omega
  have days : 365 * year = 365 * (year - 1) + 365 := by omega
  have extra : (if isLeap year = true then 366 else 365) + (if year % 100 = 0 then 1 else 0) =
      365 + (if year % 4 = 0 then 1 else 0) + (if year % 400 = 0 then 1 else 0) := by
    by_cases leap : isLeap year = true
    · rw [if_pos leap]
      obtain ⟨fourth, others⟩ := (isLeap_iff year).mp leap
      rw [if_pos fourth]
      split <;> split <;> omega
    · rw [if_neg leap]
      rw [isLeap_iff] at leap
      split <;> split <;> split <;> omega
  rw [sum_monthLengths, daysBeforeYear, daysBeforeYear, Nat.add_sub_cancel, byFour, byCentury,
    byCycle, days]
  generalize (if isLeap year = true then 366 else 365) = length at extra ⊢
  generalize (year - 1) / 4 = fourths at century ⊢
  generalize (year - 1) / 100 = centuries at century ⊢
  omega

private theorem daysBeforeYear_mono : Monotone daysBeforeYear := by
  refine monotone_nat_of_le_succ fun year => ?_
  rcases Nat.eq_zero_or_pos year with rfl | positive
  · decide
  · rw [daysBeforeYear_succ positive]
    exact Nat.le_add_right _ _

/-- The year of a day is the one in which it lies. -/
theorem yearOf_spec (day : Nat) :
    1 ≤ yearOf day ∧ daysBeforeYear (yearOf day) ≤ day ∧ day < daysBeforeYear (yearOf day + 1) := by
  simp only [yearOf]
  generalize guessed : day * 400 / 146097 = guess
  have below : 146097 * guess ≤ day * 400 := by omega
  have above : day * 400 < 146097 * (guess + 1) := by omega
  split
  · rename_i early
    simp only [daysBeforeYear] at early ⊢
    omega
  · split
    · rename_i late
      simp only [daysBeforeYear] at late ⊢
      omega
    · omega

private theorem foldl_add_eq (start : Nat) (lengths : List Nat) :
    lengths.foldl (· + ·) start = start + lengths.sum := by
  induction lengths generalizing start with
  | nil => rfl
  | cons length lengths ih => rw [List.foldl_cons, ih, List.sum_cons, Nat.add_assoc]

/-- A day within some months lies in one of them, behind those that have passed. -/
theorem passMonths_spec {lengths : List Nat} {day : Nat} (inside : day < lengths.sum) :
    (passMonths lengths day).1 < lengths.length ∧
      (passMonths lengths day).2 < lengths.getD (passMonths lengths day).1 0 ∧
      (lengths.take (passMonths lengths day).1).sum + (passMonths lengths day).2 = day := by
  induction lengths generalizing day with
  | nil => cases inside
  | cons length lengths ih =>
    rw [List.sum_cons] at inside
    by_cases early : day < length
    · simp [passMonths, early]
    · obtain ⟨fewer, within, whole⟩ := @ih (day - length) (by omega)
      simp only [passMonths, early, if_false, List.length_cons, List.getD_cons_succ,
        List.take_succ_cons, List.sum_cons]
      omega

theorem getD_monthLengths_le (year month : Nat) : (monthLengths year).getD month 0 ≤ 31 := by
  have most : ∀ length ∈ monthLengths year, length ≤ 31 := by
    simp only [monthLengths]
    split <;> decide
  rcases Nat.lt_or_ge month (monthLengths year).length with inside | outside
  · rw [List.getD_eq_getElem _ _ inside]
    exact most _ (List.getElem_mem inside)
  · rw [List.getD_eq_default _ _ outside]
    exact Nat.zero_le 31

section OfDay

variable (day : Nat)

private theorem rest_lt (day : Nat) :
    day - daysBeforeYear (yearOf day) < (monthLengths (yearOf day)).sum := by
  obtain ⟨positive, started, unended⟩ := yearOf_spec day
  rw [daysBeforeYear_succ positive] at unended
  omega

theorem toDay_ofDay : (ofDay day).toDay = day := by
  obtain ⟨-, started, -⟩ := yearOf_spec day
  obtain ⟨-, -, whole⟩ := passMonths_spec (rest_lt day)
  simp only [toDay, ofDay, Nat.add_sub_cancel, foldl_add_eq]
  omega

private theorem ofDay_bounds : 1 ≤ (ofDay day).month ∧ (ofDay day).month ≤ 12 ∧ 1 ≤ (ofDay day).day ∧
    (ofDay day).day ≤ (monthLengths (ofDay day).year).getD ((ofDay day).month - 1) 0 := by
  obtain ⟨fewer, within, -⟩ := passMonths_spec (rest_lt day)
  have twelve : (monthLengths (yearOf day)).length = 12 := rfl
  simp only [ofDay, Nat.add_sub_cancel]
  omega

theorem isValid_ofDay (early : (ofDay day).year ≤ 9999) : (ofDay day).isValid = true := by
  obtain ⟨positive, -, -⟩ := yearOf_spec day
  obtain ⟨first, last, firstDay, lastDay⟩ := ofDay_bounds day
  simp only [isValid, Bool.and_eq_true, decide_eq_true_eq]
  exact ⟨⟨⟨⟨⟨positive, early⟩, first⟩, last⟩, firstDay⟩, lastDay⟩

end OfDay

private theorem yearOf_mono : Monotone yearOf := by
  intro first second later
  obtain ⟨-, started, -⟩ := yearOf_spec first
  obtain ⟨-, -, unended⟩ := yearOf_spec second
  by_contra earlier
  have before : yearOf second + 1 ≤ yearOf first := by omega
  have passed := daysBeforeYear_mono before
  omega

private theorem yearOf_le_of_lt {day : Nat} (inside : day < Instant.calendarDays) :
    yearOf day ≤ 9999 := by
  obtain ⟨-, started, -⟩ := yearOf_spec day
  by_contra late
  have after : 10000 ≤ yearOf day := by omega
  have passed := daysBeforeYear_mono after
  have all : daysBeforeYear 10000 = Instant.calendarDays := by decide +kernel
  omega

end Date

namespace Instant

private theorem seconds_truncated (instant : Instant) : instant.truncated.seconds = instant.seconds :=
  Nat.mul_div_cancel _ (by decide)

theorem truncated_truncated (instant : Instant) : instant.truncated.truncated = instant.truncated := by
  rw [truncated, seconds_truncated, truncated]

theorem date_truncated (instant : Instant) : instant.truncated.date = instant.date := by
  rw [date, seconds_truncated, date]

theorem year_mono {first second : Instant} (later : first.micros ≤ second.micros) :
    first.date.year ≤ second.date.year := by
  have seconds : first.seconds ≤ second.seconds := Nat.div_le_div_right later
  exact Date.yearOf_mono (Nat.div_le_div_right seconds)

theorem year_le {instant : Instant} (inside : instant.micros < limit) :
    instant.date.year ≤ 9999 := by
  refine Date.yearOf_le_of_lt ?_
  have days : instant.micros / Duration.microsPerSecond / Duration.secondsPerDay < calendarDays := by
    simp only [limit, Duration.microsPerSecond, Duration.secondsPerDay] at inside ⊢
    omega
  exact days

/-- An instant that lies later within the calendar. -/
theorem add?_later {instant after : Instant} {duration : Duration} (positive : 0 < duration.micros)
    (added : instant.add? duration = some after) :
    instant.micros ≤ after.micros ∧ after.micros < limit := by
  unfold add? at added
  dsimp only at added
  split at added
  · rename_i inside
    cases added
    dsimp only
    omega
  · cases added

end Instant

end CertGraph.Time
