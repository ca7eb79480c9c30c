import GossipNames.Time.Calendar
import Mathlib

/-! A day has one date, and the date tells the day. -/

namespace GossipNames.Calendar

theorem daysBeforeYear_succ (year : Int) :
    daysBeforeYear (year + 1)
      = daysBeforeYear year + 365 + if isLeapYear year then 1 else 0 := by
  unfold daysBeforeYear
  by_cases leap : isLeapYear year = true
  · rw [if_pos leap]
    simp only [isLeapYear, decide_eq_true_eq] at leap
    omega
  · rw [if_neg leap]
    simp only [isLeapYear, decide_eq_true_eq] at leap
    omega

/-- The estimate of an average year is put right in one step. -/
theorem yearOfDay_bounds (days : Int) :
    daysBeforeYear (yearOfDay days) ≤ days ∧ days < daysBeforeYear (yearOfDay days + 1) := by
  unfold yearOfDay
  dsimp only
  generalize estimated : 400 * days / 146097 = estimate
  unfold daysBeforeYear
  split
  · rw [Int.sub_add_cancel]
    omega
  · split
    · omega
    · omega

theorem daysBeforeYear_mono {first second : Int} (before : first ≤ second) :
    daysBeforeYear first ≤ daysBeforeYear second := by
  unfold daysBeforeYear
  omega

/-- A year that has begun by a day is not after the day's year. -/
theorem le_yearOfDay_iff {year days : Int} : year ≤ yearOfDay days ↔ daysBeforeYear year ≤ days := by
  obtain ⟨begun, next⟩ := yearOfDay_bounds days
  constructor
  · intro early
    exact Int.le_trans (daysBeforeYear_mono early) begun
  · intro passed
    refine Int.not_lt.mp fun late => ?_
    have further := daysBeforeYear_mono (Int.add_one_le_of_lt late)
    omega

theorem sum_monthLengths (year : Int) :
    (monthLengths year).sum = 365 + if isLeapYear year then 1 else 0 := by
  unfold monthLengths
  split <;> rfl

/-- Walking through months stops in the one that the rest of the days lies in. -/
theorem monthAndDay_eq (month : Nat) {lengths : List Nat} {rest : Nat}
    (within : rest < lengths.sum) :
    ∃ passed day, monthAndDay month lengths rest = (month + passed, day + 1)
      ∧ (lengths.take passed).sum + day = rest ∧ day < lengths.getD passed 0 := by
  induction lengths generalizing month rest with
  | nil => cases within
  | cons length lengths ih =>
    by_cases here : rest < length
    · refine ⟨0, rest, ?_, by simp, by simpa using here⟩
      simp only [monthAndDay, here, if_true, Nat.add_zero]
    · have further : rest - length < lengths.sum := by
        rw [List.sum_cons] at within
        omega
      obtain ⟨passed, day, found, total, inside⟩ := ih (month + 1) further
      refine ⟨passed + 1, day, ?_, ?_, by simpa using inside⟩
      · rw [monthAndDay, if_neg here, found, Nat.add_assoc, Nat.add_comm 1]
      · rw [List.take_succ_cons, List.sum_cons]
        omega

/-- The month and the day of the month, by what has passed of the year. -/
theorem ofDays_parts (days : Int) :
    (Date.ofDays days).year = yearOfDay days
      ∧ ∃ passed day, (Date.ofDays days).month = passed + 1 ∧ (Date.ofDays days).day = day + 1
        ∧ daysBeforeYear (yearOfDay days) + ((monthLengths (yearOfDay days)).take passed).sum + day
          = days
        ∧ day < (monthLengths (yearOfDay days)).getD passed 0 := by
  obtain ⟨begun, next⟩ := yearOfDay_bounds days
  have within : (days - daysBeforeYear (yearOfDay days)).toNat
      < (monthLengths (yearOfDay days)).sum := by
    rw [daysBeforeYear_succ] at next
    rw [sum_monthLengths]
    split at next <;> simp_all <;> omega
  obtain ⟨passed, day, found, total, inside⟩ := monthAndDay_eq 1 within
  refine ⟨rfl, passed, day, ?_, ?_, ?_, inside⟩
  · simp only [Date.ofDays, found, Nat.add_comm 1]
  · simp only [Date.ofDays, found]
  · omega

theorem toDays_ofDays (days : Int) : (Date.ofDays days).toDays = days := by
  obtain ⟨year, passed, day, month, ofMonth, total, -⟩ := ofDays_parts days
  simp only [Date.toDays, daysBeforeMonth, year, month, ofMonth, Nat.add_sub_cancel,
    ← List.sum_eq_foldl]
  omega

theorem isValid_ofDays (days : Int) : (Date.ofDays days).isValid = true := by
  obtain ⟨year, passed, day, month, ofMonth, -, inside⟩ := ofDays_parts days
  simp only [Date.isValid, year, month, ofMonth, Nat.add_sub_cancel, decide_eq_true_eq]
  omega

/-- Months and days take two digits at most. -/
theorem Date.bounds_of_isValid {date : Date} (valid : date.isValid = true) :
    date.month ≤ 12 ∧ date.day ≤ 31 := by
  simp only [Date.isValid, decide_eq_true_eq] at valid
  obtain ⟨-, begun, ends⟩ := valid
  have count : (monthLengths date.year).length = 12 := rfl
  have short : ∀ length ∈ monthLengths date.year, length ≤ 31 := by
    unfold monthLengths
    split <;> decide
  by_cases known : date.month - 1 < 12
  · have member : (monthLengths date.year).getD (date.month - 1) 0 ∈ monthLengths date.year := by
      rw [List.getD_eq_getElem _ _ (by omega)]
      exact List.getElem_mem _
    exact ⟨by omega, Nat.le_trans ends (short _ member)⟩
  · rw [List.getD_eq_default _ _ (by omega)] at ends
    omega

end GossipNames.Calendar
