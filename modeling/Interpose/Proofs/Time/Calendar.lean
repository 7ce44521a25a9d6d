import Interpose.Time.Instant
import Mathlib.Algebra.Order.Ring.Nat

/-!
# The calendar

A year lasts as long as its months together (`daysBefore_succ`), and `yearOf` finds the year that a
day lies in (`daysBefore_yearOf`). So the date of a day leads back to the day (`dayOf?_dateOf`).
-/

namespace Interpose.Instant

/-! ## Years -/

/-- The days of a year are those of its months. -/
theorem daysBefore_succ (year : Int) :
    daysBefore (year + 1) = daysBefore year + (monthLengths year).sum := by
  unfold daysBefore monthLengths isLeap
  simp only [Bool.and_eq_true, Bool.or_eq_true, decide_eq_true_eq, List.sum_cons, List.sum_nil]
  split <;> omega

theorem daysBefore_eq (year : Int) : daysBefore year =
    365 * year + ((year - 1) / 4 - (year - 1) / 100 + (year - 1) / 400) + 1 := rfl

/-- The year of a day is the one that the day lies in. -/
theorem daysBefore_yearOf (day : Int) :
    daysBefore (yearOf day) ≤ day ∧ day < daysBefore (yearOf day + 1) := by
  -- the guess is wrong by one year at most, since 400 years have 146097 days
  unfold yearOf
  simp only
  split
  · rename_i hbefore
    rw [Int.sub_add_cancel]
    refine ⟨?_, hbefore⟩
    rw [daysBefore_eq]
    omega
  · split
    · rename_i hbefore hafter
      refine ⟨hafter, ?_⟩
      rw [daysBefore_eq]
      omega
    · rename_i hbefore hafter
      exact ⟨by omega, by omega⟩

/-! ## Months -/

theorem length_monthLengths (year : Int) : (monthLengths year).length = 12 := rfl

theorem le_of_mem_monthLengths {year : Int} {length : Nat} (h : length ∈ monthLengths year) :
    length ≤ 31 := by
  unfold monthLengths at h
  simp only [List.mem_cons, List.not_mem_nil, or_false] at h
  split at h <;> omega

/-- The month of a day of the year, and the days of the months before it. -/
theorem exists_monthDay (month : Nat) {lengths : List Nat} {n : Nat} (h : n < lengths.sum) :
    ∃ k length, lengths[k]? = some length ∧
      (monthDay month lengths n).1 = month + k ∧
      1 ≤ (monthDay month lengths n).2 ∧ (monthDay month lengths n).2 ≤ length ∧
      n + 1 = (lengths.take k).sum + (monthDay month lengths n).2 := by
  induction lengths generalizing month n with
  | nil => simp at h
  | cons first rest ih =>
    rw [monthDay]
    split
    · rename_i hin
      exact ⟨0, first, rfl, rfl, by simp, hin, by simp⟩
    · rename_i hout
      rw [List.sum_cons] at h
      have hrest : n - first < rest.sum := by omega
      obtain ⟨k, length, hk, hmonth, hone, hle, hsum⟩ := ih (month + 1) hrest
      refine ⟨k + 1, length, hk, by omega, hone, hle, ?_⟩
      rw [List.take_succ_cons, List.sum_cons]
      omega

/-! ## Dates -/

/-- A date has a month from 1 to 12 and a day from 1 to 31, and leads back to its day. -/
theorem dayOf?_dateOf (day : Int) : ∃ year month dayOfMonth,
    dateOf day = (year, month, dayOfMonth) ∧ year = yearOf day ∧ 1 ≤ month ∧ month ≤ 12 ∧
      1 ≤ dayOfMonth ∧ dayOfMonth ≤ 31 ∧ dayOf? year month dayOfMonth = some day := by
  obtain ⟨hle, hlt⟩ := daysBefore_yearOf day
  rw [daysBefore_succ] at hlt
  have hdate : dateOf day = (yearOf day, monthDay 1 (monthLengths (yearOf day))
      (day - daysBefore (yearOf day)).toNat) := rfl
  have hin : (day - daysBefore (yearOf day)).toNat < (monthLengths (yearOf day)).sum := by omega
  obtain ⟨k, length, hk, hmonth, hone, hday, hsum⟩ := exists_monthDay 1 hin
  have hmonths := (List.getElem?_eq_some_iff.mp hk).1
  rw [length_monthLengths] at hmonths
  generalize monthDay 1 _ _ = date at hdate hmonth hone hday hsum
  obtain ⟨month, dayOfMonth⟩ := date
  dsimp only at hmonth hone hday hsum
  refine ⟨_, month, dayOfMonth, hdate, rfl, by omega, by omega, hone,
    Nat.le_trans hday (le_of_mem_monthLengths (List.mem_of_getElem? hk)), ?_⟩
  rw [hmonth, dayOf?, Nat.add_sub_cancel_left, hk]
  dsimp only
  rw [if_pos ⟨by omega, hone, hday⟩, ← List.sum_eq_foldl]
  exact congrArg some (by omega)

end Interpose.Instant
