/-
The date of a day is the day with that number.

The year of a day holds it (`daysBeforeYear_yearOf`), and its month is found by taking
off month lengths (`monthOf_spec`), so `dateOf` gives a valid date (`valid_dateOf`) that
`dayNumber` takes back to its day (`dayNumber_dateOf`).
-/
import Parley.Time.Calendar

namespace Parley.Time

/-! ## Years -/

theorem daysBeforeYear_yearOf (n : Int) :
    daysBeforeYear (yearOf n) ≤ n ∧ n < daysBeforeYear (yearOf n + 1) := by
  unfold yearOf daysBeforeYear
  simp only
  split
  · omega
  · split
    · omega
    · omega

/-- The days of months of these lengths. -/
def days (lengths : List Nat) : Nat := lengths.foldr (· + ·) 0

@[simp] theorem days_nil : days [] = 0 := rfl

@[simp] theorem days_cons (length : Nat) (rest : List Nat) : days (length :: rest) = length + days rest := rfl

theorem days_monthLengths (year : Int) :
    (days (monthLengths year) : Int) = daysBeforeYear (year + 1) - daysBeforeYear year := by
  have hleap : isLeap year = true ↔ year % 4 = 0 ∧ (year % 100 ≠ 0 ∨ year % 400 = 0) := by
    simp [isLeap]
  unfold daysBeforeYear monthLengths
  by_cases h : isLeap year = true
  · have := hleap.mp h
    simp [h]
    omega
  · have := mt hleap.mpr h
    simp [h]
    omega

/-! ## Months -/

theorem monthOf_spec (lengths : List Nat) (month n : Nat) (h : n < days lengths) :
    ∃ i, (monthOf month n lengths).1 = month + i ∧ i < lengths.length ∧
      1 ≤ (monthOf month n lengths).2 ∧ (monthOf month n lengths).2 ≤ lengths.getD i 0 ∧
      days (lengths.take i) + (monthOf month n lengths).2 = n + 1 := by
  induction lengths generalizing month n with
  | nil => simp at h
  | cons length rest ih =>
    rw [days_cons] at h
    rw [monthOf]
    split
    · next hn => exact ⟨0, by simp; omega⟩
    · next hn =>
      obtain ⟨i, hmonth, hi, hleast, hmost, hsum⟩ := ih (month + 1) (n - length) (by omega)
      refine ⟨i + 1, ?_, ?_, hleast, ?_, ?_⟩
      · omega
      · simpa using hi
      · simpa using hmost
      · rw [List.take_succ_cons, days_cons]
        omega

/-! ## Dates -/

theorem dateOf_spec (number : Int) : ∃ i < 12, (dateOf number).month = i + 1 ∧
    1 ≤ (dateOf number).day ∧ (dateOf number).day ≤ (monthLengths (dateOf number).year).getD i 0 ∧
    firstDay + daysBeforeYear (dateOf number).year +
      days ((monthLengths (dateOf number).year).take i) + (dateOf number).day - 1 = number := by
  obtain ⟨hleast, hmost⟩ := daysBeforeYear_yearOf (number - firstDay)
  have hdays := days_monthLengths (yearOf (number - firstDay))
  obtain ⟨i, hmonth, hi, hday, hlength, hbefore⟩ := monthOf_spec
    (monthLengths (yearOf (number - firstDay))) 1
    (number - firstDay - daysBeforeYear (yearOf (number - firstDay))).toNat (by omega)
  refine ⟨i, hi, hmonth.trans (Nat.add_comm 1 i), hday, hlength, ?_⟩
  simp only [dateOf]
  omega

theorem valid_dateOf (number : Int) : (dateOf number).valid = true := by
  obtain ⟨i, -, hmonth, hday, hlength, -⟩ := dateOf_spec number
  rw [Date.valid, hmonth, monthLength, if_neg (Nat.succ_ne_zero i), Nat.add_sub_cancel]
  simp only [hday, hlength, decide_true, Bool.and_self]

theorem dayNumber_dateOf (number : Int) : dayNumber (dateOf number) = number := by
  obtain ⟨i, -, hmonth, -, -, hnumber⟩ := dateOf_spec number
  rw [dayNumber, hmonth, Nat.add_sub_cancel]
  exact hnumber

theorem length_le_of_month (year : Int) (i : Nat) : (monthLengths year).getD i 0 ≤ 31 := by
  unfold monthLengths
  rcases i with _ | _ | _ | _ | _ | _ | _ | _ | _ | _ | _ | _ | i
  all_goals simp
  split <;> omega

theorem dateOf_bounds (number : Int) : (dateOf number).month < 100 ∧ (dateOf number).day < 100 := by
  obtain ⟨i, hi, hmonth, -, hlength, -⟩ := dateOf_spec number
  have := length_le_of_month (dateOf number).year i
  omega

end Parley.Time
