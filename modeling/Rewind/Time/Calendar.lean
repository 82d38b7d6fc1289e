/-!
Dates of the Gregorian calendar, without end in both directions.

Only neighbouring days are computed, which is all that a time zone less than a day away needs.
-/

namespace Rewind

/-- A day. -/
structure Date where
  year : Int
  month : Nat
  day : Nat
deriving DecidableEq, Repr, Inhabited

namespace Date

/-- Every fourth year has a leap day, of the full centuries every fourth one. -/
def isLeapYear (year : Int) : Bool :=
  year % 4 = 0 && (year % 100 != 0 || year % 400 = 0)

def daysInMonth (year : Int) (month : Nat) : Nat :=
  if month = 2 then (if isLeapYear year then 29 else 28)
  else if month = 4 || month = 6 || month = 9 || month = 11 then 30
  else 31

/-- Whether the month and the day exist. -/
def isValid (d : Date) : Bool :=
  1 ≤ d.month && d.month ≤ 12 && 1 ≤ d.day && d.day ≤ daysInMonth d.year d.month

/-- The day after. -/
def next (d : Date) : Date :=
  if d.day < daysInMonth d.year d.month then { d with day := d.day + 1 }
  else if d.month < 12 then ⟨d.year, d.month + 1, 1⟩
  else ⟨d.year + 1, 1, 1⟩

/-- The day before. -/
def previous (d : Date) : Date :=
  if 1 < d.day then { d with day := d.day - 1 }
  else if 1 < d.month then ⟨d.year, d.month - 1, daysInMonth d.year (d.month - 1)⟩
  else ⟨d.year - 1, 12, 31⟩

/-- The day so many days after the first of January 1970. -/
def ofEpochDay (days : Nat) : Date :=
  -- Years are counted from the first of March of the year 0, so that leap days come last.
  let shifted := days + 719468
  let era := shifted / 146097
  let dayOfEra := shifted % 146097
  let yearOfEra := (dayOfEra - dayOfEra / 1460 + dayOfEra / 36524 - dayOfEra / 146096) / 365
  let dayOfYear := dayOfEra - (365 * yearOfEra + yearOfEra / 4 - yearOfEra / 100)
  let shiftedMonth := (5 * dayOfYear + 2) / 153
  let day := dayOfYear - (153 * shiftedMonth + 2) / 5 + 1
  let month := if shiftedMonth < 10 then shiftedMonth + 3 else shiftedMonth - 9
  let year := yearOfEra + era * 400 + (if month ≤ 2 then 1 else 0)
  ⟨year, month, day⟩

theorem isValid_iff {d : Date} :
    d.isValid = true ↔
      (1 ≤ d.month ∧ d.month ≤ 12) ∧ 1 ≤ d.day ∧ d.day ≤ daysInMonth d.year d.month := by
  simp only [isValid, Bool.and_eq_true, decide_eq_true_eq, and_assoc]

theorem one_le_daysInMonth (year : Int) (month : Nat) : 1 ≤ daysInMonth year month := by
  unfold daysInMonth
  repeat' split
  all_goals omega

theorem next_isValid {d : Date} (h : d.isValid = true) : d.next.isValid = true := by
  rw [isValid_iff] at h ⊢
  obtain ⟨hmonth, hday, _⟩ := h
  unfold next
  by_cases hinside : d.day < daysInMonth d.year d.month
  · rw [if_pos hinside]
    exact ⟨hmonth, Nat.succ_pos d.day, hinside⟩
  · rw [if_neg hinside]
    by_cases hyear : d.month < 12
    · rw [if_pos hyear]
      exact ⟨⟨Nat.succ_pos d.month, hyear⟩, Nat.le_refl 1, one_le_daysInMonth _ _⟩
    · rw [if_neg hyear]
      exact ⟨⟨Nat.le_refl 1, Nat.le_add_left 1 11⟩, Nat.le_refl 1, one_le_daysInMonth _ _⟩

theorem previous_isValid {d : Date} (h : d.isValid = true) : d.previous.isValid = true := by
  rw [isValid_iff] at h ⊢
  obtain ⟨hmonth, hday, hlast⟩ := h
  unfold previous
  by_cases hinside : 1 < d.day
  · rw [if_pos hinside]
    exact ⟨hmonth, Nat.le_sub_one_of_lt hinside, Nat.le_trans (Nat.sub_le d.day 1) hlast⟩
  · rw [if_neg hinside]
    by_cases hyear : 1 < d.month
    · rw [if_pos hyear]
      have hlater : d.month - 1 ≤ 12 := Nat.le_trans (Nat.sub_le d.month 1) hmonth.2
      exact ⟨⟨Nat.le_sub_one_of_lt hyear, hlater⟩, one_le_daysInMonth _ _, Nat.le_refl _⟩
    · rw [if_neg hyear]
      exact ⟨⟨Nat.le_add_left 1 11, Nat.le_refl 12⟩, Nat.le_add_left 1 30, Nat.le_refl 31⟩

end Date

end Rewind
