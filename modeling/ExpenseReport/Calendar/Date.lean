/-!
# Calendar dates

Days of the Gregorian calendar, extended to all years before its introduction. The years range over
about a quarter of a million on either side; there is a year zero.
-/

namespace ExpenseReport

namespace Date

def minYear : Int := -262143

def maxYear : Int := 262142

/-- A leap year: every fourth, but of the full centuries only every fourth. -/
def isLeap (year : Int) : Bool :=
  year % 4 = 0 && (year % 100 != 0 || year % 400 = 0)

/-- How many days a month has; a number that is no month has none. -/
def daysIn (year : Int) (month : Nat) : Nat :=
  match month with
  | 2 => if isLeap year then 29 else 28
  | 4 | 6 | 9 | 11 => 30
  | 1 | 3 | 5 | 7 | 8 | 10 | 12 => 31
  | _ => 0

end Date

/-- A day of the calendar. -/
structure Date where
  year : Int
  month : Nat
  day : Nat
  year_ge : Date.minYear ≤ year
  year_le : year ≤ Date.maxYear
  day_pos : 1 ≤ day
  day_le : day ≤ Date.daysIn year month
deriving DecidableEq

namespace Date

/-- The date of a year, month and day, if there is such a day. -/
def ofParts? (year : Int) (month day : Nat) : Option Date :=
  if h : minYear ≤ year ∧ year ≤ maxYear ∧ 1 ≤ day ∧ day ≤ daysIn year month then
    some ⟨year, month, day, h.1, h.2.1, h.2.2.1, h.2.2.2⟩
  else none

theorem ofParts?_eq_some (d : Date) : ofParts? d.year d.month d.day = some d :=
  dif_pos ⟨d.year_ge, d.year_le, d.day_pos, d.day_le⟩

theorem month_mem (d : Date) : 1 ≤ d.month ∧ d.month ≤ 12 := by
  have hpos := d.day_pos
  have hle := d.day_le
  unfold daysIn at hle
  split at hle <;> omega

end Date

end ExpenseReport
