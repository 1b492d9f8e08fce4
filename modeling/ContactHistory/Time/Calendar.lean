namespace ContactHistory.Time

@[ext] structure Date where
  year : Int
  month : Nat
  day : Nat
  deriving DecidableEq, Repr

/-- A time of day. The second 60 is a leap second, at the end of any minute. -/
@[ext] structure Clock where
  hour : Nat
  minute : Nat
  second : Nat
  nanos : Nat
  deriving DecidableEq, Repr

def isLeapYear (y : Int) : Bool := y % 4 = 0 && (y % 100 ≠ 0 || y % 400 = 0)

def daysInMonth (y : Int) : Nat → Nat
  | 2 => if isLeapYear y then 29 else 28
  | 4 | 6 | 9 | 11 => 30
  | _ => 31

/-- Days from 0000-01-01 to the first of January of a year. -/
def daysBeforeYear (y : Int) : Int :=
  365 * y + (y + 3).fdiv 4 - (y + 99).fdiv 100 + (y + 399).fdiv 400

/-- Days of a year before the first of a month. -/
def daysBeforeMonth (y : Int) : Nat → Nat
  | 0 => 0
  | 1 => 0
  | m + 1 => daysBeforeMonth y m + daysInMonth y m

namespace Date

def Exists (d : Date) : Prop :=
  1 ≤ d.month ∧ d.month ≤ 12 ∧ 1 ≤ d.day ∧ d.day ≤ daysInMonth d.year d.month

instance (d : Date) : Decidable d.Exists := by unfold Exists; infer_instance

def dayNumber (d : Date) : Int :=
  daysBeforeYear d.year - daysBeforeYear 1970 + daysBeforeMonth d.year d.month + d.day - 1

/-- The years that dates are kept for: from -262143 to 262142. -/
def firstDay : Int := (Date.mk (-262143) 1 1).dayNumber

def lastDay : Int := (Date.mk 262142 12 31).dayNumber

end Date

namespace Clock

/-- The time is one of a day, leap seconds included. -/
def InDay (c : Clock) : Prop := c.hour ≤ 23 ∧ c.minute ≤ 59 ∧ c.second ≤ 60 ∧ c.nanos < 1000000000

instance (c : Clock) : Decidable c.InDay := by unfold InDay; infer_instance

def seconds (c : Clock) : Int := c.hour * 3600 + c.minute * 60 + c.second

def midnight : Clock := ⟨0, 0, 0, 0⟩

end Clock

/-- Milliseconds since the epoch of a local date and time, `offset` seconds ahead of UTC. The
fraction of a second is cut to milliseconds. -/
def millisSinceEpoch (d : Date) (c : Clock) (offset : Int) : Int :=
  (d.dayNumber * 86400 + c.seconds - offset) * 1000 + (c.nanos / 1000000 : Nat)

/-- The day in UTC of a local date and time. A leap second counts to the day it ends. -/
def utcDay (d : Date) (c : Clock) (offset : Int) : Int :=
  let seconds : Nat := c.hour * 3600 + c.minute * 60 + min c.second 59
  (d.dayNumber * 86400 + seconds - offset).fdiv 86400

example : (Date.mk 1970 1 1).dayNumber = 0 := by decide

example : (Date.mk 2000 3 1).dayNumber = 11017 := by decide

end ContactHistory.Time
