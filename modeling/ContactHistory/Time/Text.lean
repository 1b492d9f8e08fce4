import ContactHistory.Text.Blank
import ContactHistory.Time.Calendar
import ContactHistory.Time.Instant

namespace ContactHistory.Time

open ContactHistory.Text

/-- The longest run of digits in front, of at most `width` digits. -/
def digitRun (width : Nat) (cs : List Char) : List Char :=
  (cs.take width).takeWhile Decimal.isDigit

/-- A number of at least `least` and at most `width` digits. -/
def scanNumber (least width : Nat) (cs : List Char) : Option (Nat × List Char) :=
  let ds := digitRun width cs
  if ds.length < least then none else some (Decimal.value ds, cs.drop ds.length)

def scanChar (c : Char) : List Char → Option (List Char)
  | [] => none
  | d :: cs => if d = c then some cs else none

/-- The digits after the point, as nanoseconds; digits beyond the ninth are read over. -/
def scanFraction (cs : List Char) : Option (Nat × List Char) :=
  let ds := digitRun 9 cs
  if ds.isEmpty then none
  else
    some (Decimal.value ds * Nat.pow 10 (9 - ds.length),
      (cs.drop ds.length).dropWhile Decimal.isDigit)

/-- A fraction of a second, where a point starts one. -/
def scanNanos : List Char → Option (Nat × List Char)
  | '.' :: cs => scanFraction cs
  | cs => some (0, cs)

/-- A sign of an offset: plus, hyphen or the minus sign U+2212. -/
def scanOffsetSign : List Char → Option (Int × List Char)
  | '+' :: cs => some (1, cs)
  | '-' :: cs => some (-1, cs)
  | '\u2212' :: cs => some (-1, cs)
  | _ => none

/-- Two digits, of which the first is at most `top`. -/
def scanPair (top : Char) : List Char → Option (Nat × List Char)
  | a :: b :: cs =>
    if Decimal.isDigit a && Decimal.isDigit b && a ≤ top then some (Decimal.value [a, b], cs)
    else none
  | _ => none

/-- How the offset of a form is written. -/
structure OffsetStyle where
  /-- What may stand between hours and minutes. -/
  separator : List Char → Option (List Char)
  /-- The minutes may be left out at the end of the text. -/
  minutesOptional : Bool

/-- An offset from UTC in seconds; the letter Z is the offset zero. -/
def scanOffset (style : OffsetStyle) : List Char → Option (Int × List Char)
  | 'Z' :: cs => some (0, cs)
  | 'z' :: cs => some (0, cs)
  | cs => do
    let (sign, cs) ← scanOffsetSign cs
    let (hours, cs) ← scanPair '9' cs
    let cs ← style.separator cs
    if style.minutesOptional && cs.isEmpty then some (sign * (hours * 3600 : Nat), cs)
    else
      let (minutes, cs) ← scanPair '5' cs
      some (sign * (hours * 3600 + minutes * 60 : Nat), cs)

/-- Internet offsets: a colon between hours and minutes, and both are written. -/
def internetOffset : OffsetStyle := ⟨scanChar ':', false⟩

/-- Spaced offsets: colons and blanks, or nothing, between hours and minutes. -/
def spacedOffset : OffsetStyle :=
  ⟨fun cs => some (cs.dropWhile fun c => c = ':' || isBlank c), true⟩

/-- A year with a sign may have any number of digits, one without has at most four. -/
def scanYear (cs : List Char) : Option (Int × List Char) :=
  match trimStart cs with
  | '-' :: cs => (scanNumber 1 cs.length cs).map fun (n, cs) => (-(n : Int), cs)
  | '+' :: cs => (scanNumber 1 cs.length cs).map fun (n, cs) => ((n : Int), cs)
  | cs => (scanNumber 1 4 cs).map fun (n, cs) => ((n : Int), cs)

/-- A field of one or two digits, with blanks in front. -/
def scanField (cs : List Char) : Option (Nat × List Char) := scanNumber 1 2 (trimStart cs)

def scanDate (cs : List Char) : Option (Date × List Char) := do
  let (year, cs) ← scanYear cs
  let cs ← scanChar '-' cs
  let (month, cs) ← scanField cs
  let cs ← scanChar '-' cs
  let (day, cs) ← scanField cs
  some (⟨year, month, day⟩, cs)

def scanClock (cs : List Char) : Option (Clock × List Char) := do
  let (hour, cs) ← scanField cs
  let cs ← scanChar ':' cs
  let (minute, cs) ← scanField cs
  let cs ← scanChar ':' cs
  let (second, cs) ← scanField cs
  let (nanos, cs) ← scanNanos cs
  some (⟨hour, minute, second, nanos⟩, cs)

/-- A date of the internet form: four, two and two digits. -/
def scanFixedDate (cs : List Char) : Option (Date × List Char) := do
  let (year, cs) ← scanNumber 4 4 cs
  let cs ← scanChar '-' cs
  let (month, cs) ← scanNumber 2 2 cs
  let cs ← scanChar '-' cs
  let (day, cs) ← scanNumber 2 2 cs
  some (⟨year, month, day⟩, cs)

/-- A time of the internet form: two digits each, and perhaps a fraction. -/
def scanFixedClock (cs : List Char) : Option (Clock × List Char) := do
  let (hour, cs) ← scanNumber 2 2 cs
  let cs ← scanChar ':' cs
  let (minute, cs) ← scanNumber 2 2 cs
  let cs ← scanChar ':' cs
  let (second, cs) ← scanNumber 2 2 cs
  let (nanos, cs) ← scanNanos cs
  some (⟨hour, minute, second, nanos⟩, cs)

/-- The letter or the space between date and time of the internet form. -/
def scanDateEnd : List Char → Option (List Char)
  | 'T' :: cs => some cs
  | 't' :: cs => some cs
  | ' ' :: cs => some cs
  | _ => none

/-- The milliseconds of a date, a time and an offset that exist, on a day that is kept. -/
def resolve (d : Date) (c : Clock) (offset : Int) : Option Int :=
  if d.Exists ∧ c.InDay ∧ Date.firstDay ≤ d.dayNumber ∧ d.dayNumber ≤ Date.lastDay ∧
      -86400 < offset ∧ offset < 86400 ∧
      Date.firstDay ≤ utcDay d c offset ∧ utcDay d c offset ≤ Date.lastDay then
    some (millisSinceEpoch d c offset)
  else none

/-- The value, if nothing of the text is left. -/
def complete {α : Type} : Option (α × List Char) → Option α
  | some (a, []) => some a
  | _ => none

/-- `2021-06-01T02:00:00.250+02:00`. -/
def readInternet (cs : List Char) : Option Int := do
  let (d, cs) ← scanFixedDate cs
  let cs ← scanDateEnd cs
  let (c, cs) ← scanFixedClock cs
  let offset ← complete (scanOffset internetOffset cs)
  resolve d c offset

def readSpaced (cs : List Char) : Option Int := do
  let (d, cs) ← scanDate cs
  let (c, cs) ← scanClock cs
  let offset ← complete (scanOffset spacedOffset (trimStart cs))
  resolve d c offset

/-- `2021-06-01T02:00:00.250`. -/
def readLocal (cs : List Char) : Option Int := do
  let (d, cs) ← scanDate cs
  let cs ← scanChar 'T' cs
  let c ← complete (scanClock cs)
  resolve d c 0

/-- `2021-06-01`. -/
def readDate (cs : List Char) : Option Int := do
  let d ← complete (scanDate cs)
  resolve d .midnight 0

/-- A number of milliseconds that 64 bits hold. -/
def readMillis (cs : List Char) : Option Int := (Decimal.readInt64 cs).toOption.map Int64.toInt

/-- The milliseconds of a text in the first form that fits. -/
def readAny (cs : List Char) : Option Int :=
  readMillis cs <|> readInternet cs <|> readSpaced cs <|> readLocal cs <|> readDate cs

end ContactHistory.Time

namespace ContactHistory.Instant

/-- The instant of a stored text, with blanks around it. None before the epoch. -/
def ofText? (s : String) : Option Instant :=
  ((Time.readAny (Text.trim s.toList)).filter (0 ≤ ·)).bind ofInt?

/-- The instant of a stored text, or the epoch where the text has none. -/
def ofText (s : String) : Instant := (ofText? s).getD epoch

end ContactHistory.Instant
