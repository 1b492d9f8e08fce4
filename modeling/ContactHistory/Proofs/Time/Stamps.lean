import ContactHistory.Proofs.Time.Scans

namespace ContactHistory.Time

open Text

/-- A date and a time of day as they are written: a year of four digits, other fields of two, and
some places behind a point for the fraction of a second. -/
structure Stamp where
  year : Nat
  month : Nat
  day : Nat
  hour : Nat
  minute : Nat
  second : Nat
  places : Nat
  fraction : Nat
  year_lt : year < 10000
  month_lt : month < 100
  day_lt : day < 100
  hour_lt : hour < 100
  minute_lt : minute < 100
  second_lt : second < 100
  places_le : places ≤ 9
  fraction_lt : fraction < Nat.pow 10 places

/-- An offset from UTC as it is written, with the hours and minutes of a day. -/
structure Shift where
  ahead : Bool
  hours : Nat
  minutes : Nat
  hours_le : hours ≤ 23
  minutes_le : minutes ≤ 59

namespace Shift

def seconds (o : Shift) : Int :=
  if o.ahead then (o.hours * 3600 + o.minutes * 60 : Nat)
  else -(o.hours * 3600 + o.minutes * 60 : Nat)

def sign (o : Shift) : Char := if o.ahead then '+' else '-'

/-- `+hh` -/
def shortText (o : Shift) : List Char := o.sign :: Decimal.padded 2 o.hours

/-- `+hh:mm` -/
def text (o : Shift) : List Char := o.shortText ++ ':' :: Decimal.padded 2 o.minutes

/-- How an offset is written, with what stands between date and time. Minutes that are zero may be
left out behind a space. An offset of zero may be the letter Z or left out behind the letter T. -/
inductive Spelling (o : Shift) : Char → List Char → Prop
  | internet : Spelling o 'T' o.text
  | spaced : Spelling o ' ' o.text
  | short (h : o.minutes = 0) : Spelling o ' ' o.shortText
  | zulu (h : o.seconds = 0) : Spelling o 'T' ['Z']
  | plain (h : o.seconds = 0) : Spelling o 'T' []

theorem seconds_bounds (o : Shift) : -86400 < o.seconds ∧ o.seconds < 86400 := by
  have hhours := o.hours_le
  have hminutes := o.minutes_le
  unfold seconds
  split <;> omega

end Shift

/-- Nothing in front of a text belongs to a time of day. -/
def EndsClock (cs : List Char) : Prop := ∀ c ∈ cs.head?, Decimal.isDigit c = false ∧ c ≠ '.'

namespace Stamp

variable (w : Stamp)

def date : Date := ⟨w.year, w.month, w.day⟩

/-- The time of day is one, and not in a leap second. -/
def OnClock : Prop := w.hour ≤ 23 ∧ w.minute ≤ 59 ∧ w.second ≤ 59

instance : Decidable w.OnClock := by unfold OnClock; infer_instance

/-- `YYYY-MM-DD` -/
def dateText : List Char :=
  Decimal.padded 4 w.year ++ '-' :: (Decimal.padded 2 w.month ++ '-' :: Decimal.padded 2 w.day)

def fractionText : List Char :=
  if w.places = 0 then [] else '.' :: Decimal.padded w.places w.fraction

/-- `hh:mm:ss`, and the fraction if there is one. -/
def clockText : List Char :=
  Decimal.padded 2 w.hour ++ ':' :: (Decimal.padded 2 w.minute ++ ':' ::
    (Decimal.padded 2 w.second ++ w.fractionText))

/-- The fraction of a second, cut to milliseconds. -/
def cut : Nat := w.fraction * 1000 / Nat.pow 10 w.places

/-- The milliseconds since the epoch under a count of days. -/
def millis (days : Date → Int) (o : Shift) : Int :=
  (days w.date * 86400 + (w.hour * 3600 + w.minute * 60 + w.second : Nat) - o.seconds) * 1000 +
    w.cut

/-- The text of a date and a time, with some character between the two and a text behind them. -/
def text (between : Char) (behind : List Char) : List Char :=
  w.dateText ++ between :: (w.clockText ++ behind)

def nanos : Nat := w.fraction * Nat.pow 10 (9 - w.places)

def clock : Clock := ⟨w.hour, w.minute, w.second, w.nanos⟩

/-! ### Scanning the parts -/

variable {w}

theorem scanDate_dateText (rest : List Char) :
    scanDate (w.dateText ++ rest) = some (w.date, rest) := by
  unfold scanDate dateText
  simp only [List.append_assoc, List.cons_append, scanYear_padded w.year_lt, scanChar_cons,
    scanField_padded w.month_lt, scanField_padded w.day_lt, bind, Option.bind]
  rfl

theorem scanFixedDate_dateText (rest : List Char) :
    scanFixedDate (w.dateText ++ rest) = some (w.date, rest) := by
  have hyear (rest : List Char) :
      scanNumber 4 4 (Decimal.padded 4 w.year ++ rest) = some (w.year, rest) :=
    scanNumber_padded (by decide) (by decide) w.year_lt rest
  unfold scanFixedDate dateText
  simp only [List.append_assoc, List.cons_append, hyear, scanChar_cons,
    scanNumber_two w.month_lt, scanNumber_two w.day_lt, bind, Option.bind]
  rfl

theorem scanNanos_of_ne {cs : List Char} (h : ∀ c ∈ cs.head?, c ≠ '.') :
    scanNanos cs = some (0, cs) := by
  unfold scanNanos
  split
  · next rest => exact absurd rfl (h '.' rfl)
  · rfl

theorem scanFraction_padded {places n : Nat} (hpos : 0 < places) (hle : places ≤ 9)
    (h : n < Nat.pow 10 places) {rest : List Char} (hrest : EndsRun rest) :
    scanFraction (Decimal.padded places n ++ rest) = some (n * Nat.pow 10 (9 - places), rest) := by
  have hlength := Decimal.length_padded hpos h
  have hrun : digitRun 9 (Decimal.padded places n ++ rest) = Decimal.padded places n :=
    digitRun_append (fun d hd => Decimal.isDigit_of_mem_padded hd) (by omega) (.inr hrest)
  have hsome : (Decimal.padded places n).isEmpty = false :=
    List.isEmpty_eq_false_iff.mpr (Decimal.zeroFilled_ne_nil _ n)
  have hdrop : (Decimal.padded places n ++ rest).drop places = rest := List.drop_left' hlength
  unfold scanFraction
  simp only [hrun, hsome, Decimal.value_padded, hlength, hdrop, hrest.dropWhile]
  rfl

theorem scanNanos_fractionText {rest : List Char} (h : EndsClock rest) :
    scanNanos (w.fractionText ++ rest) = some (w.nanos, rest) := by
  unfold fractionText nanos
  by_cases hplaces : w.places = 0
  · have hfraction := w.fraction_lt
    rw [hplaces] at hfraction
    have hzero : w.fraction = 0 := Nat.lt_one_iff.mp hfraction
    rw [if_pos hplaces, hzero, Nat.zero_mul]
    exact scanNanos_of_ne fun c hc => (h c hc).2
  · rw [if_neg hplaces]
    exact scanFraction_padded (Nat.pos_of_ne_zero hplaces) w.places_le w.fraction_lt
      fun c hc => (h c hc).1

theorem scanFixedClock_clockText {rest : List Char} (h : EndsClock rest) :
    scanFixedClock (w.clockText ++ rest) = some (w.clock, rest) := by
  unfold scanFixedClock clockText
  simp only [List.append_assoc, List.cons_append, scanNumber_two w.hour_lt, scanChar_cons,
    scanNumber_two w.minute_lt, scanNumber_two w.second_lt, scanNanos_fractionText h, bind,
    Option.bind]
  rfl

theorem scanClock_clockText {rest : List Char} (h : EndsClock rest) :
    scanClock (w.clockText ++ rest) = some (w.clock, rest) := by
  unfold scanClock clockText
  simp only [List.append_assoc, List.cons_append, scanField_padded w.hour_lt, scanChar_cons,
    scanField_padded w.minute_lt, scanField_padded w.second_lt, scanNanos_fractionText h, bind,
    Option.bind]
  rfl

end Stamp

theorem scanClock_space (cs : List Char) : scanClock (' ' :: cs) = scanClock cs := by
  have hfield : scanField (' ' :: cs) = scanField cs := rfl
  rw [scanClock, hfield, scanClock]

theorem scanClock_letter (cs : List Char) : scanClock ('T' :: cs) = none := rfl

/-! ### Scanning offsets -/

theorem scanPair_padded {top : Char} (htop : Decimal.isDigit top = true) {n : Nat} (hn : n < 100)
    (h : n / 10 ≤ Decimal.digitValue top) (rest : List Char) :
    scanPair top (Decimal.padded 2 n ++ rest) = some (n, rest) := by
  have hlength : (Decimal.padded 2 n).length = 2 := Decimal.length_padded (by decide) hn
  obtain ⟨a, ds, hds, ha⟩ := Decimal.exists_padded_cons 2 n
  rw [hds, List.length_cons] at hlength
  obtain ⟨b, rfl⟩ := List.length_eq_one_iff.mp (Nat.succ.inj hlength)
  have hmem : b ∈ Decimal.padded 2 n := by simp [hds]
  have hb : Decimal.isDigit b = true := Decimal.isDigit_of_mem_padded hmem
  have hvalue : Decimal.value [a, b] = n := hds ▸ Decimal.value_padded 2 n
  have hle : a ≤ top := by
    have htens : 10 * (10 * 0 + Decimal.digitValue a) + Decimal.digitValue b = n := hvalue
    have harange := Decimal.isDigit_iff.mp ha
    have hbrange := Decimal.isDigit_iff.mp hb
    have htoprange := Decimal.isDigit_iff.mp htop
    have hzero : '0'.toNat = 48 := rfl
    simp only [Decimal.digitValue, hzero] at htens h
    rw [Char.le_def, UInt32.le_iff_toNat_le]
    change a.toNat ≤ top.toNat
    omega
  rw [hds]
  simp [scanPair, ha, hb, hle, hvalue]

/-- The minutes of an offset, behind its hours and what stands between the two. -/
def scanMinutes (style : OffsetStyle) (sign : Int) (hours : Nat) (cs : List Char) :
    Option (Int × List Char) :=
  if style.minutesOptional && cs.isEmpty then some (sign * (hours * 3600 : Nat), cs)
  else (scanPair '5' cs).bind fun p => some (sign * (hours * 3600 + p.1 * 60 : Nat), p.2)

theorem scanOffset_plus (style : OffsetStyle) (cs : List Char) :
    scanOffset style ('+' :: cs) =
      (scanPair '9' cs).bind fun p => (style.separator p.2).bind (scanMinutes style 1 p.1) := rfl

theorem scanOffset_minus (style : OffsetStyle) (cs : List Char) :
    scanOffset style ('-' :: cs) =
      (scanPair '9' cs).bind fun p => (style.separator p.2).bind (scanMinutes style (-1) p.1) := rfl

namespace Shift

variable (o : Shift)

theorem scanOffset_shortText (style : OffsetStyle) (rest : List Char) :
    scanOffset style (o.shortText ++ rest) =
      (style.separator rest).bind (scanMinutes style (if o.ahead then 1 else -1) o.hours) := by
  have hhours := o.hours_le
  have hpair : scanPair '9' (Decimal.padded 2 o.hours ++ rest) = some (o.hours, rest) :=
    scanPair_padded (by decide) (by omega) (show o.hours / 10 ≤ 9 by omega) rest
  unfold shortText sign
  cases o.ahead with
  | true =>
    change scanOffset style ('+' :: (Decimal.padded 2 o.hours ++ rest)) = _
    rw [scanOffset_plus, hpair]
    rfl
  | false =>
    change scanOffset style ('-' :: (Decimal.padded 2 o.hours ++ rest)) = _
    rw [scanOffset_minus, hpair]
    rfl

theorem seconds_eq :
    o.seconds = (if o.ahead then 1 else -1) * (o.hours * 3600 + o.minutes * 60 : Nat) := by
  unfold seconds
  split <;> omega

theorem scanOffset_text {style : OffsetStyle}
    (h : style.separator (':' :: Decimal.padded 2 o.minutes) = some (Decimal.padded 2 o.minutes)) :
    scanOffset style o.text = some (o.seconds, []) := by
  have hminutes := o.minutes_le
  have hpair : scanPair '5' (Decimal.padded 2 o.minutes ++ []) = some (o.minutes, []) :=
    scanPair_padded (by decide) (by omega) (show o.minutes / 10 ≤ 5 by omega) []
  have hsome : (Decimal.padded 2 o.minutes).isEmpty = false :=
    List.isEmpty_eq_false_iff.mpr (Decimal.zeroFilled_ne_nil _ _)
  rw [List.append_nil] at hpair
  rw [text, scanOffset_shortText, h]
  simp only [Option.bind_some, scanMinutes, hsome, hpair, Bool.and_false, Bool.false_eq_true,
    if_false, seconds_eq]

theorem scanOffset_text_internet : scanOffset internetOffset o.text = some (o.seconds, []) :=
  o.scanOffset_text (scanChar_cons ':' _)

theorem scanOffset_text_spaced : scanOffset spacedOffset o.text = some (o.seconds, []) := by
  apply o.scanOffset_text
  obtain ⟨d, ds, hds, hd⟩ := Decimal.exists_padded_cons 2 o.minutes
  have hcolon : d ≠ ':' := Decimal.ne_of_isDigit hd (by decide)
  have hblank : isBlank d = false := Decimal.isBlank_of_isDigit hd
  rw [hds]
  simp [spacedOffset, hcolon, hblank]

theorem scanOffset_shortText_internet : scanOffset internetOffset o.shortText = none := by
  have hshort := o.scanOffset_shortText internetOffset []
  rwa [List.append_nil] at hshort

theorem scanOffset_shortText_spaced (h : o.minutes = 0) :
    scanOffset spacedOffset o.shortText = some (o.seconds, []) := by
  have hshort := o.scanOffset_shortText spacedOffset []
  have hseparator : spacedOffset.separator [] = some [] := rfl
  have hoptional : (spacedOffset.minutesOptional && ([] : List Char).isEmpty) = true := rfl
  rw [List.append_nil, hseparator, Option.bind_some, scanMinutes, if_pos hoptional] at hshort
  rw [hshort, seconds_eq, h, Nat.zero_mul, Nat.add_zero]

theorem endsClock_sign (rest : List Char) : EndsClock (o.sign :: rest) := by
  unfold sign
  intro c hc
  cases hc
  cases o.ahead <;> decide

/-- Nothing of an offset belongs to the time before it, and it holds no blanks. -/
theorem Spelling.behind {o : Shift} {between : Char} {behind : List Char}
    (h : o.Spelling between behind) :
    EndsClock behind ∧ ∀ c ∈ behind, isBlank c = false := by
  have hsign : isBlank o.sign = false := by
    unfold sign
    cases o.ahead <;> decide
  have hpadded (n : Nat) : ∀ c ∈ Decimal.padded 2 n, isBlank c = false :=
    fun _ hc => Decimal.isBlank_of_mem_padded hc
  have hshort : ∀ c ∈ o.shortText, isBlank c = false :=
    List.forall_mem_cons.mpr ⟨hsign, hpadded o.hours⟩
  have hfull : ∀ c ∈ o.text, isBlank c = false := by
    refine List.forall_mem_append.mpr ⟨hshort, ?_⟩
    exact List.forall_mem_cons.mpr ⟨by decide, hpadded o.minutes⟩
  cases h with
  | internet => exact ⟨o.endsClock_sign _, hfull⟩
  | spaced => exact ⟨o.endsClock_sign _, hfull⟩
  | short _ => exact ⟨o.endsClock_sign _, hshort⟩
  | zulu _ =>
    exact ⟨fun c hc => by cases hc; decide, List.forall_mem_singleton.mpr (by decide)⟩
  | plain _ => exact ⟨fun c hc => (by cases hc), fun c hc => (by cases hc)⟩

end Shift

end ContactHistory.Time
