import ContactHistory.Proofs.Time.DayCount
import ContactHistory.Proofs.Time.Numerals
import ContactHistory.Proofs.Time.Stamps

namespace ContactHistory.Time

open Text

namespace Stamp

variable {w : Stamp}

/-! ### Reading the forms -/

theorem readMillis_dateText (rest : List Char) : readMillis (w.dateText ++ rest) = none := by
  obtain ⟨d, ds, hds, hd⟩ := Decimal.exists_padded_cons 4 w.year
  have hhyphen : ∃ c ∈ w.dateText ++ rest, Decimal.isDigit c = false :=
    ⟨'-', by simp [dateText], by decide⟩
  have hcons : ∃ cs, w.dateText ++ rest = d :: cs := ⟨_, by rw [dateText, hds]; rfl⟩
  obtain ⟨cs, hcs⟩ := hcons
  rw [hcs] at hhyphen ⊢
  obtain ⟨e, he⟩ := Decimal.readDigits_of_not_digit hhyphen 0x7FFFFFFFFFFFFFFF .tooLarge 0
  rw [readMillis, Decimal.readInt64_of_isDigit hd, he]
  rfl

theorem readInternet_text {between : Char} (hbetween : between = 'T' ∨ between = ' ')
    {behind : List Char} (h : EndsClock behind) :
    readInternet (w.text between behind) =
      (complete (scanOffset internetOffset behind)).bind (resolve w.date w.clock) := by
  have hend : scanDateEnd (between :: (w.clockText ++ behind)) = some (w.clockText ++ behind) := by
    rcases hbetween with rfl | rfl <;> rfl
  unfold readInternet text
  simp only [scanFixedDate_dateText, hend, scanFixedClock_clockText h, bind, Option.bind_some]

theorem readSpaced_space {behind : List Char} (h : EndsClock behind)
    (hblank : ∀ c ∈ behind, isBlank c = false) :
    readSpaced (w.text ' ' behind) =
      (complete (scanOffset spacedOffset behind)).bind (resolve w.date w.clock) := by
  have hstart : trimStart behind = behind :=
    trimStart_eq_self fun c hc => hblank c (List.mem_of_mem_head? hc)
  unfold readSpaced text
  simp only [scanDate_dateText, scanClock_space, scanClock_clockText h, hstart, bind,
    Option.bind_some]

theorem readSpaced_letter (behind : List Char) : readSpaced (w.text 'T' behind) = none := by
  unfold readSpaced text
  simp only [scanDate_dateText, scanClock_letter, bind, Option.bind_some, Option.bind_none]

theorem readLocal_letter {behind : List Char} (h : EndsClock behind) :
    readLocal (w.text 'T' behind) =
      (complete (some (w.clock, behind))).bind fun c => resolve w.date c 0 := by
  unfold readLocal text
  simp only [scanDate_dateText, scanChar_cons, scanClock_clockText h, bind, Option.bind_some]

theorem readLocal_space (behind : List Char) : readLocal (w.text ' ' behind) = none := by
  unfold readLocal text
  simp only [scanDate_dateText, bind, Option.bind_some]
  rfl

theorem readDate_text (between : Char) (behind : List Char) :
    readDate (w.text between behind) = none := by
  unfold readDate text
  simp only [scanDate_dateText, bind]
  rfl

/-- In every spelling the text has the meaning of its date, time and offset, and no other form gives
it another one. -/
theorem readAny_text {o : Shift} {between : Char} {behind : List Char}
    (h : o.Spelling between behind) :
    readAny (w.text between behind) = resolve w.date w.clock o.seconds := by
  obtain ⟨hends, hblank⟩ := h.behind
  have hmillis : readMillis (w.text between behind) = none := readMillis_dateText _
  have hdate : readDate (w.text between behind) = none := readDate_text between behind
  rw [readAny, hmillis, hdate]
  cases h with
  | internet =>
    have hlocal : readLocal (w.text 'T' o.text) = none := readLocal_letter hends
    rw [readInternet_text (.inl rfl) hends, o.scanOffset_text_internet, readSpaced_letter, hlocal]
    change (none <|> resolve w.date w.clock o.seconds <|> none <|> none <|> none) = _
    cases resolve w.date w.clock o.seconds <;> rfl
  | spaced =>
    rw [readInternet_text (.inr rfl) hends, o.scanOffset_text_internet,
      readSpaced_space hends hblank, o.scanOffset_text_spaced, readLocal_space]
    change (none <|> resolve w.date w.clock o.seconds <|> resolve w.date w.clock o.seconds <|>
      none <|> none) = _
    cases resolve w.date w.clock o.seconds <;> rfl
  | short hminutes =>
    rw [readInternet_text (.inr rfl) hends, o.scanOffset_shortText_internet,
      readSpaced_space hends hblank, o.scanOffset_shortText_spaced hminutes, readLocal_space]
    change (none <|> none <|> resolve w.date w.clock o.seconds <|> none <|> none) = _
    cases resolve w.date w.clock o.seconds <;> rfl
  | zulu hzero =>
    rw [readInternet_text (.inl rfl) hends, readSpaced_letter, readLocal_letter hends, hzero]
    change (none <|> resolve w.date w.clock 0 <|> none <|> none <|> none) = _
    cases resolve w.date w.clock 0 <;> rfl
  | plain hzero =>
    rw [readInternet_text (.inl rfl) hends, readSpaced_letter, readLocal_letter hends, hzero]
    change (none <|> none <|> none <|> resolve w.date w.clock 0 <|> none) = _
    cases resolve w.date w.clock 0 <;> rfl

theorem readAny_dateText : readAny w.dateText = resolve w.date .midnight 0 := by
  have hmillis : readMillis w.dateText = none := by
    simpa using readMillis_dateText (w := w) []
  have hfixed : scanFixedDate w.dateText = some (w.date, []) := by
    simpa using scanFixedDate_dateText (w := w) []
  have hscan : scanDate w.dateText = some (w.date, []) := by
    simpa using scanDate_dateText (w := w) []
  have hinternet : readInternet w.dateText = none := by
    rw [readInternet, hfixed]
    rfl
  have hspaced : readSpaced w.dateText = none := by
    rw [readSpaced, hscan]
    rfl
  have hlocal : readLocal w.dateText = none := by
    rw [readLocal, hscan]
    rfl
  rw [readAny, hmillis, hinternet, hspaced, hlocal, readDate, hscan]
  rfl

/-! ### The instant -/

theorem pow_places : Nat.pow 10 w.places * Nat.pow 10 (9 - w.places) = 1000000000 := by
  have hle := w.places_le
  have hsum : w.places + (9 - w.places) = 9 := by omega
  calc Nat.pow 10 w.places * Nat.pow 10 (9 - w.places)
      = Nat.pow 10 (w.places + (9 - w.places)) := (Nat.pow_add 10 _ _).symm
    _ = Nat.pow 10 9 := by rw [hsum]

theorem nanos_lt : w.nanos < 1000000000 := by
  have hpos : 0 < Nat.pow 10 (9 - w.places) := Nat.pow_pos (by decide)
  rw [← pow_places (w := w), nanos]
  exact Nat.mul_lt_mul_of_pos_right w.fraction_lt hpos

theorem nanos_div : w.nanos / 1000000 = w.cut := by
  have hpos : 0 < Nat.pow 10 w.places := Nat.pow_pos (by decide)
  calc w.nanos / 1000000
      = w.nanos * Nat.pow 10 w.places / (1000000 * Nat.pow 10 w.places) :=
        (Nat.mul_div_mul_right _ _ hpos).symm
    _ = w.fraction * 1000 * 1000000 / (Nat.pow 10 w.places * 1000000) := by
        rw [nanos, Nat.mul_assoc, Nat.mul_comm (Nat.pow 10 (9 - w.places)), pow_places,
          Nat.mul_comm 1000000, Nat.mul_assoc]
    _ = w.cut := Nat.mul_div_mul_right _ _ (by decide)

theorem inDay_clock (hsecond : w.second ≠ 60) : w.clock.InDay ↔ w.OnClock := by
  have hnanos := w.nanos_lt
  simp only [Clock.InDay, OnClock, clock]
  omega

theorem dayNumber_date_bounds (h : w.date.Exists) :
    -719528 ≤ w.date.dayNumber ∧ w.date.dayNumber < 2932897 := by
  have hyear := w.year_lt
  have hbounds := Date.dayNumber_bounds h
  have hlow := daysBeforeYear_mono (y := 0) (z := w.date.year) (Int.natCast_nonneg w.year)
  have hhigh := daysBeforeYear_mono (y := w.date.year + 1) (z := 10000) (by
    change (w.year : Int) + 1 ≤ 10000
    omega)
  have hfirst : daysBeforeYear 0 - daysBeforeYear 1970 = -719528 := by decide
  have hlast : daysBeforeYear 10000 - daysBeforeYear 1970 = 2932897 := by decide
  omega

/-- On the calendar and on the clock, a time of these years is kept, and it has an instant. -/
theorem resolve_date {offset : Int} (hoffset : -86400 < offset ∧ offset < 86400)
    (hsecond : w.second ≠ 60) :
    resolve w.date w.clock offset =
      if w.date.Exists ∧ w.OnClock then some (millisSinceEpoch w.date w.clock offset)
      else none := by
  have hfirst : Date.firstDay ≤ -719529 := by decide
  have hlast : 2932898 ≤ Date.lastDay := by decide
  have hday := inDay_clock hsecond
  unfold resolve
  by_cases h : w.date.Exists ∧ w.OnClock
  · obtain ⟨hexists, hclock⟩ := h
    have hnumber := dayNumber_date_bounds hexists
    have hutc : w.date.dayNumber - 1 ≤ utcDay w.date w.clock offset ∧
        utcDay w.date w.clock offset ≤ w.date.dayNumber + 1 := by
      obtain ⟨hhour, hminute, hsecond'⟩ := hclock
      simp only [utcDay, clock]
      rw [Int.fdiv_eq_ediv_of_nonneg _ (by decide)]
      omega
    rw [if_pos ⟨hexists, hday.mpr hclock, by omega, by omega, hoffset.1, hoffset.2, by omega,
      by omega⟩, if_pos ⟨hexists, hclock⟩]
  · rw [if_neg fun hall => h ⟨hall.1, hday.mp hall.2.1⟩, if_neg h]

theorem millis_eq {days : Date → Int} (hdays : Date.CountsDays days) (o : Shift)
    (h : w.date.Exists) : millisSinceEpoch w.date w.clock o.seconds = w.millis days o := by
  have hcount := hdays.eq_dayNumber h
  have hnanos : w.clock.nanos / 1000000 = w.cut := nanos_div
  rw [millisSinceEpoch, hnanos, millis, hcount]
  simp only [Clock.seconds, clock]
  omega

theorem millis_bounds {days : Date → Int} (hdays : Date.CountsDays days) (o : Shift)
    (h : w.date.Exists) (hclock : w.OnClock) :
    -9223372036854775808 ≤ w.millis days o ∧ w.millis days o ≤ 9223372036854775807 := by
  have hnumber := dayNumber_date_bounds h
  have hoffset := o.seconds_bounds
  have hcount := hdays.eq_dayNumber h
  have hnanos := w.nanos_lt
  have hcut := w.nanos_div
  obtain ⟨hhour, hminute, hsecond⟩ := hclock
  simp only [millis]
  omega

/-- A text that starts with a digit and does not end with a blank has nothing to trim. -/
theorem trim_padded_append (width n : Nat) (front : List Char) {back : List Char} (hne : back ≠ [])
    (hback : ∀ c ∈ back, isBlank c = false) :
    trim (Decimal.padded width n ++ (front ++ back)) =
      Decimal.padded width n ++ (front ++ back) := by
  obtain ⟨d, ds, hds, hd⟩ := Decimal.exists_padded_cons width n
  apply trim_eq_self
  · intro c hc
    rw [hds] at hc
    cases hc
    exact Decimal.isBlank_of_isDigit hd
  · intro c hc
    rw [← List.append_assoc, List.getLast?_append, List.getLast?_eq_some_getLast hne] at hc
    cases hc
    exact hback _ (List.getLast_mem hne)

theorem clockText_not_blank : ∀ c ∈ w.clockText, isBlank c = false := by
  have hpadded (width n : Nat) : ∀ c ∈ Decimal.padded width n, isBlank c = false :=
    fun _ hc => Decimal.isBlank_of_mem_padded hc
  have hfraction : ∀ c ∈ w.fractionText, isBlank c = false := by
    unfold fractionText
    split
    · exact fun c hc => absurd hc List.not_mem_nil
    · exact List.forall_mem_cons.mpr ⟨by decide, hpadded _ _⟩
  refine List.forall_mem_append.mpr ⟨hpadded _ _, List.forall_mem_cons.mpr ⟨by decide, ?_⟩⟩
  refine List.forall_mem_append.mpr ⟨hpadded _ _, List.forall_mem_cons.mpr ⟨by decide, ?_⟩⟩
  exact List.forall_mem_append.mpr ⟨hpadded _ _, hfraction⟩

theorem trim_text {o : Shift} {between : Char} {behind : List Char}
    (h : o.Spelling between behind) : trim (w.text between behind) = w.text between behind := by
  have hne : w.clockText ++ behind ≠ [] := by simp [clockText]
  have hblank : ∀ c ∈ w.clockText ++ behind, isBlank c = false :=
    List.forall_mem_append.mpr ⟨clockText_not_blank, h.behind.2⟩
  have htrim := trim_padded_append 4 w.year ('-' :: (Decimal.padded 2 w.month ++
    '-' :: (Decimal.padded 2 w.day ++ [between]))) hne hblank
  simpa [text, dateText] using htrim

theorem trim_dateText : trim w.dateText = w.dateText := by
  have hblank : ∀ c ∈ Decimal.padded 2 w.day, isBlank c = false :=
    fun _ hc => Decimal.isBlank_of_mem_padded hc
  have htrim := trim_padded_append 4 w.year ('-' :: (Decimal.padded 2 w.month ++ ['-']))
    (Decimal.zeroFilled_ne_nil _ w.day) hblank
  simpa [dateText, Decimal.padded] using htrim

def midnight (w : Stamp) : Stamp :=
  { w with
    hour := 0, minute := 0, second := 0, places := 0, fraction := 0
    hour_lt := by decide
    minute_lt := by decide
    second_lt := by decide
    places_le := by decide
    fraction_lt := by decide }

theorem date_midnight : w.midnight.date = w.date := rfl

theorem clock_midnight : w.midnight.clock = .midnight := by
  simp [clock, nanos, midnight, Clock.midnight]

theorem onClock_midnight : w.midnight.OnClock := by simp [OnClock, midnight]

theorem text_midnight : w.midnight.text 'T' ['Z'] = w.dateText ++ "T00:00:00Z".toList := by
  have hzero : Decimal.padded 2 0 = ['0', '0'] := by decide
  simp [text, dateText, clockText, fractionText, midnight, hzero]

end Stamp

def Shift.utc : Shift := ⟨true, 0, 0, by decide, by decide⟩

end ContactHistory.Time

namespace ContactHistory.Instant

open Text Time

theorem ofText?_of_readAny_eq_none {s : String} (h : readAny (trim s.toList) = none) :
    ofText? s = none := by
  rw [ofText?, h]
  rfl

/-- What is read as a date, a time and an offset has their instant. -/
theorem ofText?_of_resolve {days : Date → Int} (hdays : Date.CountsDays days) {w : Stamp}
    {o : Shift} (hsecond : w.second ≠ 60) {s : String}
    (h : readAny (trim s.toList) = resolve w.date w.clock o.seconds) :
    (ofText? s).map toInt =
      if w.date.Exists ∧ w.OnClock ∧ 0 ≤ w.millis days o then some (w.millis days o) else none := by
  rw [Stamp.resolve_date o.seconds_bounds hsecond] at h
  by_cases hdate : w.date.Exists ∧ w.OnClock
  · obtain ⟨hexists, hclock⟩ := hdate
    have hbounds := Stamp.millis_bounds hdays o hexists hclock
    rw [if_pos ⟨hexists, hclock⟩, Stamp.millis_eq hdays o hexists] at h
    rw [ofText?_of_readAny (h.trans (if_pos hbounds).symm)]
    simp only [hexists, hclock, hbounds.2, true_and, and_true]
  · rw [if_neg hdate] at h
    rw [ofText?_of_readAny_eq_none h, if_neg fun hall => hdate ⟨hall.1, hall.2.1⟩]
    rfl

/-- The texts of a date, a time of day and an offset all have the same instant, which is the one
counted in days from the epoch, if date and time exist and it is not before the epoch, and none
otherwise. A date alone stands for its midnight in UTC. -/
theorem ofText?_stamp {days : Date → Int} (hdays : Date.CountsDays days) (w : Stamp) (o : Shift)
    (hsecond : w.second ≠ 60) :
    (∀ between behind, o.Spelling between behind →
      (ofText? (String.ofList (w.text between behind))).map toInt =
        if w.date.Exists ∧ w.OnClock ∧ 0 ≤ w.millis days o then some (w.millis days o) else none) ∧
    ofText? (String.ofList w.dateText) =
      ofText? (String.ofList (w.dateText ++ "T00:00:00Z".toList)) ∧
    (ofText? (String.ofList w.dateText)).map toInt =
      if w.date.Exists ∧ 0 ≤ days w.date then some (days w.date * 86400000) else none := by
  refine ⟨fun between behind h => ?_, ?_, ?_⟩
  · apply ofText?_of_resolve hdays hsecond
    rw [String.toList_ofList, Stamp.trim_text h, Stamp.readAny_text h]
  · have hzulu : Shift.utc.Spelling 'T' ['Z'] := .zulu rfl
    have hmidnight : readAny (trim (w.dateText ++ "T00:00:00Z".toList)) =
        resolve w.date .midnight 0 := by
      rw [← Stamp.text_midnight, Stamp.trim_text hzulu, Stamp.readAny_text hzulu,
        Stamp.clock_midnight]
      rfl
    unfold ofText?
    rw [String.toList_ofList, String.toList_ofList, hmidnight, Stamp.trim_dateText,
      Stamp.readAny_dateText]
  · have hvalue : w.midnight.millis days .utc = days w.date * 86400000 := by
      have hutc : Shift.utc.seconds = 0 := rfl
      have hcut : w.midnight.cut = 0 := by simp [Stamp.cut, Stamp.midnight]
      rw [Stamp.millis, hutc, hcut, Stamp.date_midnight]
      simp only [Stamp.midnight]
      omega
    have hread : readAny (trim (String.ofList w.dateText).toList) =
        resolve w.midnight.date w.midnight.clock Shift.utc.seconds := by
      rw [String.toList_ofList, Stamp.trim_dateText, Stamp.readAny_dateText, Stamp.clock_midnight]
      rfl
    have hinstant := ofText?_of_resolve hdays (by simp [Stamp.midnight]) hread
    have hsign : 0 ≤ days w.date * 86400000 ↔ 0 ≤ days w.date := by omega
    simpa only [hvalue, Stamp.onClock_midnight, Stamp.date_midnight, hsign, true_and] using hinstant

theorem ofText?_stamp_leap_day :
    (ofText? "2020-02-29 00:30:00.25+01").map toInt = some 1582932600250 ∧
    (ofText? "1900-02-29T00:30:00.25Z").map toInt = none ∧
    (ofText? "2020-02-29").map toInt = some 1582934400000 := by
  let stamp (year : Nat) (h : year < 10000) : Stamp :=
    ⟨year, 2, 29, 0, 30, 0, 2, 25, h, by decide, by decide, by decide, by decide, by decide,
      by decide, by decide⟩
  let ahead : Shift := ⟨true, 1, 0, by decide, by decide⟩
  have leap := ofText?_stamp Date.countsDays_dayNumber (stamp 2020 (by decide)) ahead (by decide)
  have common := ofText?_stamp Date.countsDays_dayNumber (stamp 1900 (by decide)) .utc (by decide)
  have hspaced := leap.1 ' ' ahead.shortText (.short rfl)
  have hzulu := common.1 'T' ['Z'] (.zulu rfl)
  have hdate := leap.2.2
  rw [if_pos (by decide)] at hspaced
  rw [if_neg (by decide)] at hzulu
  rw [if_pos (by decide)] at hdate
  have hmillis : (stamp 2020 (by decide)).millis Date.dayNumber ahead = 1582932600250 := by decide
  have hdays : (stamp 2020 (by decide)).date.dayNumber * 86400000 = 1582934400000 := by decide
  have htext : (stamp 2020 (by decide)).text ' ' ahead.shortText =
    "2020-02-29 00:30:00.25+01".toList := by decide
  have htext' : (stamp 1900 (by decide)).text 'T' ['Z'] =
    "1900-02-29T00:30:00.25Z".toList := by decide
  have htext'' : (stamp 2020 (by decide)).dateText = "2020-02-29".toList := by decide
  rw [htext, hmillis, String.ofList_toList] at hspaced
  rw [htext', String.ofList_toList] at hzulu
  rw [htext'', hdays, String.ofList_toList] at hdate
  exact ⟨hspaced, hzulu, hdate⟩

end ContactHistory.Instant
