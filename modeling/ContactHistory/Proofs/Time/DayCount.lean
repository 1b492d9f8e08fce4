import ContactHistory.Time.Calendar

namespace ContactHistory.Time

theorem daysBeforeYear_eq (y : Int) :
    daysBeforeYear y = 365 * y + (y + 3) / 4 - (y + 99) / 100 + (y + 399) / 400 := by
  have h4 : (y + 3).fdiv 4 = (y + 3) / 4 := Int.fdiv_eq_ediv_of_nonneg _ (by decide)
  have h100 : (y + 99).fdiv 100 = (y + 99) / 100 := Int.fdiv_eq_ediv_of_nonneg _ (by decide)
  have h400 : (y + 399).fdiv 400 = (y + 399) / 400 := Int.fdiv_eq_ediv_of_nonneg _ (by decide)
  rw [daysBeforeYear, h4, h100, h400]

theorem isLeapYear_iff (y : Int) :
    isLeapYear y = true ↔ y % 4 = 0 ∧ (y % 100 ≠ 0 ∨ y % 400 = 0) := by
  simp [isLeapYear]

def daysInYear (y : Int) : Nat := if isLeapYear y then 366 else 365

theorem daysBeforeYear_succ (y : Int) :
    daysBeforeYear (y + 1) = daysBeforeYear y + daysInYear y := by
  have hleap := isLeapYear_iff y
  rw [daysBeforeYear_eq, daysBeforeYear_eq, daysInYear]
  by_cases h : isLeapYear y = true
  · have hy := hleap.mp h
    rw [if_pos h]
    omega
  · have hy : ¬(y % 4 = 0 ∧ (y % 100 ≠ 0 ∨ y % 400 = 0)) := fun hy => h (hleap.mpr hy)
    rw [if_neg h]
    omega

theorem daysBeforeYear_mono {y z : Int} (h : y ≤ z) : daysBeforeYear y ≤ daysBeforeYear z := by
  rw [daysBeforeYear_eq, daysBeforeYear_eq]
  omega

theorem daysBeforeMonth_succ (y : Int) {m : Nat} (h : 1 ≤ m) :
    daysBeforeMonth y (m + 1) = daysBeforeMonth y m + daysInMonth y m := by
  obtain ⟨k, rfl⟩ := Nat.exists_eq_add_of_le' h
  rfl

theorem daysInMonth_pos (y : Int) (m : Nat) : 28 ≤ daysInMonth y m := by
  unfold daysInMonth
  split
  · split <;> omega
  all_goals omega

theorem daysBeforeMonth_year (y : Int) : daysBeforeMonth y 13 = daysInYear y := by
  have hfebruary : daysInMonth y 2 = if isLeapYear y then 29 else 28 := rfl
  simp only [daysBeforeMonth, daysInYear]
  rw [hfebruary]
  by_cases h : isLeapYear y = true
  · simp [h, daysInMonth]
  · simp [h, daysInMonth]

theorem daysBeforeMonth_mono (y : Int) {m k : Nat} (h : m ≤ k) :
    daysBeforeMonth y m ≤ daysBeforeMonth y k := by
  induction k with
  | zero => exact Nat.le_of_eq (congrArg (daysBeforeMonth y) (Nat.le_zero.mp h))
  | succ k ih =>
    rcases Nat.le_succ_iff.mp h with h | rfl
    · have hstep : daysBeforeMonth y k ≤ daysBeforeMonth y (k + 1) := by
        cases k with
        | zero => exact Nat.le_refl _
        | succ k => exact Nat.le_add_right _ _
      exact Nat.le_trans (ih h) hstep
    · exact Nat.le_refl _

namespace Date

def next (d : Date) : Date :=
  if d.day < daysInMonth d.year d.month then ⟨d.year, d.month, d.day + 1⟩
  else if d.month < 12 then ⟨d.year, d.month + 1, 1⟩
  else ⟨d.year + 1, 1, 1⟩

theorem exists_mk {y : Int} {m k : Nat} :
    Exists ⟨y, m, k⟩ ↔ 1 ≤ m ∧ m ≤ 12 ∧ 1 ≤ k ∧ k ≤ daysInMonth y m := Iff.rfl

/-- A date is followed by one of the same month, by the first of the next month, or by the first of
January. -/
theorem next_cases {d : Date} (h : d.Exists) :
    d.day < daysInMonth d.year d.month ∧ d.next = ⟨d.year, d.month, d.day + 1⟩ ∨
      d.day = daysInMonth d.year d.month ∧ d.month < 12 ∧ d.next = ⟨d.year, d.month + 1, 1⟩ ∨
      d.day = daysInMonth d.year d.month ∧ d.month = 12 ∧ d.next = ⟨d.year + 1, 1, 1⟩ := by
  obtain ⟨hm, hm', hd, hd'⟩ := h
  unfold next
  by_cases hday : d.day < daysInMonth d.year d.month
  · exact .inl ⟨hday, if_pos hday⟩
  · have hlast : d.day = daysInMonth d.year d.month := Nat.le_antisymm hd' (Nat.not_lt.mp hday)
    rw [if_neg hday]
    by_cases hmonth : d.month < 12
    · exact .inr (.inl ⟨hlast, hmonth, if_pos hmonth⟩)
    · exact .inr (.inr ⟨hlast, Nat.le_antisymm hm' (Nat.not_lt.mp hmonth), if_neg hmonth⟩)

theorem exists_next {d : Date} (h : d.Exists) : d.next.Exists := by
  have hparts := h
  obtain ⟨hm, hm', hd, hd'⟩ := hparts
  rcases next_cases h with ⟨hday, he⟩ | ⟨-, hmonth, he⟩ | ⟨-, -, he⟩
  · rw [he, exists_mk]
    omega
  · have hpos := daysInMonth_pos d.year (d.month + 1)
    rw [he, exists_mk]
    omega
  · have hpos := daysInMonth_pos (d.year + 1) 1
    rw [he, exists_mk]
    omega

theorem dayNumber_next {d : Date} (h : d.Exists) : d.next.dayNumber = d.dayNumber + 1 := by
  have hmonth := daysBeforeMonth_succ d.year h.1
  rcases next_cases h with ⟨-, he⟩ | ⟨hday, -, he⟩ | ⟨hday, hdecember, he⟩
  · rw [he]
    simp only [dayNumber]
    omega
  · rw [he]
    simp only [dayNumber]
    omega
  · have hyear := daysBeforeYear_succ d.year
    have hsum := daysBeforeMonth_year d.year
    have hfirst : daysBeforeMonth (d.year + 1) 1 = 0 := rfl
    rw [hdecember] at hday
    rw [hdecember, ← hday, hsum] at hmonth
    rw [he]
    simp only [dayNumber, hfirst, hdecember]
    omega

theorem exists_eq_next {d : Date} (h : d.Exists) : ∃ p : Date, p.Exists ∧ p.next = d := by
  obtain ⟨y, m, k⟩ := d
  obtain ⟨hm, hm', hd, hd'⟩ := exists_mk.mp h
  by_cases hday : k = 1
  · by_cases hmonth : m = 1
    · have hdecember : daysInMonth (y - 1) 12 = 31 := rfl
      refine ⟨⟨y - 1, 12, 31⟩, exists_mk.mpr (by omega), ?_⟩
      simp [next, hdecember, hday, hmonth]
    · have hpos := daysInMonth_pos y (m - 1)
      have hbefore : m - 1 < 12 := by omega
      have hsucc : m - 1 + 1 = m := by omega
      refine ⟨⟨y, m - 1, daysInMonth y (m - 1)⟩, exists_mk.mpr (by omega), ?_⟩
      simp [next, hbefore, hsucc, hday]
  · have hlt : k - 1 < daysInMonth y m := by omega
    have hsucc : k - 1 + 1 = k := by omega
    refine ⟨⟨y, m, k - 1⟩, exists_mk.mpr (by omega), ?_⟩
    simp [next, hlt, hsucc]

/-- The days of a year lie between the first days of the year and of the next one. -/
theorem dayNumber_bounds {d : Date} (h : d.Exists) :
    daysBeforeYear d.year - daysBeforeYear 1970 ≤ d.dayNumber ∧
      d.dayNumber < daysBeforeYear (d.year + 1) - daysBeforeYear 1970 := by
  obtain ⟨hm, hm', hd, hd'⟩ := h
  have hmonth := daysBeforeMonth_succ d.year hm
  have hend := daysBeforeMonth_mono d.year (m := d.month + 1) (k := 13) (by omega)
  have hsum := daysBeforeMonth_year d.year
  have hyear := daysBeforeYear_succ d.year
  simp only [dayNumber]
  omega

theorem eq_epoch_of_dayNumber {d : Date} (h : d.Exists) (hz : d.dayNumber = 0) :
    d = ⟨1970, 1, 1⟩ := by
  obtain ⟨hlow, hhigh⟩ := dayNumber_bounds h
  have hyear : d.year = 1970 := by
    rcases Int.lt_trichotomy d.year 1970 with hy | hy | hy
    · have hmono := daysBeforeYear_mono (y := d.year + 1) (z := 1970) (by omega)
      omega
    · exact hy
    · have hmono := daysBeforeYear_mono (y := 1971) (z := d.year) (by omega)
      have hnext : daysBeforeYear 1971 = daysBeforeYear 1970 + 365 := by decide
      omega
  obtain ⟨hm, hm', hd, hd'⟩ := h
  have hmonth : d.month = 1 := by
    refine Decidable.byContradiction fun hne => ?_
    have hmono := daysBeforeMonth_mono d.year (m := 2) (k := d.month) (by omega)
    have hjanuary : daysBeforeMonth d.year 2 = 31 := by simp [daysBeforeMonth, daysInMonth]
    simp only [dayNumber, hyear] at hz hmono hjanuary
    omega
  have hfirst : daysBeforeMonth d.year 1 = 0 := rfl
  have hday : d.day = 1 := by
    rw [dayNumber, hmonth, hfirst, hyear] at hz
    omega
  exact Date.ext hyear hmonth hday

/-- A count of the days of the calendar from 1970-01-01 on, and backwards before. -/
structure CountsDays (days : Date → Int) : Prop where
  epoch : days ⟨1970, 1, 1⟩ = 0
  next : ∀ d : Date, d.Exists → days d.next = days d + 1

theorem countsDays_dayNumber : CountsDays dayNumber where
  epoch := by decide
  next _ h := dayNumber_next h

/-- There is one such count: it follows the dates one by one from the epoch, and back. -/
theorem CountsDays.eq_dayNumber {days : Date → Int} (hc : CountsDays days) {d : Date}
    (h : d.Exists) : days d = d.dayNumber := by
  have zero {e : Date} (he : e.Exists) (hz : e.dayNumber = 0) : days e = 0 := by
    rw [eq_epoch_of_dayNumber he hz]
    exact hc.epoch
  have after (n : Nat) : ∀ e : Date, e.Exists → e.dayNumber = n → days e = n := by
    induction n with
    | zero => exact fun e he hn => zero he hn
    | succ n ih =>
      intro e he hn
      obtain ⟨p, hp, rfl⟩ := exists_eq_next he
      have hstep := dayNumber_next hp
      have hprevious := ih p hp (by omega)
      have hcount := hc.next p hp
      omega
  have before (n : Nat) : ∀ e : Date, e.Exists → e.dayNumber = -n → days e = -n := by
    induction n with
    | zero => exact fun e he hn => zero he hn
    | succ n ih =>
      intro e he hn
      have hstep := dayNumber_next he
      have hfollowing := ih e.next (exists_next he) (by omega)
      have hcount := hc.next e he
      omega
  rcases Int.le_total 0 d.dayNumber with hn | hn
  · obtain ⟨n, hn⟩ := Int.eq_ofNat_of_zero_le hn
    rw [hn]
    exact after n d h hn
  · obtain ⟨n, hn'⟩ := Int.exists_eq_neg_ofNat hn
    rw [hn']
    exact before n d h hn'

end Date
end ContactHistory.Time
