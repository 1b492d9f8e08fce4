import ContactHistory.Text.Blank
import ContactHistory.Text.Decimal

namespace ContactHistory.Text.Decimal

theorem isDigit_of_mem_digits {n : Nat} {c : Char} (h : c ∈ digits n) : isDigit c = true := by
  have hc : c.isDigit = true := Nat.isDigit_of_mem_toDigits (by decide) (by decide) h
  simpa [isDigit, Char.isDigit, Char.le_def] using hc

theorem head_digits_ne_zero {n : Nat} (h : 0 < n) : (digits n).head? ≠ some '0' := by
  induction n using Nat.strongRecOn with
  | ind n ih =>
    unfold digits
    rcases Nat.lt_or_ge n 10 with hn | hn
    · have hall : ∀ m ∈ List.range 10, 0 < m → Nat.digitChar m ≠ '0' := by decide
      rw [Nat.toDigits_of_lt_base hn]
      intro he
      exact hall n (List.mem_range.mpr hn) h (Option.some.inj he)
    · have hquotient := ih (n / 10) (by omega) (by omega)
      obtain ⟨d, hd⟩ : ∃ d, (Nat.toDigits 10 (n / 10)).head? = some d :=
        Option.ne_none_iff_exists'.mp fun he =>
          Nat.toDigits_ne_nil (List.head?_eq_none_iff.mp he)
      rw [Nat.toDigits_of_base_le (by decide) hn, List.head?_append, hd]
      exact fun he => hquotient (hd.trans he)

theorem exists_digits_cons (n : Nat) :
    ∃ d ds, digits n = d :: ds ∧ isDigit d = true := by
  cases h : digits n with
  | nil => exact absurd h Nat.toDigits_ne_nil
  | cons d ds => exact ⟨d, ds, rfl, isDigit_of_mem_digits (h ▸ List.mem_cons_self)⟩

theorem le_ofDigitChars (ds : List Char) (n : Nat) : n ≤ Nat.ofDigitChars 10 ds n := by
  induction ds generalizing n with
  | nil => simp
  | cons d ds ih =>
    rw [Nat.ofDigitChars_cons]
    have h := ih (10 * n + (d.toNat - '0'.toNat))
    omega

theorem isDigit_iff {c : Char} : isDigit c = true ↔ 48 ≤ c.toNat ∧ c.toNat ≤ 57 := by
  simp [isDigit, Char.le_def, UInt32.le_iff_toNat_le]

theorem isBlank_of_isDigit {c : Char} (h : isDigit c = true) : isBlank c = false := by
  have hrange := isDigit_iff.mp h
  simp [isBlank, blankRanges]
  omega

theorem ne_of_isDigit {d c : Char} (hd : isDigit d = true) (hc : isDigit c = false) : d ≠ c := by
  rintro rfl
  rw [hd] at hc
  cases hc

/-- The digits of a number behind some zeros. -/
def zeroFilled (zeros n : Nat) : List Char := List.replicate zeros '0' ++ digits n

theorem isDigit_of_mem_zeroFilled {zeros n : Nat} {c : Char} (h : c ∈ zeroFilled zeros n) :
    isDigit c = true := by
  rcases List.mem_append.mp h with h | h
  · rw [List.eq_of_mem_replicate h]
    decide
  · exact isDigit_of_mem_digits h

theorem zeroFilled_ne_nil (zeros n : Nat) : zeroFilled zeros n ≠ [] := by
  obtain ⟨d, ds, hds, -⟩ := exists_digits_cons n
  simp [zeroFilled, hds]

theorem exists_zeroFilled_cons (zeros n : Nat) :
    ∃ d ds, zeroFilled zeros n = d :: ds ∧ isDigit d = true := by
  obtain ⟨d, ds, hds⟩ := List.exists_cons_of_ne_nil (zeroFilled_ne_nil zeros n)
  have hd : d ∈ zeroFilled zeros n := by simp [hds]
  exact ⟨d, ds, hds, isDigit_of_mem_zeroFilled hd⟩

theorem ofDigitChars_zeroFilled (zeros n : Nat) :
    Nat.ofDigitChars 10 (zeroFilled zeros n) 0 = n := by
  induction zeros with
  | zero => exact Nat.ofDigitChars_ten_toDigits
  | succ zeros ih =>
    rw [zeroFilled, List.replicate_succ, List.cons_append, Nat.ofDigitChars_cons]
    exact ih

theorem readInt64_of_isDigit {d : Char} (hd : isDigit d = true) (cs : List Char) :
    readInt64 (d :: cs) =
      (readDigits 0x7FFFFFFFFFFFFFFF .tooLarge 0 (d :: cs)).map fun m => Int64.ofNat m := by
  have hplus : d ≠ '+' := ne_of_isDigit hd (by decide)
  have hminus : d ≠ '-' := ne_of_isDigit hd (by decide)
  unfold readInt64
  split <;> simp_all

/-- A character that is no digit stops a reader, if nothing in front of it does. -/
theorem readDigits_of_not_digit {cs : List Char} (h : ∃ c ∈ cs, isDigit c = false) (bound : Nat)
    (excess : NumeralFault) (n : Nat) : ∃ e, readDigits bound excess n cs = .error e := by
  induction cs generalizing n with
  | nil => simp at h
  | cons d ds ih =>
    unfold readDigits
    by_cases hd : isDigit d = true
    · obtain ⟨c, hc, hdigit⟩ := h
      have hne : c ≠ d := (ne_of_isDigit hd hdigit).symm
      have hrest : c ∈ ds := (List.mem_cons.mp hc).resolve_left hne
      rw [if_pos hd]
      split
      · exact ih ⟨c, hrest, hdigit⟩ _
      · exact ⟨_, rfl⟩
    · rw [if_neg hd]
      exact ⟨_, rfl⟩

/-- What is read so far only grows, so a reader stops where the whole would exceed the bound. -/
theorem readDigits_of_digits {ds : List Char} (hds : ∀ d ∈ ds, isDigit d = true) {bound : Nat}
    (excess : NumeralFault) {n : Nat} (hn : n ≤ bound) :
    readDigits bound excess n ds =
      if Nat.ofDigitChars 10 ds n ≤ bound then .ok (Nat.ofDigitChars 10 ds n)
      else .error excess := by
  induction ds generalizing n with
  | nil => simp [readDigits, hn]
  | cons d ds ih =>
    rw [readDigits, if_pos (hds d List.mem_cons_self), Nat.ofDigitChars_cons]
    by_cases hfits : 10 * n + digitValue d ≤ bound
    · rw [if_pos hfits]
      exact ih (fun e he => hds e (List.mem_cons_of_mem d he)) hfits
    · have hgrows : 10 * n + digitValue d ≤ Nat.ofDigitChars 10 ds (10 * n + digitValue d) :=
        le_ofDigitChars ds _
      have hexceeds : ¬Nat.ofDigitChars 10 ds (10 * n + digitValue d) ≤ bound := by omega
      rw [if_neg hfits]
      exact (if_neg hexceeds).symm

theorem readDigits_eq_ok_iff {ds : List Char} {bound n : Nat} {excess : NumeralFault} :
    readDigits bound excess 0 ds = .ok n ↔
      (∀ d ∈ ds, isDigit d = true) ∧ value ds = n ∧ n ≤ bound := by
  by_cases hds : ∀ d ∈ ds, isDigit d = true
  · have hread : readDigits bound excess 0 ds =
        if value ds ≤ bound then .ok (value ds) else .error excess :=
      readDigits_of_digits hds excess (Nat.zero_le bound)
    rw [hread]
    split
    · next hn => exact ⟨fun h => ⟨hds, Except.ok.inj h, Except.ok.inj h ▸ hn⟩, fun h => h.2.1 ▸ rfl⟩
    · next hn => exact ⟨nofun, fun h => absurd (h.2.1 ▸ h.2.2) hn⟩
  · have hother : ∃ d ∈ ds, isDigit d = false := by simpa using hds
    obtain ⟨e, he⟩ := readDigits_of_not_digit hother bound excess 0
    rw [he]
    exact ⟨nofun, fun h => absurd h.1 hds⟩

theorem readNat_of_isDigit {d : Char} (hd : isDigit d = true) (bound : Nat) (cs : List Char) :
    readNat bound (d :: cs) = readDigits bound .tooLarge 0 (d :: cs) := by
  have hplus : d ≠ '+' := ne_of_isDigit hd (by decide)
  unfold readNat
  split <;> simp_all

theorem readNat_plus {ds : List Char} (h : ds ≠ []) (bound : Nat) :
    readNat bound ('+' :: ds) = readDigits bound .tooLarge 0 ds := by
  cases ds with
  | nil => exact absurd rfl h
  | cons d ds => rfl

/-- The texts that write a natural number: digits, perhaps behind a plus sign. -/
inductive WritesNat : Nat → List Char → Prop
  | bare {ds : List Char} (hne : ds ≠ []) (hds : ∀ d ∈ ds, isDigit d = true) :
      WritesNat (value ds) ds
  | plus {ds : List Char} (hne : ds ≠ []) (hds : ∀ d ∈ ds, isDigit d = true) :
      WritesNat (value ds) ('+' :: ds)

theorem WritesNat.ne_nil {n : Nat} {cs : List Char} (h : WritesNat n cs) : cs ≠ [] := by
  cases h with
  | bare hne => exact hne
  | plus => simp

/-- What is read as a number up to a bound is what writes one that is within it. -/
theorem readNat_eq_ok_iff {cs : List Char} {bound n : Nat} :
    readNat bound cs = .ok n ↔ WritesNat n cs ∧ n ≤ bound := by
  constructor
  · intro h
    unfold readNat at h
    split at h
    · cases h
    · cases h
    · next ds hne =>
      obtain ⟨hds, rfl, hn⟩ := readDigits_eq_ok_iff.mp h
      exact ⟨.plus (fun he => hne (by rw [he])) hds, hn⟩
    · next hne _ _ =>
      obtain ⟨hds, rfl, hn⟩ := readDigits_eq_ok_iff.mp h
      exact ⟨.bare hne hds, hn⟩
  · rintro ⟨hwrites, hn⟩
    cases hwrites with
    | @bare ds hne hds =>
      obtain ⟨d, ds, rfl⟩ := List.exists_cons_of_ne_nil hne
      rw [readNat_of_isDigit (hds d List.mem_cons_self)]
      exact readDigits_eq_ok_iff.mpr ⟨hds, rfl, hn⟩
    | plus hne hds =>
      rw [readNat_plus hne]
      exact readDigits_eq_ok_iff.mpr ⟨hds, rfl, hn⟩

end ContactHistory.Text.Decimal
