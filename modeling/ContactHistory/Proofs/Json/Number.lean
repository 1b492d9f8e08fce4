import ContactHistory.Proofs.Digits
import ContactHistory.Proofs.Json.Quoted

namespace ContactHistory.Json.Reader

open Text

/-- No number goes on in front of a text: there is neither a digit nor a point nor an exponent. -/
def EndsNumber (cs : Input) : Prop :=
  ∀ c ∈ cs.head?, isDigit c = false ∧ c ≠ some '.' ∧ c ≠ some 'e' ∧ c ≠ some 'E'

theorem EndsNumber.takeWhile {cs : Input} (h : EndsNumber cs) : cs.takeWhile isDigit = [] := by
  cases cs with
  | nil => rfl
  | cons c cs => simp [(h c rfl).1]

theorem EndsNumber.dropWhile {cs : Input} (h : EndsNumber cs) : cs.dropWhile isDigit = cs := by
  cases cs with
  | nil => rfl
  | cons c cs => simp [(h c rfl).1]

/-- Digits are read onto a number up to where the digits end, if 64 bits hold the result. -/
theorem significandDigits_digits {ds : List Char} (hds : ∀ d ∈ ds, Decimal.isDigit d = true)
    {n : Nat} (taken : Nat) (hmax : Nat.ofDigitChars 10 ds n ≤ unsignedMax) {rest : Input}
    (hrest : EndsNumber rest) :
    significandDigits n taken (Input.ofChars ds ++ rest) =
      (Nat.ofDigitChars 10 ds n, taken + ds.length, rest) := by
  induction ds generalizing n taken with
  | nil =>
    cases rest with
    | nil => simp [significandDigits]
    | cons c rest => simp [significandDigits, (hrest c rfl).1]
  | cons d ds ih =>
    -- What is read so far only grows, so the bound on the whole number holds at every digit.
    rw [Nat.ofDigitChars_cons] at hmax
    have hd : isDigit (some d) = true := hds d List.mem_cons_self
    have hfits : 10 * n + digitOf (some d) ≤ unsignedMax :=
      Nat.le_trans (Decimal.le_ofDigitChars ds _) hmax
    have hstep := ih (fun e he => hds e (List.mem_cons_of_mem d he)) (taken + 1) hmax
    rw [Input.ofChars_cons, List.cons_append, significandDigits, if_pos ⟨hd, hfits⟩]
    rw [Nat.ofDigitChars_cons, List.length_cons]
    exact hstep.trans (by rw [Nat.add_assoc, Nat.add_comm 1])

theorem finish_of_endsNumber (negative : Bool) (n : Nat) {rest : Input} (h : EndsNumber rest) :
    number.finish negative n 0 rest = .ok (integral negative n, rest) := by
  cases rest with
  | nil => rfl
  | cons c rest =>
    obtain ⟨-, hpoint, hsmall, hlarge⟩ := h c rfl
    unfold number.finish
    split <;> simp_all

theorem significandDigits_decimal {n : Nat} (hn : n ≤ unsignedMax) {rest : Input}
    (hrest : EndsNumber rest) :
    significandDigits 0 0 (Input.ofChars (Decimal.digits n) ++ rest) =
      (n, (Decimal.digits n).length, rest) := by
  have hvalue : Nat.ofDigitChars 10 (Decimal.digits n) 0 = n := Nat.ofDigitChars_ten_toDigits
  have h := significandDigits_digits (fun d hd => Decimal.isDigit_of_mem_digits hd) 0
    (Nat.le_trans (Nat.le_of_eq hvalue) hn) hrest
  rw [h, hvalue, Nat.zero_add]

/-- The digits of a number of 64 bits are read as the number. -/
theorem number_digits (negative : Bool) {n : Nat} (hn : n ≤ unsignedMax) {rest : Input}
    (hrest : EndsNumber rest) :
    number negative (Input.ofChars (Decimal.digits n) ++ rest) =
      .ok (integral negative n, rest) := by
  have hall := significandDigits_decimal hn hrest
  have hfinish := finish_of_endsNumber negative n hrest
  rcases Nat.eq_zero_or_pos n with rfl | hpos
  · -- A zero in front of a character is read by a branch of its own.
    have hzero : Decimal.digits 0 = ['0'] := rfl
    rw [hzero] at hall ⊢
    cases rest with
    | nil => rfl
    | cons c rest =>
      change (if isDigit c = true then _ else _) = _
      rw [(hrest c rfl).1]
      exact hfinish
  · have hhead := Decimal.head_digits_ne_zero hpos
    obtain ⟨d, ds, hds, hd⟩ := Decimal.exists_digits_cons n
    have hne : d ≠ '0' := by
      rintro rfl
      simp [hds] at hhead
    rw [hds, Input.ofChars_cons, List.cons_append] at hall ⊢
    unfold number
    split
    · next he => cases he
    · next he =>
      obtain ⟨hd0, -⟩ := List.cons.inj he
      exact absurd (Option.some.inj hd0) hne
    · next he =>
      obtain ⟨rfl, rfl⟩ := List.cons.inj he
      have hdigit : isDigit (some d) = true := hd
      rw [if_pos hdigit, hall]
      simp only [digitCount, hrest.takeWhile, hrest.dropWhile]
      exact hfinish

theorem isBlank_digit {d : Char} (h : Decimal.isDigit d = true) :
    isBlank (some d) = false ∧ d ≠ '-' := by
  have hne (c : Char) (hc : Decimal.isDigit c = false) : d ≠ c := by
    rintro rfl
    rw [h] at hc
    cases hc
  refine ⟨?_, hne '-' (by decide)⟩
  simp [isBlank, hne ' ' (by decide), hne '\n' (by decide), hne '\t' (by decide),
    hne '\r' (by decide)]

/-- The numeral of a number of 64 bits is read as the number. -/
theorem int64_ofInt (n : Int64) {rest : Input} (hrest : EndsNumber rest) :
    int64 (Input.ofChars (Decimal.ofInt n.toInt) ++ rest) = .ok (n, rest) := by
  have hlow : -0x8000000000000000 ≤ n.toInt := Int64.le_toInt n
  have hhigh : n.toInt < 0x8000000000000000 := Int64.toInt_lt n
  have hmax : unsignedMax = 0xFFFFFFFFFFFFFFFF := rfl
  -- Behind a sign the digits are those of the absolute value, which may exceed the largest number.
  cases he : n.toInt with
  | ofNat m =>
    have hm : m < 0x8000000000000000 := by
      rw [he] at hhigh
      exact Int.ofNat_lt.mp hhigh
    have hn : Int64.ofNat m = n := by
      rw [← Int64.ofInt_toInt n, he]
      rfl
    obtain ⟨d, ds, hds, hd⟩ := Decimal.exists_digits_cons m
    obtain ⟨hblank, hminus⟩ := isBlank_digit hd
    have hread := number_digits false (n := m) (by omega) hrest
    change int64 (Input.ofChars (Decimal.digits m) ++ rest) = _
    rw [hds, Input.ofChars_cons, List.cons_append] at hread ⊢
    have hdigit : isDigit (some d) = true := hd
    unfold int64
    simp [skipBlanks, hblank, hminus, hdigit, hread, integral, Except.bind, hm, hn]
  | negSucc m =>
    have hm : m + 1 ≤ 0x8000000000000000 := by
      rw [he] at hlow
      omega
    have hn : Int64.ofInt (-(m + 1 : Nat)) = n := by
      rw [← Int64.ofInt_toInt n, he]
      rfl
    have hread := number_digits true (n := m + 1) (by omega) hrest
    change int64 (some '-' :: (Input.ofChars (Decimal.digits (m + 1)) ++ rest)) = _
    unfold int64
    simp only [skipBlanks, show isBlank (some '-') = false by decide, List.dropWhile_cons,
      Bool.false_eq_true, if_false, hread, integral]
    simp [Except.bind, hm, ← hn]

end ContactHistory.Json.Reader
