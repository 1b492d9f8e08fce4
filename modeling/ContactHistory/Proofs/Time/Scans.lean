import ContactHistory.Proofs.Digits
import ContactHistory.Time.Text

namespace ContactHistory.Text.Decimal

/-- A number in a field of a fixed width, with zeros in front. -/
def padded (width n : Nat) : List Char := zeroFilled (width - (digits n).length) n

theorem length_padded {width n : Nat} (hw : 0 < width) (h : n < Nat.pow 10 width) :
    (padded width n).length = width := by
  have hle : (digits n).length ≤ width := (Nat.length_toDigits_le_iff (by decide) hw).mpr h
  simp only [padded, zeroFilled, List.length_append, List.length_replicate]
  omega

theorem isDigit_of_mem_padded {width n : Nat} {c : Char} (h : c ∈ padded width n) :
    isDigit c = true := isDigit_of_mem_zeroFilled h

theorem isBlank_of_mem_padded {width n : Nat} {c : Char} (h : c ∈ padded width n) :
    isBlank c = false := isBlank_of_isDigit (isDigit_of_mem_padded h)

theorem exists_padded_cons (width n : Nat) :
    ∃ d ds, padded width n = d :: ds ∧ isDigit d = true := exists_zeroFilled_cons _ n

theorem value_padded (width n : Nat) : value (padded width n) = n := ofDigitChars_zeroFilled _ n

end ContactHistory.Text.Decimal

namespace ContactHistory.Time

open Text

theorem scanNumber_suffix {least width n : Nat} {cs rest : List Char}
    (h : scanNumber least width cs = some (n, rest)) : rest <:+ cs := by
  unfold scanNumber at h
  dsimp only at h
  split at h
  · cases h
  · cases h
    exact List.drop_suffix _ cs

theorem scanChar_of_digits {c : Char} (hc : Decimal.isDigit c = false) {cs : List Char}
    (h : ∀ d ∈ cs, Decimal.isDigit d = true) : scanChar c cs = none := by
  cases cs with
  | nil => rfl
  | cons d ds => exact if_neg (Decimal.ne_of_isDigit (h d List.mem_cons_self) hc)

theorem scanChar_cons (c : Char) (cs : List Char) : scanChar c (c :: cs) = some cs := if_pos rfl

/-- No run of digits goes on in front of a text. -/
def EndsRun (cs : List Char) : Prop := ∀ c ∈ cs.head?, Decimal.isDigit c = false

theorem EndsRun.takeWhile {cs : List Char} (h : EndsRun cs) (width : Nat) :
    (cs.take width).takeWhile Decimal.isDigit = [] := by
  cases cs with
  | nil => simp
  | cons c cs =>
    cases width with
    | zero => rfl
    | succ width => simp [h c rfl]

theorem EndsRun.dropWhile {cs : List Char} (h : EndsRun cs) :
    cs.dropWhile Decimal.isDigit = cs := by
  cases cs with
  | nil => rfl
  | cons c cs => simp [h c rfl]

/-- A run of digits ends with its width, or where the digits do. -/
theorem digitRun_append {width : Nat} {ds rest : List Char}
    (hds : ∀ d ∈ ds, Decimal.isDigit d = true) (hlength : ds.length ≤ width)
    (hrest : ds.length = width ∨ EndsRun rest) : digitRun width (ds ++ rest) = ds := by
  unfold digitRun
  rw [List.take_append, List.take_of_length_le hlength, List.takeWhile_append_of_pos hds]
  rcases hrest with hfull | hends
  · simp [hfull]
  · rw [hends.takeWhile, List.append_nil]

theorem scanNumber_padded {least width n : Nat} (hw : 0 < width) (hl : least ≤ width)
    (h : n < Nat.pow 10 width) (rest : List Char) :
    scanNumber least width (Decimal.padded width n ++ rest) = some (n, rest) := by
  have hlength := Decimal.length_padded hw h
  have hrun : digitRun width (Decimal.padded width n ++ rest) = Decimal.padded width n :=
    digitRun_append (fun d hd => Decimal.isDigit_of_mem_padded hd) (Nat.le_of_eq hlength)
      (.inl hlength)
  have hleast : ¬(Decimal.padded width n).length < least := by omega
  unfold scanNumber
  simp only [hrun, if_neg hleast, Decimal.value_padded, List.drop_left]

theorem scanNumber_two {n : Nat} (h : n < 100) (rest : List Char) :
    scanNumber 2 2 (Decimal.padded 2 n ++ rest) = some (n, rest) :=
  scanNumber_padded (by decide) (by decide) h rest

theorem scanYear_of_isDigit {d : Char} (hd : Decimal.isDigit d = true) (cs : List Char) :
    scanYear (d :: cs) = (scanNumber 1 4 (d :: cs)).map fun p => ((p.1 : Int), p.2) := by
  have hplus : d ≠ '+' := Decimal.ne_of_isDigit hd (by decide)
  have hminus : d ≠ '-' := Decimal.ne_of_isDigit hd (by decide)
  unfold scanYear
  rw [trimStart_cons_of_not_blank (Decimal.isBlank_of_isDigit hd)]
  split
  · next h => exact absurd (List.cons.inj h).1 hminus
  · next h => exact absurd (List.cons.inj h).1 hplus
  · rfl

theorem scanYear_padded {y : Nat} (h : y < 10000) (rest : List Char) :
    scanYear (Decimal.padded 4 y ++ rest) = some ((y : Int), rest) := by
  have hscan : scanNumber 1 4 (Decimal.padded 4 y ++ rest) = some (y, rest) :=
    scanNumber_padded (by decide) (by decide) h rest
  obtain ⟨d, ds, hds, hd⟩ := Decimal.exists_padded_cons 4 y
  rw [hds, List.cons_append] at hscan ⊢
  rw [scanYear_of_isDigit hd, hscan]
  rfl

theorem trimStart_padded (width n : Nat) (rest : List Char) :
    trimStart (Decimal.padded width n ++ rest) = Decimal.padded width n ++ rest := by
  obtain ⟨d, ds, hds, hd⟩ := Decimal.exists_padded_cons width n
  rw [hds, List.cons_append, trimStart_cons_of_not_blank (Decimal.isBlank_of_isDigit hd)]

theorem scanField_padded {n : Nat} (h : n < 100) (rest : List Char) :
    scanField (Decimal.padded 2 n ++ rest) = some (n, rest) := by
  rw [scanField, trimStart_padded]
  exact scanNumber_padded (by decide) (by decide) h rest

end ContactHistory.Time
