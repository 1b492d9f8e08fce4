import ContactHistory.Payload
import ContactHistory.Proofs.Rows
import ContactHistory.Proofs.Time.Scans

namespace ContactHistory

namespace Text.Decimal

/-- The texts that write an integer: its digits, behind any number of zeros and perhaps a sign. -/
inductive Writes : Int → List Char → Prop
  | bare (zeros n : Nat) : Writes n (zeroFilled zeros n)
  | plus (zeros n : Nat) : Writes n ('+' :: zeroFilled zeros n)
  | minus (zeros n : Nat) : Writes (-n) ('-' :: zeroFilled zeros n)

theorem Writes.not_blank {n : Int} {cs : List Char} (h : Writes n cs) :
    ∀ c ∈ cs, isBlank c = false := by
  have hdigits (zeros m : Nat) : ∀ c ∈ zeroFilled zeros m, isBlank c = false :=
    fun c hc => isBlank_of_isDigit (isDigit_of_mem_zeroFilled hc)
  cases h with
  | bare zeros m => exact hdigits zeros m
  | plus zeros m => exact List.forall_mem_cons.mpr ⟨by decide, hdigits zeros m⟩
  | minus zeros m => exact List.forall_mem_cons.mpr ⟨by decide, hdigits zeros m⟩

theorem writes_ofInt (n : Int) : Writes n (ofInt n) := by
  cases n with
  | ofNat n => exact .bare 0 n
  | negSucc n => exact .minus 0 (n + 1)

theorem readInt64_plus {ds : List Char} (h : ds ≠ []) :
    readInt64 ('+' :: ds) =
      (readDigits 0x7FFFFFFFFFFFFFFF .tooLarge 0 ds).map fun m => Int64.ofNat m := by
  cases ds with
  | nil => exact absurd rfl h
  | cons d ds => rfl

theorem readInt64_minus {ds : List Char} (h : ds ≠ []) :
    readInt64 ('-' :: ds) =
      (readDigits 0x8000000000000000 .tooSmall 0 ds).map fun m => Int64.ofInt (-(m : Int)) := by
  cases ds with
  | nil => exact absurd rfl h
  | cons d ds => rfl

theorem readDigits_zeroFilled (zeros n bound : Nat) (excess : NumeralFault) :
    readDigits bound excess 0 (zeroFilled zeros n) =
      if n ≤ bound then .ok n else .error excess := by
  have hdigits : ∀ d ∈ zeroFilled zeros n, isDigit d = true :=
    fun d hd => isDigit_of_mem_zeroFilled hd
  rw [readDigits_of_digits hdigits excess (Nat.zero_le bound), ofDigitChars_zeroFilled]

end Text.Decimal

namespace Time

open Text

/-- A numeral is read if 64 bits hold its number, and as that number. -/
theorem readMillis_of_writes {n : Int} {cs : List Char} (h : Decimal.Writes n cs) :
    readMillis cs =
      if -9223372036854775808 ≤ n ∧ n ≤ 9223372036854775807 then some n else none := by
  have unsigned (zeros m : Nat) :
      (((Decimal.readDigits 0x7FFFFFFFFFFFFFFF .tooLarge 0 (Decimal.zeroFilled zeros m)).map
        fun k => Int64.ofNat k).toOption.map Int64.toInt) =
        if -9223372036854775808 ≤ (m : Int) ∧ (m : Int) ≤ 9223372036854775807 then some (m : Int)
        else none := by
    rw [Decimal.readDigits_zeroFilled]
    by_cases hm : m ≤ 0x7FFFFFFFFFFFFFFF
    · rw [if_pos hm, if_pos (by omega)]
      exact congrArg some (Int64.toInt_ofNat_of_lt (by omega))
    · rw [if_neg hm, if_neg (by omega)]
      rfl
  cases h with
  | bare zeros m =>
    obtain ⟨d, ds, hds, hd⟩ := Decimal.exists_zeroFilled_cons zeros m
    rw [readMillis, hds, Decimal.readInt64_of_isDigit hd, ← hds]
    exact unsigned zeros m
  | plus zeros m =>
    rw [readMillis, Decimal.readInt64_plus (Decimal.zeroFilled_ne_nil zeros m)]
    exact unsigned zeros m
  | minus zeros m =>
    rw [readMillis, Decimal.readInt64_minus (Decimal.zeroFilled_ne_nil zeros m),
      Decimal.readDigits_zeroFilled]
    by_cases hm : m ≤ 0x8000000000000000
    · rw [if_pos hm, if_pos (by omega)]
      exact congrArg some (Int64.toInt_ofInt_of_le (by omega) (by omega))
    · rw [if_neg hm, if_neg (by omega)]
      rfl

/-! ### No calendar form -/

theorem scanDate_eq_none {cs : List Char}
    (h : ∀ y rest, scanYear cs = some (y, rest) → ∀ d ∈ rest, Decimal.isDigit d = true) :
    scanDate cs = none := by
  unfold scanDate
  cases hyear : scanYear cs with
  | none => rfl
  | some p =>
    obtain ⟨y, rest⟩ := p
    have hchar : scanChar '-' rest = none := scanChar_of_digits (by decide) (h y rest hyear)
    simp [hchar]

theorem scanDate_of_writes {n : Int} {cs : List Char} (h : Decimal.Writes n cs) :
    scanDate cs = none := by
  refine scanDate_eq_none fun y rest hyear => ?_
  have digits {least width zeros m : Nat} (f : Nat → Int)
      (hscan : (scanNumber least width (Decimal.zeroFilled zeros m)).map
        (fun p => (f p.1, p.2)) = some (y, rest)) : ∀ d ∈ rest, Decimal.isDigit d = true := by
    obtain ⟨p, hp, hrest⟩ := Option.map_eq_some_iff.mp hscan
    cases hrest
    exact fun d hd => Decimal.isDigit_of_mem_zeroFilled ((scanNumber_suffix hp).subset hd)
  have sign {c : Char} (hc : isBlank c = false) (zeros m : Nat) :
      trimStart (c :: Decimal.zeroFilled zeros m) = c :: Decimal.zeroFilled zeros m :=
    trimStart_cons_of_not_blank hc
  cases h with
  | bare zeros m =>
    obtain ⟨d, ds, hds, hd⟩ := Decimal.exists_zeroFilled_cons zeros m
    rw [hds, scanYear_of_isDigit hd, ← hds] at hyear
    exact digits (fun k => (k : Int)) hyear
  | plus zeros m =>
    rw [scanYear, sign (by decide)] at hyear
    exact digits (fun k => (k : Int)) hyear
  | minus zeros m =>
    rw [scanYear, sign (by decide)] at hyear
    exact digits (fun k => -(k : Int)) hyear

theorem scanFixedDate_of_writes {n : Int} {cs : List Char} (h : Decimal.Writes n cs) :
    scanFixedDate cs = none := by
  cases h with
  | bare zeros m =>
    unfold scanFixedDate
    cases hscan : scanNumber 4 4 (Decimal.zeroFilled zeros m) with
    | none => rfl
    | some p =>
      have hchar : scanChar '-' p.2 = none := scanChar_of_digits (by decide) fun d hd =>
        Decimal.isDigit_of_mem_zeroFilled ((scanNumber_suffix hscan).subset hd)
      simp [hchar]
  | plus zeros m => rfl
  | minus zeros m => rfl

theorem readAny_of_writes {n : Int} {cs : List Char} (h : Decimal.Writes n cs) :
    readAny cs = readMillis cs := by
  have hinternet : readInternet cs = none := by
    rw [readInternet, scanFixedDate_of_writes h]
    rfl
  have hspaced : readSpaced cs = none := by
    rw [readSpaced, scanDate_of_writes h]
    rfl
  have hlocal : readLocal cs = none := by
    rw [readLocal, scanDate_of_writes h]
    rfl
  have hdate : readDate cs = none := by
    rw [readDate, scanDate_of_writes h]
    rfl
  rw [readAny, hinternet, hspaced, hlocal, hdate]
  cases readMillis cs <;> rfl

end Time

namespace Instant

open Text

theorem ofInt?_map_toInt {n : Int} (hlow : -9223372036854775808 ≤ n)
    (hhigh : n ≤ 9223372036854775807) : (ofInt? n).map toInt = some n := by
  have hrange : -0x8000000000000000 ≤ n ∧ n < 0x8000000000000000 := by omega
  rw [ofInt?, if_pos hrange]
  exact congrArg some (Int64.toInt_ofInt_of_le hrange.1 hrange.2)

theorem toInt_ofText (s : String) : (ofText s).toInt = ((ofText? s).map toInt).getD 0 := by
  unfold ofText
  cases ofText? s <;> rfl

/-- Milliseconds that are read from a text count if they are not negative. -/
theorem ofText?_of_readAny {s : String} {n : Int}
    (h : Time.readAny (trim s.toList) =
      if -9223372036854775808 ≤ n ∧ n ≤ 9223372036854775807 then some n else none) :
    (ofText? s).map toInt = if 0 ≤ n ∧ n ≤ 9223372036854775807 then some n else none := by
  rw [ofText?, h]
  by_cases hn : 0 ≤ n ∧ n ≤ 9223372036854775807
  · have hheld : -9223372036854775808 ≤ n ∧ n ≤ 9223372036854775807 := by omega
    rw [if_pos hheld, if_pos hn]
    have hkept : (some n).filter (fun k => decide (0 ≤ k)) = some n := by simp [hn.1]
    rw [hkept]
    exact ofInt?_map_toInt hheld.1 hheld.2
  · rw [if_neg hn]
    by_cases hheld : -9223372036854775808 ≤ n ∧ n ≤ 9223372036854775807
    · have hneg : ¬0 ≤ n := by omega
      rw [if_pos hheld]
      simp [hneg]
    · rw [if_neg hheld]
      rfl

theorem ofText?_numeral {n : Int} {cs front back : List Char} (h : Decimal.Writes n cs)
    (hfront : ∀ c ∈ front, isBlank c = true) (hback : ∀ c ∈ back, isBlank c = true) :
    (ofText? (String.ofList (front ++ (cs ++ back)))).map toInt =
      if 0 ≤ n ∧ n ≤ 9223372036854775807 then some n else none := by
  have htrim : trim (front ++ (cs ++ back)) = cs := by
    rw [trim_append hfront hback, trim_of_not_blank h.not_blank]
  apply ofText?_of_readAny
  rw [String.toList_ofList, htrim, Time.readAny_of_writes h, Time.readMillis_of_writes h]

theorem ofText_text {t : Instant} (ht : epoch ≤ t) : ofText t.text = t := by
  have hlow : 0 ≤ t.toInt := epoch_le_iff.mp ht
  have hhigh : t.toInt < 9223372036854775808 := Int64.toInt_lt t.millis
  have hread : (ofText? (String.ofList ([] ++ (Decimal.ofInt t.toInt ++ [])))).map toInt = _ :=
    ofText?_numeral (Decimal.writes_ofInt t.toInt) (by simp) (by simp)
  rw [if_pos (by omega), List.nil_append, List.append_nil] at hread
  apply toInt_inj.mp
  rw [toInt_ofText]
  exact congrArg (fun o => Option.getD o 0) hread

/-- A numeral between blanks is read as the instant of its number, if it is not negative and 64 bits
hold it, and as no instant otherwise. So every instant since the epoch is read back from the text by
which a payload shows it. -/
theorem ofText_numeral :
    (∀ (n : Int) (cs front back : List Char), Decimal.Writes n cs →
      (∀ c ∈ front, isBlank c = true) → (∀ c ∈ back, isBlank c = true) →
      let text := String.ofList (front ++ (cs ++ back))
      ((ofText? text).map toInt =
        if 0 ≤ n ∧ n ≤ 9223372036854775807 then some n else none) ∧
      (ofText text).toInt = if 0 ≤ n ∧ n ≤ 9223372036854775807 then n else 0) ∧
    (∀ t : Instant, epoch ≤ t → ofText t.text = t) ∧
    ∀ s : Signal, (∀ t ∈ s.times, epoch ≤ t) →
      (Payload.PointRecord.ofSignal s).timestamps.map ofText = s.times := by
  refine ⟨fun n cs front back h hfront hback => ?_, fun t ht => ofText_text ht, fun s hs => ?_⟩
  · have hread := ofText?_numeral h hfront hback
    refine ⟨hread, ?_⟩
    rw [toInt_ofText, hread]
    split <;> rfl
  · have hback (t : Instant) (ht : t ∈ s.times) : ofText t.text = t := ofText_text (hs t ht)
    change (s.times.map text).map ofText = s.times
    rw [List.map_map]
    exact (List.map_congr_left hback).trans (List.map_id' _)

theorem ofText_numeral_bounds :
    (ofText? "\u00a0+009223372036854775807\n").map toInt = some 9223372036854775807 ∧
    ofText "9223372036854775808" = epoch ∧
    ofText (Instant.mk 1700000000000).text = ⟨1700000000000⟩ := by
  obtain ⟨reads, keeps, -⟩ := ofText_numeral
  have largest := (reads _ _ ['\u00a0'] ['\n'] (.plus 2 9223372036854775807)
    (List.forall_mem_singleton.mpr (by decide)) (List.forall_mem_singleton.mpr (by decide))).1
  have excess := (reads _ _ [] [] (.bare 0 9223372036854775808) (by simp) (by simp)).2
  exact ⟨largest, toInt_inj.mp excess, keeps _ (by decide)⟩

end Instant
end ContactHistory
