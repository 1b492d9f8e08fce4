import ContactHistory.Proofs.Utf8RoundTrip
import ContactHistory.Text.Form

namespace ContactHistory.Text.Percent

/-- A character of encoded texts: a letter, a digit, a percent sign or one of `-`, `.`, `_` and
`~`. -/
def isSafe (c : Char) : Bool :=
  let n := c.toNat
  (0x30 ≤ n && n ≤ 0x39) || (0x41 ≤ n && n ≤ 0x5A) || (0x61 ≤ n && n ≤ 0x7A) ||
    n = 0x25 || n = 0x2D || n = 0x2E || n = 0x5F || n = 0x7E

/-- What holds for all pairs of digits holds for every byte. -/
theorem forall_byte {p : UInt8 → Prop}
    (h : ∀ x ∈ List.range 16, ∀ y ∈ List.range 16, p (UInt8.ofNat (16 * x + y))) (b : UInt8) :
    p b := by
  have hb := b.toNat_lt
  have hdigits : 16 * (b.toNat / 16) + b.toNat % 16 = b.toNat := Nat.div_add_mod b.toNat 16
  have hp := h (b.toNat / 16) (List.mem_range.mpr (by omega)) (b.toNat % 16)
    (List.mem_range.mpr (by omega))
  rwa [hdigits, UInt8.ofNat_toNat] at hp

theorem isSafe_of_mem_encodeByte {b : UInt8} {c : Char} (h : c ∈ encodeByte b) :
    isSafe c = true := by
  have hall : ∀ b : UInt8, (encodeByte b).all isSafe = true := forall_byte (by decide +kernel)
  exact List.all_eq_true.mp (hall b) c h

theorem isSafe_of_mem_encode {s : String} {c : Char} (h : c ∈ (encode s).toList) :
    isSafe c = true := by
  rw [encode, String.toList_ofList] at h
  obtain ⟨b, -, hc⟩ := List.mem_flatMap.mp h
  exact isSafe_of_mem_encodeByte hc

theorem not_mem_encode {s : String} {c : Char} (h : isSafe c = false) : c ∉ (encode s).toList := by
  intro hc
  rw [isSafe_of_mem_encode hc] at h
  cases h

theorem decode_cons_of_ne {b : UInt8} (h : b ≠ 0x25) (rest : List UInt8) :
    decode (b :: rest) = b :: decode rest := by
  rw [decode.eq_def]
  simp only [h, if_false]

/-- The large hexadecimal digit of a small number is one byte, and it has its value. -/
theorem hexDigit_spec {n : Nat} (h : n < 16) :
    ∃ x, String.utf8EncodeChar (Nat.digitChar n).toUpper = [x] ∧
      hexValue? x = some (UInt8.ofNat n) := by
  have hall : ∀ m ∈ List.range 16,
      ((String.utf8EncodeChar (Nat.digitChar m).toUpper).map hexValue?) =
        [some (UInt8.ofNat m)] := by decide
  obtain ⟨x, hx, hvalue⟩ := List.map_eq_singleton_iff.mp (hall n (List.mem_range.mpr h))
  exact ⟨x, hx, hvalue⟩

theorem unreserved_spec {b : UInt8} (h : isUnreserved b = true) :
    b ≠ 0x25 ∧ String.utf8EncodeChar (Char.ofNat b.toNat) = [b] := by
  have hall : ∀ b : UInt8, isUnreserved b = true →
      b ≠ 0x25 ∧ String.utf8EncodeChar (Char.ofNat b.toNat) = [b] := forall_byte (by decide +kernel)
  exact hall b h

theorem join_digits (b : UInt8) :
    16 * UInt8.ofNat (b.toNat / 16) + UInt8.ofNat (b.toNat % 16) = b := by
  have hb := b.toNat_lt
  apply UInt8.toNat_inj.mp
  rw [UInt8.toNat_add, UInt8.toNat_mul, UInt8.toNat_ofNat', UInt8.toNat_ofNat']
  change (16 * (b.toNat / 16 % 256) % 256 + b.toNat % 16 % 256) % 256 = b.toNat
  omega

/-- An encoded byte is read back from the front of any bytes. -/
theorem decode_encodeByte (b : UInt8) (rest : List UInt8) :
    decode ((encodeByte b).flatMap String.utf8EncodeChar ++ rest) = b :: decode rest := by
  have hb := b.toNat_lt
  unfold encodeByte
  split
  · next h =>
    obtain ⟨hne, hbyte⟩ := unreserved_spec h
    rw [List.flatMap_singleton, hbyte, List.singleton_append, decode_cons_of_ne hne]
  · obtain ⟨x, hx, hxvalue⟩ := hexDigit_spec (n := b.toNat / 16) (by omega)
    obtain ⟨y, hy, hyvalue⟩ := hexDigit_spec (n := b.toNat % 16) (by omega)
    have hbytes : ('%' :: [b.toNat / 16, b.toNat % 16].map fun n =>
        (Nat.digitChar n).toUpper).flatMap String.utf8EncodeChar = [0x25, x, y] := by
      simp only [List.map_cons, List.map_nil, List.flatMap_cons, List.flatMap_nil, hx, hy]
      rfl
    rw [hbytes]
    simp [decode, hxvalue, hyvalue, join_digits]

theorem decode_encode (s : String) : decode (Utf8.encode (encode s)) = Utf8.encode s := by
  have hall (bs : List UInt8) :
      decode ((bs.flatMap encodeByte).flatMap String.utf8EncodeChar) = bs := by
    induction bs with
    | nil => simp [decode]
    | cons b bs ih => rw [List.flatMap_cons, List.flatMap_append, decode_encodeByte, ih]
  rw [encode, Utf8.encode, String.toList_ofList, hall]

theorem decodeText?_encode (s : String) : decodeText? (encode s) = some s := by
  rw [decodeText?, decode_encode, Utf8.decode?_encode]

/-- A text is read back from a part of a query, for its encoded form has no plus sign. -/
theorem decodeForm_encode (s : String) : decodeForm (encode s).toList = s := by
  have hne (c : Char) (hc : c ∈ (encode s).toList) : (if c = '+' then ' ' else c) = c := by
    refine if_neg ?_
    rintro rfl
    exact not_mem_encode (by decide) hc
  have hspaced : ((encode s).toList.map fun c => if c = '+' then ' ' else c) = (encode s).toList :=
    (List.map_congr_left hne).trans (List.map_id' _)
  unfold decodeForm
  simp only [hspaced]
  rw [String.ofList_toList, decode_encode, Utf8.decodeLossy_encode]

end ContactHistory.Text.Percent
