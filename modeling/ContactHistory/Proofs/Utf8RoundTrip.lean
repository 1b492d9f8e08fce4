import ContactHistory.Text.Utf8

namespace ContactHistory.Text.Utf8

namespace Decoder

def tailByte (n : Nat) : UInt8 := UInt8.ofNat (n % 64 + 128)

theorem toNat_tailByte (n : Nat) : (tailByte n).toNat = n % 64 + 128 := by
  rw [tailByte, UInt8.toNat_ofNat']
  exact Nat.mod_eq_of_lt (by omega)

theorem step_tailByte (pieces : List Piece) (p : Partial) (n : Nat)
    (hlow : p.low.toNat ≤ n % 64 + 128) (hhigh : n % 64 + 128 ≤ p.high.toNat) :
    step ⟨pieces, some p⟩ (tailByte n) =
      match p.left with
      | 0 => ⟨.char (Char.ofNat (p.bits * 64 + n % 64)) :: pieces, none⟩
      | k + 1 => ⟨pieces, some ⟨p.bits * 64 + n % 64, tailByte n :: p.bytes, 0x80, 0xBF, k⟩⟩ := by
  have hbounds : p.low ≤ tailByte n ∧ tailByte n ≤ p.high := by
    rw [UInt8.le_iff_toNat_le, UInt8.le_iff_toNat_le, toNat_tailByte]
    exact ⟨hlow, hhigh⟩
  have hbits : (tailByte n).toNat % 64 = n % 64 := by
    rw [toNat_tailByte]
    omega
  obtain ⟨bits, bytes, low, high, left⟩ := p
  unfold step
  cases left with
  | zero => simp only [hbounds, and_self, if_true, hbits]
  | succ k => simp only [hbounds, and_self, if_true, hbits]

/-- A further byte adds its bits where nothing else bounds it. -/
theorem step_tail (pieces : List Piece) (bits : Nat) (bytes : List UInt8) (left n : Nat) :
    step ⟨pieces, some ⟨bits, bytes, 0x80, 0xBF, left⟩⟩ (tailByte n) =
      match left with
      | 0 => ⟨.char (Char.ofNat (bits * 64 + n % 64)) :: pieces, none⟩
      | k + 1 => ⟨pieces, some ⟨bits * 64 + n % 64, tailByte n :: bytes, 0x80, 0xBF, k⟩⟩ := by
  have hlow : 128 ≤ n % 64 + 128 := Nat.le_add_left 128 _
  have hhigh : n % 64 + 128 ≤ 191 := by omega
  exact step_tailByte pieces ⟨bits, bytes, 0x80, 0xBF, left⟩ n hlow hhigh

theorem step_lead (pieces : List Piece) {b low high : UInt8} {left bits : Nat}
    (h : ¬b < 0x80 ∧ lead? b = some (low, high, left) ∧ leadBits b = bits) :
    step ⟨pieces, none⟩ b = ⟨pieces, some ⟨bits, [b], low, high, left⟩⟩ := by
  obtain ⟨hsmall, hlead, hbits⟩ := h
  change first pieces b = _
  unfold first
  rw [if_neg hsmall, hlead, hbits]

/-! ### First bytes, by the number of bytes behind them -/

theorem lead_one {n : Nat} (hlow : 2 ≤ n) (hhigh : n < 32) :
    ¬UInt8.ofNat (n + 192) < 0x80 ∧
      lead? (UInt8.ofNat (n + 192)) = some (0x80, 0xBF, 0) ∧
      leadBits (UInt8.ofNat (n + 192)) = n := by
  have hall : ∀ m ∈ List.range 32, 2 ≤ m → ¬UInt8.ofNat (m + 192) < 0x80 ∧
      lead? (UInt8.ofNat (m + 192)) = some (0x80, 0xBF, 0) ∧
      leadBits (UInt8.ofNat (m + 192)) = m := by decide
  exact hall n (List.mem_range.mpr hhigh) hlow

theorem lead_two {n : Nat} (h : n < 16) :
    ¬UInt8.ofNat (n + 224) < 0x80 ∧
      lead? (UInt8.ofNat (n + 224)) =
        some (if n = 0 then 0xA0 else 0x80, if n = 13 then 0x9F else 0xBF, 1) ∧
      leadBits (UInt8.ofNat (n + 224)) = n := by
  have hall : ∀ m ∈ List.range 16, ¬UInt8.ofNat (m + 224) < 0x80 ∧
      lead? (UInt8.ofNat (m + 224)) =
        some (if m = 0 then 0xA0 else 0x80, if m = 13 then 0x9F else 0xBF, 1) ∧
      leadBits (UInt8.ofNat (m + 224)) = m := by decide
  exact hall n (List.mem_range.mpr h)

theorem lead_three {n : Nat} (h : n < 5) :
    ¬UInt8.ofNat (n + 240) < 0x80 ∧
      lead? (UInt8.ofNat (n + 240)) =
        some (if n = 0 then 0x90 else 0x80, if n = 4 then 0x8F else 0xBF, 2) ∧
      leadBits (UInt8.ofNat (n + 240)) = n := by
  have hall : ∀ m ∈ List.range 5, ¬UInt8.ofNat (m + 240) < 0x80 ∧
      lead? (UInt8.ofNat (m + 240)) =
        some (if m = 0 then 0x90 else 0x80, if m = 4 then 0x8F else 0xBF, 2) ∧
      leadBits (UInt8.ofNat (m + 240)) = m := by decide
  exact hall n (List.mem_range.mpr h)

/-! ### Characters, by the number of their bytes -/

theorem foldl_one (pieces : List Piece) {v : Nat} (h : v ≤ 0x7F) :
    [UInt8.ofNat v].foldl step ⟨pieces, none⟩ = ⟨.char (Char.ofNat v) :: pieces, none⟩ := by
  have hv : (UInt8.ofNat v).toNat = v := by
    rw [UInt8.toNat_ofNat']
    exact Nat.mod_eq_of_lt (by omega)
  have hsmall : UInt8.ofNat v < 0x80 := by
    rw [UInt8.lt_iff_toNat_lt, hv]
    exact Nat.lt_succ_of_le h
  change first pieces (UInt8.ofNat v) = _
  unfold first
  rw [if_pos hsmall, hv]

theorem foldl_two (pieces : List Piece) {v : Nat} (hlow : 0x7F < v) (hhigh : v ≤ 0x7FF) :
    [UInt8.ofNat (v / 64 + 192), tailByte v].foldl step ⟨pieces, none⟩ =
      ⟨.char (Char.ofNat v) :: pieces, none⟩ := by
  have hlead := step_lead pieces (lead_one (n := v / 64) (by omega) (by omega))
  have hbits : v / 64 * 64 + v % 64 = v := Nat.div_add_mod' v 64
  rw [List.foldl_cons, hlead, List.foldl_cons, List.foldl_nil, step_tail]
  simp only [hbits]

theorem foldl_three (pieces : List Piece) {v : Nat} (hlow : 0x7FF < v) (hhigh : v ≤ 0xFFFF)
    (hsurrogate : v < 0xD800 ∨ 0xDFFF < v) :
    [UInt8.ofNat (v / 4096 + 224), tailByte (v / 64), tailByte v].foldl step ⟨pieces, none⟩ =
      ⟨.char (Char.ofNat v) :: pieces, none⟩ := by
  have hlead := step_lead pieces (lead_two (n := v / 4096) (by omega))
  have hbits : (v / 4096 * 64 + v / 64 % 64) * 64 + v % 64 = v := by omega
  -- The second byte is bounded below by what two bytes can hold, and above by the surrogates.
  have hfirst : (if v / 4096 = 0 then (0xA0 : UInt8) else 0x80).toNat ≤ v / 64 % 64 + 128 := by
    split
    · change 160 ≤ _
      omega
    · exact Nat.le_add_left 128 _
  have hlast : v / 64 % 64 + 128 ≤ (if v / 4096 = 13 then (0x9F : UInt8) else 0xBF).toNat := by
    split
    · change _ ≤ 159
      omega
    · change _ ≤ 191
      omega
  rw [List.foldl_cons, hlead, List.foldl_cons, step_tailByte _ _ _ hfirst hlast, List.foldl_cons,
    List.foldl_nil, step_tail]
  simp only [hbits]

theorem foldl_four (pieces : List Piece) {v : Nat} (hlow : 0xFFFF < v) (hhigh : v < 0x110000) :
    [UInt8.ofNat (v / 262144 + 240), tailByte (v / 4096), tailByte (v / 64), tailByte v].foldl step
        ⟨pieces, none⟩ = ⟨.char (Char.ofNat v) :: pieces, none⟩ := by
  have hlead := step_lead pieces (lead_three (n := v / 262144) (by omega))
  have hbits : ((v / 262144 * 64 + v / 4096 % 64) * 64 + v / 64 % 64) * 64 + v % 64 = v := by omega
  -- Here the bound above is the largest character.
  have hfirst : (if v / 262144 = 0 then (0x90 : UInt8) else 0x80).toNat ≤ v / 4096 % 64 + 128 := by
    split
    · change 144 ≤ _
      omega
    · exact Nat.le_add_left 128 _
  have hlast : v / 4096 % 64 + 128 ≤ (if v / 262144 = 4 then (0x8F : UInt8) else 0xBF).toNat := by
    split
    · change _ ≤ 143
      omega
    · change _ ≤ 191
      omega
  rw [List.foldl_cons, hlead, List.foldl_cons, step_tailByte _ _ _ hfirst hlast, List.foldl_cons,
    step_tail, List.foldl_cons, List.foldl_nil, step_tail]
  simp only [hbits]

theorem foldl_utf8EncodeChar (pieces : List Piece) (c : Char) :
    (String.utf8EncodeChar c).foldl step ⟨pieces, none⟩ = ⟨.char c :: pieces, none⟩ := by
  have hc : Char.ofNat c.val.toNat = c := Char.ofNat_toNat c
  have hvalid : c.val.toNat < 0xD800 ∨ 0xDFFF < c.val.toNat ∧ c.val.toNat < 0x110000 := c.valid
  unfold String.utf8EncodeChar
  generalize c.val.toNat = v at hc hvalid ⊢
  subst hc
  dsimp only
  split
  · next hone => exact foldl_one pieces hone
  split
  · next hone htwo =>
    have hmod : v / 64 % 32 = v / 64 := Nat.mod_eq_of_lt (by omega)
    rw [hmod]
    exact foldl_two pieces (Nat.lt_of_not_le hone) htwo
  split
  · next htwo hthree =>
    have hmod : v / 4096 % 16 = v / 4096 := Nat.mod_eq_of_lt (by omega)
    rw [hmod]
    exact foldl_three pieces (Nat.lt_of_not_le htwo) hthree (by omega)
  · next hthree =>
    have hmod : v / 262144 % 8 = v / 262144 := Nat.mod_eq_of_lt (by omega)
    rw [hmod]
    exact foldl_four pieces (Nat.lt_of_not_le hthree) (by omega)

theorem foldl_flatMap (pieces : List Piece) (cs : List Char) :
    (cs.flatMap String.utf8EncodeChar).foldl step ⟨pieces, none⟩ =
      ⟨(cs.map Piece.char).reverse ++ pieces, none⟩ := by
  induction cs generalizing pieces with
  | nil => rfl
  | cons c cs ih =>
    rw [List.flatMap_cons, List.foldl_append, foldl_utf8EncodeChar, ih]
    simp

end Decoder

theorem pieces_encode (s : String) : pieces (encode s) = s.toList.map .char := by
  unfold pieces encode Decoder.start
  rw [Decoder.foldl_flatMap]
  simp [Decoder.finish]

theorem decode?_encode (s : String) : decode? (encode s) = some s := by
  have hall (cs : List Char) : (cs.map Piece.char).mapM Piece.char? = some cs := by
    induction cs with
    | nil => rfl
    | cons c cs ih => simp [ih, Piece.char?]
  rw [decode?, pieces_encode, hall]
  simp

theorem read_encode (s : String) : read (encode s) = .ok s := by
  have hfault (index : Nat) (cs : List Char) : fault? index (cs.map Piece.char) = none := by
    induction cs generalizing index with
    | nil => rfl
    | cons c cs ih => exact ih _
  rw [read, pieces_encode]
  simp [hfault, Function.comp_def, Piece.char?]

theorem decodeLossy_encode (s : String) : decodeLossy (encode s) = s := by
  rw [decodeLossy, pieces_encode]
  simp [Function.comp_def, Piece.char?]

theorem length_le_length_encode (s : String) : s.toList.length ≤ (encode s).length := by
  unfold encode
  induction s.toList with
  | nil => exact Nat.le_refl _
  | cons c cs ih =>
    have hc : 0 < (String.utf8EncodeChar c).length :=
      List.length_pos_iff.mpr String.utf8EncodeChar_ne_nil
    rw [List.flatMap_cons, List.length_append, List.length_cons]
    omega

end ContactHistory.Text.Utf8
