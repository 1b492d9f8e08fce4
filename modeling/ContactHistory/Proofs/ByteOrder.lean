import ContactHistory.Text.Utf8
import Mathlib.Tactic.SplitIfs

namespace ContactHistory.Text.Utf8

private theorem toNat_lt (c : Char) : c.toNat < 0x110000 := by
  change c.val.toNat < 0x110000
  rcases c.valid with h | h
  · omega
  · exact h.2

/-- Two numbers are ordered as their digits are, the higher digit first. -/
private theorem div_mod_lt {m n : Nat} (h : m < n) (k : Nat) :
    m / k < n / k ∨ m / k = n / k ∧ m % k < n % k := by
  have hm := Nat.div_add_mod m k
  have hn := Nat.div_add_mod n k
  rcases Nat.lt_or_eq_of_le (Nat.div_le_div_right (c := k) (Nat.le_of_lt h)) with hq | hq
  · exact .inl hq
  · refine .inr ⟨hq, ?_⟩
    rw [hq] at hm
    omega

/-- The bytes of a smaller character are smaller whatever follows, so none begin with the others. -/
theorem utf8EncodeChar_lt {c d : Char} (h : c < d) (xs ys : List UInt8) :
    String.utf8EncodeChar c ++ xs < String.utf8EncodeChar d ++ ys := by
  have hd : d.val.toNat < 0x110000 := toNat_lt d
  have hcd : c.val.toNat < d.val.toNat := h
  unfold String.utf8EncodeChar
  generalize c.val.toNat = m at *
  generalize d.val.toNat = n at *
  -- Four bytes are too many for one linear problem: the first two and the last two are compared.
  have hdigits := div_mod_lt hcd 4096
  dsimp only
  split_ifs
  all_goals
    simp only [List.cons_append, List.nil_append, List.cons_lt_cons_iff, UInt8.lt_iff_toNat_lt,
      ← UInt8.toNat_inj, UInt8.toNat_ofNat']
  all_goals rcases hdigits with hdigits | hdigits <;> omega

theorem flatMap_utf8EncodeChar_lt {cs ds : List Char} (h : cs < ds) :
    cs.flatMap String.utf8EncodeChar < ds.flatMap String.utf8EncodeChar := by
  induction h with
  | @nil d ds =>
    rw [List.flatMap_nil, List.flatMap_cons]
    cases he : String.utf8EncodeChar d with
    | nil => exact absurd he String.utf8EncodeChar_ne_nil
    | cons b bs => exact List.nil_lt_cons _ _
  | cons _ ih =>
    simp only [List.flatMap_cons]
    exact List.append_left_lt ih
  | rel hcd =>
    simp only [List.flatMap_cons]
    exact utf8EncodeChar_lt hcd _ _

theorem encode_lt_encode_iff {s t : String} : encode s < encode t ↔ s < t := by
  constructor
  · intro h
    refine Decidable.byContradiction fun hst => ?_
    by_cases he : t = s
    · subst he
      exact List.lt_irrefl _ h
    · have hts : t < s := Decidable.byContradiction fun hts =>
        he (String.le_antisymm (String.not_lt.mp hst) (String.not_lt.mp hts))
      exact List.lt_asymm h (flatMap_utf8EncodeChar_lt hts)
  · intro h
    exact flatMap_utf8EncodeChar_lt h

end ContactHistory.Text.Utf8
