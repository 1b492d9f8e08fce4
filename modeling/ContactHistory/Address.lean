import ContactHistory.Text.Blank

namespace ContactHistory.Address

/-- The form under which an address is stored and compared. -/
def normalize (s : String) : String :=
  String.ofList ((Text.trim s.toList).map Char.toLower)

theorem toNat_toLower (c : Char) :
    c.toLower.toNat = if 65 ≤ c.toNat ∧ c.toNat ≤ 90 then c.toNat + 32 else c.toNat := by
  unfold Char.toLower
  split
  · next h =>
    have h' : 65 ≤ c.toNat ∧ c.toNat ≤ 90 := h
    rw [if_pos h']
    show (c.val + 32).toNat = c.val.toNat + 32
    have hc : c.val.toNat ≤ 90 := h'.2
    rw [UInt32.toNat_add]
    exact Nat.mod_eq_of_lt (show c.val.toNat + 32 < 2 ^ 32 by omega)
  · next h =>
    have h' : ¬(65 ≤ c.toNat ∧ c.toNat ≤ 90) := h
    rw [if_neg h']

private theorem isBlank_eq_false {c : Char} (h : 65 ≤ c.toNat ∧ c.toNat ≤ 122) :
    Text.isBlank c = false := by
  simp [Text.isBlank, Text.blankRanges]
  omega

theorem isBlank_toLower (c : Char) : Text.isBlank c.toLower = Text.isBlank c := by
  by_cases h : 65 ≤ c.toNat ∧ c.toNat ≤ 90
  · have hl := toNat_toLower c
    rw [if_pos h] at hl
    rw [isBlank_eq_false (c := c) (by omega), isBlank_eq_false (c := c.toLower) (by omega)]
  · have hl := toNat_toLower c
    rw [if_neg h] at hl
    rw [Char.toNat_inj.mp hl]

theorem toLower_toLower (c : Char) : c.toLower.toLower = c.toLower := by
  apply Char.toNat_inj.mp
  rw [toNat_toLower c.toLower, toNat_toLower c]
  grind

/-- The normal form of an address is its own normal form. -/
theorem normalize_normalize (s : String) : normalize (normalize s) = normalize s := by
  unfold normalize
  simp only [String.toList_ofList, Text.trim_map isBlank_toLower, Text.trim_trim, List.map_map]
  congr 2
  funext c
  exact toLower_toLower c

example : normalize " 0xABC\n" = "0xabc" := by decide

end ContactHistory.Address
