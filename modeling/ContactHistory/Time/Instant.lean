import ContactHistory.Text.Decimal

namespace ContactHistory

/-- A point in time, in milliseconds since the epoch. -/
@[ext] structure Instant where
  millis : Int64
  deriving DecidableEq, Repr

namespace Instant

/-- The instant at which the count of milliseconds starts. -/
def epoch : Instant := ⟨0⟩

def toInt (t : Instant) : Int := t.millis.toInt

/-- The instant of a count of milliseconds, if 64 bits hold it. -/
def ofInt? (n : Int) : Option Instant :=
  if -0x8000000000000000 ≤ n ∧ n < 0x8000000000000000 then some ⟨Int64.ofInt n⟩ else none

instance : LE Instant := ⟨fun a b => a.millis ≤ b.millis⟩

instance : LT Instant := ⟨fun a b => a.millis < b.millis⟩

instance (a b : Instant) : Decidable (a ≤ b) := inferInstanceAs (Decidable (a.millis ≤ b.millis))

instance (a b : Instant) : Decidable (a < b) := inferInstanceAs (Decidable (a.millis < b.millis))

instance : Max Instant := maxOfLe

/-- The text of an instant is the numeral of its count. -/
def text (t : Instant) : String := Text.Decimal.ofInt64 t.millis

theorem le_iff {a b : Instant} : a ≤ b ↔ a.toInt ≤ b.toInt := Int64.le_iff_toInt_le

theorem lt_iff {a b : Instant} : a < b ↔ a.toInt < b.toInt := Int64.lt_iff_toInt_lt

theorem toInt_inj {a b : Instant} : a.toInt = b.toInt ↔ a = b := by
  constructor
  · intro h
    exact Instant.ext (Int64.toInt_inj.mp h)
  · intro h
    rw [h]

theorem max_eq_ite (a b : Instant) : max a b = if a ≤ b then b else a := rfl

instance : Std.IsLinearOrder Instant where
  le_refl a := le_iff.mpr (Int.le_refl _)
  le_trans a b c hab hbc := le_iff.mpr (Int.le_trans (le_iff.mp hab) (le_iff.mp hbc))
  le_antisymm a b hab hba := toInt_inj.mp (Int.le_antisymm (le_iff.mp hab) (le_iff.mp hba))
  le_total a b := by
    simp only [le_iff]
    exact Int.le_total _ _

instance : Std.LawfulOrderLT Instant where
  lt_iff a b := by
    simp only [lt_iff, le_iff]
    omega

instance : Std.LawfulOrderMax Instant where
  max_eq_or a b := by
    rw [max_eq_ite]
    split
    · exact .inr rfl
    · exact .inl rfl
  max_le_iff a b c := by
    rw [max_eq_ite]
    split
    all_goals
      simp only [le_iff] at *
      omega

theorem toInt_of_ofInt? {n : Int} {t : Instant} (h : ofInt? n = some t) : t.toInt = n := by
  unfold ofInt? at h
  split at h
  · next hn =>
    cases h
    exact Int64.toInt_ofInt_of_le hn.1 hn.2
  · cases h

end Instant
end ContactHistory
