import ContactHistory.Database.Row
import ContactHistory.Proofs.Traversal

namespace ContactHistory

namespace Instant

theorem epoch_le_iff {t : Instant} : epoch ≤ t ↔ 0 ≤ t.toInt := le_iff

theorem epoch_le_ofText (s : String) : epoch ≤ ofText s := by
  unfold ofText
  cases h : ofText? s with
  | none => exact Std.le_refl epoch
  | some t =>
    obtain ⟨n, hn, ht⟩ := Option.bind_eq_some_iff.mp h
    have hpos : 0 ≤ n := of_decide_eq_true (Option.filter_eq_some_iff.mp hn).2
    rw [Option.getD_some, epoch_le_iff, toInt_of_ofInt? ht]
    exact hpos

end Instant

/-- A signal without times before the epoch does not count with one either. -/
theorem Signal.epoch_le_time {s : Signal} (h : ∀ t ∈ s.times, .epoch ≤ t) : .epoch ≤ s.time := by
  unfold time latest?
  cases ht : s.times.max? with
  | none => exact Std.le_refl _
  | some t => exact h t (List.max?_mem ht)

namespace Database

theorem Cell.required_eq_ok_iff {α : Type} {column : String} {c : Cell α} {a : α} :
    c.required column = .ok a ↔ c = .value a := by
  cases c <;> simp [required]

theorem epoch_le_of_eventsOfLists {point : ContactPoint} {directions : List String}
    {values : List (Option String)} {times : List String} {es : List Event}
    (h : eventsOfLists point directions values times = .ok es) :
    ∀ e ∈ es, .epoch ≤ e.time := by
  fun_induction eventsOfLists point directions values times generalizing es with
  | case1 => cases h
  | case2 d ds v vs t ts direction _ ih =>
    obtain ⟨rest, hrest, rfl⟩ := map_eq_ok_iff.mp h
    intro e he
    rcases List.mem_cons.mp he with rfl | he
    · exact Instant.epoch_le_ofText t
    · exact ih hrest e he
  | case3 =>
    cases h
    simp

namespace EventRow

/-- The row is about a counterparty, whose address it may spell in any way. -/
def Names (r : EventRow) (counterparty : String) : Prop :=
  ∃ address, r.counterparty = .value address ∧ Address.normalize address = counterparty

/-- A row that is read gives a signal of the counterparty that it names, and no time of it is before
the epoch. -/
theorem toSignal_spec {point : ContactPoint} {r : EventRow} {s : Signal}
    (h : r.toSignal point = .ok s) : r.Names s.counterparty ∧ ∀ t ∈ s.times, .epoch ≤ t := by
  unfold toSignal at h
  obtain ⟨address, haddress, h⟩ := bind_eq_ok_iff.mp h
  obtain ⟨directions, -, h⟩ := bind_eq_ok_iff.mp h
  obtain ⟨values, -, h⟩ := bind_eq_ok_iff.mp h
  obtain ⟨times, -, h⟩ := bind_eq_ok_iff.mp h
  have hcell := Cell.required_eq_ok_iff.mp (mapError_eq_ok_iff.mp haddress)
  have hsignal := mapError_eq_ok_iff.mp h
  unfold signalOfLists at hsignal
  split at hsignal
  · obtain ⟨es, hes, rfl⟩ := map_eq_ok_iff.mp hsignal
    refine ⟨⟨address, hcell, rfl⟩, fun t ht => ?_⟩
    obtain ⟨e, he, rfl⟩ := List.mem_map.mp ht
    exact epoch_le_of_eventsOfLists hes e he
  · cases hsignal

theorem Names.unique {r : EventRow} {a b : String} (ha : r.Names a) (hb : r.Names b) : a = b := by
  obtain ⟨address, hcell, rfl⟩ := ha
  obtain ⟨address', hcell', rfl⟩ := hb
  cases hcell.symm.trans hcell'
  rfl

end EventRow
end Database
end ContactHistory
