import ContactHistory.Filter
import ContactHistory.Proofs.ByteOrder
import ContactHistory.Proofs.CommaLists
import ContactHistory.Signal
import Mathlib.Data.List.Sort

namespace ContactHistory.Filter

variable {f g : Filter} {a c : String} {raw other : List String}

theorem ext_of_mem (h : ∀ a, a ∈ f.addresses ↔ a ∈ g.addresses) : f = g := by
  apply Filter.ext
  exact f.ascending.eq_of_mem_iff g.ascending h

theorem mem_ofAddresses :
    a ∈ (ofAddresses raw).addresses ↔ a ≠ "" ∧ ∃ s ∈ raw, Address.normalize s = a :=
  mem_ascending.trans mem_wanted

theorem ofAddresses_addresses (f : Filter) : ofAddresses f.addresses = f := by
  apply ext_of_mem
  intro a
  rw [mem_ofAddresses]
  constructor
  · rintro ⟨-, s, hs, rfl⟩
    rw [(f.normal s hs).2]
    exact hs
  · intro ha
    exact ⟨(f.normal a ha).1, a, ha, (f.normal a ha).2⟩

/-- Two lists make the same filter if the same addresses stand in them. -/
theorem ofAddresses_eq_iff :
    ofAddresses other = ofAddresses raw ↔ ∀ a, a ≠ "" →
      ((∃ s ∈ other, Address.normalize s = a) ↔ ∃ s ∈ raw, Address.normalize s = a) := by
  constructor
  · intro h a hne
    have hmem : a ∈ (ofAddresses other).addresses ↔ a ∈ (ofAddresses raw).addresses := by rw [h]
    rw [mem_ofAddresses, mem_ofAddresses, and_iff_right hne, and_iff_right hne] at hmem
    exact hmem
  · intro h
    apply ext_of_mem
    intro a
    rw [mem_ofAddresses, mem_ofAddresses]
    exact and_congr_right (h a)

theorem ofAddresses_normalize (raw : List String) :
    ofAddresses (raw.map Address.normalize) = ofAddresses raw := by
  rw [ofAddresses_eq_iff]
  intro a _
  simp [Address.normalize_normalize]

theorem ofAddresses_present (addresses : List String) :
    ofAddresses (Text.CommaList.present addresses) = ofAddresses addresses := by
  rw [ofAddresses_eq_iff]
  intro a hne
  constructor
  · rintro ⟨_, hmem, rfl⟩
    obtain ⟨-, s, hs, rfl⟩ := Text.CommaList.mem_present.mp hmem
    exact ⟨s, hs, (Address.normalize_trimmed s).symm⟩
  · rintro ⟨s, hs, rfl⟩
    have hpresent : Text.trimmed s ≠ "" := fun he => hne (Address.normalize_eq_empty.mpr he)
    exact ⟨_, Text.CommaList.mem_present.mpr ⟨hpresent, s, hs, rfl⟩, Address.normalize_trimmed s⟩

theorem isRestricted_iff : f.isRestricted = true ↔ f.addresses ≠ [] := by
  simp [isRestricted]

theorem allowList?_eq_some_iff {bound : List String} :
    f.allowList? = some bound ↔ f.isRestricted = true ∧ f.addresses = bound := by
  rw [isRestricted_iff, allowList?]
  split
  · next h => simp [List.isEmpty_iff.mp h]
  · next h => simp [List.isEmpty_iff.not.mp h]

theorem allows_iff : f.allows a = true ↔ f.addresses = [] ∨ a ∈ f.addresses := by
  simp [allows]

theorem addresses_ofAddresses_eq_nil_iff :
    (ofAddresses raw).addresses = [] ↔ ∀ s ∈ raw, Text.trimmed s = "" := by
  rw [List.eq_nil_iff_forall_not_mem]
  simp only [mem_ofAddresses, ← Address.normalize_eq_empty]
  grind

/-- A counterparty in any spelling passes if all entries are blank, or if one that is not blank is a
spelling of it. -/
theorem allows_normalize_iff :
    (ofAddresses raw).allows (Address.normalize c) = true ↔
      (∀ s ∈ raw, Text.trimmed s = "") ∨
        ∃ s ∈ raw, Text.trimmed s ≠ "" ∧ Address.normalize s = Address.normalize c := by
  rw [allows_iff, addresses_ofAddresses_eq_nil_iff, mem_ofAddresses]
  refine or_congr_right ?_
  constructor
  · rintro ⟨hne, s, hs, hsame⟩
    rw [← hsame] at hne
    exact ⟨s, hs, fun hblank => hne (Address.normalize_eq_empty.mpr hblank), hsame⟩
  · rintro ⟨s, hs, hpresent, hsame⟩
    rw [← hsame]
    exact ⟨fun hblank => hpresent (Address.normalize_eq_empty.mp hblank), s, hs, rfl⟩

/-- The filter of a list of addresses in any spelling has one form: its addresses ascend by bytes
and are normal, and it is the filter of all lists with the same addresses, its own among them. A
query is bound to just these, and a signal passes if one of them is its counterparty or all are
blank. -/
theorem ofAddresses_normal_form (raw : List String) :
    (ofAddresses raw).addresses.Pairwise (fun a b => Text.Utf8.encode a < Text.Utf8.encode b) ∧
    (∀ a ∈ (ofAddresses raw).addresses, a ≠ "" ∧ Address.normalize a = a) ∧
    ofAddresses (ofAddresses raw).addresses = ofAddresses raw ∧
    (∀ other, ofAddresses other = ofAddresses raw ↔ ∀ a, a ≠ "" →
      ((∃ s ∈ other, Address.normalize s = a) ↔ ∃ s ∈ raw, Address.normalize s = a)) ∧
    ((ofAddresses raw).allowList? = none ↔ (ofAddresses raw).isRestricted = false) ∧
    ((ofAddresses raw).isRestricted = true →
      (ofAddresses raw).allowList? = some (ofAddresses raw).addresses) ∧
    ∀ point c es,
      (ofAddresses raw).allows (Signal.ofEvents point c es).counterparty = true ↔
        (∀ s ∈ raw, Text.trimmed s = "") ∨
          ∃ s ∈ raw, Text.trimmed s ≠ "" ∧ Address.normalize s = Address.normalize c := by
  refine ⟨?_, (ofAddresses raw).normal, ofAddresses_addresses _, fun other => ofAddresses_eq_iff,
    ?_, ?_, ?_⟩
  · exact (ofAddresses raw).ascending.imp Text.Utf8.encode_lt_encode_iff.mpr
  · rw [Option.eq_none_iff_forall_ne_some]
    simp only [ne_eq, allowList?_eq_some_iff]
    grind
  · intro h
    exact allowList?_eq_some_iff.mpr ⟨h, rfl⟩
  · intro point c es
    exact allows_normalize_iff

/-- A blank entry beside another one does not let a blank counterparty pass. -/
theorem blank_entry_allows_no_blank :
    ¬((ofAddresses ["0xabc", ""]).allows (Signal.ofEvents .crcTrust "" []).counterparty = true ↔
      (∀ s ∈ ["0xabc", ""], Text.trimmed s = "") ∨
        ∃ s ∈ ["0xabc", ""], Address.normalize s = Address.normalize "") := by
  have hrefused : (ofAddresses ["0xabc", ""]).allows
      (Signal.ofEvents .crcTrust "" []).counterparty = false := by decide
  rw [hrefused]
  intro h
  exact absurd (h.mpr (.inr ⟨"", by simp, rfl⟩)) Bool.false_ne_true

end ContactHistory.Filter
