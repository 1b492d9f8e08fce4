import ContactHistory.History
import ContactHistory.Proofs.ByteOrder

namespace ContactHistory.Contact

open Text

/-- The contact stands strictly before another: it is later, or of the same time and with a
counterparty of smaller bytes. -/
def Precedes (a b : Contact) : Prop :=
  b.lastAt < a.lastAt ∨
    b.lastAt = a.lastAt ∧ Utf8.encode a.counterparty < Utf8.encode b.counterparty

/-- Neither the times nor the counterparties tell the contacts apart. -/
def Ties (a b : Contact) : Prop := a.lastAt = b.lastAt ∧ a.counterparty = b.counterparty

instance (a b : Contact) : Decidable (Ties a b) :=
  inferInstanceAs (Decidable (a.lastAt = b.lastAt ∧ a.counterparty = b.counterparty))

theorem before_iff {a b : Contact} :
    before a b = true ↔
      b.lastAt < a.lastAt ∨ b.lastAt = a.lastAt ∧ a.counterparty ≤ b.counterparty := by
  simp [before]

theorem precedes_iff {a b : Contact} :
    Precedes a b ↔ b.lastAt < a.lastAt ∨ b.lastAt = a.lastAt ∧ a.counterparty < b.counterparty := by
  rw [Precedes, Utf8.encode_lt_encode_iff]

theorem before_trans (a b c : Contact) (hab : before a b = true) (hbc : before b c = true) :
    before a c = true := by
  rw [before_iff, Instant.lt_iff, ← Instant.toInt_inj] at *
  rcases hab with hab | ⟨hab, hle⟩
  · left
    omega
  · rcases hbc with hbc | ⟨hbc, hle'⟩
    · left
      omega
    · right
      exact ⟨by omega, String.le_trans hle hle'⟩

theorem before_total (a b : Contact) : (before a b || before b a) = true := by
  rw [Bool.or_eq_true, before_iff, before_iff, Instant.lt_iff, Instant.lt_iff, ← Instant.toInt_inj,
    ← Instant.toInt_inj]
  rcases Int.lt_trichotomy a.lastAt.toInt b.lastAt.toInt with h | h | h
  · exact .inr (.inl h)
  · rcases String.le_total a.counterparty b.counterparty with hs | hs
    · exact .inl (.inr ⟨h.symm, hs⟩)
    · exact .inr (.inr ⟨h, hs⟩)
  · exact .inl (.inl h)

theorem before_of_ties {a b : Contact} (h : Ties a b) : before a b = true := by
  rw [before_iff, h.1, h.2]
  exact .inr ⟨rfl, String.le_refl _⟩

theorem precedes_or_ties_of_before {a b : Contact} (h : before a b = true) :
    Precedes a b ∨ Ties a b := by
  rw [precedes_iff]
  rcases before_iff.mp h with h | ⟨h, hle⟩
  · exact .inl (.inl h)
  · by_cases hlt : a.counterparty < b.counterparty
    · exact .inl (.inr ⟨h, hlt⟩)
    · exact .inr ⟨h.symm, String.le_antisymm hle (String.not_lt.mp hlt)⟩

theorem precedes_of_before {a b : Contact} (h : before a b = true)
    (hne : a.counterparty ≠ b.counterparty) : Precedes a b :=
  (precedes_or_ties_of_before h).resolve_right fun hties => hne hties.2

theorem not_precedes_self (a : Contact) : ¬Precedes a a := by
  rw [precedes_iff, Instant.lt_iff]
  rintro (h | ⟨_, h⟩)
  · omega
  · exact String.lt_irrefl _ h

theorem Precedes.asymm {a b : Contact} (hab : Precedes a b) : ¬Precedes b a := by
  rw [precedes_iff, Instant.lt_iff, ← Instant.toInt_inj] at *
  rintro (hba | ⟨_, hba⟩)
  · omega
  · rcases hab with hab | ⟨_, hab⟩
    · omega
    · exact String.lt_asymm hab hba

theorem perm_sorted (cs : List Contact) : (sorted cs).Perm cs := List.mergeSort_perm cs before

theorem mem_sorted {c : Contact} {cs : List Contact} : c ∈ sorted cs ↔ c ∈ cs :=
  (perm_sorted cs).mem_iff

theorem pairwise_before_sorted (cs : List Contact) :
    (sorted cs).Pairwise fun a b => before a b = true :=
  List.pairwise_mergeSort before_trans before_total cs

theorem pairwise_sorted (cs : List Contact) :
    (sorted cs).Pairwise fun a b => Precedes a b ∨ Ties a b :=
  (pairwise_before_sorted cs).imp precedes_or_ties_of_before

/-- Sorting is stable: the contacts that tie with one are left in their order. -/
theorem filter_ties_sorted (c : Contact) (cs : List Contact) :
    (sorted cs).filter (fun d => Ties c d) = cs.filter fun d => Ties c d := by
  let tied := cs.filter fun d => Ties c d
  have hties : ∀ d ∈ tied, Ties c d := fun d hd => by
    simpa using (List.mem_filter.mp hd).2
  have hbefore : tied.Pairwise fun a b => before a b = true := by
    refine List.pairwise_of_forall_mem_list fun a ha b hb => before_of_ties ?_
    exact ⟨(hties a ha).1.symm.trans (hties b hb).1, (hties a ha).2.symm.trans (hties b hb).2⟩
  have hsub : tied.Sublist (sorted cs) :=
    List.sublist_mergeSort before_trans before_total hbefore List.filter_sublist
  -- All of them are found behind the filter, which lets through no more than before the sort.
  have hfilter : tied.Sublist ((sorted cs).filter fun d => Ties c d) := by
    have h := hsub.filter fun d => Ties c d
    rwa [List.filter_eq_self.mpr fun d hd => by simpa using hties d hd] at h
  exact (hfilter.eq_of_length (((perm_sorted cs).filter _).length_eq).symm).symm

theorem pairwise_precedes_sorted {cs : List Contact} (h : (cs.map counterparty).Nodup) :
    (sorted cs).Pairwise Precedes := by
  have hs := pairwise_before_sorted cs
  have hn : ((sorted cs).map counterparty).Nodup := ((perm_sorted cs).map _).nodup_iff.mpr h
  rw [List.Nodup, List.pairwise_map] at hn
  exact hs.imp₂ (fun _ _ hb hne => precedes_of_before hb hne) hn

theorem eq_of_mem_iff {cs ds : List Contact} (hc : cs.Pairwise Precedes)
    (hd : ds.Pairwise Precedes) (h : ∀ c, c ∈ cs ↔ c ∈ ds) : cs = ds := by
  have nodup {es : List Contact} (he : es.Pairwise Precedes) : es.Nodup := by
    refine he.imp ?_
    rintro a _ hab rfl
    exact not_precedes_self a hab
  have hp : cs.Perm ds := (List.perm_ext_iff_of_nodup (nodup hc) (nodup hd)).mpr h
  exact hp.eq_of_pairwise (fun _ _ _ _ hab hba => absurd hba hab.asymm) hc hd

/-- Contacts with different counterparties have one order, whichever they come in. -/
theorem sorted_eq_of_perm {cs ds : List Contact} (h : (cs.map counterparty).Nodup)
    (hp : ds.Perm cs) : sorted ds = sorted cs := by
  have hd : (ds.map counterparty).Nodup := (hp.map counterparty).nodup_iff.mpr h
  refine eq_of_mem_iff (pairwise_precedes_sorted hd) (pairwise_precedes_sorted h) fun c => ?_
  rw [mem_sorted, mem_sorted, hp.mem_iff]

end ContactHistory.Contact
