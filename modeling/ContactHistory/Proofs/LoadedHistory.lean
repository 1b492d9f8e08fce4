import ContactHistory.Database.Basic
import ContactHistory.Proofs.Outcomes

namespace ContactHistory

namespace ProfileTable

theorem KeyedByAddress.address_eq {t : ProfileTable} (h : t.KeyedByAddress) {address : String}
    {p : Profile} (hp : t.find? address = some p) : p.address = address := by
  unfold find? at hp
  obtain ⟨before, after, he, _⟩ := List.lookup_eq_some_iff.mp hp
  have hm : (address, p) ∈ t.entries := by simp [he]
  exact (h _ hm).symm

theorem KeyedByAddress.sublist {t : ProfileTable} (h : t.KeyedByAddress) (addresses : List String) :
    ((addresses.filterMap t.find?).map Profile.address).Sublist addresses := by
  induction addresses with
  | nil => exact List.Sublist.refl _
  | cons address rest ih =>
    cases hp : t.find? address with
    | none =>
      rw [List.filterMap_cons_none hp]
      exact ih.cons address
    | some p =>
      rw [List.filterMap_cons_some hp, List.map_cons, h.address_eq hp]
      exact ih.cons_cons address

theorem KeyedByAddress.insert {t : ProfileTable} (h : t.KeyedByAddress) (p : Profile) :
    (t.insert p.address p).KeyedByAddress := by
  intro e he
  rcases List.mem_cons.mp he with rfl | he
  · rfl
  · exact h e (List.mem_filter.mp he).1

theorem keyedByAddress_ofProfiles (ps : List Profile) : (ofProfiles ps).KeyedByAddress := by
  have step (t : ProfileTable) (ht : t.KeyedByAddress) :
      (ps.foldl (fun t p => t.insert p.address p) t).KeyedByAddress := by
    induction ps generalizing t with
    | nil => exact ht
    | cons p ps ih => exact ih _ (ht.insert p)
  exact step empty fun _ he => absurd he List.not_mem_nil

end ProfileTable

namespace Aggregator

/-- Profiles are looked up in tables that hold every profile under its own address. -/
def HasKeyedProfiles (a : Aggregator) : Prop :=
  ∀ addresses table, a.profiles addresses = .ok table → table.KeyedByAddress

end Aggregator

theorem Databases.hasKeyedProfiles (d : Databases) : d.aggregator.HasKeyedProfiles := by
  intro addresses table h
  change ((d.pool .application).findProfiles addresses).result = .ok table at h
  rw [Database.Pool.result_findProfiles] at h
  split at h
  · cases h
    exact fun _ he => absurd he List.not_mem_nil
  · change (d.application.profiles addresses).bind _ = .ok table at h
    cases hrows : d.application.profiles addresses with
    | error e => simp [hrows, Except.bind] at h
    | ok rows =>
      rw [hrows] at h
      change (rows.mapM Database.ProfileRow.toProfile).map ProfileTable.ofProfiles = .ok table at h
      cases hps : rows.mapM Database.ProfileRow.toProfile with
      | error e => simp [hps, Except.map] at h
      | ok ps =>
        rw [hps] at h
        cases h
        exact ProfileTable.keyedByAddress_ofProfiles ps

namespace Contact

theorem latest_head {c : Contact} {cs : List Contact} (h : (c :: cs).Pairwise Precedes) :
    c.lastAt.Latest ((c :: cs).map lastAt) := by
  refine ⟨List.mem_cons_self, fun t ht => ?_⟩
  rcases List.mem_cons.mp ht with rfl | ht
  · exact Std.le_refl _
  · obtain ⟨d, hd, rfl⟩ := List.mem_map.mp ht
    have hcd : Precedes c d := List.rel_of_pairwise_cons h hd
    rw [precedes_iff, Instant.lt_iff] at hcd
    rw [Instant.le_iff]
    rcases hcd with hlt | ⟨he, _⟩
    · omega
    · exact Int.le_of_eq (congrArg Instant.toInt he)

end Contact

namespace History

/-- A history of signals that a filter allows. -/
structure OfSignals (filter : Filter) (h : History) : Prop where
  ordered : h.contacts.Pairwise Contact.Precedes
  nodup : (h.contacts.map Contact.counterparty).Nodup
  allowed : ∀ c ∈ h.contacts, filter.allows c.counterparty = true
  signals : ∀ c ∈ h.contacts, c.signals ≠ [] ∧ ∀ s ∈ c.signals, s.counterparty = c.counterparty
  profile : ∀ c ∈ h.contacts, c.profile = none
  watermark : h.watermark = h.contacts.head?.map Contact.lastAt

/-- A history of profiles that were found at a time. -/
structure OfProfiles (now : Instant) (h : History) : Prop where
  watermark : h.watermark = none
  contacts : ∀ c ∈ h.contacts, ∃ p, c = Contact.ofProfile p now

theorem ofSignals_of_holds {filter : Filter} {ss : List Signal} {r : Roster}
    (h : Roster.Holds filter (ss.filter fun s => filter.allows s.counterparty) r) :
    OfSignals filter ⟨r.watermark, r.contacts⟩ where
  ordered := h.contacts.2
  nodup := h.contacts.1.nodup
  allowed c hc := by
    have hm := (h.contacts.1.counterparties c.counterparty).mp (List.mem_map_of_mem hc)
    obtain ⟨s, hs, he⟩ := List.mem_map.mp hm
    rw [← he]
    exact (List.mem_filter.mp hs).2
  signals c hc := by
    constructor
    · intro hnil
      have hm := (h.contacts.1.latest c hc).1
      simp [hnil] at hm
    · intro s hs
      rw [h.contacts.1.signals c hc] at hs
      exact of_decide_eq_true (List.mem_filter.mp hs).2
  profile := h.contacts.1.profile
  watermark := by
    -- The watermark is set as soon as something is kept, which is when there is a contact.
    cases hcs : r.contacts with
    | nil =>
      have hk := h.contacts.1.eq_nil_iff.mp hcs
      exact h.watermark_eq_none_iff.mpr hk
    | cons c cs =>
      have hk : (ss.filter fun s => filter.allows s.counterparty) ≠ [] := by
        intro hk
        have hnil := h.contacts.1.eq_nil_iff.mpr hk
        rw [hcs] at hnil
        cases hnil
      obtain ⟨t, ht, hlatest⟩ := h.watermark_latest hk
      have ho := h.contacts.2
      rw [hcs] at hlatest ho
      exact ht.trans (congrArg some (hlatest.unique (Contact.latest_head ho)))

end History

namespace Aggregator

variable {a : Aggregator} {subject : String} {selection : Selection} {filter : Filter}
  {now : Instant} {h : History}

/-- A loaded history is one of signals, or what was found in a lookup under a restriction. -/
theorem kinds_of_loaded (hr : (a.run subject selection filter now).outcome = .loaded h) :
    h.OfSignals filter ∨
      filter.isRestricted = true ∧
        ∃ table, a.profiles filter.addresses = .ok table ∧ h = backfill table filter now := by
  cases hp : (Polling.run (a.registry.select selection) (Address.normalize subject) filter).1 with
  | stalled => cases (run_of_stalled now hp).1.symm.trans hr
  | failed f => cases (run_of_failed now hp).1.symm.trans hr
  | answered batches =>
    have hc : (a.conclude filter now batches).outcome = .loaded h :=
      (run_of_answered now hp).1.symm.trans hr
    rcases conclude_cases hc with ⟨-, -, rfl⟩ | ⟨⟨hf, -⟩, -, hfound⟩
    · exact .inl (History.ofSignals_of_holds (Roster.holds_extend_empty filter batches.flatten))
    · exact .inr ⟨hf, hfound⟩

theorem ofProfiles_backfill (table : ProfileTable) (filter : Filter) (now : Instant) :
    (backfill table filter now).OfProfiles now where
  watermark := rfl
  contacts c hc := by
    obtain ⟨_, _, p, _, he⟩ := mem_backfill.mp hc
    exact ⟨p, he⟩

theorem nodup_found {table : ProfileTable} (hk : table.KeyedByAddress) (filter : Filter)
    (now : Instant) :
    (((filter.addresses.filterMap table.find?).map (Contact.ofProfile · now)).map
      Contact.counterparty).Nodup := by
  rw [List.map_map]
  exact filter.nodup.sublist (hk.sublist filter.addresses)

/-- Under keyed profiles a contact that was found has a wanted address, which is in normal form. -/
theorem counterparty_of_mem_backfill {table : ProfileTable} (hk : table.KeyedByAddress)
    {filter : Filter} {now : Instant} {c : Contact}
    (hc : c ∈ (backfill table filter now).contacts) :
    filter.allows c.counterparty = true ∧ Address.normalize c.counterparty = c.counterparty := by
  obtain ⟨address, ha, p, hp, rfl⟩ := mem_backfill.mp hc
  have he : (Contact.ofProfile p now).counterparty = address := hk.address_eq hp
  rw [he]
  refine ⟨?_, (filter.normal address ha).2⟩
  simp [Filter.allows, ha]

/-- However a history is loaded, its contacts are in strict order and have different counterparties,
which the filter allows, and each has signals and only its own. Either no contact has a profile and
the watermark is the time of the first contact, or under a restriction every contact has a profile
and a single signal, which marks that it was found at the time of the call. -/
theorem run_loaded_form (a : Aggregator) (subject : String) (selection : Selection)
    (filter : Filter) (now : Instant) (h : History) (hk : a.HasKeyedProfiles)
    (hr : (a.run subject selection filter now).outcome = .loaded h) :
    h.contacts.Pairwise Contact.Precedes ∧
    (h.contacts.map Contact.counterparty).Nodup ∧
    (∀ c ∈ h.contacts, filter.allows c.counterparty = true) ∧
    (∀ c ∈ h.contacts, c.signals ≠ [] ∧ ∀ s ∈ c.signals, s.counterparty = c.counterparty) ∧
    ((∀ c ∈ h.contacts, c.profile = none) ∧
        h.watermark = h.contacts.head?.map Contact.lastAt ∨
      filter.isRestricted = true ∧ h.watermark = none ∧
        ∀ c ∈ h.contacts, c.profile.isSome = true ∧ c.lastAt = now ∧
          ∃ s, c.signals = [s] ∧ s.point = .search ∧ s.directions = [] ∧ s.values = [] ∧
            s.times = [now]) := by
  rcases kinds_of_loaded hr with hs | ⟨hf, table, ht, rfl⟩
  · exact ⟨hs.ordered, hs.nodup, hs.allowed, hs.signals, .inl ⟨hs.profile, hs.watermark⟩⟩
  · have hkeyed : table.KeyedByAddress := hk filter.addresses table ht
    have hfound := nodup_found hkeyed filter now
    refine ⟨Contact.pairwise_precedes_sorted hfound,
      ((Contact.perm_sorted _).map _).nodup_iff.mpr hfound,
      fun c hc => (counterparty_of_mem_backfill hkeyed hc).1, ?_, .inr ⟨hf, rfl, ?_⟩⟩
    · intro c hc
      have hnormal := (counterparty_of_mem_backfill hkeyed hc).2
      obtain ⟨p, rfl⟩ := (ofProfiles_backfill table filter now).contacts c hc
      -- The marker of a profile has the address in normal form, its contact has it as it is.
      refine ⟨List.cons_ne_nil _ _, fun s hs => ?_⟩
      rw [List.mem_singleton.mp hs]
      exact hnormal
    · intro c hc
      obtain ⟨p, rfl⟩ := (ofProfiles_backfill table filter now).contacts c hc
      exact ⟨rfl, rfl, _, rfl, rfl, rfl, rfl, rfl⟩

/-- Without any events, two profiles are found under addresses in other spellings; they tie in time
and come in the order of their addresses. With events there are no profiles, and a later contact
comes first. -/
theorem run_loaded_form_found :
    let ada : Database.ProfileRow :=
      ⟨.value 3, .value "0xbbb", .value "Ada", .null, .value "https://example.org/ada.png"⟩
    let bob : Database.ProfileRow := ⟨.value 4, .value "0xaaa", .value "Bob", .value "B", .null⟩
    let db : Database := ⟨fun _ _ _ => .ok [], fun _ => .ok [ada, bob], .ok ()⟩
    let a := (Databases.mk db none).aggregator
    let filter := Filter.ofAddresses [" 0xBBB", "0xaaa", "0xCCC"]
    let found : History := ⟨none,
      [.ofProfile ⟨4, "0xaaa", "Bob B", none⟩ ⟨99⟩,
        .ofProfile ⟨3, "0xbbb", "Ada", some "https://example.org/ada.png"⟩ ⟨99⟩]⟩
    let late : Signal := .ofEvents .crcTrust "0xCCC" [⟨.outward, "50", ⟨2000⟩⟩]
    let early : Signal := .ofEvents .crcTrust "0xaaa" [⟨.inward, "10", ⟨1000⟩⟩]
    let b : Aggregator :=
      ⟨.ofSources [⟨.crcTrust, fun _ _ => pure <| .after 1 (.ok [late, early])⟩], a.lookUp⟩
    let folded : History :=
      ⟨some ⟨2000⟩, [⟨"0xccc", [late], ⟨2000⟩, none⟩, ⟨"0xaaa", [early], ⟨1000⟩, none⟩]⟩
    a.HasKeyedProfiles ∧
    (a.run "0xabc" .all filter ⟨99⟩).outcome = .loaded found ∧
    found.contacts.Pairwise Contact.Precedes ∧
    (∀ c ∈ found.contacts, filter.allows c.counterparty = true) ∧
    filter.isRestricted = true ∧
    (∀ c ∈ found.contacts, c.profile.isSome = true ∧ c.lastAt = ⟨99⟩ ∧
      ∃ s, c.signals = [s] ∧ s.point = .search ∧ s.times = [⟨99⟩]) ∧
    (b.run "0xabc" .all filter ⟨99⟩).outcome = .loaded folded ∧
    folded.contacts.Pairwise Contact.Precedes ∧
    (∀ c ∈ folded.contacts, filter.allows c.counterparty = true) ∧
    (∀ c ∈ folded.contacts, c.profile = none) ∧
    folded.watermark = folded.contacts.head?.map Contact.lastAt := by
  intro ada bob db a filter found late early b folded
  have hk : a.HasKeyedProfiles := Databases.hasKeyedProfiles _
  have hr : (a.run "0xabc" .all filter ⟨99⟩).outcome = .loaded found := by
    have hsorted : Contact.sorted found.contacts = found.contacts :=
      List.mergeSort_of_pairwise (by decide)
    exact congrArg (fun cs => Outcome.loaded ⟨none, cs⟩) hsorted
  have hr' : (b.run "0xabc" .all filter ⟨99⟩).outcome = .loaded folded := by
    have hsorted : Contact.sorted folded.contacts = folded.contacts :=
      List.mergeSort_of_pairwise (by decide)
    exact congrArg (fun cs => Outcome.loaded ⟨some ⟨2000⟩, cs⟩) hsorted
  obtain ⟨hordered, -, hallowed, -, hkind⟩ := run_loaded_form a "0xabc" .all filter ⟨99⟩ found hk hr
  obtain ⟨hordered', -, hallowed', -, hkind'⟩ :=
    run_loaded_form b "0xabc" .all filter ⟨99⟩ folded hk hr'
  have hfound := hkind.resolve_left fun h => by
    cases h.1 (.ofProfile ⟨4, "0xaaa", "Bob B", none⟩ ⟨99⟩) List.mem_cons_self
  have hfolded := hkind'.resolve_right fun h => by cases h.2.1
  refine ⟨hk, hr, hordered, hallowed, hfound.1, fun c hc => ?_, hr', hordered', hallowed', hfolded⟩
  obtain ⟨hp, ht, s, hs, hpoint, -, -, htimes⟩ := hfound.2.2 c hc
  exact ⟨hp, ht, s, hs, hpoint, htimes⟩

end Aggregator
end ContactHistory
