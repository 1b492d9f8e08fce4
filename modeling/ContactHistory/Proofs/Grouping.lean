import ContactHistory.Proofs.ContactOrder
import ContactHistory.History

namespace ContactHistory

namespace Instant

/-- The instant is one of a list, and none of the list is later. -/
def Latest (t : Instant) (ts : List Instant) : Prop := t ∈ ts ∧ ∀ u ∈ ts, u ≤ t

theorem max?_eq_some_iff {t : Instant} {ts : List Instant} : ts.max? = some t ↔ t.Latest ts :=
  List.max?_eq_some_iff

theorem latest_singleton (t : Instant) : t.Latest [t] := max?_eq_some_iff.mp rfl

theorem Latest.append {t : Instant} {ts : List Instant} (h : t.Latest ts) (u : Instant) :
    (max t u).Latest (ts ++ [u]) := by
  constructor
  · rcases Std.max_eq_or (a := t) (b := u) with he | he
    · rw [he]
      exact List.mem_append_left _ h.1
    · rw [he]
      exact List.mem_append_right _ (List.mem_singleton.mpr rfl)
  · intro v hv
    rcases List.mem_append.mp hv with hv | hv
    · exact Std.le_trans (h.2 v hv) Std.left_le_max
    · rw [List.mem_singleton.mp hv]
      exact Std.right_le_max

theorem Latest.unique {t u : Instant} {ts : List Instant} (ht : t.Latest ts) (hu : u.Latest ts) :
    t = u := Std.le_antisymm (hu.2 t ht.1) (ht.2 u hu.1)

end Instant

/-- A signal counts with the latest of its times, or with the epoch if it has none. -/
theorem Signal.time_eq (s : Signal) :
    (s.times = [] → s.time = .epoch) ∧ (s.times ≠ [] → s.time.Latest s.times) := by
  unfold Signal.time Signal.latest?
  cases h : s.times.max? with
  | none => simp [List.max?_eq_none_iff.mp h]
  | some t =>
    have ht : t.Latest s.times := Instant.max?_eq_some_iff.mp h
    refine ⟨fun he => ?_, fun _ => ht⟩
    have hmem := ht.1
    simp [he] at hmem

namespace Roster

/-- The contacts hold the signals of a list: one contact for each counterparty, with the signals of
that counterparty in the order of the list. -/
structure Grouped (kept : List Signal) (cs : List Contact) : Prop where
  nodup : (cs.map Contact.counterparty).Nodup
  counterparties : ∀ a, a ∈ cs.map Contact.counterparty ↔ a ∈ kept.map Signal.counterparty
  signals : ∀ c ∈ cs, c.signals = kept.filter fun s => s.counterparty = c.counterparty
  latest : ∀ c ∈ cs, c.lastAt.Latest (c.signals.map Signal.time)
  profile : ∀ c ∈ cs, c.profile = none

theorem place_of_notMem {s : Signal} {cs : List Contact}
    (h : s.counterparty ∉ cs.map Contact.counterparty) :
    place s cs = cs ++ [Contact.ofSignal s] := by
  induction cs with
  | nil => rfl
  | cons c cs ih =>
    rw [List.map_cons, List.mem_cons, not_or] at h
    rw [place, if_neg (Ne.symm h.1), ih h.2, List.cons_append]

theorem place_of_mem {s : Signal} {cs : List Contact} (hn : (cs.map Contact.counterparty).Nodup)
    (h : s.counterparty ∈ cs.map Contact.counterparty) :
    place s cs = cs.map fun c => if c.counterparty = s.counterparty then c.absorb s else c := by
  induction cs with
  | nil => simp at h
  | cons c cs ih =>
    rw [List.map_cons, List.nodup_cons] at hn
    rw [place, List.map_cons]
    split
    · next hc =>
      -- No other contact has the counterparty, so the map changes the first one only.
      have hrest : ∀ d ∈ cs, ¬d.counterparty = s.counterparty := by
        intro d hd he
        exact hn.1 (hc ▸ he ▸ List.mem_map_of_mem hd)
      rw [List.map_congr_left fun d hd => if_neg (hrest d hd), List.map_id']
    · next hc =>
      have hmem : s.counterparty ∈ cs.map Contact.counterparty := by
        rcases List.mem_cons.mp h with he | he
        · exact absurd he.symm hc
        · exact he
      rw [ih hn.2 hmem]

theorem grouped_nil : Grouped [] [] := ⟨.nil, by simp, by simp, by simp, by simp⟩

theorem Grouped.append {kept : List Signal} {cs : List Contact} (h : Grouped kept cs) {s : Signal}
    (hs : s.counterparty ∉ cs.map Contact.counterparty) :
    Grouped (kept ++ [s]) (cs ++ [Contact.ofSignal s]) := by
  have hnone : kept.filter (fun u => u.counterparty = s.counterparty) = [] := by
    refine List.filter_eq_nil_iff.mpr fun u hu he => hs ((h.counterparties _).mpr ?_)
    exact of_decide_eq_true he ▸ List.mem_map_of_mem hu
  have old {c : Contact} (hc : c ∈ cs) : s.counterparty ≠ c.counterparty := by
    intro he
    exact hs (he ▸ List.mem_map_of_mem hc)
  constructor
  · rw [List.map_append, List.nodup_append]
    refine ⟨h.nodup, by simp, ?_⟩
    rintro a ha b hb rfl
    have hb' : a = s.counterparty := by simpa [Contact.ofSignal] using hb
    exact hs (hb' ▸ ha)
  · intro a
    simp only [List.map_append, List.mem_append, h.counterparties]
    rfl
  · intro c hc
    rcases List.mem_append.mp hc with hc | hc
    · simp [h.signals c hc, List.filter_append, old hc]
    · rw [List.mem_singleton.mp hc]
      change [s] = (kept ++ [s]).filter fun u => u.counterparty = s.counterparty
      rw [List.filter_append, hnone]
      simp
  · intro c hc
    rcases List.mem_append.mp hc with hc | hc
    · exact h.latest c hc
    · rw [List.mem_singleton.mp hc]
      exact Instant.latest_singleton _
  · intro c hc
    rcases List.mem_append.mp hc with hc | hc
    · exact h.profile c hc
    · rw [List.mem_singleton.mp hc]
      rfl

theorem Grouped.absorb {kept : List Signal} {cs : List Contact} (h : Grouped kept cs) {s : Signal}
    (hs : s.counterparty ∈ cs.map Contact.counterparty) :
    Grouped (kept ++ [s])
      (cs.map fun c => if c.counterparty = s.counterparty then c.absorb s else c) := by
  have same : (cs.map fun c => if c.counterparty = s.counterparty then c.absorb s else c).map
      Contact.counterparty = cs.map Contact.counterparty := by
    rw [List.map_map]
    refine List.map_congr_left fun c _ => ?_
    simp only [Function.comp_apply]
    split <;> rfl
  constructor
  · rw [same]
    exact h.nodup
  · intro a
    rw [same, List.map_append, List.mem_append, h.counterparties]
    constructor
    · exact .inl
    · rintro (ha | ha)
      · exact ha
      · rw [List.mem_singleton.mp ha]
        exact (h.counterparties _).mp hs
  · intro c hc
    obtain ⟨d, hd, rfl⟩ := List.mem_map.mp hc
    split
    · next he => simp [Contact.absorb, h.signals d hd, List.filter_append, he]
    · next he => simp [h.signals d hd, List.filter_append, Ne.symm he]
  · intro c hc
    obtain ⟨d, hd, rfl⟩ := List.mem_map.mp hc
    split
    · simpa [Contact.absorb] using (h.latest d hd).append s.time
    · exact h.latest d hd
  · intro c hc
    obtain ⟨d, hd, rfl⟩ := List.mem_map.mp hc
    split
    · exact h.profile d hd
    · exact h.profile d hd

theorem Grouped.place {kept : List Signal} {cs : List Contact} (h : Grouped kept cs) (s : Signal) :
    Grouped (kept ++ [s]) (place s cs) := by
  by_cases hs : s.counterparty ∈ cs.map Contact.counterparty
  · rw [place_of_mem h.nodup hs]
    exact h.absorb hs
  · rw [place_of_notMem hs]
    exact h.append hs

theorem Grouped.perm {kept : List Signal} {cs ds : List Contact} (h : Grouped kept cs)
    (hp : cs.Perm ds) : Grouped kept ds where
  nodup := (hp.map _).nodup_iff.mp h.nodup
  counterparties a := by
    rw [← h.counterparties, (hp.map Contact.counterparty).mem_iff]
  signals c hc := h.signals c (hp.mem_iff.mpr hc)
  latest c hc := h.latest c (hp.mem_iff.mpr hc)
  profile c hc := h.profile c (hp.mem_iff.mpr hc)

/-- The contacts of a list of signals are known by their counterparties. -/
theorem Grouped.eq_of_counterparty_eq {kept : List Signal} {cs ds : List Contact}
    (hc : Grouped kept cs) (hd : Grouped kept ds) {c d : Contact} (hcm : c ∈ cs) (hdm : d ∈ ds)
    (he : c.counterparty = d.counterparty) : c = d := by
  have hs : c.signals = d.signals := by rw [hc.signals c hcm, hd.signals d hdm, he]
  have hl := hc.latest c hcm
  rw [hs] at hl
  exact Contact.ext he hs (hl.unique (hd.latest d hdm)) ((hc.profile c hcm).trans
    (hd.profile d hdm).symm)

theorem Grouped.subset {kept : List Signal} {cs ds : List Contact} (hc : Grouped kept cs)
    (hd : Grouped kept ds) {c : Contact} (h : c ∈ cs) : c ∈ ds := by
  have ha : c.counterparty ∈ ds.map Contact.counterparty := by
    rw [hd.counterparties, ← hc.counterparties]
    exact List.mem_map_of_mem h
  obtain ⟨d, hdm, he⟩ := List.mem_map.mp ha
  rw [hc.eq_of_counterparty_eq hd h hdm he.symm]
  exact hdm

/-- In strict order, the contacts of a list of signals are determined by the list. -/
theorem Grouped.unique {kept : List Signal} {cs ds : List Contact} (hc : Grouped kept cs)
    (hd : Grouped kept ds) (hco : cs.Pairwise Contact.Precedes)
    (hdo : ds.Pairwise Contact.Precedes) : cs = ds :=
  Contact.eq_of_mem_iff hco hdo fun _ => ⟨hc.subset hd, hd.subset hc⟩

theorem Grouped.eq_nil_iff {kept : List Signal} {cs : List Contact} (h : Grouped kept cs) :
    cs = [] ↔ kept = [] := by
  constructor
  · intro he
    apply List.eq_nil_iff_forall_not_mem.mpr
    intro s hs
    have hm := (h.counterparties s.counterparty).mpr (List.mem_map_of_mem hs)
    simp [he] at hm
  · intro he
    apply List.eq_nil_iff_forall_not_mem.mpr
    intro c hc
    have hm := (h.counterparties c.counterparty).mp (List.mem_map_of_mem hc)
    simp [he] at hm

theorem Grouped.filter {kept : List Signal} {cs : List Contact} (h : Grouped kept cs)
    (p : String → Bool) :
    Grouped (kept.filter fun s => p s.counterparty) (cs.filter fun c => p c.counterparty) := by
  constructor
  · exact h.nodup.sublist (List.filter_sublist.map _)
  · intro a
    have ha := h.counterparties a
    simp only [List.mem_map, List.mem_filter] at ha ⊢
    constructor
    · rintro ⟨c, ⟨hc, hp⟩, rfl⟩
      obtain ⟨s, hs, he⟩ := ha.mp ⟨c, hc, rfl⟩
      exact ⟨s, ⟨hs, he ▸ hp⟩, he⟩
    · rintro ⟨s, ⟨hs, hp⟩, rfl⟩
      obtain ⟨c, hc, he⟩ := ha.mpr ⟨s, hs, rfl⟩
      exact ⟨c, ⟨hc, he ▸ hp⟩, he⟩
  · intro c hc
    obtain ⟨hc, hp⟩ := List.mem_filter.mp hc
    rw [h.signals c hc, List.filter_filter]
    apply List.filter_congr
    intro s _
    by_cases he : s.counterparty = c.counterparty
    · simp [he, hp]
    · simp [he]
  · intro c hc
    exact h.latest c (List.mem_filter.mp hc).1
  · intro c hc
    exact h.profile c (List.mem_filter.mp hc).1

/-- The latest time of some signals is the latest time of their contacts. -/
theorem Grouped.latest_lastAt {kept : List Signal} {cs : List Contact} (h : Grouped kept cs)
    {t : Instant} (ht : t.Latest (kept.map Signal.time)) : t.Latest (cs.map Contact.lastAt) := by
  have below : ∀ c ∈ cs, c.lastAt ≤ t := by
    intro c hc
    obtain ⟨s, hs, he⟩ := List.mem_map.mp (h.latest c hc).1
    rw [h.signals c hc] at hs
    apply ht.2
    rw [← he]
    exact List.mem_map_of_mem (List.mem_filter.mp hs).1
  obtain ⟨s, hs, he⟩ := List.mem_map.mp ht.1
  obtain ⟨c, hc, hcs⟩ := List.mem_map.mp
    ((h.counterparties s.counterparty).mpr (List.mem_map_of_mem hs))
  have hsc : s ∈ c.signals := by
    rw [h.signals c hc]
    exact List.mem_filter.mpr ⟨hs, by simp [hcs]⟩
  have above : t ≤ c.lastAt := by
    rw [← he]
    exact (h.latest c hc).2 _ (List.mem_map_of_mem hsc)
  constructor
  · rw [Std.le_antisymm above (below c hc)]
    exact List.mem_map_of_mem hc
  · intro u hu
    obtain ⟨d, hd, rfl⟩ := List.mem_map.mp hu
    exact below d hd

end Roster
end ContactHistory
