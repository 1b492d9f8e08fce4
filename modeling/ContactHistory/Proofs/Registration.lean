import ContactHistory.Proofs.FailFast

namespace ContactHistory

/-- The source is the last one of its contact point in a list. -/
def Source.LastIn (s : Source) (ss : List Source) : Prop :=
  ∃ front back, ss = front ++ s :: back ∧ ∀ t ∈ back, t.point ≠ s.point

namespace Source

theorem lastIn_append_singleton {s t : Source} {ss : List Source} :
    t.LastIn (ss ++ [s]) ↔ t = s ∨ t.LastIn ss ∧ t.point ≠ s.point := by
  constructor
  · rintro ⟨front, back, heq, hback⟩
    rcases List.eq_nil_or_concat back with rfl | ⟨rest, u, rfl⟩
    · left
      exact (List.cons.inj (List.append_inj_right' heq rfl)).1.symm
    · right
      rw [List.concat_eq_append] at heq hback
      have hsplit : ss ++ [s] = (front ++ t :: rest) ++ [u] := heq.trans (by simp)
      obtain ⟨rfl, hlast⟩ := List.append_inj' hsplit rfl
      obtain rfl := (List.cons.inj hlast).1
      refine ⟨⟨front, rest, rfl, fun u hu => hback u (List.mem_append_left _ hu)⟩, ?_⟩
      exact (hback s (List.mem_append_right rest (List.mem_singleton.mpr rfl))).symm
  · rintro (rfl | ⟨⟨front, back, rfl, hback⟩, hne⟩)
    · exact ⟨ss, [], rfl, by simp⟩
    · refine ⟨front, back ++ [s], by simp, fun u hu => ?_⟩
      rcases List.mem_append.mp hu with hu | hu
      · exact hback u hu
      · rw [List.mem_singleton.mp hu]
        exact hne.symm

/-- Among sources of different contact points, a new one replaces that of its own point. -/
theorem mem_register {s t : Source} {ss : List Source} (h : (ss.map Source.point).Nodup) :
    t ∈ s.register ss ↔ t = s ∨ t ∈ ss ∧ t.point ≠ s.point := by
  induction ss with
  | nil => simp [register]
  | cons u us ih =>
    rw [List.map_cons, List.nodup_cons] at h
    unfold register
    split
    · next hu =>
      -- The point is free behind the source that is replaced.
      have hrest : t ∈ us → t.point ≠ s.point := by
        intro ht he
        exact h.1 (hu.trans he.symm ▸ List.mem_map_of_mem ht)
      grind
    · next hu =>
      rw [List.mem_cons, ih h.2]
      grind

end Source

namespace Registry

/-- The registry has recorded the sources of a list: each contact point once, in the order in which
they come first, with its last source. -/
structure Records (r : Registry) (ss : List Source) : Prop where
  nodup : r.names.Nodup
  mem_names : ∀ p, p ∈ r.names ↔ p ∈ ss.map Source.point
  ordered : r.names.Pairwise fun p q =>
    (ss.map Source.point).idxOf p < (ss.map Source.point).idxOf q
  mem_sources : ∀ s, s ∈ r.sources ↔ s.LastIn ss

theorem records_empty : empty.Records [] :=
  ⟨.nil, by simp [names, empty], .nil, by simp [empty, Source.LastIn]⟩

theorem names_register (r : Registry) (s : Source) :
    (r.register s).names = if s.point ∈ r.names then r.names else r.names ++ [s.point] :=
  Source.map_point_register s r.sources

theorem Records.register {r : Registry} {ss : List Source} (h : r.Records ss) (s : Source) :
    (r.register s).Records (ss ++ [s]) := by
  have hidx {p : ContactPoint} (hp : p ∈ r.names) :
      ((ss ++ [s]).map Source.point).idxOf p = (ss.map Source.point).idxOf p := by
    rw [List.map_append, List.idxOf_append, if_pos ((h.mem_names p).mp hp)]
  have hold : r.names.Pairwise fun p q => ((ss ++ [s]).map Source.point).idxOf p <
      ((ss ++ [s]).map Source.point).idxOf q := by
    refine h.ordered.imp_of_mem fun hp hq hlt => ?_
    rwa [hidx hp, hidx hq]
  refine ⟨(r.register s).nodup, fun p => ?_, ?_, fun t => ?_⟩
  · rw [names_register, List.map_append, List.mem_append, ← h.mem_names]
    split
    · next hs =>
      refine (or_iff_left_of_imp fun hp => ?_).symm
      rw [List.mem_singleton.mp hp]
      exact hs
    · exact List.mem_append
  · rw [names_register]
    split
    · exact hold
    · next hs =>
      refine List.pairwise_append.mpr ⟨hold, List.pairwise_singleton _ _, fun p hp q hq => ?_⟩
      have hnew : s.point ∉ ss.map Source.point := mt (h.mem_names _).mpr hs
      have hlt := List.idxOf_lt_length_of_mem ((h.mem_names p).mp hp)
      rw [List.mem_singleton.mp hq, hidx hp, List.map_append, List.idxOf_append, if_neg hnew]
      omega
  · rw [Source.lastIn_append_singleton, ← h.mem_sources]
    exact Source.mem_register r.nodup

theorem Records.foldl {r : Registry} {ss : List Source} (h : r.Records ss) (us : List Source) :
    (us.foldl Registry.register r).Records (ss ++ us) := by
  induction us generalizing r ss with
  | nil => simpa using h
  | cons u us ih =>
    have hu := ih (h.register u)
    rwa [List.append_assoc] at hu

/-- After any registrations, a registry has each contact point once, in the order in which they came
first, and holds the last source of each; a selection picks the sources that it contains, each once
and in the order of the registry. -/
theorem records_registered (ss : List Source) :
    let r := ss.foldl Registry.register .empty
    r.Records ss ∧
    ∀ selection : Selection,
      ((r.select selection).map Source.point).Nodup ∧
      (r.select selection).Sublist r.sources ∧
      ∀ s, s ∈ r.select selection ↔ s ∈ r.sources ∧ selection.contains s.point = true := by
  intro r
  refine ⟨records_empty.foldl ss, fun selection => ?_⟩
  exact ⟨r.nodup_map_point_select selection, List.filter_sublist, fun s => List.mem_filter⟩

end Registry
end ContactHistory
