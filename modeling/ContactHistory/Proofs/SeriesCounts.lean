import ContactHistory.Metrics.Basic

namespace ContactHistory.Metrics

/-- What a series shows that was counted some number of times; it begins when it is counted. -/
def tally : Nat → Option Nat
  | 0 => none
  | n + 1 => some (n + 1)

theorem tally_eq_none_iff {n : Nat} : tally n = none ↔ n = 0 := by
  cases n <;> simp [tally]

theorem eq_of_tally_eq_some {m n : Nat} (h : tally n = some m) : m = n := by
  cases n with
  | zero => cases h
  | succ n => exact (Option.some.inj h).symm

/-- No two tuples of a list count as one. -/
def Apart (tuples : List (List String)) : Prop :=
  ∀ a ∈ tuples, ∀ b ∈ tuples, Series.isOne a b = true → a = b

instance (tuples : List (List String)) : Decidable (Apart tuples) :=
  inferInstanceAs (Decidable (∀ a ∈ tuples, ∀ b ∈ tuples, Series.isOne a b = true → a = b))

theorem Apart.of_subset {xs ys : List (List String)} (h : Apart ys) (hs : xs ⊆ ys) : Apart xs :=
  fun a ha b hb => h a (hs ha) b (hs hb)

namespace Series

variable {α : Type} {labels other : List String} {start : α} {f : α → α} {count : α → Nat}
  {es : List (List String × α)} {s : Series α} {past : List (List String)}

theorem isOne_self (labels : List String) : isOne labels labels = true := beq_self_eq_true _

theorem lookup_cons_eq (e : List String × α) (es : List (List String × α)) :
    (e :: es).lookup labels = if labels = e.1 then some e.2 else es.lookup labels := by
  rw [List.lookup_cons]
  by_cases h : labels = e.1
  · simp [h]
  · simp [h, beq_false_of_ne h]

theorem lookup_ne_none {e : List String × α} (h : e ∈ es) : es.lookup e.1 ≠ none := by
  induction es with
  | nil => cases h
  | cons d es ih =>
    rw [lookup_cons_eq]
    split
    · exact Option.some_ne_none _
    · next hne => exact ih ((List.mem_cons.mp h).resolve_left fun he => hne (congrArg Prod.fst he))

theorem lookup_change (h : ∀ e ∈ es, isOne e.1 labels = true → e.1 = labels) :
    (change labels start f es).lookup other =
      if other = labels then some (f ((es.lookup labels).getD start)) else es.lookup other := by
  induction es with
  | nil => rw [change, lookup_cons_eq, List.lookup_nil, List.lookup_nil, Option.getD_none]
  | cons e es ih =>
    have hrest := ih fun d hd => h d (List.mem_cons_of_mem e hd)
    unfold change
    split
    · next hone =>
      have he : e.1 = labels := h e List.mem_cons_self hone
      rw [lookup_cons_eq, lookup_cons_eq, lookup_cons_eq, he, if_pos rfl, Option.getD_some]
      split <;> rfl
    · next hone =>
      have hne : labels ≠ e.1 := fun he => hone (he ▸ isOne_self labels)
      rw [lookup_cons_eq, lookup_cons_eq, lookup_cons_eq, hrest, if_neg hne]
      split
      · next hother => rw [if_neg (hother ▸ hne.symm)]
      · rfl

theorem map_fst_change : (change labels start f es).map Prod.fst =
    if es.any (fun e => isOne e.1 labels) then es.map Prod.fst
    else es.map Prod.fst ++ [labels] := by
  induction es with
  | nil => rfl
  | cons e es ih =>
    unfold change
    split
    · next h => simp [h]
    · next h =>
      rw [List.map_cons, ih, List.any_cons, Bool.eq_false_iff.mpr h, Bool.false_or]
      split <;> rfl

theorem mem_change (h : other ∈ (change labels start f es).map Prod.fst) :
    other ∈ es.map Prod.fst ∨ other = labels := by
  rw [map_fst_change] at h
  split at h
  · exact .inl h
  · simpa using h

theorem nodup_change (h : (es.map Prod.fst).Nodup) :
    ((change labels start f es).map Prod.fst).Nodup := by
  rw [map_fst_change]
  split
  · exact h
  · next hnone =>
    refine List.nodup_append.mpr ⟨h, by simp, ?_⟩
    rintro _ ha _ hb rfl
    obtain ⟨e, he, rfl⟩ := List.mem_map.mp ha
    have hone : isOne e.1 labels = true := List.mem_singleton.mp hb ▸ isOne_self e.1
    exact hnone (List.any_eq_true.mpr ⟨e, he, hone⟩)

/-- The entries of a series tell how often each tuple was counted, and every tuple has one entry. -/
structure Counts (s : Series α) (count : α → Nat) (past : List (List String)) : Prop where
  value : ∀ labels, (s.entries.lookup labels).map count = tally (past.count labels)
  nodup : (s.entries.map Prod.fst).Nodup

theorem counts_empty : (empty : Series α).Counts count [] := ⟨fun _ => rfl, .nil⟩

theorem Counts.mem (h : s.Counts count past) {e : List String × α} (he : e ∈ s.entries) :
    e.1 ∈ past := by
  refine List.count_pos_iff.mp (Nat.pos_of_ne_zero fun hzero => lookup_ne_none he ?_)
  have hvalue := h.value e.1
  rw [hzero] at hvalue
  exact Option.map_eq_none_iff.mp hvalue

theorem Counts.count_getD (h : s.Counts count past) (hstart : count start = 0) :
    count ((s.entries.lookup labels).getD start) = past.count labels := by
  have hvalue := h.value labels
  cases hlookup : s.entries.lookup labels with
  | none =>
    rw [hlookup] at hvalue
    rw [Option.getD_none, hstart, tally_eq_none_iff.mp hvalue.symm]
  | some v =>
    rw [hlookup] at hvalue
    exact eq_of_tally_eq_some hvalue.symm

theorem Counts.update (h : s.Counts count past) (hapart : Apart (past ++ [labels]))
    (hstart : count start = 0) (hf : ∀ v, count (f v) = count v + 1) :
    (s.update labels start f).Counts count (past ++ [labels]) where
  value other := by
    have hown : ∀ e ∈ s.entries, isOne e.1 labels = true → e.1 = labels := fun e he =>
      hapart e.1 (List.mem_append_left _ (h.mem he)) labels (by simp)
    rw [Series.update, lookup_change hown, List.count_append]
    split
    · next hother =>
      rw [hother, List.count_singleton_self, Option.map_some, hf, h.count_getD hstart]
      rfl
    · next hother =>
      rw [h.value, List.count_singleton, beq_false_of_ne (Ne.symm hother)]
      rfl
  nodup := nodup_change h.nodup

theorem Counts.foldl {β : Type} {label : β → List String} {g : β → α → α} {items : List β}
    (h : s.Counts count past) (hapart : Apart (past ++ items.map label)) (hstart : count start = 0)
    (hg : ∀ b v, count (g b v) = count v + 1) :
    (items.foldl (fun s b => s.update (label b) start (g b)) s).Counts count
      (past ++ items.map label) := by
  induction items generalizing s past with
  | nil => rwa [List.map_nil, List.append_nil]
  | cons b items ih =>
    have happend : past ++ (b :: items).map label = (past ++ [label b]) ++ items.map label := by
      simp
    rw [happend] at hapart ⊢
    exact ih (h.update (hapart.of_subset (List.subset_append_left _ _)) hstart (hg b)) hapart

/-- The sum of the values of all tuples. -/
def total (s : Series Nat) : Nat := s.entries.foldr (fun e n => e.2 + n) 0

/-- Whatever the labels, counting once more makes the total one larger. -/
theorem total_update (s : Series Nat) (labels : List String) :
    (s.update labels 0 (· + 1)).total = s.total + 1 := by
  obtain ⟨es⟩ := s
  simp only [total, update]
  induction es with
  | nil => rfl
  | cons e es ih =>
    unfold change
    split
    · simp only [List.foldr_cons]
      omega
    · simp only [List.foldr_cons, ih]
      omega

theorem total_foldl_update {β : Type} {label : β → List String} (items : List β) (s : Series Nat) :
    (items.foldl (fun s b => s.update (label b) 0 (· + 1)) s).total = s.total + items.length := by
  induction items generalizing s with
  | nil => rfl
  | cons b items ih =>
    rw [List.foldl_cons, ih, total_update, List.length_cons]
    omega

end Series
end ContactHistory.Metrics
