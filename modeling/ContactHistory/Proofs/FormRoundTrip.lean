import ContactHistory.Proofs.CommaLists
import ContactHistory.Proofs.PercentRoundTrip
import ContactHistory.Text.Form

namespace ContactHistory.Text.Form

def writePair (p : String × String) : String := Percent.encode p.1 ++ "=" ++ Percent.encode p.2

/-- A form as it is written: its pairs with ampersands between them. -/
def write (ps : List (String × String)) : String := "&".intercalate (ps.map writePair)

theorem toList_writePair (p : String × String) :
    (writePair p).toList = (Percent.encode p.1).toList ++ '=' :: (Percent.encode p.2).toList := by
  simp [writePair]

/-- What a query holds: characters of encoded texts, and the two marks of a form. -/
theorem mem_write {ps : List (String × String)} {c : Char} (h : c ∈ (write ps).toList) :
    Percent.isSafe c = true ∨ c = '=' ∨ c = '&' := by
  have hpair (p : String × String) (hc : c ∈ (writePair p).toList) :
      Percent.isSafe c = true ∨ c = '=' := by
    rw [toList_writePair, List.mem_append, List.mem_cons] at hc
    rcases hc with hc | rfl | hc
    · exact .inl (Percent.isSafe_of_mem_encode hc)
    · exact .inr rfl
    · exact .inl (Percent.isSafe_of_mem_encode hc)
  unfold write at h
  induction ps with
  | nil => simp at h
  | cons p ps ih =>
    cases ps with
    | nil =>
      have h' : c ∈ (writePair p).toList := by simpa using h
      rcases hpair p h' with hc | hc
      · exact .inl hc
      · exact .inr (.inl hc)
    | cons q qs =>
      rw [List.map_cons, List.map_cons, String.intercalate_cons_cons] at h
      simp only [String.toList_append, List.mem_append] at h
      rcases h with (h | h) | h
      · rcases hpair p h with hc | hc
        · exact .inl hc
        · exact .inr (.inl hc)
      · exact .inr (.inr (List.mem_singleton.mp h))
      · exact ih h

theorem pair_writePair (p : String × String) : pair (writePair p).toList = p := by
  have htake : ((Percent.encode p.1).toList ++ '=' :: (Percent.encode p.2).toList).takeWhile
      (fun c => decide (c ≠ '=')) = (Percent.encode p.1).toList :=
    takeWhile_ne_append (Percent.not_mem_encode (by decide)) _
  have hdrop : ((Percent.encode p.1).toList ++ '=' :: (Percent.encode p.2).toList).drop
      ((Percent.encode p.1).toList.length + 1) = (Percent.encode p.2).toList := by
    rw [List.drop_append]
    simp
  unfold pair
  rw [toList_writePair]
  simp only [htake, hdrop, Percent.decodeForm_encode]

theorem pairs_write (ps : List (String × String)) : pairs (write ps) = ps := by
  by_cases hps : ps = []
  · subst hps
    rfl
  have hfree : ∀ cs ∈ ps.map fun p => (writePair p).toList, '&' ∉ cs := by
    intro cs hcs hmem
    obtain ⟨p, -, rfl⟩ := List.mem_map.mp hcs
    rw [toList_writePair, List.mem_append, List.mem_cons] at hmem
    rcases hmem with h | h | h
    · exact Percent.not_mem_encode (by decide) h
    · cases h
    · exact Percent.not_mem_encode (by decide) h
  have hsplit : splitAll '&' (write ps).toList = ps.map fun p => (writePair p).toList := by
    rw [write, String.toList_intercalate, List.map_map]
    exact splitAll_intercalate (by simpa using hps) hfree
  have hkept : (ps.map fun p => (writePair p).toList).filter (fun cs => decide (cs ≠ [])) =
      ps.map fun p => (writePair p).toList := by
    rw [List.filter_eq_self]
    intro cs hcs
    obtain ⟨p, -, rfl⟩ := List.mem_map.mp hcs
    simp [toList_writePair]
  unfold pairs
  rw [hsplit, hkept, List.map_map]
  refine (List.map_congr_left fun p _ => ?_).trans (List.map_id' ps)
  exact pair_writePair p

end ContactHistory.Text.Form
