import ContactHistory.Address
import ContactHistory.ContactPoint
import ContactHistory.Text.Form

namespace ContactHistory

namespace Text

theorem takeWhile_ne_append {separator : Char} {cs : List Char} (h : separator ∉ cs)
    (rest : List Char) :
    (cs ++ separator :: rest).takeWhile (fun c => decide (c ≠ separator)) = cs := by
  have hne : ∀ c ∈ cs, decide (c ≠ separator) = true := by
    intro c hc
    rw [decide_eq_true_eq]
    rintro rfl
    exact h hc
  rw [List.takeWhile_append_of_pos hne]
  simp

theorem splitAll_eq_splitOn (separator : Char) (cs : List Char) :
    splitAll separator cs = cs.splitOn separator := by
  induction cs with
  | nil => rfl
  | cons c cs ih =>
    obtain ⟨part, rest, hparts⟩ := List.exists_cons_of_ne_nil (List.splitOn_ne_nil separator cs)
    unfold splitAll at ih ⊢
    rw [List.foldr_cons, ih, List.splitOn_cons_eq_if_modifyHead, hparts]
    simp only [beq_iff_eq, List.modifyHead_cons]

theorem splitAll_of_not_mem {separator : Char} {cs : List Char} (h : separator ∉ cs) :
    splitAll separator cs = [cs] := by
  rw [splitAll_eq_splitOn, List.splitOn_eq_singleton h]

theorem splitAll_append {separator : Char} {cs : List Char} (h : separator ∉ cs)
    (rest : List Char) :
    splitAll separator (cs ++ separator :: rest) = cs :: splitAll separator rest := by
  rw [splitAll_eq_splitOn, splitAll_eq_splitOn, List.splitOn_append_cons_self_of_not_mem h]

/-- A text has no separator, or its first part ends at one. -/
@[elab_as_elim]
theorem parts_induction (separator : Char) {motive : List Char → Prop}
    (last : ∀ cs, separator ∉ cs → motive cs)
    (part : ∀ cs rest, separator ∉ cs → motive rest → motive (cs ++ separator :: rest))
    (cs : List Char) : motive cs := by
  by_cases h : separator ∈ cs
  · obtain ⟨front, rest, hcs, hfront⟩ := List.eq_append_cons_of_mem h
    rw [hcs]
    exact part front rest hfront (parts_induction separator last part rest)
  · exact last cs h
termination_by cs.length
decreasing_by
  simp only [hcs, List.length_append, List.length_cons]
  omega

theorem not_mem_of_mem_splitAll {separator : Char} {p : List Char} (cs : List Char)
    (h : p ∈ splitAll separator cs) : separator ∉ p := by
  induction cs using parts_induction separator with
  | last cs hcs =>
    rw [splitAll_of_not_mem hcs, List.mem_singleton] at h
    rwa [h]
  | part cs rest hcs ih =>
    rw [splitAll_append hcs, List.mem_cons] at h
    rcases h with rfl | h
    · exact hcs
    · exact ih h

theorem splitAll_intercalate {separator : Char} {parts : List (List Char)} (hne : parts ≠ [])
    (h : ∀ p ∈ parts, separator ∉ p) :
    splitAll separator ([separator].intercalate parts) = parts := by
  rw [splitAll_eq_splitOn, List.splitOn_intercalate separator h hne]

theorem trimmed_eq_empty {s : String} : trimmed s = "" ↔ trim s.toList = [] :=
  String.ofList_eq_empty_iff

namespace CommaList

/-- The texts of a list that are not blank, each without the blanks around it. -/
def present (xs : List String) : List String := (xs.map trimmed).filter (· ≠ "")

theorem mem_present {x : String} {xs : List String} :
    x ∈ present xs ↔ x ≠ "" ∧ ∃ y ∈ xs, trimmed y = x := by
  simp [present, and_comm]

theorem present_append (xs ys : List String) : present (xs ++ ys) = present xs ++ present ys := by
  simp [present]

theorem present_congr {xs ys : List String} (h : xs.map trimmed = ys.map trimmed) :
    present xs = present ys := by
  rw [present, h, present]

theorem present_eq_nil_iff {xs : List String} : present xs = [] ↔ ∀ x ∈ xs, trimmed x = "" := by
  simp [present]

theorem entries_eq_present (s : String) :
    entries s = present ((splitAll ',' s.toList).map String.ofList) := by
  have hkept (p : List Char) : decide (trim p ≠ []) = decide (String.ofList (trim p) ≠ "") := by
    rw [decide_eq_decide, ne_eq, ne_eq, String.ofList_eq_empty_iff]
  simp only [entries, present, List.map_map, List.filter_map, Function.comp_def, trimmed,
    String.toList_ofList, hkept]

/-- The entries of a joined list are the texts of the list, as far as they are present. -/
theorem entries_join {xs : List String} (h : ∀ x ∈ xs, ',' ∉ x.toList) :
    entries (join xs) = present xs := by
  by_cases hne : xs = []
  · subst hne
    decide
  · have hparts : splitAll ',' (join xs).toList = xs.map String.toList := by
      rw [join, String.toList_intercalate]
      apply splitAll_intercalate
      · simpa using hne
      · intro p hp
        obtain ⟨x, hx, rfl⟩ := List.mem_map.mp hp
        exact h x hx
    rw [entries_eq_present, hparts, List.map_map]
    simp

theorem entries_of_not_mem {cs : List Char} (h : ',' ∉ cs) :
    entries (String.ofList cs) = present [String.ofList cs] := by
  rw [entries_eq_present, String.toList_ofList, splitAll_of_not_mem h, List.map_singleton]

/-- The part before the first comma gives the first entry, if it is present. -/
theorem entries_append {cs : List Char} (h : ',' ∉ cs) (rest : List Char) :
    entries (String.ofList (cs ++ ',' :: rest)) =
      present [String.ofList cs] ++ entries (String.ofList rest) := by
  rw [entries_eq_present, entries_eq_present, String.toList_ofList, String.toList_ofList,
    splitAll_append h, List.map_cons, ← present_append, List.singleton_append]

theorem comma_not_mem {cs : List Char} (h : ∀ c ∈ cs, isBlank c = true) : ',' ∉ cs := by
  intro hc
  have hcomma := h ',' hc
  revert hcomma
  decide

theorem present_around {front back : List Char} (hfront : ∀ c ∈ front, isBlank c = true)
    (hback : ∀ c ∈ back, isBlank c = true) (cs : List Char) :
    present [String.ofList (front ++ (cs ++ back))] = present [String.ofList cs] := by
  apply present_congr
  simp only [List.map_singleton, trimmed, String.toList_ofList, trim_append hfront hback]

/-- Blanks around a text belong to its first part and to its last one, and are dropped with them. -/
theorem entries_around {back : List Char} (hback : ∀ c ∈ back, isBlank c = true) (cs : List Char) :
    ∀ front : List Char, (∀ c ∈ front, isBlank c = true) →
      entries (String.ofList (front ++ (cs ++ back))) = entries (String.ofList cs) := by
  have hnone : ∀ c ∈ ([] : List Char), isBlank c = true := fun c hc => absurd hc List.not_mem_nil
  induction cs using parts_induction ',' with
  | last cs hcs =>
    intro front hfront
    have hcomma : ',' ∉ front ++ (cs ++ back) :=
      List.not_mem_append (comma_not_mem hfront) (List.not_mem_append hcs (comma_not_mem hback))
    rw [entries_of_not_mem hcomma, entries_of_not_mem hcs, present_around hfront hback]
  | part cs rest hcs ih =>
    -- The first part takes the blanks in front, and the rest keeps those at the end.
    intro front hfront
    have hcomma : ',' ∉ front ++ (cs ++ []) := by
      rw [List.append_nil]
      exact List.not_mem_append (comma_not_mem hfront) hcs
    have hsplit : front ++ ((cs ++ ',' :: rest) ++ back) =
        (front ++ (cs ++ [])) ++ ',' :: ([] ++ (rest ++ back)) := by simp
    rw [hsplit, entries_append hcomma, entries_append hcs, present_around hfront hnone, ih [] hnone]

theorem entries_trimmed (s : String) : entries (trimmed s) = entries s := by
  obtain ⟨front, back, hs, hfront, hback⟩ := exists_eq_append_trim s.toList
  calc
    _ = entries (String.ofList (front ++ (trim s.toList ++ back))) := by
      rw [entries_around hback _ front hfront, trimmed]
    _ = entries s := by rw [← hs, String.ofList_toList]

/-- An entry is neither blank nor does it hold blanks around it, or a comma. -/
theorem entry_of_mem {s x : String} (h : x ∈ entries s) :
    x ≠ "" ∧ trimmed x = x ∧ ',' ∉ x.toList := by
  rw [entries_eq_present] at h
  obtain ⟨hne, y, hy, rfl⟩ := mem_present.mp h
  obtain ⟨p, hp, rfl⟩ := List.mem_map.mp hy
  refine ⟨hne, ?_, ?_⟩
  · rw [trimmed, toList_trimmed, trim_trim, trimmed]
  · rw [toList_trimmed, String.toList_ofList]
    exact fun hc => not_mem_of_mem_splitAll _ hp (mem_of_mem_trim hc)

/-- There are no entries where there are only commas and blanks. -/
theorem entries_eq_nil_iff {s : String} :
    entries s = [] ↔ ∀ c ∈ s.toList, c = ',' ∨ isBlank c = true := by
  have hpart (p : List Char) (hp : ',' ∉ p) :
      present [String.ofList p] = [] ↔ ∀ c ∈ p, c = ',' ∨ isBlank c = true := by
    rw [present_eq_nil_iff, List.forall_mem_singleton, trimmed_eq_empty, String.toList_ofList,
      trim_eq_nil_iff]
    refine forall₂_congr fun c hc => (or_iff_right ?_).symm
    rintro rfl
    exact hp hc
  have hchars (cs : List Char) :
      entries (String.ofList cs) = [] ↔ ∀ c ∈ cs, c = ',' ∨ isBlank c = true := by
    induction cs using parts_induction ',' with
    | last cs hcs => rw [entries_of_not_mem hcs, hpart cs hcs]
    | part cs rest hcs ih =>
      rw [entries_append hcs, List.append_eq_nil_iff, hpart cs hcs, ih, List.forall_mem_append,
        List.forall_mem_cons, and_iff_right (Or.inl rfl : ',' = ',' ∨ isBlank ',' = true)]
  rw [← hchars, String.ofList_toList]

theorem entries_join_of_present {xs : List String}
    (h : ∀ x ∈ xs, x ≠ "" ∧ trimmed x = x ∧ ',' ∉ x.toList) : entries (join xs) = xs := by
  rw [entries_join fun x hx => (h x hx).2.2, present, List.map_congr_left fun x hx => (h x hx).2.1,
    List.map_id', List.filter_eq_self]
  exact fun x hx => decide_eq_true (h x hx).1

end CommaList
end Text

open Text

namespace ContactPoint

theorem read_trimmed (s : String) : (read (trimmed s)).toOption = (read s).toOption := by
  have hkey : spellingKey (trimmed s).toList = spellingKey s.toList := by
    rw [spellingKey, toList_trimmed, trim_trim, spellingKey]
  unfold read
  rw [hkey]
  cases all.find? fun p => decide (spellingKey p.name.toList = spellingKey s.toList) <;> rfl

theorem read_empty : (read "").toOption = none := by decide

end ContactPoint

namespace Selection

theorem ofNames_present (names : List String) :
    ofNames (CommaList.present names) = ofNames names := by
  have hany (p : ContactPoint) :
      (CommaList.present names).any (fun s => (ContactPoint.read s).toOption = some p) =
        names.any fun s => (ContactPoint.read s).toOption = some p := by
    rw [Bool.eq_iff_iff, List.any_eq_true, List.any_eq_true]
    simp only [CommaList.mem_present, decide_eq_true_eq]
    constructor
    · rintro ⟨_, ⟨_, s, hs, rfl⟩, hp⟩
      exact ⟨s, hs, (ContactPoint.read_trimmed s).symm.trans hp⟩
    · rintro ⟨s, hs, hp⟩
      have hp' : (ContactPoint.read (trimmed s)).toOption = some p :=
        (ContactPoint.read_trimmed s).trans hp
      refine ⟨trimmed s, ⟨?_, s, hs, rfl⟩, hp'⟩
      intro he
      rw [he, ContactPoint.read_empty] at hp'
      cases hp'
  apply Selection.ext
  simp only [ofNames, hany]

/-- No list of names asks for the same as an empty one. -/
theorem ofNamesOr_getD (default : Selection) (names : Option (List String)) :
    ofNamesOr default names = ofNamesOr default (some (names.getD [])) := by
  cases names <;> rfl

theorem ofNamesOr_of_ne_nil (default : Selection) {names : List String} (h : names ≠ []) :
    ofNamesOr default (some names) = ofNames names := by
  cases names with
  | nil => exact absurd rfl h
  | cons name names => rfl

/-- A list of names that is empty or names something asks for the same when only the names that are
present are given. -/
theorem ofNamesOr_present (default : Selection) {names : List String}
    (h : names = [] ∨ ∃ s ∈ names, trimmed s ≠ "") :
    ofNamesOr default (some (CommaList.present names)) = ofNamesOr default (some names) := by
  rcases h with rfl | ⟨s, hs, hne⟩
  · rfl
  · have hpresent : CommaList.present names ≠ [] :=
      List.ne_nil_of_mem (CommaList.mem_present.mpr ⟨hne, s, hs, rfl⟩)
    rw [ofNamesOr_of_ne_nil default hpresent, ofNamesOr_of_ne_nil default (List.ne_nil_of_mem hs),
      ofNames_present]

end Selection

namespace Address

theorem normalize_trimmed (s : String) : normalize (trimmed s) = normalize s := by
  rw [normalize, toList_trimmed, trim_trim, normalize]

theorem normalize_eq_empty {s : String} : normalize s = "" ↔ trimmed s = "" := by
  rw [normalize, trimmed, String.ofList_eq_empty_iff, String.ofList_eq_empty_iff,
    List.map_eq_nil_iff]

end Address

end ContactHistory
