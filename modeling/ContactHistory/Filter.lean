import ContactHistory.Address

namespace ContactHistory

/-- A text put into its place of an ascending list that holds no text twice. -/
def insertAscending (a : String) : List String → List String
  | [] => [a]
  | b :: bs =>
    if a < b then a :: b :: bs
    else if a = b then b :: bs
    else b :: insertAscending a bs

theorem mem_insertAscending {a x : String} {bs : List String} :
    x ∈ insertAscending a bs ↔ x = a ∨ x ∈ bs := by
  induction bs with
  | nil => simp [insertAscending]
  | cons b bs ih =>
    unfold insertAscending
    split
    · simp
    · split
      · next h =>
        subst h
        simp
      · simp only [List.mem_cons, ih]
        grind

theorem pairwise_insertAscending {a : String} {bs : List String} (h : bs.Pairwise (· < ·)) :
    (insertAscending a bs).Pairwise (· < ·) := by
  induction bs with
  | nil => simp [insertAscending]
  | cons b bs ih =>
    rw [List.pairwise_cons] at h
    unfold insertAscending
    split
    · next hab =>
      refine List.pairwise_cons.mpr ⟨?_, List.pairwise_cons.mpr h⟩
      intro x hx
      rcases List.mem_cons.mp hx with rfl | hx
      · exact hab
      · exact String.lt_trans hab (h.1 x hx)
    · next hab =>
      split
      · exact List.pairwise_cons.mpr h
      · next hne =>
        refine List.pairwise_cons.mpr ⟨?_, ih h.2⟩
        intro x hx
        rcases mem_insertAscending.mp hx with rfl | hx
        · refine Decidable.byContradiction fun hba => hne ?_
          exact String.le_antisymm (String.not_lt.mp hba) (String.not_lt.mp hab)
        · exact h.1 x hx

/-- The texts of a list in ascending order, each once. -/
def ascending (xs : List String) : List String := xs.foldr insertAscending []

theorem mem_ascending {x : String} {xs : List String} : x ∈ ascending xs ↔ x ∈ xs := by
  induction xs with
  | nil => rfl
  | cons a xs ih =>
    rw [ascending, List.foldr_cons, mem_insertAscending, List.mem_cons]
    exact or_congr_right ih

theorem pairwise_ascending (xs : List String) : (ascending xs).Pairwise (· < ·) := by
  induction xs with
  | nil => exact .nil
  | cons a xs ih => exact pairwise_insertAscending ih

@[ext] structure Filter where
  addresses : List String
  ascending : addresses.Pairwise (· < ·)
  normal : ∀ a ∈ addresses, a ≠ "" ∧ Address.normalize a = a
  deriving DecidableEq

namespace Filter

theorem nodup (f : Filter) : f.addresses.Nodup := by
  refine f.ascending.imp ?_
  rintro a _ hlt rfl
  exact String.lt_irrefl a hlt

def unrestricted : Filter := ⟨[], .nil, by simp⟩

/-- The addresses of a list that are not blank. -/
def wanted (raw : List String) : List String := (raw.map Address.normalize).filter (· ≠ "")

theorem mem_wanted {a : String} {raw : List String} :
    a ∈ wanted raw ↔ a ≠ "" ∧ ∃ r ∈ raw, Address.normalize r = a := by
  simp [wanted, and_comm]

/-- The filter of a list of addresses in any spelling; blank entries do not count. -/
def ofAddresses (raw : List String) : Filter where
  addresses := ContactHistory.ascending (wanted raw)
  ascending := pairwise_ascending _
  normal := by
    intro a ha
    obtain ⟨hne, r, _, rfl⟩ := mem_wanted.mp (mem_ascending.mp ha)
    exact ⟨hne, Address.normalize_normalize r⟩

def isRestricted (f : Filter) : Bool := !f.addresses.isEmpty

def allows (f : Filter) (address : String) : Bool :=
  f.addresses.isEmpty || f.addresses.contains address

/-- The addresses as a query parameter; an unrestricted filter binds nothing. -/
def allowList? (f : Filter) : Option (List String) :=
  if f.addresses.isEmpty then none else some f.addresses

end Filter
end ContactHistory
