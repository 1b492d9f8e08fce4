import ContactHistory.History
import ContactHistory.Proofs.CommaLists
import Mathlib.Data.List.Basic

namespace ContactHistory.Profile

open Text

variable {first : String} {last : Option String}

/-- A last name without the blanks around it, if any of it is left. -/
def lastPart? (last : Option String) : Option String := (last.map trimmed).filter (· ≠ "")

theorem lastPart?_eq_some_iff {part : String} :
    lastPart? last = some part ↔ part ≠ "" ∧ ∃ l ∈ last, trimmed l = part := by
  simp [lastPart?, Option.filter_eq_some_iff, and_comm]

theorem lastPart?_eq_none_iff : lastPart? last = none ↔ ∀ l ∈ last, trimmed l = "" := by
  simp [lastPart?, Option.filter_eq_none_iff]

theorem joinNames_eq (first : String) (last : Option String) :
    joinNames first last =
      (lastPart? last).elim (trimmed first) fun part => trimmed first ++ " " ++ part := by
  unfold joinNames lastPart?
  split
  · next h => rw [h, Option.elim_some]
  · next h => rw [h, Option.elim_none]

/-- The parts of a name that are present, each without the blanks around it. -/
def presentParts (first : String) (last : Option String) : List String :=
  CommaList.present (first :: last.toList)

theorem presentParts_eq (first : String) (last : Option String) :
    presentParts first last =
      (if trimmed first = "" then [] else [trimmed first]) ++ (lastPart? last).toList := by
  have hlast : CommaList.present last.toList = (lastPart? last).toList := by
    cases last with
    | none => rfl
    | some l =>
      by_cases h : trimmed l = "" <;>
        simp [CommaList.present, lastPart?, Option.filter_some, h]
  rw [presentParts, CommaList.present, List.map_cons, List.filter_cons, ← hlast]
  by_cases h : trimmed first = "" <;> simp [CommaList.present, h]

/-- There is a last name, but no first name before it. -/
def LacksFirst (first : String) (last : Option String) : Prop :=
  trimmed first = "" ∧ ∃ l ∈ last, trimmed l ≠ ""

theorem lacksFirst_iff : LacksFirst first last ↔ trimmed first = "" ∧ lastPart? last ≠ none := by
  simp [LacksFirst, lastPart?_eq_none_iff]

theorem trimmed_ne_empty_of_lastPart? {part : String} (h : ¬LacksFirst first last)
    (hlast : lastPart? last = some part) : trimmed first ≠ "" := by
  intro hfirst
  exact h (lacksFirst_iff.mpr ⟨hfirst, by simp [hlast]⟩)

theorem joinNames_of_lacksFirst (h : LacksFirst first last) :
    joinNames first last = " " ++ " ".intercalate (presentParts first last) := by
  obtain ⟨hfirst, hlast⟩ := lacksFirst_iff.mp h
  obtain ⟨part, hpart⟩ := Option.ne_none_iff_exists'.mp hlast
  rw [joinNames_eq, presentParts_eq, if_pos hfirst, hfirst, hpart]
  simp

theorem joinNames_of_not_lacksFirst (h : ¬LacksFirst first last) :
    joinNames first last = " ".intercalate (presentParts first last) := by
  rw [joinNames_eq, presentParts_eq]
  cases hlast : lastPart? last with
  | none => by_cases hfirst : trimmed first = "" <;> simp [hfirst]
  | some part => simp [trimmed_ne_empty_of_lastPart? h hlast]

/-- A name is empty if no part of it is present. -/
theorem joinNames_eq_empty_iff :
    joinNames first last = "" ↔ trimmed first = "" ∧ ∀ l ∈ last, trimmed l = "" := by
  rw [joinNames_eq, ← lastPart?_eq_none_iff]
  cases lastPart? last <;> simp

theorem not_blank_last_joinNames :
    ∀ c ∈ (joinNames first last).toList.getLast?, isBlank c = false := by
  rw [joinNames_eq]
  cases hlast : lastPart? last with
  | none =>
    rw [Option.elim_none, toList_trimmed]
    exact not_blank_last_trim
  | some part =>
    obtain ⟨hne, l, -, rfl⟩ := lastPart?_eq_some_iff.mp hlast
    have hpart : (trimmed l).toList ≠ [] := fun he => hne (String.toList_eq_nil_iff.mp he)
    rw [Option.elim_some, String.toList_append, List.getLast?_append_of_ne_nil _ hpart,
      toList_trimmed]
    exact not_blank_last_trim

theorem blank_head_joinNames_iff {c : Char} (h : c ∈ (joinNames first last).toList.head?) :
    isBlank c = true ↔ LacksFirst first last := by
  by_cases hlacks : LacksFirst first last
  · rw [joinNames_of_lacksFirst hlacks, String.toList_append] at h
    obtain rfl := Option.some.inj h
    exact iff_of_true (by decide) hlacks
  · refine iff_of_false ?_ hlacks
    have hhead : c ∈ (trimmed first).toList.head? := by
      rw [joinNames_eq] at h
      cases hlast : lastPart? last with
      | none => rwa [hlast] at h
      | some part =>
        have hne : (trimmed first).toList ≠ [] := fun he =>
          trimmed_ne_empty_of_lastPart? hlacks hlast (String.toList_eq_nil_iff.mp he)
        rw [hlast, Option.elim_some, String.toList_append, String.toList_append,
          List.append_assoc, List.head?_append_of_ne_nil _ hne] at h
        exact h
    rw [toList_trimmed] at hhead
    rw [not_blank_head_trim c hhead]
    exact Bool.false_ne_true

/-- A name is its present parts with a space between them, unless there is a last name alone: that
one is shown with a space in front, and so no other name begins with a blank. No name ends with one,
and a name is empty only where no part is present. -/
theorem joinNames_joins_present (first : String) (last : Option String) :
    let name := joinNames first last
    let joined := " ".intercalate (presentParts first last)
    (name = joined ↔ ¬LacksFirst first last) ∧
    (LacksFirst first last → name = " " ++ joined) ∧
    (name = "" ↔ trimmed first = "" ∧ ∀ l ∈ last, trimmed l = "") ∧
    (∀ c ∈ name.toList.head?, isBlank c = true ↔ LacksFirst first last) ∧
    ∀ c ∈ name.toList.getLast?, isBlank c = false := by
  intro name joined
  refine ⟨⟨fun hsame hlacks => ?_, joinNames_of_not_lacksFirst⟩, joinNames_of_lacksFirst,
    joinNames_eq_empty_iff, fun c => blank_head_joinNames_iff, not_blank_last_joinNames⟩
  -- With a space in front, the text of the parts would be longer than itself.
  have hpadded : name = " " ++ joined := joinNames_of_lacksFirst hlacks
  have hlength := congrArg String.length (hsame.symm.trans hpadded)
  rw [String.length_append] at hlength
  have hspace : " ".length = 1 := by decide
  omega

/-- A last name alone is not the text of the present parts. -/
theorem joinNames_last_alone :
    joinNames "" (some "Lovelace") = " Lovelace" ∧
      " ".intercalate (presentParts "" (some "Lovelace")) = "Lovelace" := by decide

end ContactHistory.Profile
