import ContactHistory.Proofs.FailFast
import Mathlib.Data.List.Nodup

namespace ContactHistory

namespace Address

theorem toNat_toUpper (c : Char) :
    c.toUpper.toNat = if 97 ≤ c.toNat ∧ c.toNat ≤ 122 then c.toNat - 32 else c.toNat := by
  unfold Char.toUpper
  split
  · next h =>
    have h' : 97 ≤ c.val.toNat ∧ c.val.toNat ≤ 122 := h
    have hlow : 97 ≤ c.toNat ∧ c.toNat ≤ 122 := h
    rw [if_pos hlow]
    change (c.val + (65 - 97)).toNat = c.val.toNat - 32
    have hshift : (65 - 97 : UInt32).toNat = 0x100000000 - 32 := by decide
    rw [UInt32.toNat_add]
    omega
  · next h =>
    have h' : ¬(97 ≤ c.toNat ∧ c.toNat ≤ 122) := h
    rw [if_neg h']

/-- Two characters are one but for the case if the first is a form of the second. -/
theorem toLower_eq_toLower_iff {c a : Char} :
    c.toLower = a.toLower ↔ c = a.toLower ∨ c = a.toUpper := by
  simp only [← Char.toNat_inj, toNat_toLower, toNat_toUpper]
  grind

end Address

namespace ContactPoint

open Text

/-- A character that may stand anywhere in a name. -/
def IsSeparator (c : Char) : Prop := c = '_' ∨ c = '-'

/-- The text is the name with its letters in any case and with any number of separators. -/
inductive Respelt : List Char → List Char → Prop
  | nil : Respelt [] []
  | separator {name text : List Char} {c : Char} (hc : IsSeparator c) (h : Respelt name text) :
      Respelt name (c :: text)
  | letter {name text : List Char} {a c : Char} (hc : c = a.toLower ∨ c = a.toUpper)
      (h : Respelt name text) : Respelt (a :: name) (c :: text)

/-- The text stands for a contact point: its respelt name, perhaps with blanks around it. -/
def SpelledBy (p : ContactPoint) (s : String) : Prop :=
  ∃ front core back, s.toList = front ++ (core ++ back) ∧ (∀ c ∈ front, isBlank c = true) ∧
    (∀ c ∈ back, isBlank c = true) ∧ Respelt p.name.toList core

/-- What is left of a text without its separators, in small letters. -/
def letters (cs : List Char) : List Char :=
  (cs.filter fun c => c ≠ '_' && c ≠ '-').map Char.toLower

theorem letters_separator {c : Char} {cs : List Char} (hc : IsSeparator c) :
    letters (c :: cs) = letters cs := by
  rcases hc with rfl | rfl <;> simp [letters]

theorem letters_cons {c : Char} {cs : List Char} (hc : ¬IsSeparator c) :
    letters (c :: cs) = c.toLower :: letters cs := by
  rw [IsSeparator, not_or] at hc
  simp [letters, hc.1, hc.2]

/-- A form of a letter is a separator only if the letter is. -/
theorem isSeparator_iff_of_toLower_eq {c a : Char} (h : c.toLower = a.toLower) :
    IsSeparator c ↔ IsSeparator a := by
  rw [← Char.toNat_inj, Address.toNat_toLower, Address.toNat_toLower] at h
  simp only [IsSeparator, ← Char.toNat_inj]
  have hlow : '_'.toNat = 95 := rfl
  have hdash : '-'.toNat = 45 := rfl
  grind

theorem respelt_iff {name text : List Char} (hname : ∀ a ∈ name, ¬IsSeparator a) :
    Respelt name text ↔ letters text = letters name := by
  constructor
  · intro h
    induction h with
    | nil => rfl
    | separator hc _ ih => rw [letters_separator hc, ih hname]
    | @letter name text a c hc _ ih =>
      have hca := Address.toLower_eq_toLower_iff.mpr hc
      have ha : ¬IsSeparator a := hname a List.mem_cons_self
      rw [letters_cons ha, letters_cons (mt (isSeparator_iff_of_toLower_eq hca).mp ha), hca,
        ih fun b hb => hname b (List.mem_cons_of_mem a hb)]
  · intro h
    induction text generalizing name with
    | nil =>
      cases name with
      | nil => exact .nil
      | cons a name =>
        rw [letters_cons (hname a List.mem_cons_self)] at h
        cases h
    | cons c text ih =>
      by_cases hc : IsSeparator c
      · rw [letters_separator hc] at h
        exact .separator hc (ih hname h)
      · cases name with
        | nil =>
          rw [letters_cons hc] at h
          cases h
        | cons a name =>
          rw [letters_cons hc, letters_cons (hname a List.mem_cons_self)] at h
          obtain ⟨hca, hrest⟩ := List.cons.inj h
          exact .letter (Address.toLower_eq_toLower_iff.mp hca)
            (ih (fun b hb => hname b (List.mem_cons_of_mem a hb)) hrest)

theorem Respelt.not_blank {name text : List Char} (h : Respelt name text)
    (hname : ∀ a ∈ name, isBlank a = false) : ∀ c ∈ text, isBlank c = false := by
  induction h with
  | nil => simp
  | @separator _ text c hc _ ih =>
    have hblank : isBlank c = false := by rcases hc with rfl | rfl <;> decide
    exact List.forall_mem_cons.mpr ⟨hblank, ih hname⟩
  | @letter name text a c hc _ ih =>
    obtain ⟨ha, hrest⟩ := List.forall_mem_cons.mp hname
    have hblank : isBlank c = false := by
      rw [← Address.isBlank_toLower, Address.toLower_eq_toLower_iff.mpr hc,
        Address.isBlank_toLower, ha]
    exact List.forall_mem_cons.mpr ⟨hblank, ih hrest⟩

theorem name_not_blank (p : ContactPoint) : ∀ a ∈ p.name.toList, isBlank a = false := by
  have hall : (p.name.toList.all fun a => !isBlank a) = true := by cases p <;> decide
  simpa using hall

theorem name_not_separator (p : ContactPoint) : ∀ a ∈ p.name.toList, ¬IsSeparator a := by
  have hall : (p.name.toList.all fun a => a ≠ '_' && a ≠ '-') = true := by cases p <;> decide
  simpa [IsSeparator] using hall

theorem spellingKey_name (p : ContactPoint) :
    spellingKey p.name.toList = letters p.name.toList := by
  rw [spellingKey, trim_of_not_blank p.name_not_blank]
  rfl

/-- The texts that spell a contact point are those with the key of its name. -/
theorem spelledBy_iff {p : ContactPoint} {s : String} :
    p.SpelledBy s ↔ spellingKey p.name.toList = spellingKey s.toList := by
  rw [spellingKey_name, eq_comm]
  constructor
  · rintro ⟨front, core, back, hs, hfront, hback, hcore⟩
    rw [hs, spellingKey, trim_append hfront hback,
      trim_of_not_blank (hcore.not_blank p.name_not_blank)]
    exact (respelt_iff p.name_not_separator).mp hcore
  · intro h
    obtain ⟨front, back, hs, hfront, hback⟩ := exists_eq_append_trim s.toList
    exact ⟨front, _, back, hs, hfront, hback, (respelt_iff p.name_not_separator).mpr h⟩

theorem nodup_keys : (all.map fun p => spellingKey p.name.toList).Nodup := by decide

theorem SpelledBy.unique {p q : ContactPoint} {s : String} (hp : p.SpelledBy s)
    (hq : q.SpelledBy s) : p = q :=
  List.inj_on_of_nodup_map nodup_keys (mem_all p) (mem_all q)
    ((spelledBy_iff.mp hp).trans (spelledBy_iff.mp hq).symm)

/-- A text is read as the contact point that it spells. -/
theorem read_eq_ok_iff {s : String} {p : ContactPoint} : read s = .ok p ↔ p.SpelledBy s := by
  unfold read
  cases h : all.find? fun p => spellingKey p.name.toList = spellingKey s.toList with
  | none =>
    have hnone := List.find?_eq_none.mp h p (mem_all p)
    simpa [spelledBy_iff] using hnone
  | some q =>
    have hq : q.SpelledBy s := spelledBy_iff.mpr (by simpa using List.find?_some h)
    constructor
    · intro he
      cases he
      exact hq
    · intro hp
      rw [hp.unique hq]

theorem read_of_not_spelledBy {s : String} (h : ∀ p : ContactPoint, ¬p.SpelledBy s) :
    read s = .error ⟨s⟩ := by
  cases hr : read s with
  | ok p => exact absurd (read_eq_ok_iff.mp hr) (h p)
  | error e =>
    unfold read at hr
    split at hr
    · cases hr
    · exact hr.symm

end ContactPoint

namespace Selection

theorem any_names_iff {names : List String} {p : ContactPoint} :
    (names.any fun s => (ContactPoint.read s).toOption = some p) = true ↔
      ∃ s ∈ names, ContactPoint.read s = .ok p := by
  have hread (s : String) :
      (ContactPoint.read s).toOption = some p ↔ ContactPoint.read s = .ok p := by
    cases ContactPoint.read s <;> simp [Except.toOption]
  simp only [List.any_eq_true, decide_eq_true_eq, hread]

theorem mem_ofNames {names : List String} {p : ContactPoint} :
    p ∈ (ofNames names).points ↔
      p.isSource = true ∧ ∃ s ∈ names, ContactPoint.read s = .ok p := by
  rw [ofNames, List.mem_filter, ContactPoint.mem_sources, any_names_iff]

theorem isSource_iff {p : ContactPoint} : p.isSource = true ↔ p ≠ .search := by
  cases p <;> decide

theorem contains_ofNames_iff {names : List String} {p : ContactPoint} :
    (ofNames names).contains p = true ↔
      p ≠ .search ∧ ∃ s ∈ names, ContactPoint.read s = .ok p := by
  rw [contains, List.contains_iff_mem, mem_ofNames, isSource_iff]

theorem ofNames_congr {names others : List String}
    (h : ∀ p : ContactPoint, p ≠ .search →
      ((∃ s ∈ others, p.SpelledBy s) ↔ ∃ s ∈ names, p.SpelledBy s)) :
    ofNames others = ofNames names := by
  apply Selection.ext
  simp only [ofNames]
  refine List.filter_congr fun p hp => ?_
  have hsource : p ≠ .search := isSource_iff.mp (ContactPoint.mem_sources.mp hp)
  rw [Bool.eq_iff_iff, any_names_iff, any_names_iff]
  simpa only [ContactPoint.read_eq_ok_iff] using h p hsource

/-- The names of a list in another order, repeated, spelled in another way, or with names of no
source among them. -/
inductive Retold : List String → List String → Prop
  | reorder {names others : List String} (h : names.Perm others) : Retold names others
  | repeated {names : List String} {s : String} (h : s ∈ names) : Retold names (s :: names)
  | respell {names : List String} {s t : String} {p : ContactPoint} (hs : p.SpelledBy s)
      (ht : p.SpelledBy t) : Retold (s :: names) (t :: names)
  | extra {names : List String} {s : String} (h : ∀ p : ContactPoint, p.SpelledBy s → p = .search) :
      Retold names (s :: names)
  | trans {names others rest : List String} (h : Retold names others) (h' : Retold others rest) :
      Retold names rest

theorem Retold.ofNames_eq {names others : List String} (h : Retold names others) :
    ofNames others = ofNames names := by
  induction h with
  | reorder h => exact ofNames_congr fun p _ => by simp only [h.mem_iff]
  | repeated h =>
    refine ofNames_congr fun p _ => ?_
    rw [List.exists_mem_cons_iff]
    exact or_iff_right_of_imp fun hs => ⟨_, h, hs⟩
  | @respell names s t q hs ht =>
    refine ofNames_congr fun p _ => ?_
    have hst : p.SpelledBy t ↔ p.SpelledBy s :=
      ⟨fun h => h.unique ht ▸ hs, fun h => h.unique hs ▸ ht⟩
    rw [List.exists_mem_cons_iff, List.exists_mem_cons_iff, hst]
  | extra h =>
    refine ofNames_congr fun p hp => ?_
    rw [List.exists_mem_cons_iff]
    exact or_iff_right fun hs => hp (h p hs)
  | trans _ _ ih ih' => exact ih'.trans ih

end Selection

namespace Aggregator

theorem contains_of_mem_calls {a : Aggregator} {subject : String} {selection : Selection}
    {filter : Filter} {now : Instant} {c : Call}
    (hc : c ∈ (a.run subject selection filter now).calls) :
    selection.contains c.point = true := by
  rw [run_calls, Polling.run_calls] at hc
  obtain ⟨s, hs, rfl⟩ := List.mem_map.mp hc
  have hselected := (upToFirst_sublist _ _).subset hs
  exact (List.mem_filter.mp hselected).2

end Aggregator

namespace Selection

/-- A text names the contact point that it spells, and is returned if there is none. A selection
contains the points that its texts name, but for a search, so it does not change with their order,
repetition and spelling or with names of no source; and a search is never asked for signals. -/
theorem ofNames_contains_spelled (names : List String) :
    (∀ s p, ContactPoint.read s = .ok p ↔ p.SpelledBy s) ∧
    (∀ s, (∀ p : ContactPoint, ¬p.SpelledBy s) → ContactPoint.read s = .error ⟨s⟩) ∧
    (∀ p, (ofNames names).contains p = true ↔
      p ≠ .search ∧ ∃ s ∈ names, ContactPoint.read s = .ok p) ∧
    (∀ others, Retold names others → ofNames others = ofNames names) ∧
    ∀ (a : Aggregator) (subject : String) (filter : Filter) (now : Instant),
      ∀ c ∈ (a.run subject (ofNames names) filter now).calls, c.point ≠ .search :=
  ⟨fun _ _ => ContactPoint.read_eq_ok_iff, fun _ => ContactPoint.read_of_not_spelledBy,
    fun _ => contains_ofNames_iff, fun _ => Retold.ofNames_eq,
    fun _ _ _ _ _ hc => (contains_ofNames_iff.mp (Aggregator.contains_of_mem_calls hc)).1⟩

/-- An untidy name, a name with a long s in it, and a search: the first is kept, and kept alike when
it is spelled in another way and the search comes first. -/
theorem ofNames_contains_spelled_untidy :
    let untidy := "\u00a0crc_hub-TRANSFER\n"
    let foreign := "ChatMe\u017f\u017fage"
    let names := [untidy, foreign, "-search"]
    ContactPoint.crcHubTransfer.SpelledBy untidy ∧
    ContactPoint.read foreign = .error ⟨foreign⟩ ∧
    (ofNames names).contains .crcHubTransfer = true ∧
    (ofNames names).contains .search = false ∧
    Retold names ["-search", "CrcHubTransfer", foreign] ∧
    ofNames ["-search", "CrcHubTransfer", foreign] = ofNames names := by
  intro untidy foreign names
  obtain ⟨hread, hunknown, hcontains, hretold, -⟩ := ofNames_contains_spelled names
  have huntidy : ContactPoint.crcHubTransfer.SpelledBy untidy := (hread _ _).mp (by decide)
  have hname : ContactPoint.crcHubTransfer.SpelledBy "CrcHubTransfer" := (hread _ _).mp (by decide)
  have hforeign : ∀ p : ContactPoint, ¬p.SpelledBy foreign := by
    intro p
    rw [ContactPoint.spelledBy_iff]
    cases p <;> decide
  have hsame : Retold names ["-search", "CrcHubTransfer", foreign] :=
    (Retold.respell huntidy hname).trans (.reorder (by decide))
  refine ⟨huntidy, hunknown _ hforeign, ?_, ?_, hsame, hretold _ hsame⟩
  · exact (hcontains _).mpr ⟨by decide, untidy, List.mem_cons_self, (hread _ _).mpr huntidy⟩
  · rw [Bool.eq_false_iff, ne_eq, hcontains]
    exact fun h => h.1 rfl

end Selection
end ContactHistory
