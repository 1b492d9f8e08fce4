import ContactHistory.Proofs.Digits
import ContactHistory.SocketAddress
import Mathlib.Tactic.SplitIfs

namespace ContactHistory.SocketAddress

open Text

def valueOf (base : Nat) (ds : List Char) : Nat :=
  (ds.filterMap (digit? base)).foldl (fun n d => base * n + d) 0

/-- Digits in some form, with the number that they stand for. -/
structure Numeral (form : NumberForm) (ds : List Char) (n : Nat) : Prop where
  digits : ∀ c ∈ ds, (digit? form.base c).isSome = true
  ne_nil : ds ≠ []
  most : ∀ k ∈ form.most, ds.length ≤ k
  zeros : form.zeros = false → ds.head? = some '0' → ds.length = 1
  value : valueOf form.base ds = n
  bound : n ≤ form.bound

/-- No digits go on in front of a text. -/
def EndsDigits (base : Nat) (cs : List Char) : Prop := ∀ c ∈ cs.head?, digit? base c = none

theorem endsDigits_cons {base : Nat} {c : Char} (h : digit? base c = none) (cs : List Char) :
    EndsDigits base (c :: cs) := by
  intro d hd
  rwa [← Option.some.inj hd]

theorem digit?_eq_some_iff {base n : Nat} {c : Char} :
    digit? base c = some n ↔ n < base ∧
      (48 ≤ c.toNat ∧ c.toNat ≤ 57 ∧ n = c.toNat - 48 ∨
        97 ≤ c.toNat ∧ c.toNat ≤ 102 ∧ n = c.toNat - 87 ∨
        65 ≤ c.toNat ∧ c.toNat ≤ 70 ∧ n = c.toNat - 55) := by
  simp only [digit?, Char.le_def, UInt32.le_iff_toNat_le, Char.reduceVal, UInt32.reduceToNat,
    Char.toNat_val, Option.ite_none_right_eq_some, Option.some.injEq]
  split_ifs <;> omega

theorem digit?_mono {base base' n : Nat} {c : Char} (hbase : base ≤ base')
    (h : digit? base c = some n) : digit? base' c = some n := by
  obtain ⟨hn, hrange⟩ := digit?_eq_some_iff.mp h
  exact digit?_eq_some_iff.mpr ⟨Nat.lt_of_lt_of_le hn hbase, hrange⟩

theorem EndsDigits.mono {base base' : Nat} {cs : List Char} (hbase : base ≤ base')
    (h : EndsDigits base' cs) : EndsDigits base cs := by
  refine fun c hc => Option.eq_none_iff_forall_ne_some.mpr fun n hn => ?_
  have hsome := digit?_mono hbase hn
  rw [h c hc] at hsome
  cases hsome

theorem digit?_eq_zero_iff {base : Nat} (hbase : 0 < base) {c : Char} :
    digit? base c = some 0 ↔ c = '0' := by
  rw [digit?_eq_some_iff, ← Char.toNat_inj]
  change _ ↔ c.toNat = 48
  omega

variable {form : NumberForm} {ds cs rest : List Char} {n : Nat}

theorem length_filterMap_digit? {base : Nat} (h : ∀ c ∈ ds, (digit? base c).isSome = true) :
    (ds.filterMap (digit? base)).length = ds.length := List.filterMap_length_eq_length.mpr h

theorem head?_filterMap_digit? {base : Nat} (hbase : 0 < base)
    (h : ∀ c ∈ ds, (digit? base c).isSome = true) :
    (ds.filterMap (digit? base)).head? = some 0 ↔ ds.head? = some '0' := by
  cases ds with
  | nil => simp
  | cons d ds =>
    obtain ⟨k, hk⟩ := Option.isSome_iff_exists.mp (h d List.mem_cons_self)
    rw [List.filterMap_cons_some hk, List.head?_cons, List.head?_cons, ← hk,
      digit?_eq_zero_iff hbase, Option.some.injEq]

theorem takeWhile_digits {base : Nat} (hds : ∀ c ∈ ds, (digit? base c).isSome = true)
    (hrest : EndsDigits base rest) :
    (ds ++ rest).takeWhile (fun c => (digit? base c).isSome) = ds := by
  rw [List.takeWhile_append_of_pos hds]
  cases rest with
  | nil => simp
  | cons c rest => simp [hrest c rfl]

/-- A run of digits is read as their number, or not at all. -/
theorem scanNumber_of_digits (hbase : 0 < form.base)
    (hds : ∀ c ∈ ds, (digit? form.base c).isSome = true) (hrest : EndsDigits form.base rest)
    {rest' : List Char} :
    scanNumber form (ds ++ rest) = some (n, rest') ↔ rest' = rest ∧ Numeral form ds n := by
  have hempty : (ds.filterMap (digit? form.base)).isEmpty = ds.isEmpty := by
    rw [Bool.eq_iff_iff, List.isEmpty_iff_length_eq_zero, List.isEmpty_iff_length_eq_zero,
      length_filterMap_digit? hds]
  unfold scanNumber
  simp only [takeWhile_digits hds hrest, length_filterMap_digit? hds, hempty,
    head?_filterMap_digit? hbase hds, List.drop_left, Option.ite_none_left_eq_some, Bool.or_eq_true,
    Bool.and_eq_true, Bool.not_eq_true', not_or, not_and, decide_eq_true_eq, Option.some.injEq,
    Prod.mk.injEq, List.isEmpty_iff, Nat.not_lt]
  constructor
  · rintro ⟨⟨⟨⟨hne, hmost⟩, hzeros⟩, hbound⟩, rfl, rfl⟩
    refine ⟨rfl, hds, hne, fun k hk => ?_, fun hform hhead => ?_, rfl, hbound⟩
    · rw [Option.mem_def.mp hk] at hmost
      simpa using hmost
    · exact Nat.le_antisymm (hzeros ⟨hform, hhead⟩) (List.length_pos_iff.mpr hne)
  · rintro ⟨rfl, -, hne, hmost, hzeros, rfl, hbound⟩
    refine ⟨⟨⟨⟨hne, ?_⟩, fun hform => Nat.le_of_eq (hzeros hform.1 hform.2)⟩, hbound⟩, rfl, rfl⟩
    cases hk : form.most with
    | none => simp
    | some k => simpa using hmost k hk

theorem scanNumber_append (hbase : 0 < form.base) (h : Numeral form ds n)
    (hrest : EndsDigits form.base rest) : scanNumber form (ds ++ rest) = some (n, rest) :=
  (scanNumber_of_digits hbase h.digits hrest).mpr ⟨rfl, h⟩

theorem exists_numeral (hbase : 0 < form.base) (h : scanNumber form cs = some (n, rest)) :
    ∃ ds, cs = ds ++ rest ∧ Numeral form ds n ∧ EndsDigits form.base rest := by
  let p := fun c => (digit? form.base c).isSome
  have hds : ∀ c ∈ cs.takeWhile p, p c = true := List.all_eq_true.mp List.all_takeWhile
  have hrest : EndsDigits form.base (cs.dropWhile p) := by
    intro c hc
    have hnot := List.head?_dropWhile_not p cs
    rw [Option.mem_def.mp hc] at hnot
    simpa [p] using hnot
  rw [← List.takeWhile_append_dropWhile (p := p) (l := cs)] at h ⊢
  obtain ⟨rfl, hnumeral⟩ := (scanNumber_of_digits hbase hds hrest).mp h
  exact ⟨_, rfl, hnumeral, hrest⟩

theorem Numeral.mono_base {base : Nat} (h : Numeral form ds n) (hbase : form.base ≤ base) :
    ∀ c ∈ ds, (digit? base c).isSome = true := by
  intro c hc
  obtain ⟨k, hk⟩ := Option.isSome_iff_exists.mp (h.digits c hc)
  rw [digit?_mono hbase hk]
  rfl

theorem Numeral.not_blank (h : Numeral form ds n) : ∀ c ∈ ds, isBlank c = false := by
  intro c hc
  obtain ⟨k, hk⟩ := Option.isSome_iff_exists.mp (h.digits c hc)
  obtain ⟨-, hrange⟩ := digit?_eq_some_iff.mp hk
  simp [isBlank, blankRanges]
  omega

theorem scanMark_eq_some_iff {c : Char} : scanMark c cs = some rest ↔ cs = c :: rest := by
  cases cs with
  | nil => simp [scanMark]
  | cons d ds => simp [scanMark]

theorem scanMark_cons (c : Char) (cs : List Char) : scanMark c (c :: cs) = some cs :=
  scanMark_eq_some_iff.mpr rfl

end ContactHistory.SocketAddress
