import ContactHistory.Locator.Host
import ContactHistory.Proofs.CommaLists
import ContactHistory.Proofs.PercentRoundTrip

namespace ContactHistory

open Text

/-- A character that stands for itself wherever percent signs are read. -/
def Host.isPlain (c : Char) : Bool := Percent.isSafe c && c ≠ '%'

theorem Host.toNat_lt_of_isPlain {c : Char} (h : isPlain c = true) : c.toNat < 0x80 := by
  simp only [isPlain, Percent.isSafe, Bool.and_eq_true, Bool.or_eq_true, decide_eq_true_eq] at h
  omega

/-- What holds for each plain character below 0x80 holds for all of them. -/
theorem Host.forall_plain {p : Char → Prop}
    (h : ∀ n ∈ List.range 0x80, isPlain (Char.ofNat n) = true → p (Char.ofNat n)) {c : Char}
    (hc : isPlain c = true) : p c := by
  have hp := h c.toNat (List.mem_range.mpr (toNat_lt_of_isPlain hc))
  rw [Char.ofNat_toNat] at hp
  exact hp hc

namespace Text

/-! ### Composing -/

theorem combiningClass_ascii {c : Char} (h : c.toNat < 0x80) : combiningClass c = 0 := by
  have hruns : ∀ r ∈ classRuns, 0x80 ≤ r.1 := by decide +kernel
  have hfind : classRuns.find? (fun r => r.1 ≤ c.toNat && c.toNat ≤ r.2.1) = none := by
    simp only [List.find?_eq_none, Bool.and_eq_true, decide_eq_true_eq]
    intro r hr hin
    have hrun := hruns r hr
    omega
  rw [combiningClass, hfind]
  rfl

theorem parts_ascii {c : Char} (h : c.toNat < 0x80) (n : Nat) : parts n c = [c] := by
  have htable : ∀ r ∈ compositions, ∀ p ∈ r.2, 0x80 ≤ p.2 := by decide +kernel
  have hsyllable : syllableParts? c.toNat = none := if_pos (by simp; omega)
  have hparts : parts? c = none := by
    simp only [parts?, hsyllable, Option.none_or, Option.map_eq_none_iff,
      List.findSome?_eq_none_iff, List.find?_eq_none, decide_eq_true_eq]
    intro r hr p hp hcode
    have hcomposed := htable r hr p hp
    omega
  cases n with
  | zero => rfl
  | succ n => rw [parts, hparts]

theorem compose?_ascii (a : Char) {b : Char} (h : b.toNat < 0x80) : compose? a b = none := by
  have htable : ∀ r ∈ compositions, 0x80 ≤ r.1 := by decide +kernel
  have hlookup : compositions.lookup b.toNat = none := by
    rw [List.lookup_eq_none_iff]
    intro r hr
    have hmark := htable r hr
    have hne : b.toNat ≠ r.1 := by omega
    exact bne_iff_ne.mpr hne
  have hvowel : ¬0x1161 ≤ b.toNat := by omega
  have hlast : ¬0x11A8 ≤ b.toNat := by omega
  simp [compose?, syllable?, hlookup, hvowel, hlast]

theorem orderMarks_ascii {cs : List Char} (h : ∀ c ∈ cs, c.toNat < 0x80) :
    orderMarks cs = cs := by
  have hfold (placed : List Char) :
      cs.foldl (fun placed c => placeMark c placed) placed = cs.reverse ++ placed := by
    induction cs generalizing placed with
    | nil => rfl
    | cons c cs ih =>
      have hplace : placeMark c placed = c :: placed := by
        cases placed with
        | nil => rfl
        | cons d ds => simp [placeMark, combiningClass_ascii (h c List.mem_cons_self)]
      rw [List.foldl_cons, hplace, ih fun d hd => h d (List.mem_cons_of_mem _ hd)]
      simp
  rw [orderMarks, hfold, List.append_nil, List.reverse_reverse]

theorem composeFrom_ascii {cs : List Char} (h : ∀ c ∈ cs, c.toNat < 0x80) (first : Char) :
    composeFrom first [] cs = first :: cs := by
  induction cs generalizing first with
  | nil => rfl
  | cons c cs ih =>
    have hc := h c List.mem_cons_self
    rw [composeFrom]
    simp [compose?_ascii first hc, combiningClass_ascii hc,
      ih fun d hd => h d (List.mem_cons_of_mem _ hd)]

theorem composed_ascii {cs : List Char} (h : ∀ c ∈ cs, c.toNat < 0x80) : composed cs = cs := by
  have hparts : cs.flatMap (parts compositionDepth) = cs := by
    rw [List.flatMap_def, List.map_congr_left fun c hc => parts_ascii (h c hc) compositionDepth]
    exact List.flatMap_singleton' cs
  rw [composed, hparts, orderMarks_ascii h]
  cases cs with
  | nil => rfl
  | cons c cs => exact composeFrom_ascii (fun d hd => h d (List.mem_cons_of_mem _ hd)) c

/-! ### Labels -/

theorem Joining.fit_ascii {cs : List Char} (h : ∀ c ∈ cs, c.toNat < 0x80) (before : List Char) :
    Joining.fit before cs = true := by
  induction cs generalizing before with
  | nil => rfl
  | cons c cs ih =>
    have hne (d : Char) (hd : 0x80 ≤ d.toNat) : c ≠ d := by
      rintro rfl
      exact absurd (h c List.mem_cons_self) (Nat.not_lt.mpr hd)
    rw [Joining.fit, if_neg (hne '\u200c' (by decide)), if_neg (hne '\u200d' (by decide))]
    exact ih (fun d hd => h d (List.mem_cons_of_mem _ hd)) _

theorem inRanges_ascii (ranges : List (Nat × Nat)) (h : ∀ r ∈ ranges, 0x80 ≤ r.1) {c : Char}
    (hc : c.toNat < 0x80) : inRanges ranges c.toNat = false := by
  simp only [inRanges, List.any_eq_false, Bool.and_eq_true, decide_eq_true_eq]
  intro r hr hin
  have hrange := h r hr
  omega

theorem isMark_ascii {c : Char} (h : c.toNat < 0x80) : isMark c = false := by
  have hspacing := inRanges_ascii spacingRanges (by decide +kernel) h
  have hextending := inRanges_ascii extendingRanges (by decide +kernel) h
  simp only [isMark, isSpacing, isExtending, hspacing, hextending, Bool.false_and, Bool.or_self]

theorem Direction.turns_ascii {c : Char} (h : c.toNat < 0x80) :
    (Direction.ofChar c).turns = false := by
  have hright := inRanges_ascii rightRanges (by decide +kernel) h
  have harabic := inRanges_ascii arabicDigitRanges (by decide +kernel) h
  simp only [ofChar, isNonspacing, isMark_ascii h, hright, harabic, Bool.false_and,
    Bool.false_eq_true, if_false]
  split
  · rfl
  · split <;> rfl

theorem mem_of_mem_splitAll {separator : Char} {p : List Char} (cs : List Char)
    (h : p ∈ splitAll separator cs) {c : Char} (hc : c ∈ p) : c ∈ cs := by
  induction cs using parts_induction separator with
  | last cs hcs =>
    rw [splitAll_of_not_mem hcs, List.mem_singleton] at h
    rwa [← h]
  | part cs rest hcs ih =>
    rw [splitAll_append hcs, List.mem_cons] at h
    rw [List.mem_append, List.mem_cons]
    rcases h with rfl | h
    · exact .inl hc
    · exact .inr (.inr (ih h))

theorem intercalate_splitAll (separator : Char) (cs : List Char) :
    [separator].intercalate (splitAll separator cs) = cs := by
  rw [splitAll_eq_splitOn, List.intercalate_splitOn]

end Text

namespace Locator.Domain

theorem mapM_eq_some {α β : Type} {f : α → Option β} {g : α → β} {xs : List α}
    (h : ∀ x ∈ xs, f x = some (g x)) : xs.mapM f = some (xs.map g) := by
  induction xs with
  | nil => rfl
  | cons x xs ih =>
    rw [List.mapM_cons, h x List.mem_cons_self, ih fun y hy => h y (List.mem_cons_of_mem _ hy)]
    rfl

theorem isPlain_spec {c : Char} (h : Host.isPlain c = true) :
    c.toLower.toNat < 0x80 ∧ isRefusedAscii c.toLower = false :=
  Host.forall_plain (p := fun c => c.toLower.toNat < 0x80 ∧ isRefusedAscii c.toLower = false)
    (by decide +kernel) h

def mark : List Char := ['x', 'n', '-', '-']

theorem meaning?_of_unmarked {label : List Char} (h : label.take 4 ≠ mark) :
    meaning? label = some label := by
  unfold meaning?
  split
  · exact absurd rfl h
  · rfl

theorem fold_plain {cs : List Char} (h : ∀ c ∈ cs, Host.isPlain c = true) :
    fold cs = some (cs.map Char.toLower) := by
  have hchars : cs.mapM foldChar = some (cs.map fun c => [c.toLower]) :=
    mapM_eq_some fun c hc => if_pos (decide_eq_true (Host.toNat_lt_of_isPlain (h c hc)))
  have hflat : (cs.map fun c => [c.toLower]).flatten = cs.map Char.toLower := by
    rw [← List.flatMap_def, List.map_eq_flatMap]
  have hcomposed : composed (cs.map Char.toLower) = cs.map Char.toLower := by
    apply composed_ascii
    intro c hc
    obtain ⟨d, hd, rfl⟩ := List.mem_map.mp hc
    exact (isPlain_spec (h d hd)).1
  have hany : ¬(cs.map Char.toLower).any isRefusedAscii = true := by
    rw [List.any_eq_true]
    rintro ⟨c, hc, hrefused⟩
    obtain ⟨d, hd, rfl⟩ := List.mem_map.mp hc
    rw [(isPlain_spec (h d hd)).2] at hrefused
    cases hrefused
  unfold fold
  rw [hchars]
  change (if (composed _).any isRefusedAscii = true then none else some (composed _)) = _
  rw [hflat, hcomposed, if_neg hany]

theorem all_isAscii {label : List Char} (h : ∀ c ∈ label, c.toNat < 0x80) :
    label.all isAscii = true :=
  List.all_eq_true.mpr fun c hc => decide_eq_true (h c hc)

theorem isSound_ascii {label : List Char} (h : ∀ c ∈ label, c.toNat < 0x80) :
    isSound label = true := by
  have hmark : label.head?.any isMark = false := by
    cases label with
    | nil => rfl
    | cons c cs => exact isMark_ascii (h c List.mem_cons_self)
  rw [isSound, hmark, Joining.fit_ascii h, all_isAscii h]
  rfl

theorem areDirected_ascii {labels : List (List Char)}
    (h : ∀ label ∈ labels, ∀ c ∈ label, c.toNat < 0x80) : areDirected labels = true := by
  have hturns : (labels.map (·.map Direction.ofChar)).any (·.any Direction.turns) = false := by
    simp only [List.any_map, List.any_eq_false, Function.comp_apply, Bool.not_eq_true]
    exact fun label hlabel c hc => Direction.turns_ascii (h label hlabel c hc)
  unfold areDirected
  simp only [hturns, Bool.not_false, Bool.true_or]

/-- A plain name is read in small letters, unless some label of it is in Punycode. -/
theorem read?_plain {s : String} (h : ∀ c ∈ s.toList, Host.isPlain c = true)
    (hlabels : ∀ label ∈ splitAll '.' (s.toList.map Char.toLower), label.take 4 ≠ mark) :
    read? (Utf8.encode s) = some (s.toList.map Char.toLower) := by
  have hascii (label) (hlabel : label ∈ splitAll '.' (s.toList.map Char.toLower)) :
      ∀ c ∈ label, c.toNat < 0x80 := by
    intro c hc
    obtain ⟨d, hd, rfl⟩ := List.mem_map.mp (mem_of_mem_splitAll _ hlabel hc)
    exact (isPlain_spec (h d hd)).1
  have hmeanings : (splitAll '.' (s.toList.map Char.toLower)).mapM meaning? =
      some (splitAll '.' (s.toList.map Char.toLower)) := by
    rw [mapM_eq_some fun label hlabel => meaning?_of_unmarked (hlabels label hlabel), List.map_id']
  have hsound : (splitAll '.' (s.toList.map Char.toLower)).all isSound = true :=
    List.all_eq_true.mpr fun label hlabel => isSound_ascii (hascii label hlabel)
  have hwritten : (splitAll '.' (s.toList.map Char.toLower)).map written =
      splitAll '.' (s.toList.map Char.toLower) := by
    refine (List.map_congr_left fun label hlabel => ?_).trans (List.map_id' _)
    exact if_pos (all_isAscii (hascii label hlabel))
  unfold read?
  simp only [Utf8.decode?_encode, fold_plain h, hmeanings, Option.bind_eq_bind, Option.bind_some,
    hsound, areDirected_ascii hascii, Bool.and_self, if_true, hwritten, intercalate_splitAll]

end Locator.Domain

namespace Host

structure Plain (s : String) : Prop where
  ne_empty : s ≠ ""
  chars : ∀ c ∈ s.toList, isPlain c = true

/-- On the web a name is read as an address if its last label is a number, and its labels may be in
Punycode. -/
structure Worded (s : String) : Prop where
  unmarked : ∀ label ∈ splitAll '.' (s.toList.map Char.toLower), label.take 4 ≠ Locator.Domain.mark
  numeric : isNumeric (s.toList.map Char.toLower) = false

theorem encode_plain {s : String} (h : ∀ c ∈ s.toList, isPlain c = true) :
    Percent.encode s = s := by
  have hchar (c : Char) (hc : c ∈ s.toList) :
      (String.utf8EncodeChar c).flatMap Percent.encodeByte = [c] :=
    forall_plain (p := fun c => (String.utf8EncodeChar c).flatMap Percent.encodeByte = [c])
      (by decide +kernel) (h c hc)
  rw [Percent.encode, Utf8.encode, List.flatMap_assoc, List.flatMap_def,
    List.map_congr_left hchar, ← List.flatMap_def, List.flatMap_singleton', String.ofList_toList]

theorem decode_plain {s : String} (h : ∀ c ∈ s.toList, isPlain c = true) :
    Percent.decode (Utf8.encode s) = Utf8.encode s := by
  have hdecode := Percent.decode_encode s
  rwa [encode_plain h] at hdecode

theorem Plain.toLower {s : String} (h : Plain s) :
    Plain (String.ofList (s.toList.map Char.toLower)) where
  ne_empty := by
    rw [Ne, String.ofList_eq_empty_iff, List.map_eq_nil_iff, String.toList_eq_nil_iff]
    exact h.ne_empty
  chars := by
    intro c hc
    rw [String.toList_ofList] at hc
    obtain ⟨d, hd, rfl⟩ := List.mem_map.mp hc
    exact forall_plain (p := fun c => isPlain c.toLower = true) (by decide +kernel) (h.chars d hd)

theorem Plain.head?_decode_ne {s : String} (h : Plain s) :
    (Percent.decode (Utf8.encode s)).head? ≠ some 0x2F := by
  rw [decode_plain h.chars, Utf8.encode]
  cases hs : s.toList with
  | nil => exact absurd (String.toList_eq_nil_iff.mp hs) h.ne_empty
  | cons c cs =>
    have hfirst : (String.utf8EncodeChar c).head?.any (fun b => decide (b ≠ 0x2F)) = true :=
      forall_plain (p := fun c => (String.utf8EncodeChar c).head?.any (fun b => decide (b ≠ 0x2F)) =
        true) (by decide +kernel) (h.chars c (hs ▸ List.mem_cons_self))
    rw [List.flatMap_cons, List.head?_append]
    cases hhead : (String.utf8EncodeChar c).head? with
    | none => exact absurd (List.head?_eq_none_iff.mp hhead) String.utf8EncodeChar_ne_nil
    | some b =>
      rw [hhead] at hfirst
      simpa using hfirst

theorem readOpaque_plain {s : String} (h : Plain s) : readOpaque s.toList = .ok (name s) := by
  have hany : ¬s.toList.any isForbidden = true := by
    rw [List.any_eq_true]
    rintro ⟨c, hc, hforbidden⟩
    have hallowed : isForbidden c = false :=
      forall_plain (p := fun c => isForbidden c = false) (by decide +kernel) (h.chars c hc)
    rw [hallowed] at hforbidden
    cases hforbidden
  unfold readOpaque
  split
  · next cs hcs =>
    exact absurd (h.chars '[' (hcs ▸ List.mem_cons_self)) (by decide)
  · rw [if_neg hany, String.ofList_toList]

theorem readWeb_plain {s : String} (h : Plain s) (hworded : Worded s) :
    readWeb s.toList = .ok (name (String.ofList (s.toList.map Char.toLower))) := by
  have hread := Locator.Domain.read?_plain h.chars hworded.unmarked
  have hempty : (s.toList.map Char.toLower).isEmpty = false := by
    rw [List.isEmpty_eq_false_iff, Ne, List.map_eq_nil_iff, String.toList_eq_nil_iff]
    exact h.ne_empty
  unfold readWeb
  split
  · next cs hcs =>
    exact absurd (h.chars '[' (hcs ▸ List.mem_cons_self)) (by decide)
  · rw [String.ofList_toList, decode_plain h.chars, hread]
    simp only [hempty, hworded.numeric, Bool.false_eq_true, if_false]

end Host
end ContactHistory
