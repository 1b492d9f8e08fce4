import ContactHistory.Proofs.Intake
import Mathlib.Data.List.FinRange
import Mathlib.Data.List.Forall2

namespace ContactHistory

/-- A rearrangement of a list: the place that each of its members gets in another one. -/
structure Rearrangement {α : Type} (xs ys : List α) where
  place : Fin xs.length → Fin ys.length
  bijective : Function.Bijective place
  same : ∀ i, ys[place i] = xs[i]

namespace Rearrangement

variable {α β : Type} {xs ys : List α}

/-- Members with the same key stay in their order. -/
def KeepsOrder (σ : Rearrangement xs ys) (key : α → β) : Prop :=
  ∀ i j, i < j → key xs[i] = key xs[j] → σ.place i < σ.place j

/-- The positions at which a list has a member of some kind, from the left to the right. -/
def positions (p : α → Bool) (xs : List α) : List (Fin xs.length) :=
  (List.finRange xs.length).filter fun i => p xs[i]

theorem mem_positions {p : α → Bool} {i : Fin xs.length} :
    i ∈ positions p xs ↔ p xs[i] = true := by
  simp [positions]

theorem map_positions (p : α → Bool) (xs : List α) :
    (positions p xs).map (fun i => xs[i]) = xs.filter p := by
  have hxs : (List.finRange xs.length).map (fun i => xs[i]) = xs := List.map_getElem_finRange xs
  calc
    _ = ((List.finRange xs.length).map fun i => xs[i]).filter p := by
      rw [List.filter_map]
      rfl
    _ = xs.filter p := by rw [hxs]

theorem pairwise_positions (p : α → Bool) (xs : List α) : (positions p xs).Pairwise (· < ·) :=
  (List.pairwise_lt_finRange xs.length).filter _

/-- Where the members with a key stay in their order, their places are in order too, and there are
no others with the key. -/
theorem KeepsOrder.map_place_positions [DecidableEq β] {σ : Rearrangement xs ys} {key : α → β}
    (h : σ.KeepsOrder key) (k : β) :
    (positions (fun x => key x = k) xs).map σ.place = positions (fun y => key y = k) ys := by
  have hplace {i : Fin xs.length} : key ys[σ.place i] = k ↔ key xs[i] = k := by rw [σ.same]
  have hascending : ((positions (fun x => key x = k) xs).map σ.place).Pairwise (· < ·) := by
    rw [List.pairwise_map]
    refine (pairwise_positions _ xs).imp_of_mem fun {i j} hi hj hij => h i j hij ?_
    rw [mem_positions, decide_eq_true_eq] at hi hj
    rw [hi, hj]
  have hmem (j : Fin ys.length) :
      j ∈ (positions (fun x => key x = k) xs).map σ.place ↔
        j ∈ positions (fun y => key y = k) ys := by
    simp only [List.mem_map, mem_positions, decide_eq_true_eq]
    constructor
    · rintro ⟨i, hi, rfl⟩
      exact hplace.mpr hi
    · intro hj
      obtain ⟨i, rfl⟩ := σ.bijective.2 j
      exact ⟨i, hplace.mp hj, rfl⟩
  -- Both lists of positions ascend, so they are equal as soon as they hold the same positions.
  have hperm := (List.perm_ext_iff_of_nodup hascending.nodup
    (pairwise_positions _ ys).nodup).mpr hmem
  exact hperm.eq_of_pairwise (fun _ _ _ _ hij hji => absurd hij (Nat.lt_asymm hji)) hascending
    (pairwise_positions _ ys)

/-- Members with the same key that stay in their order form the same list. -/
theorem KeepsOrder.filter_eq [DecidableEq β] {σ : Rearrangement xs ys} {key : α → β}
    (h : σ.KeepsOrder key) (k : β) :
    (ys.filter fun y => key y = k) = xs.filter fun x => key x = k := by
  rw [← map_positions, ← map_positions, ← h.map_place_positions, List.map_map]
  exact List.map_congr_left fun i _ => σ.same i

end Rearrangement

namespace Instant

theorem Latest.perm {t : Instant} {ts us : List Instant} (h : t.Latest ts) (hp : ts.Perm us) :
    t.Latest us :=
  ⟨hp.mem_iff.mp h.1, fun u hu => h.2 u (hp.mem_iff.mpr hu)⟩

theorem max?_eq_of_perm {ts us : List Instant} (hp : ts.Perm us) : us.max? = ts.max? := by
  cases h : ts.max? with
  | none =>
    rw [List.max?_eq_none_iff] at h ⊢
    rw [h] at hp
    exact hp.nil_eq.symm
  | some t => exact max?_eq_some_iff.mpr ((max?_eq_some_iff.mp h).perm hp)

end Instant

namespace Contact

/-- The contact with the signals of its counterparty among those of a list. -/
def regroup (kept : List Signal) (c : Contact) : Contact :=
  { c with signals := kept.filter fun s => s.counterparty = c.counterparty }

/-- The contacts differ at most in the order of their signals. -/
structure Alike (c d : Contact) : Prop where
  counterparty : c.counterparty = d.counterparty
  lastAt : c.lastAt = d.lastAt
  signals : c.signals.Perm d.signals
  profile : c.profile = d.profile

end Contact

namespace Roster

/-- The contacts of some signals are those of the rearranged signals, up to the order inside. -/
theorem Grouped.regroup {kept others : List Signal} {cs : List Contact} (h : Grouped kept cs)
    (hp : kept.Perm others) : Grouped others (cs.map (Contact.regroup others)) := by
  have same : (cs.map (Contact.regroup others)).map Contact.counterparty =
      cs.map Contact.counterparty := by
    rw [List.map_map]
    rfl
  constructor
  · rw [same]
    exact h.nodup
  · intro a
    rw [same, h.counterparties]
    exact (hp.map Signal.counterparty).mem_iff
  · intro c hc
    obtain ⟨d, hd, rfl⟩ := List.mem_map.mp hc
    rfl
  · intro c hc
    obtain ⟨d, hd, rfl⟩ := List.mem_map.mp hc
    have hl := h.latest d hd
    rw [h.signals d hd] at hl
    exact hl.perm ((hp.filter _).map Signal.time)
  · intro c hc
    obtain ⟨d, hd, rfl⟩ := List.mem_map.mp hc
    exact h.profile d hd

theorem Grouped.alike_regroup {kept others : List Signal} {cs : List Contact}
    (h : Grouped kept cs) (hp : kept.Perm others) {c : Contact} (hc : c ∈ cs) :
    c.Alike (c.regroup others) where
  counterparty := rfl
  lastAt := rfl
  signals := by
    rw [h.signals c hc]
    exact hp.filter _
  profile := rfl

/-- Rearranged signals lead to the same contacts in the same order, each with its own signals. -/
theorem contacts_extend_of_perm (f : Filter) {ss us : List Signal} (h : ss.Perm us) :
    ((empty f).extend us).contacts =
      ((empty f).extend ss).contacts.map
        (Contact.regroup (us.filter fun s => f.allows s.counterparty)) := by
  have hss := (holds_extend_empty f ss).contacts
  have hus := (holds_extend_empty f us).contacts
  have hordered : (((empty f).extend ss).contacts.map
      (Contact.regroup (us.filter fun s => f.allows s.counterparty))).Pairwise
        Contact.Precedes := by
    rw [List.pairwise_map]
    -- Regrouping changes neither of the two parts that the order looks at.
    exact hss.2.imp id
  exact hus.1.unique (hss.1.regroup (h.filter _)) hus.2 hordered

/-- If the signals of each counterparty keep their order, the contacts are the same. -/
theorem contacts_extend_of_filter_eq (f : Filter) {ss us : List Signal} (h : ss.Perm us)
    (ho : ∀ a, (us.filter fun s => s.counterparty = a) = ss.filter fun s => s.counterparty = a) :
    ((empty f).extend us).contacts = ((empty f).extend ss).contacts := by
  rw [contacts_extend_of_perm f h]
  refine (List.map_congr_left fun c hc => ?_).trans (List.map_id _)
  have hsignals := (holds_extend_empty f ss).contacts.1.signals c hc
  refine Contact.ext rfl ?_ rfl rfl
  change (us.filter _).filter (fun s => s.counterparty = c.counterparty) = c.signals
  rw [hsignals, List.filter_comm, ho, List.filter_comm]

/-- Rearranged signals lead to the same watermark and to contacts that agree one by one in all but
the order of their signals, and to the same contacts if the signals of each counterparty keep their
order. -/
theorem extend_of_perm (f : Filter) {ss us : List Signal} (h : ss.Perm us) :
    let r := (empty f).extend ss
    let q := (empty f).extend us
    q.watermark = r.watermark ∧ q.isEmpty = r.isEmpty ∧
    r.contacts.length = q.contacts.length ∧
    List.Forall₂ Contact.Alike r.contacts q.contacts ∧
    ∀ σ : Rearrangement ss us, σ.KeepsOrder Signal.counterparty → q.contacts = r.contacts := by
  intro r q
  have hr := holds_extend_empty f ss
  have hq := holds_extend_empty f us
  have hkept := h.filter fun s => f.allows s.counterparty
  have halike : List.Forall₂ Contact.Alike r.contacts q.contacts := by
    rw [show q.contacts = _ from contacts_extend_of_perm f h, List.forall₂_map_right_iff,
      List.forall₂_same]
    exact fun c hc => hr.contacts.1.alike_regroup hkept hc
  refine ⟨?_, ?_, halike.length_eq, halike, fun σ hσ => ?_⟩
  · rw [hr.watermark, hq.watermark]
    exact Instant.max?_eq_of_perm (hkept.map Signal.time)
  · rw [Bool.eq_iff_iff, hr.isEmpty_iff, hq.isEmpty_iff, ← List.length_eq_zero_iff,
      ← List.length_eq_zero_iff, hkept.length_eq]
  · exact contacts_extend_of_filter_eq f h hσ.filter_eq

/-- Two contacts of one time and a signal that the filter drops: read backwards, the signals lead to
contacts that differ inside; with the two of one contact in their order, they lead to the same. -/
theorem extend_of_perm_tied :
    let f := Filter.ofAddresses ["0xA", " 0xb"]
    let a := Signal.ofEvents .crcTrust "0xA" [⟨.outward, "50", ⟨10⟩⟩]
    let b := Signal.ofEvents .crcHubTransfer "0xB" [⟨.inward, "1", ⟨20⟩⟩]
    let c := Signal.ofEvents .chatMessage "0xa" [⟨.inward, "hello", ⟨20⟩⟩]
    let d := Signal.ofEvents .crcTrust "0xc" [⟨.outward, "7", ⟨90⟩⟩]
    let r := (empty f).extend [a, b, c, d]
    let backwards := (empty f).extend [d, c, b, a]
    [a, b, c, d].Perm [d, c, b, a] ∧ [a, b, c, d].Perm [b, a, c, d] ∧
    r.watermark = some ⟨20⟩ ∧ backwards.watermark = r.watermark ∧
    r.contacts = [⟨"0xa", [a, c], ⟨20⟩, none⟩, ⟨"0xb", [b], ⟨20⟩, none⟩] ∧
    backwards.contacts = [⟨"0xa", [c, a], ⟨20⟩, none⟩, ⟨"0xb", [b], ⟨20⟩, none⟩] ∧
    List.Forall₂ Contact.Alike r.contacts backwards.contacts ∧
    ((empty f).extend [b, a, c, d]).contacts = r.contacts := by
  intro f a b c d r backwards
  have hreverse : [a, b, c, d].Perm [d, c, b, a] := by decide
  have hswap : [a, b, c, d].Perm [b, a, c, d] := by decide
  let σ : Rearrangement [a, b, c, d] [b, a, c, d] :=
    ⟨Equiv.swap (0 : Fin 4) 1, (Equiv.swap (0 : Fin 4) 1).bijective, by decide⟩
  have hσ : σ.KeepsOrder Signal.counterparty := by
    unfold Rearrangement.KeepsOrder
    decide
  obtain ⟨hwatermark, _, _, halike, _⟩ := extend_of_perm f hreverse
  obtain ⟨_, _, _, _, hsame⟩ := extend_of_perm f hswap
  exact ⟨hreverse, hswap, by decide, hwatermark, List.mergeSort_of_pairwise (by decide),
    List.mergeSort_of_pairwise (by decide), halike, hsame σ hσ⟩

end Roster
end ContactHistory
