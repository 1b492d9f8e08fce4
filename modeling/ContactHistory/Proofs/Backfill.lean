import ContactHistory.Proofs.LoadedHistory
import Mathlib.Data.List.Basic

namespace ContactHistory

namespace ProfileTable

def erase (t : ProfileTable) (address : String) : ProfileTable :=
  ⟨t.entries.filter (·.1 ≠ address)⟩

/-- Takes the profiles of some addresses out of a table, one after another. Each comes with the
address it was found under. -/
def takeAll (t : ProfileTable) : List String → List (String × Profile)
  | [] => []
  | address :: rest =>
    match t.find? address with
    | none => t.takeAll rest
    | some p => (address, p) :: (t.erase address).takeAll rest

theorem find?_erase_of_ne (t : ProfileTable) {x y : String} (h : y ≠ x) :
    (t.erase x).find? y = t.find? y := by
  obtain ⟨entries⟩ := t
  simp only [find?, erase]
  induction entries with
  | nil => rfl
  | cons e es ih =>
    obtain ⟨k, p⟩ := e
    by_cases hk : k = x
    · subst hk
      have hy : (y == k) = false := by simpa using h
      rw [List.filter_cons_of_neg (by simp), List.lookup_cons, hy]
      exact ih
    · rw [List.filter_cons_of_pos (by simpa using hk), List.lookup_cons, List.lookup_cons, ih]

/-- Where no address comes twice, what was taken before is not missed. -/
theorem takeAll_eq (t : ProfileTable) {addresses : List String} (h : addresses.Nodup) :
    t.takeAll addresses = addresses.filterMap fun x => (t.find? x).map fun p => (x, p) := by
  induction addresses generalizing t with
  | nil => rfl
  | cons x xs ih =>
    obtain ⟨hx, hxs⟩ := List.nodup_cons.mp h
    rw [takeAll]
    cases hp : t.find? x with
    | none =>
      rw [List.filterMap_cons_none (by rw [hp]; rfl)]
      exact ih t hxs
    | some p =>
      have hrest (y : String) (hy : y ∈ xs) : (t.erase x).find? y = t.find? y :=
        t.find?_erase_of_ne fun he => hx (he ▸ hy)
      rw [List.filterMap_cons_some (b := (x, p)) (by rw [hp]; rfl)]
      change (x, p) :: (t.erase x).takeAll xs = _
      rw [ih (t.erase x) hxs]
      refine congrArg (List.cons (x, p)) (List.filterMap_congr fun y hy => ?_)
      rw [hrest y hy]

theorem map_fst_takeAll (t : ProfileTable) {addresses : List String} (h : addresses.Nodup) :
    (t.takeAll addresses).map Prod.fst = addresses.filter fun x => (t.find? x).isSome := by
  rw [t.takeAll_eq h, List.map_filterMap, ← List.filterMap_eq_filter]
  refine List.filterMap_congr fun x _ => ?_
  cases hp : t.find? x with
  | none => simp [Option.guard, hp]
  | some p => simp [Option.guard, hp]

theorem map_snd_takeAll (t : ProfileTable) {addresses : List String} (h : addresses.Nodup) :
    (t.takeAll addresses).map Prod.snd = addresses.filterMap t.find? := by
  rw [t.takeAll_eq h, List.map_filterMap]
  refine List.filterMap_congr fun x _ => ?_
  cases t.find? x <;> rfl

theorem find?_of_mem_takeAll {t : ProfileTable} {addresses : List String} (h : addresses.Nodup)
    {e : String × Profile} (he : e ∈ t.takeAll addresses) : t.find? e.1 = some e.2 := by
  rw [t.takeAll_eq h] at he
  obtain ⟨x, -, hx⟩ := List.mem_filterMap.mp he
  obtain ⟨p, hp, rfl⟩ := Option.map_eq_some_iff.mp hx
  exact hp

end ProfileTable

namespace Aggregator

variable {a : Aggregator} {subject : String} {selection : Selection} {filter : Filter}

/-- Every selected source answers, and a restriction leaves nothing of the answers. -/
def LeavesNothing (a : Aggregator) (subject : String) (selection : Selection) (filter : Filter) :
    Prop :=
  filter.isRestricted = true ∧
    ∀ s ∈ a.registry.select selection, ∃ n signals,
      s.fetch (Address.normalize subject) filter = .after n (.ok signals) ∧
        ∀ u ∈ signals, filter.allows u.counterparty = false

theorem gather_isEmpty_iff {batches : List (List Signal)} :
    (gather filter batches).isEmpty = true ↔
      ∀ signals ∈ batches, ∀ u ∈ signals, filter.allows u.counterparty = false := by
  have hholds := Roster.holds_extend_empty filter batches.flatten
  rw [gather, hholds.isEmpty_iff, List.filter_eq_nil_iff]
  simp only [List.mem_flatten, Bool.not_eq_true]
  constructor
  · exact fun h signals hs u hu => h u ⟨signals, hs, hu⟩
  · rintro h u ⟨signals, hs, hu⟩
    exact h signals hs u hu

/-- Where a restriction leaves nothing the run ends with the lookup. -/
theorem run_of_leavesNothing (now : Instant) (h : a.LeavesNothing subject selection filter) :
    (a.run subject selection filter now).lookups = [filter.addresses] ∧
      (a.run subject selection filter now).outcome =
        match a.profiles filter.addresses with
        | .error e => .failed (.profiles e)
        | .ok table => .loaded (backfill table filter now) := by
  obtain ⟨hrestricted, hanswers⟩ := h
  let batches := (a.registry.select selection).map fun s =>
    Polling.signalsOf (s.fetch (Address.normalize subject) filter)
  have hrun : (Polling.run (a.registry.select selection) (Address.normalize subject) filter).1 =
      .answered batches := by
    apply Polling.run_of_answers
    intro s hs
    obtain ⟨n, signals, hr, -⟩ := hanswers s hs
    exact ⟨n, signals, hr⟩
  have hempty : (gather filter batches).isEmpty = true := by
    apply gather_isEmpty_iff.mpr
    intro signals hsignals
    obtain ⟨s, hs, rfl⟩ := List.mem_map.mp hsignals
    obtain ⟨n, signals, hr, hnone⟩ := hanswers s hs
    rw [hr]
    exact hnone
  obtain ⟨houtcome, hlookups⟩ := run_of_answered now hrun
  rw [conclude_of_isEmpty now hempty hrestricted] at houtcome hlookups
  exact ⟨hlookups, houtcome⟩

theorem lookups_of_not_leavesNothing (now : Instant)
    (h : ¬a.LeavesNothing subject selection filter) :
    (a.run subject selection filter now).lookups = [] := by
  cases hp : (Polling.run (a.registry.select selection) (Address.normalize subject) filter).1 with
  | stalled => exact (run_of_stalled now hp).2
  | failed f => exact (run_of_failed now hp).2
  | answered batches =>
    rw [(run_of_answered now hp).2]
    refine congrArg Conclusion.lookups (conclude_of_gathered now ?_)
    by_cases hrestricted : filter.isRestricted = true
    · refine .inl (Bool.eq_false_iff.mpr fun hempty => h ⟨hrestricted, fun s hs => ?_⟩)
      -- What the sources answered is what was gathered, and none of it is allowed.
      have hanswers := Polling.answers_of_run hp
      obtain ⟨n, signals, hr⟩ := hanswers s hs
      rw [Polling.run_of_answers hanswers, Polling.Ending.answered.injEq] at hp
      subst hp
      refine ⟨n, signals, hr, gather_isEmpty_iff.mp hempty signals (List.mem_map.mpr ⟨s, hs, ?_⟩)⟩
      rw [hr]
      rfl
    · exact .inr (Bool.not_eq_true _ ▸ hrestricted)

/-- A lookup matters only through what it finds under the wanted addresses. -/
theorem backfill_congr {table other : ProfileTable} (now : Instant)
    (h : ∀ x ∈ filter.addresses, other.find? x = table.find? x) :
    backfill other filter now = backfill table filter now := by
  have hfound : filter.addresses.filterMap other.find? = filter.addresses.filterMap table.find? :=
    List.filterMap_congr h
  rw [backfill, backfill, hfound]

/-- The contacts of a lookup are those of the profiles taken out of the table. -/
theorem backfill_perm (table : ProfileTable) (filter : Filter) (now : Instant) :
    (backfill table filter now).contacts.Perm
      ((table.takeAll filter.addresses).map fun e => Contact.ofProfile e.2 now) := by
  have htaken : (table.takeAll filter.addresses).map (fun e => Contact.ofProfile e.2 now) =
      (filter.addresses.filterMap table.find?).map (Contact.ofProfile · now) := by
    rw [← table.map_snd_takeAll filter.nodup, List.map_map]
    rfl
  rw [htaken]
  exact Contact.perm_sorted _

/-- Profiles are looked up exactly where every selected source answers and a restriction leaves
nothing of the answers, and then once, for the wanted addresses in ascending order. A failure of the
lookup is the failure of the run. Otherwise there is one contact for each wanted address that the
table holds a profile under, made of that profile; no others, whatever else the table holds. -/
theorem run_backfills (a : Aggregator) (subject : String) (selection : Selection)
    (filter : Filter) (now : Instant) :
    let r := a.run subject selection filter now
    (¬a.LeavesNothing subject selection filter → r.lookups = []) ∧
    (a.LeavesNothing subject selection filter →
      r.lookups = [filter.addresses] ∧
      (filter.addresses.Pairwise fun x y => Text.Utf8.encode x < Text.Utf8.encode y) ∧
      (∀ e, a.profiles filter.addresses = .error e → r.outcome = .failed (.profiles e)) ∧
      ∀ table, a.profiles filter.addresses = .ok table →
        ∃ contacts, r.outcome = .loaded ⟨none, contacts⟩ ∧
          (∃ found : List (String × Profile),
            (found.map Prod.fst = filter.addresses.filter fun x => (table.find? x).isSome) ∧
            (∀ e ∈ found, table.find? e.1 = some e.2) ∧
            contacts.Perm (found.map fun e => Contact.ofProfile e.2 now)) ∧
          ∀ b : Aggregator, b.registry = a.registry →
            (∃ other, b.profiles filter.addresses = .ok other ∧
              ∀ x ∈ filter.addresses, other.find? x = table.find? x) →
            (b.run subject selection filter now).outcome = r.outcome) := by
  intro r
  refine ⟨lookups_of_not_leavesNothing now, fun h => ?_⟩
  obtain ⟨hlookups, houtcome⟩ := run_of_leavesNothing now h
  have hascending : filter.addresses.Pairwise
      fun x y => Text.Utf8.encode x < Text.Utf8.encode y :=
    filter.ascending.imp Text.Utf8.encode_lt_encode_iff.mpr
  refine ⟨hlookups, hascending, fun e he => ?_, fun table htable => ?_⟩
  · rw [houtcome, he]
  · have hloaded : r.outcome = .loaded (backfill table filter now) := by rw [houtcome, htable]
    refine ⟨(backfill table filter now).contacts, hloaded, ?_, ?_⟩
    · exact ⟨table.takeAll filter.addresses, table.map_fst_takeAll filter.nodup,
        fun e he => ProfileTable.find?_of_mem_takeAll filter.nodup he,
        backfill_perm table filter now⟩
    · rintro b hb ⟨other, hother, hagree⟩
      have hsame : b.LeavesNothing subject selection filter := by
        rw [LeavesNothing, hb]
        exact h
      rw [(run_of_leavesNothing now hsame).2, hother, hloaded]
      exact congrArg Outcome.loaded (backfill_congr now hagree)

/-- Of two wanted addresses the table holds one, with a profile of another address; the profile that
nobody asked for is not shown. -/
theorem run_backfills_odd_key :
    let odd : Profile := ⟨1, "0xfff", "Ada", none⟩
    let unasked : Profile := ⟨2, "0xbbb", "Bob", none⟩
    let other : Signal := .ofEvents .crcTrust "0x123" [⟨.outward, "70", ⟨9000⟩⟩]
    let table : ProfileTable := ⟨[("0xbbb", unasked), ("0xaaa", odd)]⟩
    let a : Aggregator :=
      ⟨.ofSources [⟨.crcTrust, fun _ _ => pure <| .after 1 (.ok [other])⟩],
        fun _ => pure (.ok table)⟩
    let filter := Filter.ofAddresses ["0xCCC", " 0xAAA"]
    let r := a.run "0xabc" .all filter ⟨99⟩
    a.LeavesNothing "0xabc" .all filter ∧ r.lookups = [["0xaaa", "0xccc"]] ∧
    ∃ contacts, r.outcome = .loaded ⟨none, contacts⟩ ∧
      contacts.Perm [⟨"0xfff", [⟨.search, "0xfff", some ⟨99⟩, []⟩], ⟨99⟩, some odd⟩] := by
  intro odd unasked other table a filter r
  have hnothing : a.LeavesNothing "0xabc" .all filter := by
    refine ⟨by decide, fun s hs => ?_⟩
    obtain rfl := List.mem_singleton.mp hs
    exact ⟨1, [other], rfl, by decide⟩
  obtain ⟨hlookups, -, -, hloaded⟩ := (run_backfills a "0xabc" .all filter ⟨99⟩).2 hnothing
  obtain ⟨contacts, houtcome, ⟨found, hkeys, hfound, hperm⟩, -⟩ := hloaded table rfl
  refine ⟨hnothing, hlookups, contacts, houtcome, ?_⟩
  have hone : found.map Prod.fst = ["0xaaa"] := hkeys
  obtain ⟨e, rfl, he⟩ := List.map_eq_singleton_iff.mp hone
  have hprofile := hfound e List.mem_cons_self
  rw [he] at hprofile
  have hodd : e.2 = ⟨1, "0xfff", "Ada", none⟩ := (Option.some.inj hprofile).symm
  have hcontact : Contact.ofProfile ⟨1, "0xfff", "Ada", none⟩ ⟨99⟩ =
      ⟨"0xfff", [⟨.search, "0xfff", some ⟨99⟩, []⟩], ⟨99⟩, some ⟨1, "0xfff", "Ada", none⟩⟩ := by
    decide +kernel
  rw [List.map_singleton, hodd, hcontact] at hperm
  exact hperm

end Aggregator
end ContactHistory
