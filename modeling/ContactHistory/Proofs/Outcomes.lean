import ContactHistory.Aggregation
import ContactHistory.Proofs.Intake
import ContactHistory.Proofs.PollingEnd

namespace ContactHistory.Aggregator

variable {a : Aggregator} {subject : String} {selection : Selection} {filter : Filter}

theorem run_calls (a : Aggregator) (subject : String) (selection : Selection) (filter : Filter)
    (now : Instant) :
    (a.run subject selection filter now).calls =
      (Polling.run (a.registry.select selection) (Address.normalize subject) filter).2.calls := by
  unfold run
  split <;> simp [*]

theorem run_of_stalled (now : Instant)
    (h : (Polling.run (a.registry.select selection) (Address.normalize subject) filter).1 =
      .stalled) :
    (a.run subject selection filter now).outcome = .stalled ∧
      (a.run subject selection filter now).lookups = [] := by
  unfold run
  split <;> simp_all

theorem run_of_failed {f : Failure} (now : Instant)
    (h : (Polling.run (a.registry.select selection) (Address.normalize subject) filter).1 =
      .failed f) :
    (a.run subject selection filter now).outcome = .failed (.source f) ∧
      (a.run subject selection filter now).lookups = [] := by
  unfold run
  split <;> simp_all

theorem run_of_answered {batches : List (List Signal)} (now : Instant)
    (h : (Polling.run (a.registry.select selection) (Address.normalize subject) filter).1 =
      .answered batches) :
    (a.run subject selection filter now).outcome = (a.conclude filter now batches).outcome ∧
      (a.run subject selection filter now).lookups = (a.conclude filter now batches).lookups := by
  unfold run
  split <;> simp_all

/-- The queries of a run are those of its polling, and behind them those of a lookup. -/
theorem run_queries_of_answered {batches : List (List Signal)} (now : Instant)
    (h : (Polling.run (a.registry.select selection) (Address.normalize subject) filter).1 =
      .answered batches) :
    (a.run subject selection filter now).queries =
      (Polling.run (a.registry.select selection) (Address.normalize subject) filter).2.queries ++
        (a.conclude filter now batches).queries := by
  unfold run
  split <;> simp_all

/-- What is concluded depends on a lookup through the profiles that it finds. -/
theorem conclude_outcome (a : Aggregator) (filter : Filter) (now : Instant)
    (batches : List (List Signal)) :
    (a.conclude filter now batches).outcome =
      let roster := batches.flatten.foldl Roster.push (Roster.empty filter)
      if roster.isEmpty = true ∧ filter.isRestricted = true then
        match a.profiles filter.addresses with
        | .error e => .failed (.profiles e)
        | .ok table => .loaded (backfill table filter now)
      else .loaded ⟨roster.watermark, roster.contacts⟩ := by
  simp only [conclude, gather, Roster.extend, Bool.and_eq_true]
  split <;> rfl

/-- With something gathered, or without a restriction, the contacts gathered are the history. -/
theorem conclude_of_gathered {batches : List (List Signal)} (now : Instant)
    (h : (gather filter batches).isEmpty = false ∨ filter.isRestricted = false) :
    a.conclude filter now batches =
      ⟨[], [], .loaded ⟨(gather filter batches).watermark, (gather filter batches).contacts⟩⟩ := by
  unfold conclude
  rcases h with h | h <;> simp [h]

/-- With nothing gathered under a restriction, profiles of the wanted addresses are looked up. -/
theorem conclude_of_isEmpty {batches : List (List Signal)} (now : Instant)
    (h : (gather filter batches).isEmpty = true) (hf : filter.isRestricted = true) :
    a.conclude filter now batches = ⟨[filter.addresses], (a.lookUp filter.addresses).queries,
      match a.profiles filter.addresses with
      | .error e => .failed (.profiles e)
      | .ok table => .loaded (backfill table filter now)⟩ := by
  have hc : ((gather filter batches).isEmpty && filter.isRestricted) = true := by simp [h, hf]
  exact if_pos hc

/-- A loaded history is what was gathered; where a restriction left nothing, it is made from a table
of profiles after one lookup. -/
theorem conclude_cases {batches : List (List Signal)} {now : Instant} {h : History}
    (hr : (a.conclude filter now batches).outcome = .loaded h) :
    ¬(filter.isRestricted = true ∧ (gather filter batches).isEmpty = true) ∧
        (a.conclude filter now batches).lookups = [] ∧
        h = ⟨(gather filter batches).watermark, (gather filter batches).contacts⟩ ∨
      (filter.isRestricted = true ∧ (gather filter batches).isEmpty = true) ∧
        (a.conclude filter now batches).lookups = [filter.addresses] ∧
        ∃ table, a.profiles filter.addresses = .ok table ∧ h = backfill table filter now := by
  by_cases he : filter.isRestricted = true ∧ (gather filter batches).isEmpty = true
  · rw [conclude_of_isEmpty now he.2 he.1] at hr ⊢
    refine .inr ⟨he, rfl, ?_⟩
    cases ht : a.profiles filter.addresses with
    | error e => simp [ht] at hr
    | ok table =>
      simp only [ht, Outcome.loaded.injEq] at hr
      exact ⟨table, rfl, hr.symm⟩
  · have hsome : (gather filter batches).isEmpty = false ∨ filter.isRestricted = false := by
      rw [Decidable.not_and_iff_or_not, Bool.not_eq_true, Bool.not_eq_true] at he
      exact he.symm
    rw [conclude_of_gathered now hsome] at hr ⊢
    exact .inl ⟨he, rfl, (Outcome.loaded.inj hr).symm⟩

theorem conclude_ends (a : Aggregator) (filter : Filter) (now : Instant)
    (batches : List (List Signal)) :
    (∃ e, (a.conclude filter now batches).outcome = .failed e) ∨
      ∃ h, (a.conclude filter now batches).outcome = .loaded h := by
  by_cases he : (gather filter batches).isEmpty = false ∨ filter.isRestricted = false
  · rw [conclude_of_gathered now he]
    exact .inr ⟨_, rfl⟩
  · rw [not_or, Bool.not_eq_false, Bool.not_eq_false] at he
    rw [conclude_of_isEmpty now he.1 he.2]
    cases a.profiles filter.addresses with
    | error e => exact .inl ⟨_, rfl⟩
    | ok table => exact .inr ⟨_, rfl⟩

theorem conclude_ne_failed_source (a : Aggregator) (filter : Filter) (now : Instant)
    (batches : List (List Signal)) (f : Failure) :
    (a.conclude filter now batches).outcome ≠ .failed (.source f) := by
  unfold conclude
  dsimp only
  split
  · cases (a.lookUp filter.addresses).result <;> simp
  · simp

theorem mem_backfill {table : ProfileTable} {now : Instant} {c : Contact} :
    c ∈ (backfill table filter now).contacts ↔
      ∃ address ∈ filter.addresses, ∃ p, table.find? address = some p ∧
        c = Contact.ofProfile p now := by
  unfold backfill
  rw [Contact.mem_sorted]
  simp only [List.mem_map, List.mem_filterMap]
  constructor
  · rintro ⟨p, ⟨address, ha, hp⟩, rfl⟩
    exact ⟨address, ha, p, hp, rfl⟩
  · rintro ⟨address, ha, p, hp, rfl⟩
    exact ⟨p, ⟨address, ha, hp⟩, rfl⟩

theorem gather_congr {bs cs : List (List Signal)}
    (h : (bs.flatten.filter fun s => filter.allows s.counterparty) =
      cs.flatten.filter fun s => filter.allows s.counterparty) :
    gather filter bs = gather filter cs := by
  calc gather filter bs
      = (Roster.empty filter).extend (bs.flatten.filter fun s => filter.allows s.counterparty) :=
        (Roster.extend_filter (Roster.empty filter) bs.flatten).symm
    _ = (Roster.empty filter).extend (cs.flatten.filter fun s => filter.allows s.counterparty) := by
        rw [h]
    _ = gather filter cs := Roster.extend_filter (Roster.empty filter) cs.flatten

theorem conclude_congr (a : Aggregator) (now : Instant) {bs cs : List (List Signal)}
    (h : gather filter bs = gather filter cs) :
    a.conclude filter now bs = a.conclude filter now cs := by
  unfold conclude
  rw [h]

end ContactHistory.Aggregator
