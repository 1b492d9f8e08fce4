import ContactHistory.Proofs.FailFast
import ContactHistory.Proofs.LoadedHistory
import ContactHistory.Proofs.Rows

namespace ContactHistory

open Database

/-- A list without repetitions, filtered by a sublist, is the sublist. -/
theorem filter_contains_of_sublist {α : Type} [BEq α] [LawfulBEq α] {xs ys : List α}
    (h : xs.Sublist ys) (hn : ys.Nodup) : ys.filter (xs.contains ·) = xs := by
  induction h with
  | slnil => rfl
  | @cons xs ys y hs ih =>
    obtain ⟨hy, hn⟩ := List.nodup_cons.mp hn
    have hcontains : xs.contains y = false := by
      simpa using fun hmem => hy (hs.subset hmem)
    rw [List.filter_cons, hcontains]
    exact ih hn
  | @cons_cons xs ys y hs ih =>
    obtain ⟨hy, hn⟩ := List.nodup_cons.mp hn
    have hrest : ys.filter ((y :: xs).contains ·) = ys.filter (xs.contains ·) := by
      refine List.filter_congr fun z hz => ?_
      have hne : z ≠ y := fun he => hy (he ▸ hz)
      simp [hne]
    rw [List.filter_cons, if_pos (by simp), hrest, ih hn]

theorem upToFirst_eq_self {α : Type} {p : α → Bool} {as : List α} (h : ∀ a ∈ as, p a = false) :
    upToFirst p as = as := by
  induction as with
  | nil => rfl
  | cons a as ih =>
    rw [upToFirst, h a List.mem_cons_self, ih fun b hb => h b (List.mem_cons_of_mem a hb)]
    rfl

namespace Aggregator

variable {a : Aggregator} {subject : String} {selection : Selection} {filter : Filter}
  {now : Instant} {h : History}

/-- A history is loaded only after every selected source has answered. -/
theorem answers_of_loaded (hr : (a.run subject selection filter now).outcome = .loaded h) :
    ∀ s ∈ a.registry.select selection, ∃ n signals,
      s.fetch (Address.normalize subject) filter = .after n (.ok signals) := by
  rcases a.outcome_cases subject selection filter now with
    ⟨i, n, f, -, hends⟩ | hends | ⟨hanswers, -⟩
  · cases hends.symm.trans hr
  · cases hends.symm.trans hr
  · exact hanswers

end Aggregator

namespace Databases

variable {d : Databases} {subject : String} {selection : Selection} {filter : Filter}
  {now : Instant} {h : History}

theorem select_registry (d : Databases) (selection : Selection) :
    d.registry.select selection =
      selection.points.map fun p => (d.pool (roleOf p)).source p := by
  have hsources : d.registry.sources =
      ContactPoint.sources.map fun p => (d.pool (roleOf p)).source p := rfl
  unfold Registry.select
  rw [hsources, List.filter_map]
  exact congrArg _ (filter_contains_of_sublist selection.sublist ContactPoint.nodup_sources)

/-- The queries that the selected contact points ask for a subject under a filter. -/
def eventQueries (subject : String) (selection : Selection) (filter : Filter) : List Query :=
  selection.points.map fun p =>
    .events p (roleOf p) (Address.normalize subject) filter.allowList?

theorem eventQueries_eq (subject : String) (selection : Selection) (filter : Filter) :
    eventQueries subject selection filter = selection.points.map fun p => .events p
      (if p ∈ [.crcTrust, .crcHubTransfer, .erc20Transfer] then .index else .application)
      (Address.normalize subject)
      (if filter.addresses = [] then none else some filter.addresses) := by
  have hrole (p : ContactPoint) : roleOf p =
      if p ∈ [.crcTrust, .crcHubTransfer, .erc20Transfer] then .index else .application := by
    cases p <;> rfl
  simp only [eventQueries, hrole, Filter.allowList?, List.isEmpty_iff]

/-- Where polling ends with answers, every selected contact point has put its query. -/
theorem polling_queries
    (hanswers : ∀ s ∈ d.registry.select selection, ∃ n signals,
      s.fetch (Address.normalize subject) filter = .after n (.ok signals)) :
    (Polling.run (d.registry.select selection) (Address.normalize subject) filter).2.queries =
      eventQueries subject selection filter := by
  have hquiet : ∀ s ∈ d.registry.select selection,
      (Polling.failureAt (Address.normalize subject) filter 0 s).isSome = false := by
    intro s hs
    obtain ⟨n, signals, hfetch⟩ := hanswers s hs
    simp [Polling.failureAt, hfetch]
  rw [Polling.run_queries, upToFirst_eq_self hquiet, select_registry, List.flatMap_map]
  exact List.map_eq_flatMap.symm

/-- The query of a contact point for a subject under a filter returns the row. -/
def Returns (d : Databases) (subject : String) (filter : Filter) (point : ContactPoint)
    (row : EventRow) : Prop :=
  ∃ rows, (d.get (roleOf point)).events point (Address.normalize subject) filter.allowList? =
    .ok rows ∧ row ∈ rows

/-- The query of some selected contact point returns a row that names an allowed counterparty. -/
def Mentions (d : Databases) (subject : String) (selection : Selection) (filter : Filter) : Prop :=
  ∃ point ∈ selection.points, ∃ row, d.Returns subject filter point row ∧
    ∃ counterparty, row.Names counterparty ∧ filter.allows counterparty = true

/-- The signals are those of the rows that the queries of the selected contact points return, and
all of these rows were read. -/
structure Reads (d : Databases) (subject : String) (selection : Selection) (filter : Filter)
    (signals : List Signal) : Prop where
  rows : ∀ point ∈ selection.points, ∀ row, d.Returns subject filter point row →
    ∃ s ∈ signals, row.toSignal point = .ok s
  only : ∀ s ∈ signals, ∃ point ∈ selection.points, ∃ row, d.Returns subject filter point row ∧
    row.toSignal point = .ok s

theorem fetch_eq_ok_iff {db : Pool} {point : ContactPoint} {n : Nat} {signals : List Signal} :
    (db.source point).fetch subject filter = .after n (.ok signals) ↔
      n = 0 ∧ ∃ rows, db.database.events point subject filter.allowList? = .ok rows ∧
        EventRow.toSignals point rows = .ok signals := by
  rw [Pool.fetch_source]
  cases hevents : db.database.events point subject filter.allowList? <;>
    simp [Except.mapError, Except.bind, eq_comm]

/-- The queries of a run whose polling ends with answers: those of the contact points, and behind
them those of a lookup. -/
theorem run_queries {batches : List (List Signal)}
    (hanswers : ∀ s ∈ d.registry.select selection, ∃ n signals,
      s.fetch (Address.normalize subject) filter = .after n (.ok signals))
    (hpolled : (Polling.run (d.registry.select selection) (Address.normalize subject) filter).1 =
      .answered batches) :
    (d.aggregator.run subject selection filter now).queries =
      eventQueries subject selection filter ++
        (d.aggregator.conclude filter now batches).queries :=
  (Aggregator.run_queries_of_answered (a := d.aggregator) now hpolled).trans
    (congrArg (· ++ _) (polling_queries hanswers))

/-- A loaded history is concluded from the signals of all rows. -/
theorem exists_reads_of_loaded
    (hr : (d.aggregator.run subject selection filter now).outcome = .loaded h) :
    ∃ batches, d.Reads subject selection filter batches.flatten ∧
      (d.aggregator.conclude filter now batches).outcome = .loaded h ∧
      (d.aggregator.run subject selection filter now).queries =
        eventQueries subject selection filter ++
          (d.aggregator.conclude filter now batches).queries := by
  have hanswers := Aggregator.answers_of_loaded hr
  have hpolled := Polling.run_of_answers hanswers
  have houtcome := (Aggregator.run_of_answered now hpolled).1
  rw [hr] at houtcome
  have hselect : d.aggregator.registry.select selection = _ := d.select_registry selection
  have hpoints : ∀ point ∈ selection.points, ∃ rows signals,
      (d.get (roleOf point)).events point (Address.normalize subject) filter.allowList? =
        .ok rows ∧
      EventRow.toSignals point rows = .ok signals ∧
      Polling.signalsOf
        (((d.pool (roleOf point)).source point).fetch (Address.normalize subject) filter) =
        signals := by
    intro point hpoint
    obtain ⟨n, signals, hfetch⟩ := hanswers _ (hselect ▸ List.mem_map_of_mem hpoint)
    obtain ⟨-, rows, hrows, hread⟩ := fetch_eq_ok_iff.mp hfetch
    exact ⟨rows, signals, hrows, hread, by rw [hfetch]; rfl⟩
  refine ⟨_, ⟨fun point hpoint row hrow => ?_, fun s hs => ?_⟩, houtcome.symm,
    run_queries hanswers hpolled⟩
  · obtain ⟨rows, signals, hrows, hread, hsignals⟩ := hpoints point hpoint
    obtain ⟨rows', hrows', hmem⟩ := hrow
    cases hrows.symm.trans hrows'
    obtain ⟨s, hs, hrs⟩ := (mem_of_mapM_eq_ok hread).1 row hmem
    refine ⟨s, List.mem_flatten.mpr ⟨signals, ?_, hs⟩, hrs⟩
    rw [hselect, List.map_map]
    exact List.mem_map.mpr ⟨point, hpoint, hsignals⟩
  · obtain ⟨batch, hbatch, hs⟩ := List.mem_flatten.mp hs
    rw [hselect, List.map_map] at hbatch
    obtain ⟨point, hpoint, rfl⟩ := List.mem_map.mp hbatch
    obtain ⟨rows, signals, hrows, hread, hsignals⟩ := hpoints point hpoint
    rw [Function.comp_apply, hsignals] at hs
    obtain ⟨row, hrow, hrs⟩ := (mem_of_mapM_eq_ok hread).2 s hs
    exact ⟨point, hpoint, row, ⟨rows, hrows, hrow⟩, hrs⟩

/-- Of the signals of all rows one is allowed if and only if a row names an allowed counterparty. -/
theorem Reads.filter_eq_nil_iff {signals : List Signal}
    (hreads : d.Reads subject selection filter signals) :
    (signals.filter fun s => filter.allows s.counterparty) = [] ↔
      ¬d.Mentions subject selection filter := by
  rw [List.filter_eq_nil_iff]
  constructor
  · rintro hnone ⟨point, hpoint, row, hrow, counterparty, hnames, hallows⟩
    obtain ⟨s, hs, hrs⟩ := hreads.rows point hpoint row hrow
    refine hnone s hs ?_
    rw [(EventRow.toSignal_spec hrs).1.unique hnames]
    exact hallows
  · intro hnone s hs hallows
    obtain ⟨point, hpoint, row, hrow, hrs⟩ := hreads.only s hs
    exact hnone ⟨point, hpoint, row, hrow, s.counterparty, (EventRow.toSignal_spec hrs).1, hallows⟩

end Databases
end ContactHistory
