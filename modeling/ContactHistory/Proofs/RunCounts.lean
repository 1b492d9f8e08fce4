import ContactHistory.Http.Service
import ContactHistory.Proofs.PayloadIdentity
import ContactHistory.Proofs.PollingTrace
import ContactHistory.Proofs.SeriesCounts
import Mathlib.Data.List.Count

namespace ContactHistory

/-- A list holds the items that are collected from others as often as there are others with them. -/
theorem count_flatMap_of_nodup {α β : Type} [DecidableEq β] {g : α → List β}
    (hg : ∀ a, (g a).Nodup) (b : β) (as : List α) :
    (as.flatMap g).count b = as.countP fun a => b ∈ g a := by
  induction as with
  | nil => rfl
  | cons a as ih =>
    rw [List.flatMap_cons, List.count_append, ih, List.countP_cons, (hg a).count, Nat.add_comm]
    simp only [decide_eq_true_eq]

/-- The result that an outcome counts as; a stalled run does not count. -/
def Outcome.result? : Outcome → Option Metrics.Result
  | .stalled => none
  | .failed _ => some .failure
  | .loaded _ => some .success

theorem Outcome.result?_eq_none_iff {o : Outcome} : o.result? = none ↔ o = .stalled := by
  cases o <;> simp [result?]

theorem Metrics.Result.name_injective : Function.Injective name := by
  intro r s
  cases r <;> cases s <;> decide

namespace Http

open Metrics

def resultLabels (r : Result) : List String := [serviceName, r.name]

def sourceLabels (p : ContactPoint) : List String := [serviceName, p.name]

theorem resultLabels_injective : Function.Injective resultLabels := by
  intro r s h
  simp only [resultLabels, List.cons.injEq, and_true, true_and] at h
  exact Result.name_injective h

theorem sourceLabels_injective : Function.Injective sourceLabels := by
  intro p q h
  simp only [sourceLabels, List.cons.injEq, and_true, true_and] at h
  exact ContactPoint.name_inj h

theorem apart_resultLabels (rs : List Result) : Apart (rs.map resultLabels) := by
  have hall : Apart ([.success, .failure].map resultLabels) := by decide +kernel
  exact hall.of_subset (List.map_subset _ fun r _ => by cases r <;> simp)

theorem apart_sourceLabels (ps : List ContactPoint) : Apart (ps.map sourceLabels) := by
  have hall : Apart (ContactPoint.all.map sourceLabels) := by decide +kernel
  exact hall.of_subset (List.map_subset _ fun p _ => ContactPoint.mem_all p)

variable (m : Metrics) (nanos : ContactPoint → Nat) (r : Run)

theorem countRun_aggregations : (countRun m nanos r).aggregations =
    r.outcome.result?.toList.foldl (fun s result => s.update (resultLabels result) 0 (· + 1))
      m.aggregations := by
  rw [countRun, countSources_eq]
  cases r.outcome <;> rfl

theorem countRun_sourceSeconds : (countRun m nanos r).sourceSeconds =
    r.finished.foldl (fun s p => s.update (sourceLabels p) (.empty sourceBounds)
      (.observe sourceBounds (nanos p))) m.sourceSeconds := by
  rw [countRun, countSources_eq]
  cases r.outcome <;> rfl

end Http

namespace Aggregator

open Http Metrics

/-- A call of an aggregator, with the nanoseconds that each of its sources takes. -/
structure Invocation where
  aggregator : Aggregator
  subject : String
  selection : Selection
  filter : Filter
  now : Instant
  sourceNanos : ContactPoint → Nat

namespace Invocation

def address (c : Invocation) : String := Address.normalize c.subject

def sources (c : Invocation) : List Source := c.aggregator.registry.select c.selection

def run (c : Invocation) : Run := c.aggregator.run c.subject c.selection c.filter c.now

def count (m : Metrics) (c : Invocation) : Metrics := countRun m c.sourceNanos c.run

/-- The results that the call counts as, of which there is one if it returns. -/
def results (c : Invocation) : List Result := c.run.outcome.result?.toList

/-- The call hears the source of a point. -/
def Hears (c : Invocation) (p : ContactPoint) : Prop :=
  Polling.Heard c.address c.filter c.sources p

instance (c : Invocation) (p : ContactPoint) : Decidable (c.Hears p) :=
  inferInstanceAs (Decidable (Polling.Heard c.address c.filter c.sources p))

variable {c : Invocation} {p : ContactPoint}

theorem run_finished (c : Invocation) :
    c.run.finished = (Polling.run c.sources c.address c.filter).2.finished := by
  unfold run Aggregator.run sources address
  split <;> simp [*]

theorem mem_finished_iff : p ∈ c.run.finished ↔ c.Hears p := by
  rw [run_finished]
  exact Polling.mem_run_finished_iff

theorem nodup_finished (c : Invocation) : c.run.finished.Nodup := by
  rw [run_finished]
  exact Polling.nodup_run_finished (c.aggregator.registry.nodup_map_point_select c.selection)

theorem mem_results_iff {r : Result} : r ∈ c.results ↔ c.run.outcome.result? = some r := by
  rw [results, Option.mem_toList]

theorem nodup_results (c : Invocation) : c.results.Nodup := Option.toList_nodup _

theorem length_results (h : c.run.outcome ≠ .stalled) : c.results.length = 1 := by
  rw [results, Option.length_toList, if_pos]
  exact Option.isSome_iff_ne_none.mpr fun hnone => h (Outcome.result?_eq_none_iff.mp hnone)

/-- The failure of a source that a call returns is the earliest one, and it returns any such. -/
theorem failed_source_iff {f : Failure} : c.run.outcome = .failed (.source f) ↔
    ∃ i n, EarliestFailure c.address c.filter c.sources i n f := by
  constructor
  · intro h
    rcases c.aggregator.outcome_cases c.subject c.selection c.filter c.now with
      ⟨i, n, g, hg, hends⟩ | hends | ⟨-, batches, hends⟩
    · have hsame := hends.symm.trans h
      rw [Outcome.failed.injEq, AggregationError.source.injEq] at hsame
      exact ⟨i, n, hsame ▸ hg⟩
    · cases hends.symm.trans h
    · exact absurd (hends.symm.trans h) (conclude_ne_failed_source _ _ _ _ f)
  · rintro ⟨i, n, hf⟩
    obtain ⟨s, hs, -, hr⟩ := hf.fails
    obtain ⟨j, m, g, hg, hrun⟩ := Polling.run_earliestFailure (List.mem_of_getElem? hs) hr
    rw [hf.unique hg]
    exact (run_of_failed c.now hrun).1

/-- A call hears all its sources unless one of them fails or it stalls. -/
theorem hears_of_not_failed_source (hstalled : c.run.outcome ≠ .stalled)
    (hfailed : ∀ f, c.run.outcome ≠ .failed (.source f)) : ∀ s ∈ c.sources, c.Hears s.point := by
  intro s hs
  rcases c.aggregator.outcome_cases c.subject c.selection c.filter c.now with
    ⟨_, _, f, -, hends⟩ | hends | ⟨hanswers, -⟩
  · exact absurd hends (hfailed f)
  · exact absurd hends hstalled
  · obtain ⟨i, hi⟩ := List.mem_iff_getElem?.mp hs
    obtain ⟨n, signals, hr⟩ := hanswers s hs
    refine ⟨i, s, n, _, hi, rfl, hr, fun j m f hf => ?_⟩
    exact absurd (failed_source_iff.mpr ⟨j, m, hf⟩) (hfailed f)

end Invocation

/-- The metrics tell what some calls have come to. -/
structure RunsCount (m : Metrics) (calls : List Invocation) : Prop where
  aggregations : m.aggregations.Counts id ((calls.flatMap Invocation.results).map resultLabels)
  total : m.aggregations.total = (calls.flatMap Invocation.results).length
  sources : m.sourceSeconds.Counts Histogram.count
    ((calls.flatMap fun c => c.run.finished).map sourceLabels)

namespace RunsCount

variable {m : Metrics} {calls : List Invocation}

theorem count (h : RunsCount m calls) (c : Invocation) : RunsCount (c.count m) (calls ++ [c]) where
  aggregations := by
    rw [Invocation.count, countRun_aggregations, List.flatMap_append, List.flatMap_singleton,
      List.map_append]
    refine h.aggregations.foldl ?_ rfl fun _ _ => rfl
    rw [← List.map_append]
    exact apart_resultLabels _
  total := by
    rw [Invocation.count, countRun_aggregations, Series.total_foldl_update, h.total,
      List.flatMap_append, List.flatMap_singleton, List.length_append]
    rfl
  sources := by
    rw [Invocation.count, countRun_sourceSeconds, List.flatMap_append, List.flatMap_singleton,
      List.map_append]
    refine h.sources.foldl ?_ rfl fun _ _ => rfl
    rw [← List.map_append]
    exact apart_sourceLabels _

theorem foldl (h : RunsCount m calls) (more : List Invocation) :
    RunsCount (more.foldl Invocation.count m) (calls ++ more) := by
  induction more generalizing m calls with
  | nil => rwa [List.append_nil]
  | cons c more ih =>
    rw [← List.singleton_append, ← List.append_assoc, List.singleton_append, List.foldl_cons]
    exact ih (h.count c)

end RunsCount

/-- The metrics of a service that had counted no run tell, of any calls, how many returned each
result, so that every call that returns counts once; and for each source, how many calls have heard
it. A call hears its sources up to the earliest failure, which it returns, and all of them if none
fails and it returns. -/
theorem runs_counted (calls : List Invocation) (m : Metrics)
    (haggregations : m.aggregations = .empty) (hsources : m.sourceSeconds = .empty) :
    let after := calls.foldl Invocation.count m
    (∀ result, after.aggregations.entries.lookup (resultLabels result) =
      tally (calls.countP fun c => c.run.outcome.result? = some result)) ∧
    ((∀ c ∈ calls, c.run.outcome ≠ .stalled) →
      after.aggregations.total = calls.length) ∧
    (∀ p, (after.sourceSeconds.entries.lookup (sourceLabels p)).map Histogram.count =
      tally (calls.countP fun c => c.Hears p)) ∧
    (after.aggregations.entries.map Prod.fst).Nodup ∧
    (after.sourceSeconds.entries.map Prod.fst).Nodup ∧
    ∀ c ∈ calls,
      (∀ f, c.run.outcome = .failed (.source f) ↔
        ∃ i n, EarliestFailure c.address c.filter c.sources i n f) ∧
      (c.run.outcome ≠ .stalled → (∀ f, c.run.outcome ≠ .failed (.source f)) →
        ∀ s ∈ c.sources, c.Hears s.point) := by
  intro after
  have hstart : RunsCount m [] := by
    refine ⟨?_, ?_, ?_⟩
    · exact haggregations ▸ Series.counts_empty
    · rw [haggregations]
      rfl
    · exact hsources ▸ Series.counts_empty
  have hafter : RunsCount after calls := hstart.foldl calls
  refine ⟨fun result => ?_, fun hends => ?_, fun p => ?_, hafter.aggregations.nodup,
    hafter.sources.nodup, fun c _ => ⟨fun f => Invocation.failed_source_iff, fun hstalled hfailed =>
      Invocation.hears_of_not_failed_source hstalled hfailed⟩⟩
  · have hvalue := hafter.aggregations.value (resultLabels result)
    rw [Option.map_id, List.count_map_of_injective _ _ resultLabels_injective,
      count_flatMap_of_nodup Invocation.nodup_results] at hvalue
    simpa only [Invocation.mem_results_iff, id_eq] using hvalue
  · have hone := List.map_congr_left fun c hc => Invocation.length_results (hends c hc)
    rw [hafter.total, List.length_flatMap, hone]
    simp
  · have hvalue := hafter.sources.value (sourceLabels p)
    rw [List.count_map_of_injective _ _ sourceLabels_injective,
      count_flatMap_of_nodup Invocation.nodup_finished] at hvalue
    simpa only [Invocation.mem_finished_iff] using hvalue

/-- Of two calls that fail, one is ended by its second source before two others are heard, and one
fails without a profile after all were heard; a third call loads a history. -/
theorem runs_counted_mixed :
    let call (filter : Filter) (ss : List Source) : Invocation :=
      ⟨⟨.ofSources ss, fun _ => pure (.error .poolTimedOut)⟩, " 0xABC", .all, filter, .epoch,
        fun _ => 0⟩
    let source (p : ContactPoint) (r : Reply) : Source := ⟨p, fun _ _ => pure r⟩
    let loaded := call .unrestricted [source .crcTrust (.after 2 (.ok [])),
      source .crcHubTransfer (.after 0 (.ok []))]
    let failed := call .unrestricted [source .crcTrust .stalled,
      source .crcHubTransfer (.after 1 (.error (.query .poolClosed))),
      source .erc20Transfer (.after 0 (.ok [])), source .chatMessage (.after 1 (.ok []))]
    let unbacked := call (.ofAddresses ["0xDEF"]) [source .crcTrust (.after 0 (.ok []))]
    let calls := [loaded, failed, unbacked]
    let after := calls.foldl Invocation.count .empty
    let seconds (p : ContactPoint) :=
      (after.sourceSeconds.entries.lookup (sourceLabels p)).map Histogram.count
    calls.map (fun c => c.run.outcome) = [.loaded ⟨none, []⟩,
      .failed (.source ⟨.crcHubTransfer, .query .poolClosed⟩), .failed (.profiles .poolTimedOut)] ∧
    after.aggregations.entries.lookup (resultLabels .success) = some 1 ∧
    after.aggregations.entries.lookup (resultLabels .failure) = some 2 ∧
    after.aggregations.total = 3 ∧
    seconds .crcTrust = some 2 ∧ seconds .crcHubTransfer = some 2 ∧
    seconds .erc20Transfer = some 1 ∧ seconds .chatMessage = none := by
  intro call source loaded failed unbacked calls after seconds
  obtain ⟨hresults, htotal, hseconds, -⟩ := runs_counted calls .empty rfl rfl
  refine ⟨by decide +kernel, ?_, ?_, htotal (by decide +kernel), ?_, ?_, ?_, ?_⟩
  · exact (hresults .success).trans (by decide +kernel)
  · exact (hresults .failure).trans (by decide +kernel)
  · exact (hseconds .crcTrust).trans (by decide +kernel)
  · exact (hseconds .crcHubTransfer).trans (by decide +kernel)
  · exact (hseconds .erc20Transfer).trans (by decide +kernel)
  · exact (hseconds .chatMessage).trans (by decide +kernel)

end Aggregator
end ContactHistory
