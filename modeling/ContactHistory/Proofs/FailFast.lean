import ContactHistory.Proofs.Outcomes

namespace ContactHistory

theorem upToFirst_sublist {α : Type} (p : α → Bool) (as : List α) :
    (upToFirst p as).Sublist as := by
  induction as with
  | nil => exact .slnil
  | cons a as ih =>
    unfold upToFirst
    split
    · exact (List.nil_sublist as).cons_cons a
    · exact ih.cons_cons a

theorem Registry.nodup_map_point_select (r : Registry) (s : Selection) :
    ((r.select s).map Source.point).Nodup := by
  apply List.Nodup.sublist _ r.nodup
  exact List.filter_sublist.map Source.point

/-- Source number `i` of a list fails after `n` rounds, and every other failure comes later, or as
early from a source further down. -/
structure EarliestFailure (subject : String) (filter : Filter) (sources : List Source) (i n : Nat)
    (f : Failure) : Prop where
  fails : ∃ s, sources[i]? = some s ∧ f.point = s.point ∧
    s.fetch subject filter = .after n (.error f.error)
  least : ∀ j m s e, sources[j]? = some s → s.fetch subject filter = .after m (.error e) →
    n < m ∨ n = m ∧ i ≤ j

namespace Polling

variable {subject : String} {filter : Filter} {ss : List Source}

theorem earliestFailure_of_findSome? {n : Nat} {f : Failure} (hq : Quiet subject filter n ss)
    (hf : ss.findSome? (failureAt subject filter n) = some f) :
    ∃ i, EarliestFailure subject filter ss i n f := by
  obtain ⟨front, s, rest, rfl, hs, hfront⟩ := List.findSome?_eq_some_iff.mp hf
  obtain ⟨hpoint, hr⟩ := failureAt_eq_some_iff.mp hs
  refine ⟨front.length, ⟨s, by simp, hpoint, hr⟩, fun j m u e hj hu => ?_⟩
  have hfails : failureAt subject filter m u = some ⟨u.point, e⟩ :=
    failureAt_eq_some_iff.mpr ⟨rfl, hu⟩
  have hn : n ≤ m := by
    refine Nat.le_of_not_lt fun hm => ?_
    rw [hq u (List.mem_of_getElem? hj) m hm] at hfails
    cases hfails
  rcases Nat.lt_or_eq_of_le hn with hlt | rfl
  · exact .inl hlt
  · refine .inr ⟨rfl, Nat.le_of_not_lt fun hlt => ?_⟩
    rw [List.getElem?_append_left hlt] at hj
    rw [hfront u (List.mem_of_getElem? hj)] at hfails
    cases hfails

theorem run_earliestFailure {s : Source} (hs : s ∈ ss) {n : Nat} {e : SourceError}
    (hr : s.fetch subject filter = .after n (.error e)) :
    ∃ i m f, EarliestFailure subject filter ss i m f ∧ (run ss subject filter).1 = .failed f := by
  obtain ⟨m, f, hq, hf⟩ := exists_first_failure hs hr
  obtain ⟨i, hi⟩ := earliestFailure_of_findSome? hq hf
  exact ⟨i, m, f, hi, run_of_failure hq hf⟩

end Polling

namespace Aggregator

/-- A run returns the earliest failure of its sources; where none fails, it stalls with one of them
or is concluded from the answers of all. -/
theorem outcome_cases (a : Aggregator) (subject : String) (selection : Selection)
    (filter : Filter) (now : Instant) :
    let sources := a.registry.select selection
    let address := Address.normalize subject
    let outcome := (a.run subject selection filter now).outcome
    (∃ i n f, EarliestFailure address filter sources i n f ∧ outcome = .failed (.source f)) ∨
    outcome = .stalled ∨
    (∀ s ∈ sources, ∃ n signals, s.fetch address filter = .after n (.ok signals)) ∧
      ∃ batches, outcome = (a.conclude filter now batches).outcome := by
  intro sources address outcome
  rcases Polling.replies_cases sources address filter with
    ⟨s, hs, n, e, hr⟩ | ⟨hnone, s, hs, hr⟩ | hanswers
  · obtain ⟨i, m, f, hearliest, hrun⟩ := Polling.run_earliestFailure hs hr
    exact .inl ⟨i, m, f, hearliest, (run_of_failed now hrun).1⟩
  · exact .inr (.inl (run_of_stalled now (Polling.run_of_stalled hs hr hnone)).1)
  · exact .inr (.inr ⟨hanswers, _, (run_of_answered now (Polling.run_of_answers hanswers)).1⟩)

/-- A run asks every selected source at most once, in order, up to the first that fails at once. If
some source fails, the run ends with the earliest failure and looks up no profile; if none fails and
one is stalled, no number of rounds ends it. -/
theorem run_fails_fast (a : Aggregator) (subject : String) (selection : Selection)
    (filter : Filter) (now : Instant) :
    let sources := a.registry.select selection
    let address := Address.normalize subject
    let r := a.run subject selection filter now
    (r.calls.map Call.point).Nodup ∧
    r.calls = (upToFirst (fun s => (Polling.failureAt address filter 0 s).isSome) sources).map
      (fun s => ⟨s.point, address, filter⟩) ∧
    ((∃ s ∈ sources, ∃ n e, s.fetch address filter = .after n (.error e)) →
      r.lookups = [] ∧ ∃ i n f, EarliestFailure address filter sources i n f ∧
        r.outcome = .failed (.source f)) ∧
    ((∀ s ∈ sources, ∀ n e, s.fetch address filter ≠ .after n (.error e)) →
      (∃ s ∈ sources, s.fetch address filter = .stalled) →
      r.lookups = [] ∧ r.outcome = .stalled ∧
        ∀ n, (Polling.rounds address filter n (sources.map .unasked) .empty).1 = .stalled) := by
  intro sources address r
  have hcalls := (run_calls a subject selection filter now).trans
    (Polling.run_calls sources address filter)
  refine ⟨?_, hcalls, ?_, ?_⟩
  · rw [show r.calls = _ from hcalls, List.map_map]
    apply List.Nodup.sublist _ (a.registry.nodup_map_point_select selection)
    exact (upToFirst_sublist _ sources).map Source.point
  · rintro ⟨s, hs, n, e, hr⟩
    obtain ⟨i, m, f, hearliest, hrun⟩ := Polling.run_earliestFailure hs hr
    have hfailed := run_of_failed now hrun
    exact ⟨hfailed.2, i, m, f, hearliest, hfailed.1⟩
  · rintro hnone ⟨s, hs, hr⟩
    have hstalled := run_of_stalled now (Polling.run_of_stalled hs hr hnone)
    refine ⟨hstalled.2, hstalled.1, fun n => ?_⟩
    change (Polling.rounds address filter n
      (sources.map (Polling.slotAt address filter 0)) .empty).1 = .stalled
    exact Polling.rounds_of_stalled n .empty hs hr (Polling.quiet_of_forall_ne hnone)

/-- Of a late failure, a stalled source and two failures at once, the first failure at once wins,
and the source behind it is not asked. -/
theorem run_fails_fast_at_once :
    let trust : Source := ⟨.crcTrust, fun _ _ => pure <| .after 1 (.error (.query .poolTimedOut))⟩
    let transfer : Source := ⟨.crcHubTransfer, fun _ _ => pure .stalled⟩
    let token : Source :=
      ⟨.erc20Transfer, fun _ _ => pure <| .after 0 (.error (.query .poolClosed))⟩
    let chat : Source := ⟨.chatMessage, fun _ _ => pure <| .after 0 (.error (.query .rowNotFound))⟩
    let a : Aggregator := ⟨.ofSources [trust, transfer, token, chat], fun _ => pure (.ok .empty)⟩
    let sources := a.registry.select .all
    let r := a.run " 0xABC" .all .unrestricted .epoch
    (∃ s ∈ sources, ∃ n e, s.fetch "0xabc" .unrestricted = .after n (.error e)) ∧
    r.lookups = [] ∧
    (∃ i n f, EarliestFailure "0xabc" .unrestricted sources i n f ∧
      r.outcome = .failed (.source f)) ∧
    r.outcome = .failed (.source ⟨.erc20Transfer, .query .poolClosed⟩) ∧
    r.calls = [⟨.crcTrust, "0xabc", .unrestricted⟩, ⟨.crcHubTransfer, "0xabc", .unrestricted⟩,
      ⟨.erc20Transfer, "0xabc", .unrestricted⟩] := by
  intro trust transfer token chat a sources r
  have hfails : ∃ s ∈ sources, ∃ n e, s.fetch "0xabc" .unrestricted = .after n (.error e) := by
    have hs : sources = [trust, transfer, token, chat] := rfl
    exact ⟨trust, by simp [hs], 1, _, rfl⟩
  have h := run_fails_fast a " 0xABC" .all .unrestricted .epoch
  have haddress : Address.normalize " 0xABC" = "0xabc" := by decide
  simp only [haddress] at h
  obtain ⟨hlookups, hearliest⟩ := h.2.2.1 hfails
  exact ⟨hfails, hlookups, hearliest, by decide, by decide⟩

end Aggregator
end ContactHistory
