import ContactHistory.Proofs.Outcomes

namespace ContactHistory

/-- The source has some signals for a subject, and answers with all of them or with those that the
filter allows. -/
def Source.Offers (s : Source) (subject : String) (signals : List Signal) : Prop :=
  ∀ filter : Filter, ∃ n,
    s.fetch subject filter = .after n (.ok signals) ∨
      s.fetch subject filter = .after n (.ok (signals.filter fun u => filter.allows u.counterparty))

theorem Source.Offers.answer {s : Source} {subject : String} {signals : List Signal}
    (h : s.Offers subject signals) (filter : Filter) :
    ∃ n answer, s.fetch subject filter = .after n (.ok answer) ∧
      (answer.filter fun u => filter.allows u.counterparty) =
        signals.filter fun u => filter.allows u.counterparty := by
  obtain ⟨n, hr | hr⟩ := h filter
  · exact ⟨n, signals, hr, rfl⟩
  · refine ⟨n, _, hr, ?_⟩
    rw [List.filter_filter]
    simp only [Bool.and_self]

namespace Roster

theorem holds_unrestricted (ss : List Signal) :
    Holds .unrestricted ss ((empty .unrestricted).extend ss) := by
  have h := holds_extend_empty .unrestricted ss
  rwa [show (ss.filter fun s => Filter.unrestricted.allows s.counterparty) = ss from
    List.filter_eq_self.mpr fun _ _ => rfl] at h

/-- Choosing among the contacts of all signals is gathering the allowed ones. -/
theorem contacts_extend_filter (f : Filter) (ss : List Signal) :
    ((empty f).extend ss).contacts =
      ((empty .unrestricted).extend ss).contacts.filter fun c => f.allows c.counterparty := by
  have hall := (holds_unrestricted ss).contacts
  have hkept := (holds_extend_empty f ss).contacts
  exact hkept.1.unique (hall.1.filter f.allows) hkept.2 (hall.2.sublist List.filter_sublist)

end Roster

namespace Aggregator

variable {subject : String} {selection : Selection} {lists : ContactPoint → List Signal}

theorem gather_offers {ss : List Source} {subject : String} (filter : Filter)
    (h : ∀ s ∈ ss, s.Offers subject (lists s.point)) :
    gather filter (ss.map fun s => Polling.signalsOf (s.fetch subject filter)) =
      gather filter (ss.map fun s => lists s.point) := by
  apply gather_congr
  rw [List.filter_flatten, List.filter_flatten, List.map_map, List.map_map]
  refine congrArg List.flatten (List.map_congr_left fun s hs => ?_)
  obtain ⟨n, answer, hr, hanswer⟩ := (h s hs).answer filter
  simp only [Function.comp_apply, hr, Polling.signalsOf]
  exact hanswer

/-- A run over sources that have some signals ends as if every source answered in full. -/
theorem run_of_offers {a : Aggregator} (filter : Filter) (now : Instant)
    (h : ∀ s ∈ a.registry.select selection,
      s.Offers (Address.normalize subject) (lists s.point)) :
    let batches := (a.registry.select selection).map fun s => lists s.point
    (a.run subject selection filter now).outcome = (a.conclude filter now batches).outcome ∧
      (a.run subject selection filter now).lookups = (a.conclude filter now batches).lookups := by
  intro batches
  have hanswers : ∀ s ∈ a.registry.select selection, ∃ n signals,
      s.fetch (Address.normalize subject) filter = .after n (.ok signals) := by
    intro s hs
    obtain ⟨n, answer, hr, _⟩ := (h s hs).answer filter
    exact ⟨n, answer, hr⟩
  rw [← conclude_congr a now (gather_offers filter h)]
  exact run_of_answered now (Polling.run_of_answers hanswers)

/-- The sources of a registry matter only through the selected points and what they have. -/
theorem run_eq_of_offers {a b : Aggregator} (filter : Filter) (now : Instant)
    (hp : b.profiles = a.profiles)
    (hab : (b.registry.select selection).map Source.point =
      (a.registry.select selection).map Source.point)
    (ha : ∀ s ∈ a.registry.select selection,
      s.Offers (Address.normalize subject) (lists s.point))
    (hb : ∀ s ∈ b.registry.select selection,
      s.Offers (Address.normalize subject) (lists s.point)) :
    (b.run subject selection filter now).outcome =
      (a.run subject selection filter now).outcome := by
  have hlists (c : Aggregator) : ((c.registry.select selection).map fun s => lists s.point) =
      ((c.registry.select selection).map Source.point).map lists := by
    rw [List.map_map]
    rfl
  have hbatches : ((b.registry.select selection).map fun s => lists s.point) =
      (a.registry.select selection).map fun s => lists s.point := by
    rw [hlists, hlists, hab]
  rw [(run_of_offers filter now ha).1, (run_of_offers filter now hb).1, hbatches, conclude_outcome,
    conclude_outcome, hp]

/-- Over sources that have some signals, a restricted run gives the allowed contacts of the
unrestricted one with the latest of their times, and contacts of profiles only if there are none of
them. Which sources apply the filter themselves makes no difference. -/
theorem run_filter_eq_filter_run (a : Aggregator) (subject : String) (selection : Selection)
    (filter : Filter) (now : Instant) (lists : ContactPoint → List Signal)
    (hf : filter.isRestricted = true)
    (ha : ∀ s ∈ a.registry.select selection,
      s.Offers (Address.normalize subject) (lists s.point)) :
    let r := a.run subject selection filter now
    (∃ h, (∀ u, (a.run subject selection .unrestricted u).outcome = .loaded h) ∧
      let allowed := h.contacts.filter fun c => filter.allows c.counterparty
      (allowed ≠ [] → r.lookups = [] ∧ (∀ c ∈ allowed, c.profile = none) ∧
        ∃ t, r.outcome = .loaded ⟨some t, allowed⟩ ∧ t.Latest (allowed.map Contact.lastAt)) ∧
      (allowed = [] → r.lookups = [filter.addresses] ∧
        (∀ e, a.profiles filter.addresses = .error e → r.outcome = .failed (.profiles e)) ∧
        ∀ table, a.profiles filter.addresses = .ok table →
          ∃ cs, r.outcome = .loaded ⟨none, cs⟩ ∧
            ∀ c, c ∈ cs ↔ ∃ address ∈ filter.addresses, ∃ p, table.find? address = some p ∧
              c = Contact.ofProfile p now)) ∧
    ∀ b : Aggregator, b.profiles = a.profiles →
      (b.registry.select selection).map Source.point =
        (a.registry.select selection).map Source.point →
      (∀ s ∈ b.registry.select selection,
        s.Offers (Address.normalize subject) (lists s.point)) →
      ∀ f u, (b.run subject selection f u).outcome = (a.run subject selection f u).outcome := by
  intro r
  refine ⟨?_, fun b hp hab hb f u => run_eq_of_offers f u hp hab ha hb⟩
  let batches := (a.registry.select selection).map fun s => lists s.point
  let all := gather .unrestricted batches
  let kept := gather filter batches
  have hr : r.outcome = (a.conclude filter now batches).outcome ∧
      r.lookups = (a.conclude filter now batches).lookups := run_of_offers filter now ha
  have hkept : Roster.Holds filter (batches.flatten.filter fun s => filter.allows s.counterparty)
      kept := Roster.holds_extend_empty filter batches.flatten
  refine ⟨⟨all.watermark, all.contacts⟩, ?_, ?_⟩
  · intro u
    rw [(run_of_offers .unrestricted u ha).1, conclude_of_gathered u (.inr rfl)]
  · intro allowed
    have hallowed : allowed = kept.contacts :=
      (Roster.contacts_extend_filter filter batches.flatten).symm
    have hnil : allowed = [] ↔ kept.isEmpty = true := by
      rw [hallowed, hkept.contacts.1.eq_nil_iff, hkept.isEmpty_iff]
    constructor
    · intro hne
      have hsome : kept.isEmpty = false := Bool.eq_false_iff.mpr fun he => hne (hnil.mpr he)
      have hc : a.conclude filter now batches = ⟨[], [], .loaded ⟨kept.watermark, kept.contacts⟩⟩ :=
        conclude_of_gathered now (.inl hsome)
      obtain ⟨t, ht, hlatest⟩ := hkept.watermark_latest fun hk =>
        hne (hnil.mpr (hkept.isEmpty_iff.mpr hk))
      rw [hc, ht] at hr
      rw [hallowed]
      exact ⟨hr.2, hkept.contacts.1.profile, t, hr.1, hlatest⟩
    · intro he
      rw [conclude_of_isEmpty now (hnil.mp he) hf] at hr
      refine ⟨hr.2, fun e hp => ?_, fun table hp => ?_⟩
      · rw [hr.1, hp]
      · rw [hr.1, hp]
        exact ⟨(backfill table filter now).contacts, rfl, fun c => mem_backfill⟩

/-- Of two sources one applies the filter and one does not; the result is the allowed contact of the
unrestricted run, as it is where neither applies it. -/
theorem run_filter_eq_filter_run_mixed :
    let sent : Signal := .ofEvents .crcTrust "0xdef" [⟨.outward, "50", ⟨1000⟩⟩]
    let other : Signal := .ofEvents .crcTrust "0x123" [⟨.outward, "70", ⟨9000⟩⟩]
    let got : Signal := .ofEvents .crcHubTransfer "0xdef" [⟨.inward, "10", ⟨2000⟩⟩]
    let lists : ContactPoint → List Signal :=
      fun p => if p = .crcTrust then [sent, other] else [got, other]
    let obeying : Source := ⟨.crcTrust, fun _ f =>
      pure <| .after 1 (.ok ((lists .crcTrust).filter fun u => f.allows u.counterparty))⟩
    let ignoring (p : ContactPoint) : Source := ⟨p, fun _ _ => pure <| .after 0 (.ok (lists p))⟩
    let a : Aggregator :=
      ⟨.ofSources [obeying, ignoring .crcHubTransfer], fun _ => pure (.ok .empty)⟩
    let b : Aggregator :=
      ⟨.ofSources [ignoring .crcTrust, ignoring .crcHubTransfer], fun _ => pure (.ok .empty)⟩
    let filter := Filter.ofAddresses ["0xDEF"]
    let r := a.run " 0xABC" .all filter .epoch
    let allowed : List Contact := [⟨"0xdef", [sent, got], ⟨2000⟩, none⟩]
    filter.isRestricted = true ∧
    (∀ s ∈ a.registry.select .all, s.Offers (Address.normalize " 0xABC") (lists s.point)) ∧
    (∃ h, (a.run " 0xABC" .all .unrestricted .epoch).outcome = .loaded h ∧
      (h.contacts.filter fun c => filter.allows c.counterparty) = allowed) ∧
    r.outcome = .loaded ⟨some ⟨2000⟩, allowed⟩ ∧
    (b.run " 0xABC" .all filter .epoch).outcome = r.outcome := by
  intro sent other got lists obeying ignoring a b filter r allowed
  have hf : filter.isRestricted = true := by decide
  have hobeying : obeying.Offers (Address.normalize " 0xABC") (lists .crcTrust) :=
    fun _ => ⟨1, .inr rfl⟩
  have hignoring (p : ContactPoint) :
      (ignoring p).Offers (Address.normalize " 0xABC") (lists p) := fun _ => ⟨0, .inl rfl⟩
  have ha : ∀ s ∈ a.registry.select .all,
      s.Offers (Address.normalize " 0xABC") (lists s.point) := by
    have hs : a.registry.select .all = [obeying, ignoring .crcHubTransfer] := rfl
    simp only [hs, List.forall_mem_cons]
    exact ⟨hobeying, hignoring .crcHubTransfer, by simp⟩
  have hb : ∀ s ∈ b.registry.select .all,
      s.Offers (Address.normalize " 0xABC") (lists s.point) := by
    have hs : b.registry.select .all = [ignoring .crcTrust, ignoring .crcHubTransfer] := rfl
    simp only [hs, List.forall_mem_cons]
    exact ⟨hignoring .crcTrust, hignoring .crcHubTransfer, by simp⟩
  have hr : r.outcome = .loaded ⟨some ⟨2000⟩, allowed⟩ := by decide +kernel
  obtain ⟨⟨h, hall, hsome, hnone⟩, hother⟩ :=
    run_filter_eq_filter_run a " 0xABC" .all filter .epoch lists hf ha
  refine ⟨hf, ha, ⟨h, hall .epoch, ?_⟩, hr, hother b rfl rfl hb filter .epoch⟩
  by_cases hnil : (h.contacts.filter fun c => filter.allows c.counterparty) = []
  · obtain ⟨cs, hcs, _⟩ := (hnone hnil).2.2 .empty rfl
    cases hr.symm.trans hcs
  · obtain ⟨-, -, t, ht, -⟩ := hsome hnil
    have he := Outcome.loaded.inj (hr.symm.trans ht)
    exact (congrArg History.contacts he).symm

end Aggregator
end ContactHistory
