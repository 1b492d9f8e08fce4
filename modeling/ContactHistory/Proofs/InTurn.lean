import ContactHistory.Proofs.Outcomes

namespace ContactHistory

/-- The signals of sources of which each is asked when the one before has answered. -/
def askInTurn (subject : String) (filter : Filter) :
    List Source → Option (Except Failure (List Signal))
  | [] => some (.ok [])
  | s :: ss =>
    match s.fetch subject filter with
    | .stalled => none
    | .after _ (.error e) => some (.error ⟨s.point, e⟩)
    | .after _ (.ok signals) =>
      (askInTurn subject filter ss).map fun rest => rest.map (signals ++ ·)

/-- A reply that comes after another number of rounds, if it ever comes. -/
def Reply.delayed (n : Nat) : Reply → Reply
  | .stalled => .stalled
  | .after _ answer => .after n answer

def Source.delayed (delays : ContactPoint → Nat) (s : Source) : Source :=
  { s with ask := fun subject filter => Reply.delayed (delays s.point) <$> s.ask subject filter }

theorem Source.fetch_delayed (delays : ContactPoint → Nat) (s : Source) (subject : String)
    (filter : Filter) :
    (s.delayed delays).fetch subject filter =
      (s.fetch subject filter).delayed (delays s.point) := rfl

def Registry.delayed (delays : ContactPoint → Nat) (r : Registry) : Registry where
  sources := r.sources.map (Source.delayed delays)
  nodup := by
    rw [List.map_map]
    exact r.nodup

theorem Registry.select_delayed (delays : ContactPoint → Nat) (r : Registry) (s : Selection) :
    (r.delayed delays).select s = (r.select s).map (Source.delayed delays) := by
  simp only [select, delayed, List.filter_map]
  rfl

namespace Aggregator

def delayed (delays : ContactPoint → Nat) (a : Aggregator) : Aggregator :=
  { a with registry := a.registry.delayed delays }

/-- The outcome of an aggregation that asks the selected sources in turn, gathers all their signals
under the filter, and looks up profiles if none is left under a restricted one. -/
def outcomeInTurn (a : Aggregator) (subject : String) (selection : Selection) (filter : Filter)
    (now : Instant) : Outcome :=
  match askInTurn (Address.normalize subject) filter (a.registry.select selection) with
  | none => .stalled
  | some (.error f) => .failed (.source f)
  | some (.ok signals) =>
    let roster := signals.foldl Roster.push (Roster.empty filter)
    if roster.isEmpty = true ∧ filter.isRestricted = true then
      match a.profiles filter.addresses with
      | .error e => .failed (.profiles e)
      | .ok table => .loaded (backfill table filter now)
    else .loaded ⟨roster.watermark, roster.contacts⟩

theorem askInTurn_of_answers {subject : String} {filter : Filter} {ss : List Source}
    (h : ∀ s ∈ ss, ∃ n signals, s.fetch subject filter = .after n (.ok signals)) :
    askInTurn subject filter ss =
      some (.ok (ss.map fun s => Polling.signalsOf (s.fetch subject filter)).flatten) := by
  induction ss with
  | nil => rfl
  | cons s ss ih =>
    obtain ⟨n, signals, hr⟩ := h s List.mem_cons_self
    rw [askInTurn, List.map_cons, hr, ih fun u hu => h u (List.mem_cons_of_mem s hu)]
    rfl

theorem askInTurn_delayed (delays : ContactPoint → Nat) (subject : String) (filter : Filter)
    (ss : List Source) :
    askInTurn subject filter (ss.map (Source.delayed delays)) = askInTurn subject filter ss := by
  induction ss with
  | nil => rfl
  | cons s ss ih =>
    rw [List.map_cons, askInTurn, askInTurn, ih, Source.fetch_delayed]
    simp only [Source.delayed]
    cases s.fetch subject filter with
    | stalled => rfl
    | after n answer => cases answer <;> rfl

theorem outcomeInTurn_delayed (delays : ContactPoint → Nat) (a : Aggregator) (subject : String)
    (selection : Selection) (filter : Filter) (now : Instant) :
    (a.delayed delays).outcomeInTurn subject selection filter now =
      a.outcomeInTurn subject selection filter now := by
  simp only [outcomeInTurn, delayed, profiles, Registry.select_delayed, askInTurn_delayed]

theorem outcome_of_answers {a : Aggregator} {subject : String} {selection : Selection}
    {filter : Filter} (now : Instant)
    (h : ∀ s ∈ a.registry.select selection, ∃ n signals,
      s.fetch (Address.normalize subject) filter = .after n (.ok signals)) :
    (a.run subject selection filter now).outcome =
      a.outcomeInTurn subject selection filter now := by
  rw [(run_of_answered now (Polling.run_of_answers h)).1]
  cases hprofiles : a.profiles filter.addresses <;>
    simp only [conclude_outcome, outcomeInTurn, askInTurn_of_answers h, hprofiles]

/-- Where every selected source answers in the end, polling them leads to the outcome of asking them
in turn, and still does if the answers come after any other numbers of rounds. -/
theorem run_eq_inTurn (a : Aggregator) (subject : String) (selection : Selection)
    (filter : Filter) (now : Instant)
    (h : ∀ s ∈ a.registry.select selection, ∃ n signals,
      s.fetch (Address.normalize subject) filter = .after n (.ok signals)) :
    (a.run subject selection filter now).outcome = a.outcomeInTurn subject selection filter now ∧
    ∀ delays : ContactPoint → Nat,
      ((a.delayed delays).run subject selection filter now).outcome =
        a.outcomeInTurn subject selection filter now := by
  refine ⟨outcome_of_answers now h, fun delays => ?_⟩
  rw [← outcomeInTurn_delayed delays]
  refine outcome_of_answers now fun s hs => ?_
  rw [delayed, Registry.select_delayed] at hs
  obtain ⟨u, hu, rfl⟩ := List.mem_map.mp hs
  obtain ⟨n, signals, hr⟩ := h u hu
  exact ⟨delays u.point, signals, by rw [Source.fetch_delayed, hr, Reply.delayed]⟩

/-- The first source of two is the slower one, and its signal still comes first. Under a filter that
neither of them meets, a profile is found instead. -/
theorem run_eq_inTurn_slow_first :
    let trust : Source := ⟨.crcTrust, fun _ _ =>
      pure <| .after 2 (.ok [.ofEvents .crcTrust "0xdef" [⟨.outward, "50", ⟨1000⟩⟩]])⟩
    let transfer : Source := ⟨.crcHubTransfer, fun _ _ =>
      pure <| .after 0 (.ok [.ofEvents .crcHubTransfer "0xdef" [⟨.inward, "10", ⟨2000⟩⟩]])⟩
    let ada : Profile := ⟨3, "0x123", "Ada", none⟩
    let a : Aggregator :=
      ⟨.ofSources [trust, transfer], fun _ => pure (.ok ⟨[("0x123", ada)]⟩)⟩
    let filter := Filter.ofAddresses ["0xFFF", " 0x123"]
    let answers (f : Filter) := ∀ s ∈ a.registry.select .all, ∃ n signals,
      s.fetch (Address.normalize " 0xABC") f = .after n (.ok signals)
    answers .unrestricted ∧
    (a.run " 0xABC" .all .unrestricted .epoch).outcome =
      .loaded ⟨some ⟨2000⟩, [⟨"0xdef", [.ofEvents .crcTrust "0xdef" [⟨.outward, "50", ⟨1000⟩⟩],
        .ofEvents .crcHubTransfer "0xdef" [⟨.inward, "10", ⟨2000⟩⟩]], ⟨2000⟩, none⟩]⟩ ∧
    answers filter ∧
    (a.run " 0xABC" .all filter ⟨99⟩).outcome =
      .loaded ⟨none, [⟨"0x123", [⟨.search, "0x123", some ⟨99⟩, []⟩], ⟨99⟩, some ada⟩]⟩ ∧
    ∀ delays : ContactPoint → Nat,
      ((a.delayed delays).run " 0xABC" .all .unrestricted .epoch).outcome =
        (a.run " 0xABC" .all .unrestricted .epoch).outcome ∧
      ((a.delayed delays).run " 0xABC" .all filter ⟨99⟩).outcome =
        (a.run " 0xABC" .all filter ⟨99⟩).outcome := by
  intro trust transfer ada a filter answers
  have hs : a.registry.select .all = [trust, transfer] := rfl
  have h (f : Filter) : answers f := by
    intro s hmem
    rw [hs] at hmem
    rcases List.mem_cons.mp hmem with rfl | hmem
    · exact ⟨2, _, rfl⟩
    · rw [List.mem_singleton.mp hmem]
      exact ⟨0, _, rfl⟩
  obtain ⟨hrun, hdelayed⟩ := run_eq_inTurn a " 0xABC" .all .unrestricted .epoch (h .unrestricted)
  obtain ⟨hfound, hfoundDelayed⟩ := run_eq_inTurn a " 0xABC" .all filter ⟨99⟩ (h filter)
  refine ⟨h .unrestricted, hrun.trans ?_, h filter, hfound.trans ?_, fun delays =>
    ⟨(hdelayed delays).trans hrun.symm, (hfoundDelayed delays).trans hfound.symm⟩⟩
  · decide +kernel
  · decide +kernel

end Aggregator
end ContactHistory
