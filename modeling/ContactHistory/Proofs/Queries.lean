import ContactHistory.Proofs.Answers
import ContactHistory.Proofs.DatabaseRuns
import ContactHistory.Proofs.FrontEnds.Requests

namespace ContactHistory

open Database

/-! ### Queries of a run -/

namespace Databases

variable {d e : Databases} {subject : String} {selection : Selection} {filter : Filter}
  {now : Instant} {h : History}

/-- A run over databases never waits for an answer in vain. -/
theorem run_ends (d : Databases) (subject : String) (selection : Selection) (filter : Filter)
    (now : Instant) :
    (∃ e, (d.aggregator.run subject selection filter now).outcome = .failed e) ∨
      ∃ h, (d.aggregator.run subject selection filter now).outcome = .loaded h := by
  by_cases hfails : ∃ s ∈ d.aggregator.registry.select selection, ∃ n e,
      s.fetch (Address.normalize subject) filter = .after n (.error e)
  · obtain ⟨s, hs, n, e, hfetch⟩ := hfails
    obtain ⟨_, _, f, -, hrun⟩ := Polling.run_earliestFailure hs hfetch
    exact .inl ⟨_, (Aggregator.run_of_failed now hrun).1⟩
  · have hanswers : ∀ s ∈ d.aggregator.registry.select selection, ∃ n signals,
        s.fetch (Address.normalize subject) filter = .after n (.ok signals) := by
      intro s hs
      have hmem : s ∈ d.registry.select selection := hs
      rw [select_registry] at hmem
      obtain ⟨p, -, rfl⟩ := List.mem_map.mp hmem
      -- A source over a database has its answer in the first round.
      obtain ⟨answer, hfetch⟩ : ∃ answer, ((d.pool (roleOf p)).source p).fetch
          (Address.normalize subject) filter = .after 0 answer := ⟨_, rfl⟩
      cases answer with
      | ok signals => exact ⟨0, signals, hfetch⟩
      | error e => exact absurd ⟨_, hs, 0, e, hfetch⟩ hfails
    rw [(Aggregator.run_of_answered now (Polling.run_of_answers hanswers)).1]
    exact d.aggregator.conclude_ends filter now _

theorem conclude_queries (d : Databases) (filter : Filter) (now : Instant)
    (batches : List (List Signal)) :
    (d.aggregator.conclude filter now batches).queries =
      if filter.isRestricted = true ∧ (Aggregator.gather filter batches).isEmpty = true then
        [.profiles .application filter.addresses]
      else [] := by
  split
  · next h =>
    rw [Aggregator.conclude_of_isEmpty now h.2 h.1]
    change ((d.pool .application).findProfiles filter.addresses).queries = _
    rw [Pool.queries_findProfiles,
      List.isEmpty_eq_false_iff.mpr (Filter.isRestricted_iff.mp h.1)]
    rfl
  · next h =>
    rw [Decidable.not_and_iff_or_not, Bool.not_eq_true, Bool.not_eq_true] at h
    rw [Aggregator.conclude_of_gathered now h.symm]

/-- Where a history is loaded, every selected contact point has put its query, and profiles were
looked up just if no row named an allowed counterparty under a restriction. -/
theorem queries_of_loaded
    (hr : (d.aggregator.run subject selection filter now).outcome = .loaded h) :
    (filter.isRestricted = true ∧ ¬d.Mentions subject selection filter →
      (d.aggregator.run subject selection filter now).queries =
        eventQueries subject selection filter ++ [.profiles .application filter.addresses]) ∧
    (¬(filter.isRestricted = true ∧ ¬d.Mentions subject selection filter) →
      (d.aggregator.run subject selection filter now).queries =
        eventQueries subject selection filter) := by
  obtain ⟨batches, hreads, -, hqueries⟩ := exists_reads_of_loaded hr
  have hempty : (Aggregator.gather filter batches).isEmpty = true ↔
      ¬d.Mentions subject selection filter :=
    (Roster.holds_extend_empty filter batches.flatten).isEmpty_iff.trans hreads.filter_eq_nil_iff
  rw [hqueries, conclude_queries, ← hempty]
  constructor
  · intro hsearches
    rw [if_pos hsearches]
  · intro hsearches
    rw [if_neg hsearches, List.append_nil]

end Databases

/-- Two pairs of databases give a query the same answer. -/
def Database.Query.SameAnswer (d e : Databases) : Query → Prop
  | .events p role subject allowed =>
    (d.get role).events p subject allowed = (e.get role).events p subject allowed
  | .profiles role addresses => (d.get role).profiles addresses = (e.get role).profiles addresses

namespace Databases

variable {d e : Databases} {subject : String} {selection : Selection} {filter : Filter}
  {now : Instant} {h : History}

/-- Where the queries of the contact points have the same answers, the sources have too. -/
theorem fetch_of_sameAnswer
    (hq : ∀ q ∈ eventQueries subject selection filter, q.SameAnswer d e) :
    ∀ p ∈ selection.points,
      ((e.pool (roleOf p)).source p).fetch (Address.normalize subject) filter =
        ((d.pool (roleOf p)).source p).fetch (Address.normalize subject) filter := by
  intro p hp
  have hsame : (d.pool (roleOf p)).database.events p (Address.normalize subject) filter.allowList? =
      (e.pool (roleOf p)).database.events p (Address.normalize subject) filter.allowList? :=
    hq _ (List.mem_map_of_mem hp)
  rw [Pool.fetch_source, Pool.fetch_source, hsame]

theorem polling_of_fetch_eq
    (hfetch : ∀ p ∈ selection.points,
      ((e.pool (roleOf p)).source p).fetch (Address.normalize subject) filter =
        ((d.pool (roleOf p)).source p).fetch (Address.normalize subject) filter)
    (hanswers : ∀ s ∈ d.registry.select selection, ∃ n signals,
      s.fetch (Address.normalize subject) filter = .after n (.ok signals)) :
    (Polling.run (e.registry.select selection) (Address.normalize subject) filter).1 =
      (Polling.run (d.registry.select selection) (Address.normalize subject) filter).1 := by
  rw [select_registry, select_registry] at *
  have hanswers' : ∀ s ∈ selection.points.map fun p => (e.pool (roleOf p)).source p,
      ∃ n signals, s.fetch (Address.normalize subject) filter = .after n (.ok signals) := by
    rw [List.forall_mem_map] at hanswers ⊢
    intro p hp
    rw [hfetch p hp]
    exact hanswers p hp
  rw [Polling.run_of_answers hanswers, Polling.run_of_answers hanswers', List.map_map, List.map_map]
  have hsignals := List.map_congr_left fun p hp => congrArg Polling.signalsOf (hfetch p hp)
  exact congrArg _ hsignals

/-- Two runs are concluded alike if a lookup of the wanted profiles, where there is one, has the
same answer. -/
theorem conclude_of_sameAnswer {batches : List (List Signal)}
    (hq : ∀ q ∈ (d.aggregator.conclude filter now batches).queries, q.SameAnswer d e) :
    e.aggregator.conclude filter now batches = d.aggregator.conclude filter now batches := by
  by_cases h : filter.isRestricted = true ∧ (Aggregator.gather filter batches).isEmpty = true
  · rw [conclude_queries, if_pos h] at hq
    have hsame : d.application.profiles filter.addresses =
        e.application.profiles filter.addresses := hq _ List.mem_cons_self
    have hfound : e.aggregator.lookUp filter.addresses = d.aggregator.lookUp filter.addresses := by
      change (e.pool .application).findProfiles _ = (d.pool .application).findProfiles _
      have hput : (e.pool .application).profiles filter.addresses =
          (d.pool .application).profiles filter.addresses := congrArg (Queried.mk _) hsame.symm
      rw [Pool.findProfiles, Pool.findProfiles, hput]
    rw [Aggregator.conclude_of_isEmpty now h.2 h.1, Aggregator.conclude_of_isEmpty now h.2 h.1,
      Aggregator.profiles, Aggregator.profiles, hfound]
  · rw [Decidable.not_and_iff_or_not, Bool.not_eq_true, Bool.not_eq_true] at h
    rw [Aggregator.conclude_of_gathered now h.symm, Aggregator.conclude_of_gathered now h.symm]

/-- A loaded history, and the queries behind it, are the same over any other databases that give
these queries the same answers. -/
theorem run_of_sameAnswer
    (hr : (d.aggregator.run subject selection filter now).outcome = .loaded h)
    (hq : ∀ q ∈ (d.aggregator.run subject selection filter now).queries, q.SameAnswer d e) :
    (e.aggregator.run subject selection filter now).outcome = .loaded h ∧
      (e.aggregator.run subject selection filter now).queries =
        (d.aggregator.run subject selection filter now).queries := by
  have hanswers := Aggregator.answers_of_loaded hr
  have hpolled := Polling.run_of_answers hanswers
  have hqueries : (d.aggregator.run subject selection filter now).queries = _ :=
    run_queries hanswers hpolled
  rw [hqueries] at hq ⊢
  have hfetch := fetch_of_sameAnswer fun q hmem => hq q (List.mem_append_left _ hmem)
  have hconclude := conclude_of_sameAnswer fun q hmem => hq q (List.mem_append_right _ hmem)
  have hpolled' := (polling_of_fetch_eq hfetch hanswers).trans hpolled
  have hanswers' := Polling.answers_of_run hpolled'
  have houtcome := (Aggregator.run_of_answered (a := d.aggregator) now hpolled).1
  have houtcome' := (Aggregator.run_of_answered (a := e.aggregator) now hpolled').1
  rw [run_queries hanswers' hpolled', houtcome', hconclude, ← houtcome]
  exact ⟨hr, rfl⟩

end Databases

/-! ### Queries of an answer -/

namespace Http

namespace Answer

def queries (a : Answer) : List Query := (a.run.map Run.queries).getD []

end Answer

namespace Service

variable {limit : Nat} {r : Request} {q : Question} {c : Option String}

theorem queries_of_not_puts {s : Service} (h : ∀ q c, ¬r.Puts limit q c) (clocks : Clocks)
    (m : Metrics) : (s.answer clocks limit r m).queries = [] := by
  have hnone : (s.answer clocks limit r m).run = none := by
    cases hinquire : s.inquire limit r with
    | error response => rw [answer_eq_of_refusal hinquire]
    | ok asked =>
      cases asked with
      | none =>
        obtain ⟨_, _, hanswer, -⟩ := answer_of_nothing hinquire clocks m
        rw [hanswer]
      | some i =>
        obtain ⟨q, c, hputs⟩ := Request.exists_puts_of_inquire hinquire
        exact absurd hputs (h q c)
  rw [Answer.queries, hnone]
  rfl

theorem queries_of_isBlank {s : Service} (h : r.Puts limit q c) (hblank : q.IsBlank c)
    (clocks : Clocks) (m : Metrics) :
    (s.answer clocks limit r m).status? = some 400 ∧ (s.answer clocks limit r m).queries = [] := by
  rw [answer_eq_of_refusal (h.inquire_of_isBlank hblank s)]
  exact ⟨congrArg some (Response.status_sentTo (invalidRequest _) r), rfl⟩

theorem answer_of_puts (h : r.Puts limit q c) (hblank : ¬q.IsBlank c) (settings : Settings)
    (d : Databases) (clocks : Clocks) (m : Metrics) :
    let i := q.inquiryFor (Settings.defaultSelection settings.defaultSources) c
    let run := d.aggregator.run q.subject i.selection i.filter clocks.now
    (ofDatabases settings d).answer clocks limit r m =
      ⟨(i.respond run.outcome).map (·.sentTo r), some run, countRun m clocks.sourceNanos run⟩ :=
  h.answer hblank (ofDatabases settings d) clocks m

/-- An answer over databases that is not that of a failure tells of a loaded history. -/
theorem loaded_of_status (h : r.Puts limit q c) (hblank : ¬q.IsBlank c) {settings : Settings}
    {d : Databases} {clocks : Clocks} {m : Metrics}
    (hstatus : ((ofDatabases settings d).answer clocks limit r m).status? ≠ some 500) :
    let i := q.inquiryFor (Settings.defaultSelection settings.defaultSources) c
    ∃ history, (d.aggregator.run q.subject i.selection i.filter clocks.now).outcome =
      .loaded history := by
  intro i
  rcases d.run_ends q.subject i.selection i.filter clocks.now with ⟨e, he⟩ | hloaded
  · rw [answer_of_puts h hblank, he] at hstatus
    exact absurd (congrArg some (Response.status_sentTo aggregationFailed r)) hstatus
  · exact hloaded

/-- The queries behind the answer to a request that puts a question, where the answer has not
failed: one for each selected contact point, and one for profiles if the filter is restricted and no
row names an allowed counterparty. No other query can change the response. Without a question, or
with a blank one, there are no queries. -/
theorem queries_of_answer (settings : Settings) (databases : Databases) (clocks : Clocks)
    (limit : Nat) (r : Request) (m : Metrics) :
    let answerOver (d : Databases) := (ofDatabases settings d).answer clocks limit r m
    let a := answerOver databases
    ((∀ q c, ¬r.Puts limit q c) → a.queries = []) ∧
    ∀ q c, r.Puts limit q c →
      (q.IsBlank c → a.status? = some 400 ∧ a.queries = []) ∧
      (¬q.IsBlank c → a.status? ≠ some 500 → ∃ (selection : Selection) (filter : Filter),
        let events := selection.points.map fun p => Query.events p
          (if p ∈ [.crcTrust, .crcHubTransfer, .erc20Transfer] then .index else .application)
          (Address.normalize q.subject)
          (if filter.addresses = [] then none else some filter.addresses)
        let searches := filter.addresses ≠ [] ∧ ¬databases.Mentions q.subject selection filter
        (∀ p, p ∈ selection.points ↔ q.Selects settings.defaultSources p) ∧
        (∀ x, x ∈ filter.addresses ↔ x ≠ "" ∧ ∃ raw ∈ q.addresses, Address.normalize raw = x) ∧
        (searches → a.queries = events ++ [.profiles .application filter.addresses]) ∧
        (¬searches → a.queries = events) ∧
        ∀ other, (∀ query ∈ a.queries, query.SameAnswer databases other) →
          (answerOver other).response = a.response ∧ (answerOver other).queries = a.queries) := by
  intro answerOver a
  refine ⟨fun hnone => queries_of_not_puts hnone clocks m,
    fun q c hputs => ⟨fun hblank => queries_of_isBlank hputs hblank clocks m,
      fun hblank hstatus => ?_⟩⟩
  let i := q.inquiryFor (Settings.defaultSelection settings.defaultSources) c
  let run (d : Databases) := d.aggregator.run q.subject i.selection i.filter clocks.now
  have hresponse (d : Databases) :
      (answerOver d).response = (i.respond (run d).outcome).map (·.sentTo r) := by
    simp only [answerOver, answer_of_puts hputs hblank, i, run]
  have hqueries (d : Databases) : (answerOver d).queries = (run d).queries := by
    simp only [answerOver, answer_of_puts hputs hblank, Answer.queries, Option.map_some,
      Option.getD_some, i, run]
  obtain ⟨h, hr⟩ := loaded_of_status hputs hblank hstatus
  have hasked := Databases.queries_of_loaded hr
  rw [Filter.isRestricted_iff, Databases.eventQueries_eq] at hasked
  refine ⟨i.selection, i.filter, fun p => Question.mem_selection_iff,
    fun x => Filter.mem_ofAddresses, fun hsearches => ?_, fun hsearches => ?_,
    fun other hsame => ?_⟩
  · exact (hqueries databases).trans (hasked.1 hsearches)
  · exact (hqueries databases).trans (hasked.2 hsearches)
  · -- The response is made from the outcome, to which the same answers lead again.
    rw [hqueries] at hsame
    obtain ⟨hr', hqueries'⟩ := Databases.run_of_sameAnswer hr hsame
    rw [hresponse, hresponse, hqueries, hqueries, hqueries']
    exact ⟨congrArg _ (congrArg i.respond (hr'.trans hr.symm)), rfl⟩

/-- A request names a source twice in two spellings, another one and none, and one address twice.
The row that comes back is not of that address. The response is the same over databases that fail
whatever else they are asked. -/
theorem queries_of_answer_spellings :
    let settings : Settings := ⟨.v4 0 0 0 0 8090, "postgres://db", none, 10, ["erc20transfer"]⟩
    let row : EventRow := ⟨.value "0x999", .value [some "Out"], .value [none], .value [some "7"]⟩
    let full : Databases :=
      ⟨⟨fun _ _ _ => .ok [], fun _ => .ok [], .ok ()⟩,
        some ⟨fun _ _ _ => .ok [row], fun _ => .ok [], .ok ()⟩⟩
    let narrow : Databases :=
      ⟨⟨fun p subject allowed =>
          if p = .chatMessage ∧ subject = "0xabc" ∧ allowed = some ["0xdef"] then .ok []
          else .error .poolTimedOut,
        fun addresses => if addresses = ["0xdef"] then .ok [] else .error .poolTimedOut, .ok ()⟩,
        some ⟨fun p subject allowed =>
          if p = .crcTrust ∧ subject = "0xabc" ∧ allowed = some ["0xdef"] then .ok [row]
          else .error .poolTimedOut, fun _ => .error .poolTimedOut, .ok ()⟩⟩
    let clocks : Clocks := .still .epoch
    let r : Request := ⟨"GET", "/v1/subjects/%200xABC/contacts",
      some "sources=crc_trust,chat-message,CrcTrust,bogus&addresses=0xDEF,0xdef", [], []⟩
    let q : Question :=
      ⟨" 0xABC", ["crc_trust", "chat-message", "CrcTrust", "bogus"], ["0xDEF", "0xdef"]⟩
    let answerOver (d : Databases) := (ofDatabases settings d).answer clocks bodyLimit r .empty
    let asked : List Query := [.events .crcTrust .index "0xabc" (some ["0xdef"]),
      .events .chatMessage .application "0xabc" (some ["0xdef"]),
      .profiles .application ["0xdef"]]
    r.Puts bodyLimit q none ∧ ¬q.IsBlank none ∧ (answerOver full).status? = some 200 ∧
      (answerOver full).queries = asked ∧ (answerOver narrow).queries = asked ∧
      (answerOver narrow).response = (answerOver full).response := by
  intro settings row full narrow clocks r q answerOver asked
  let form := [("sources", "crc_trust,chat-message,CrcTrust,bogus"), ("addresses", "0xDEF,0xdef")]
  have hroute : r.Takes .contacts := ⟨by decide +kernel, by decide⟩
  have hpath : r.texts .contacts = .ok [" 0xABC"] := by decide +kernel
  have hform : Inquiry.queryForm r ["sources", "addresses"] = .ok form := by decide +kernel
  have hsources : Inquiry.listIn form "sources" = some q.sources := by decide +kernel
  have haddresses : Inquiry.listIn form "addresses" = some q.addresses := by decide +kernel
  have hputs : r.Puts bodyLimit q none := by
    have hlist : r.Puts bodyLimit _ none := .list hroute hpath hform
    rw [hsources, haddresses] at hlist
    exact hlist
  have hblank : ¬q.IsBlank none := by
    rintro (h | h)
    · exact absurd h (by decide)
    · cases h
  have hstatus : (answerOver full).status? = some 200 := by decide +kernel
  have hqueries : (answerOver full).queries = asked := by decide +kernel
  obtain ⟨selection, filter, -, -, -, -, hframe⟩ :=
    ((queries_of_answer settings full clocks bodyLimit r .empty).2 q none hputs).2 hblank
      (by rw [show _ = some 200 from hstatus]; decide)
  have hsame : ∀ query ∈ (answerOver full).queries, query.SameAnswer full narrow := by
    rw [hqueries]
    simp only [asked, List.forall_mem_cons]
    exact ⟨rfl, rfl, rfl, by simp⟩
  obtain ⟨hresponse, hqueries'⟩ := hframe narrow hsame
  exact ⟨hputs, hblank, hstatus, hqueries, hqueries'.trans hqueries, hresponse⟩

end Service
end Http
end ContactHistory
