import ContactHistory.History
import ContactHistory.Polling
import ContactHistory.Source

namespace ContactHistory

inductive AggregationError where
  | source (f : Failure)
  | profiles (e : QueryError)
  deriving DecidableEq, Repr

namespace AggregationError

def message : AggregationError → String
  | source f => "contact source " ++ f.point.name ++ " failed"
  | profiles _ => "profile lookup failed"

/-- The texts of what lies under a failure, the nearest first. -/
def causes : AggregationError → List String
  | source f => f.error.message :: f.error.causes
  | profiles e => e.message :: e.causes

end AggregationError

inductive Outcome where
  | stalled
  | failed (e : AggregationError)
  | loaded (h : History)
  deriving DecidableEq, Repr

/-- How an aggregation is concluded: the lists of addresses whose profiles are looked up, the
queries for them, and how it ends. -/
structure Conclusion where
  lookups : List (List String)
  queries : List Database.Query
  outcome : Outcome

/-- An aggregation with all that it did: the calls of sources, the points whose sources ended, the
lists of addresses whose profiles were looked up, the queries that were put to databases, and how it
ended. -/
structure Run where
  calls : List Call
  finished : List ContactPoint
  lookups : List (List String)
  queries : List Database.Query
  outcome : Outcome

structure Aggregator where
  registry : Registry
  lookUp : List String → Queried (Except QueryError ProfileTable)

namespace Aggregator

def profiles (a : Aggregator) (addresses : List String) : Except QueryError ProfileTable :=
  (a.lookUp addresses).result

/-- The history of counterparties without signals: a contact for each profile that is found. -/
def backfill (table : ProfileTable) (filter : Filter) (now : Instant) : History :=
  ⟨none, Contact.sorted ((filter.addresses.filterMap table.find?).map (Contact.ofProfile · now))⟩

/-- The signals of all sources, gathered under the filter. -/
def gather (filter : Filter) (batches : List (List Signal)) : Roster :=
  (Roster.empty filter).extend batches.flatten

def conclude (a : Aggregator) (filter : Filter) (now : Instant) (batches : List (List Signal)) :
    Conclusion :=
  let roster := gather filter batches
  if roster.isEmpty && filter.isRestricted then
    let found := a.lookUp filter.addresses
    { lookups := [filter.addresses]
      queries := found.queries
      outcome :=
        match found.result with
        | .error e => .failed (.profiles e)
        | .ok table => .loaded (backfill table filter now) }
  else ⟨[], [], .loaded ⟨roster.watermark, roster.contacts⟩⟩

/-- The history of a subject at a time, from the selected sources and under a filter. -/
def run (a : Aggregator) (subject : String) (selection : Selection) (filter : Filter)
    (now : Instant) : Run :=
  match Polling.run (a.registry.select selection) (Address.normalize subject) filter with
  | (.stalled, t) => ⟨t.calls, t.finished, [], t.queries, .stalled⟩
  | (.failed f, t) => ⟨t.calls, t.finished, [], t.queries, .failed (.source f)⟩
  | (.answered batches, t) =>
    let c := a.conclude filter now batches
    ⟨t.calls, t.finished, c.lookups, t.queries ++ c.queries, c.outcome⟩

end Aggregator
end ContactHistory
