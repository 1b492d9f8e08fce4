import ContactHistory.Aggregation
import ContactHistory.Database.Row

namespace ContactHistory

/-- What a database answers to each of its queries. -/
structure Database where
  events : ContactPoint → String → Option (List String) → Except QueryError (List Database.EventRow)
  profiles : List String → Except QueryError (List Database.ProfileRow)
  ready : Except QueryError Unit

namespace Database

/-- The database that holds the events of a contact point. -/
def roleOf : ContactPoint → Role
  | .crcTrust | .crcHubTransfer | .erc20Transfer => .index
  | _ => .application

structure Pool where
  role : Role
  database : Database

namespace Pool

/-- Puts the query for the events of a contact point. -/
def events (db : Pool) (point : ContactPoint) (subject : String) (allowed : Option (List String)) :
    Queried (Except QueryError (List EventRow)) where
  queries := [.events point db.role subject allowed]
  result := db.database.events point subject allowed

/-- Puts the query for the profiles of some addresses. -/
def profiles (db : Pool) (addresses : List String) :
    Queried (Except QueryError (List ProfileRow)) where
  queries := [.profiles db.role addresses]
  result := db.database.profiles addresses

/-- The source of a contact point over a database. -/
def source (db : Pool) (point : ContactPoint) : Source where
  point := point
  ask subject filter := do
    let answer ← db.events point subject filter.allowList?
    return .after 0 ((answer.mapError .query).bind (EventRow.toSignals point))

theorem fetch_source (db : Pool) (point : ContactPoint) (subject : String) (filter : Filter) :
    (db.source point).fetch subject filter = .after 0
      (((db.database.events point subject filter.allowList?).mapError .query).bind
        (EventRow.toSignals point)) := rfl

/-- The profiles of some addresses; none are asked for without an address. -/
def findProfiles (db : Pool) (addresses : List String) :
    Queried (Except QueryError ProfileTable) := do
  if addresses.isEmpty then return .ok .empty
  else return (← db.profiles addresses).bind ProfileRow.toTable

theorem result_findProfiles (db : Pool) (addresses : List String) :
    (db.findProfiles addresses).result =
      if addresses.isEmpty then .ok .empty
      else (db.database.profiles addresses).bind ProfileRow.toTable := by
  unfold findProfiles
  split <;> rfl

theorem queries_findProfiles (db : Pool) (addresses : List String) :
    (db.findProfiles addresses).queries =
      if addresses.isEmpty then [] else [.profiles db.role addresses] := by
  unfold findProfiles
  split <;> rfl

end Pool
end Database

/-- The databases of a service: one of the application, and perhaps one more for the index. -/
structure Databases where
  application : Database
  index : Option Database

namespace Databases

def get (d : Databases) : Database.Role → Database
  | .application => d.application
  | .index => d.index.getD d.application

def pool (d : Databases) (role : Database.Role) : Database.Pool := ⟨role, d.get role⟩

/-- A source for every contact point, each over its database. -/
def registry (d : Databases) : Registry :=
  Registry.ofSources (ContactPoint.sources.map fun p => (d.pool (Database.roleOf p)).source p)

def aggregator (d : Databases) : Aggregator := ⟨d.registry, (d.pool .application).findProfiles⟩

def ready (d : Databases) : Except QueryError Unit := do
  (d.get .application).ready
  (d.get .index).ready

end Databases
end ContactHistory
