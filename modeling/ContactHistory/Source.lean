import ContactHistory.ContactPoint
import ContactHistory.Fault
import ContactHistory.Filter
import ContactHistory.Signal
import ContactHistory.Text.Decimal

namespace ContactHistory

open Text

namespace Database

inductive Role where
  | application
  | index
  deriving DecidableEq, Repr

/-- A query for data, as it is put to the database of a role: for the events of a contact point, or
for the profiles of some addresses. -/
inductive Query where
  | events (point : ContactPoint) (role : Role) (subject : String) (allowed : Option (List String))
  | profiles (role : Role) (addresses : List String)
  deriving DecidableEq, Repr

end Database

/-- A result, and the queries that were put to databases on the way to it, in the order of time. -/
structure Queried (α : Type) where
  queries : List Database.Query
  result : α

namespace Queried

variable {α β : Type}

instance : Monad Queried where
  pure a := ⟨[], a⟩
  map f x := ⟨x.queries, f x.result⟩
  bind x f := ⟨x.queries ++ (f x.result).queries, (f x.result).result⟩

end Queried

/-- Why a row of events is no signal. -/
inductive RowFault where
  | misaligned (point : ContactPoint) (counterparty : String) (directions values times : Nat)
  | unknownDirection (point : ContactPoint) (text : String)
  | described (text : String)
  deriving DecidableEq, Repr

def RowFault.message : RowFault → String
  | .misaligned p c d v t =>
    p.name ++ ": misaligned arrays for " ++ c ++ " (" ++ Decimal.ofNat d ++ " directions, " ++
      Decimal.ofNat v ++ " values, " ++ Decimal.ofNat t ++ " timestamps)"
  | .unknownDirection p t => p.name ++ ": unknown direction `" ++ t ++ "`"
  | .described t => t

inductive SourceError where
  | query (e : QueryError)
  | decode (f : RowFault)
  deriving DecidableEq, Repr

namespace SourceError

def message : SourceError → String
  | query e => "query failed: " ++ e.message
  | decode f => "malformed row: " ++ f.message

/-- The texts of what lies under a failure, the nearest first. -/
def causes : SourceError → List String
  | query e => e.message :: e.causes
  | decode _ => []

end SourceError

/-- What becomes of a question to a source. An answer comes in the round after the given number
of rounds in which the source is still waiting. -/
inductive Reply where
  | stalled
  | after (rounds : Nat) (answer : Except SourceError (List Signal))

/-- Where the signals of one contact point come from. -/
structure Source where
  point : ContactPoint
  ask : String → Filter → Queried Reply

/-- The reply of a source to the question for a subject under a filter. -/
def Source.fetch (s : Source) (subject : String) (filter : Filter) : Reply :=
  (s.ask subject filter).result

/-- The sources with one more. It takes the place of a source of the same contact point, and comes
last where there is none. -/
def Source.register (s : Source) : List Source → List Source
  | [] => [s]
  | t :: ts => if t.point = s.point then s :: ts else t :: register s ts

theorem Source.map_point_register (s : Source) (ts : List Source) :
    (s.register ts).map Source.point =
      if s.point ∈ ts.map Source.point then ts.map Source.point
      else ts.map Source.point ++ [s.point] := by
  induction ts with
  | nil => rfl
  | cons t ts ih =>
    unfold Source.register
    split
    · next h => simp [h]
    · next h =>
      have hne : ¬s.point = t.point := fun e => h e.symm
      simp only [List.map_cons, ih, List.mem_cons, hne, false_or]
      split <;> rfl

/-- The sources that are there to be asked, at most one for each contact point. -/
structure Registry where
  sources : List Source
  nodup : (sources.map Source.point).Nodup

namespace Registry

def empty : Registry := ⟨[], .nil⟩

/-- The registry with one more source, which replaces one of the same contact point in its place. -/
def register (r : Registry) (s : Source) : Registry where
  sources := s.register r.sources
  nodup := by
    rw [Source.map_point_register]
    split
    · exact r.nodup
    · next h => exact List.nodup_append.mpr ⟨r.nodup, by simp, by grind⟩

/-- The registry of a list of sources, of which the last one of a contact point is kept. -/
def ofSources (ss : List Source) : Registry := ss.foldl register empty

def names (r : Registry) : List ContactPoint := r.sources.map Source.point

/-- The sources of a selection, in the order of the registry. -/
def select (r : Registry) (s : Selection) : List Source :=
  r.sources.filter fun t => s.contains t.point

end Registry
end ContactHistory
