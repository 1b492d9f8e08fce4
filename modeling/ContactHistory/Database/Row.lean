import ContactHistory.Fault
import ContactHistory.History
import ContactHistory.Source
import ContactHistory.Time.Text

namespace ContactHistory.Database

inductive Cell (α : Type) where
  | missing
  | null
  | value (a : α)
  deriving DecidableEq, Repr

namespace Cell

def required {α : Type} (column : String) : Cell α → Except QueryError α
  | missing => .error (.columnNotFound column)
  | null => .error (.unexpectedNull column)
  | value a => .ok a

def nullable {α : Type} (column : String) : Cell α → Except QueryError (Option α)
  | missing => .error (.columnNotFound column)
  | null => .ok none
  | value a => .ok (some a)

/-- A list whose entries have to be there. -/
def requiredAll {α : Type} (column : String) (c : Cell (List (Option α))) :
    Except QueryError (List α) := do
  match (← c.required column).mapM id with
  | some xs => .ok xs
  | none => .error (.unexpectedNull column)

end Cell

/-- The events of one counterparty, as a database answers them. -/
structure EventRow where
  counterparty : Cell String
  directions : Cell (List (Option String))
  values : Cell (List (Option String))
  times : Cell (List (Option String))
  deriving DecidableEq, Repr

structure ProfileRow where
  id : Cell Int64
  address : Cell String
  firstName : Cell String
  lastName : Cell String
  avatarUrl : Cell String
  deriving DecidableEq, Repr

/-- The events of lists that are of one length, up to the first unknown direction. -/
def eventsOfLists (point : ContactPoint) :
    List String → List (Option String) → List String → Except RowFault (List Event)
  | d :: ds, v :: vs, t :: ts =>
    match Direction.read? d with
    | none => .error (.unknownDirection point d)
    | some direction =>
      (eventsOfLists point ds vs ts).map fun es => ⟨direction, v.getD "", Instant.ofText t⟩ :: es
  | _, _, _ => .ok []

/-- The signal of a row's values. Lists of different lengths are refused before any direction. -/
def signalOfLists (point : ContactPoint) (counterparty : String) (directions : List String)
    (values : List (Option String)) (times : List String) : Except RowFault Signal :=
  if directions.length = values.length ∧ directions.length = times.length then
    (eventsOfLists point directions values times).map (Signal.ofEvents point counterparty)
  else
    .error (.misaligned point counterparty directions.length values.length times.length)

namespace EventRow

def toSignal (point : ContactPoint) (r : EventRow) : Except SourceError Signal := do
  let counterparty ← (r.counterparty.required "counterparty").mapError .query
  let directions ← (r.directions.requiredAll "directions").mapError .query
  let values ← (r.values.required "event_values").mapError .query
  let times ← (r.times.requiredAll "timestamps").mapError .query
  (signalOfLists point counterparty directions values times).mapError .decode

/-- The signals of rows in their order, or the error of the first row that is none. -/
def toSignals (point : ContactPoint) (rows : List EventRow) : Except SourceError (List Signal) :=
  rows.mapM (toSignal point)

end EventRow

def ProfileRow.toProfile (r : ProfileRow) : Except QueryError Profile := do
  let first ← r.firstName.required "first_name"
  let last ← r.lastName.nullable "last_name"
  let id ← r.id.required "id"
  let address ← r.address.required "address"
  let avatarUrl ← r.avatarUrl.nullable "avatar_url"
  .ok ⟨id, address, Profile.joinNames first last, avatarUrl⟩

/-- The table of rows, in which the last row of an address is kept. -/
def ProfileRow.toTable (rows : List ProfileRow) : Except QueryError ProfileTable :=
  (rows.mapM toProfile).map ProfileTable.ofProfiles

end ContactHistory.Database
