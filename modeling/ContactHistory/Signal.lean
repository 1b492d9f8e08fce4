import ContactHistory.Address
import ContactHistory.ContactPoint
import ContactHistory.Time.Instant

namespace ContactHistory

/-- The side that an interaction came from: `inward` from the counterparty, `outward` from the
subject. -/
inductive Direction where
  | inward
  | outward
  deriving DecidableEq, Repr

namespace Direction

def name : Direction → String
  | inward => "In"
  | outward => "Out"

/-- A direction is stored under its name, which may start with a small letter. -/
def read? : String → Option Direction
  | "In" | "in" => some inward
  | "Out" | "out" => some outward
  | _ => none

theorem read?_name (d : Direction) : read? d.name = some d := by cases d <;> rfl

end Direction

@[ext] structure Event where
  direction : Direction
  value : String
  time : Instant
  deriving DecidableEq, Repr

/-- What one source observed between the subject and one counterparty. -/
@[ext] structure Signal where
  point : ContactPoint
  counterparty : String
  /-- The time at which the counterparty was found, where the signal marks that it was. -/
  sighting : Option Instant
  events : List Event
  deriving DecidableEq, Repr

namespace Signal

/-- The signal of a list of events with a counterparty, whose address may have any spelling. -/
def ofEvents (point : ContactPoint) (counterparty : String) (es : List Event) : Signal :=
  ⟨point, Address.normalize counterparty, none, es⟩

/-- Marks that a profile of the counterparty was found. -/
def found (counterparty : String) (time : Instant) : Signal :=
  ⟨.search, Address.normalize counterparty, some time, []⟩

def directions (s : Signal) : List Direction := s.events.map Event.direction

def values (s : Signal) : List String := s.events.map Event.value

def times (s : Signal) : List Instant := s.sighting.toList ++ s.events.map Event.time

/-- The latest time of a signal, if it has any. -/
def latest? (s : Signal) : Option Instant := s.times.max?

/-- The time that a signal counts with: its latest one, or the epoch. -/
def time (s : Signal) : Instant := s.latest?.getD .epoch

end Signal
end ContactHistory
