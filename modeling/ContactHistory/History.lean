import ContactHistory.Filter
import ContactHistory.Signal
import ContactHistory.Text.Blank

namespace ContactHistory

@[ext] structure Profile where
  id : Int64
  address : String
  displayName : String
  avatarUrl : Option String
  deriving DecidableEq, Repr

namespace Profile

/-- First and last name with a space between them; without the space where no last name is left
after trimming. -/
def joinNames (first : String) (last : Option String) : String :=
  match (last.map Text.trimmed).filter (· ≠ "") with
  | some l => Text.trimmed first ++ " " ++ l
  | none => Text.trimmed first

end Profile

structure ProfileTable where
  entries : List (String × Profile)
  deriving DecidableEq, Repr

namespace ProfileTable

def empty : ProfileTable := ⟨[]⟩

/-- Stores a profile under an address, in place of one that is there. -/
def insert (t : ProfileTable) (address : String) (p : Profile) : ProfileTable :=
  ⟨(address, p) :: t.entries.filter (·.1 ≠ address)⟩

def find? (t : ProfileTable) (address : String) : Option Profile := t.entries.lookup address

/-- The table of a list of profiles, each under its own address, where the last one is kept. -/
def ofProfiles (ps : List Profile) : ProfileTable :=
  ps.foldl (fun t p => t.insert p.address p) empty

def KeyedByAddress (t : ProfileTable) : Prop := ∀ e ∈ t.entries, e.1 = e.2.address

end ProfileTable

@[ext] structure Contact where
  counterparty : String
  signals : List Signal
  lastAt : Instant
  profile : Option Profile
  deriving DecidableEq, Repr

namespace Contact

/-- The contact of a counterparty of which one signal is known. -/
def ofSignal (s : Signal) : Contact := ⟨s.counterparty, [s], s.time, none⟩

def absorb (c : Contact) (s : Signal) : Contact :=
  { c with signals := c.signals ++ [s], lastAt := max c.lastAt s.time }

/-- The contact of a profile that was found at a time, without any history. -/
def ofProfile (p : Profile) (now : Instant) : Contact :=
  ⟨p.address, [Signal.found p.address now], now, some p⟩

/-- The contact stands before another, or they tie: it is later, or of the same time and with a
counterparty that is not greater. -/
def before (a b : Contact) : Bool :=
  b.lastAt < a.lastAt || (b.lastAt = a.lastAt && a.counterparty ≤ b.counterparty)

/-- The contacts in their order; contacts that tie keep theirs. -/
def sorted (cs : List Contact) : List Contact := cs.mergeSort before

end Contact

/-- The contacts of the signals that came, one for each counterparty, and the latest time among
these signals. -/
structure Roster where
  filter : Filter
  entries : List Contact
  watermark : Option Instant
  deriving DecidableEq

namespace Roster

def empty (filter : Filter) : Roster := ⟨filter, [], none⟩

def isEmpty (r : Roster) : Bool := r.entries.isEmpty

/-- The entries with one signal more, in the entry of its counterparty or in a new one. -/
def place (s : Signal) : List Contact → List Contact
  | [] => [Contact.ofSignal s]
  | c :: cs => if c.counterparty = s.counterparty then c.absorb s :: cs else c :: place s cs

/-- Takes a signal; one that the filter does not allow changes nothing. -/
def push (r : Roster) (s : Signal) : Roster :=
  if r.filter.allows s.counterparty then
    { r with
      entries := place s r.entries
      watermark := some (match r.watermark with
        | none => s.time
        | some t => max t s.time) }
  else r

/-- Takes the signals of a list, one after another. -/
def extend (r : Roster) (ss : List Signal) : Roster := ss.foldl push r

def contacts (r : Roster) : List Contact := Contact.sorted r.entries

end Roster

@[ext] structure History where
  watermark : Option Instant
  contacts : List Contact
  deriving DecidableEq, Repr

namespace History

def noWatermark : Int64 := -1

def lastUpdatedAt (h : History) : Int64 :=
  match h.watermark with
  | some t => t.millis
  | none => noWatermark

def find? (h : History) (counterparty : String) : Option Contact :=
  h.contacts.find? fun c => c.counterparty = counterparty

end History
end ContactHistory
