import ContactHistory.Source

namespace ContactHistory

/-- A question that was put to a source. -/
structure Call where
  point : ContactPoint
  subject : String
  filter : Filter
  deriving DecidableEq

structure Failure where
  point : ContactPoint
  error : SourceError
  deriving DecidableEq, Repr

namespace Polling

/-- What has happened so far: the calls that were made, the queries that they put, and the points
whose sources have ended, well or badly. All are in the order of time. -/
structure Trace where
  calls : List Call
  queries : List Database.Query
  finished : List ContactPoint
  deriving DecidableEq

namespace Trace

def empty : Trace := ⟨[], [], []⟩

/-- The trace with a call more and with its queries. -/
def addCall (t : Trace) (c : Call) (queries : List Database.Query) : Trace :=
  { t with calls := t.calls ++ [c], queries := t.queries ++ queries }

def addFinished (t : Trace) (p : ContactPoint) : Trace := { t with finished := t.finished ++ [p] }

end Trace

/-- The place of one source. A source is asked when its slot is looked at for the first time, and
its answer fills the slot. -/
inductive Slot where
  | unasked (source : Source)
  | waiting (point : ContactPoint) (reply : Reply)
  | answered (signals : List Signal)

namespace Slot

/-- Looks at a reply. A round has passed for one that is not there yet. -/
def look (point : ContactPoint) : Reply → Trace → Except Failure Slot × Trace
  | .stalled, t => (.ok (.waiting point .stalled), t)
  | .after (n + 1) answer, t => (.ok (.waiting point (.after n answer)), t)
  | .after 0 (.ok signals), t => (.ok (.answered signals), t.addFinished point)
  | .after 0 (.error e), t => (.error ⟨point, e⟩, t.addFinished point)

/-- Looks at a slot, and asks its source if that has not been done. -/
def poll (subject : String) (filter : Filter) : Slot → Trace → Except Failure Slot × Trace
  | unasked s, t =>
    let asked := s.ask subject filter
    look s.point asked.result (t.addCall ⟨s.point, subject, filter⟩ asked.queries)
  | waiting p r, t => look p r t
  | answered signals, t => (.ok (answered signals), t)

def signals? : Slot → Option (List Signal)
  | answered signals => some signals
  | _ => none

end Slot

/-- One round over the slots, up to the first failure. -/
def round (subject : String) (filter : Filter) :
    List Slot → Trace → Except Failure (List Slot) × Trace
  | [], t => (.ok [], t)
  | s :: ss, t =>
    match s.poll subject filter t with
    | (.error f, t) => (.error f, t)
    | (.ok s, t) =>
      match round subject filter ss t with
      | (.error f, t) => (.error f, t)
      | (.ok ss, t) => (.ok (s :: ss), t)

/-- How polling ends, if it does: with a failure, or with the answers in order of the sources. -/
inductive Ending where
  | stalled
  | failed (f : Failure)
  | answered (batches : List (List Signal))
  deriving DecidableEq, Repr

def rounds (subject : String) (filter : Filter) : Nat → List Slot → Trace → Ending × Trace
  | 0, _, t => (.stalled, t)
  | n + 1, slots, t =>
    match round subject filter slots t with
    | (.error f, t) => (.failed f, t)
    | (.ok slots, t) =>
      match slots.mapM Slot.signals? with
      | some batches => (.answered batches, t)
      | none => rounds subject filter n slots t

/-- The number of rounds after which a reply is there, if it ever is. -/
def patience : Reply → Nat
  | .stalled => 0
  | .after n _ => n

/-- Polls sources until they end. A source still waiting after as many rounds as the slowest answer
takes never answers. -/
def run (sources : List Source) (subject : String) (filter : Filter) : Ending × Trace :=
  let longest := (sources.map fun s => patience (s.fetch subject filter)).foldl max 0
  rounds subject filter (longest + 1) (sources.map .unasked) .empty

end Polling
end ContactHistory
