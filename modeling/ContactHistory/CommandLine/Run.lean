import ContactHistory.CommandLine.Help
import ContactHistory.Database.Location
import ContactHistory.Payload
import ContactHistory.Text.Decimal

namespace ContactHistory.CommandLine

namespace Report

def hanging (indent : Nat) (s : String) : String :=
  String.ofList <| s.toList.flatMap fun c =>
    if c = '\n' then c :: List.replicate indent ' ' else [c]

def lone (cause : String) : String := "    " ++ hanging 4 cause

def numbered (n : Nat) (cause : String) : String :=
  String.ofList ((Text.Decimal.digits n).leftpad 5 ' ') ++ ": " ++ hanging 7 cause

def causeLines : List String → List String
  | [cause] => [lone cause]
  | causes => causes.mapIdx numbered

end Report

/-- The report of a failure and its causes. -/
def report (message : String) (causes : List String) : String :=
  "Error: " ++ message ++ "\n" ++
    if causes.isEmpty then ""
    else "\nCaused by:\n" ++ "\n".intercalate (Report.causeLines causes) ++ "\n"

example : report "a" ["b\nc"] = "Error: a\n\nCaused by:\n    b\n    c\n" := by decide

structure Surroundings where
  environment : Environment
  network : Network
  now : Instant

inductive CommandError where
  | settings (e : SettingsError)
  | connection (e : QueryError)
  | blankSubject
  | aggregation (e : AggregationError)
  deriving DecidableEq, Repr

namespace CommandError

def message : CommandError → String
  | settings e => e.message
  | connection _ => QueryError.connectText
  | blankSubject => "subject is empty"
  | aggregation e => e.message

/-- The texts of what lies under a failure, the nearest first. -/
def causes : CommandError → List String
  | settings e => e.causes
  | connection e => e.message :: e.causes
  | blankSubject => []
  | aggregation e => e.causes

def report (e : CommandError) : String := CommandLine.report e.message e.causes

end CommandError

/-- How the program ends, if it does: with a text, perhaps of an aggregation, with a failure, or
because the arguments do not fit. -/
inductive Ending where
  | printed (text : String) (run : Option Run)
  | failed (e : CommandError)
  | misused
  | endless

namespace Ending

def code? : Ending → Option Nat
  | printed _ _ => some 0
  | failed _ => some 1
  | misused => some 2
  | endless => none

def output : Ending → String
  | printed text _ => text
  | _ => ""

def errors : Ending → String
  | failed e => e.report
  | misused => "Usage: " ++ " ".intercalate Topic.program.usage ++ "\n"
  | _ => ""

def ofStop : Stop → Ending
  | .help t => printed t.page none
  | .version => printed versionLine none
  | .misuse => misused

end Ending

namespace AggregateOptions

/-- The sources that are asked for, or those of the settings. -/
def selection (o : AggregateOptions) (s : Settings) : Selection :=
  .ofNamesOr (Settings.defaultSelection s.defaultSources) (some o.sources)

def filter (o : AggregateOptions) : Filter := .ofAddresses o.addresses

/-- The text of a history, in one line or in many. -/
def render (o : AggregateOptions) (h : History) : String :=
  let payload := (Payload.HistoryRecord.ofHistory h).toJson
  (if o.pretty then payload.pretty else payload.compact) ++ "\n"

/-- The aggregation over some databases. The subject may not be blank. -/
def run (o : AggregateOptions) (s : Settings) (d : Databases) (now : Instant) :
    Except CommandError Run :=
  let subject := Text.trimmed o.subject
  if subject = "" then .error .blankSubject
  else .ok (d.aggregator.run subject (o.selection s) o.filter now)

def conclude (o : AggregateOptions) (r : Run) : Except CommandError Ending :=
  match r.outcome with
  | .stalled => .ok .endless
  | .failed e => .error (.aggregation e)
  | .loaded h => .ok (.printed (o.render h) (some r))

end AggregateOptions

namespace Command

/-- The settings and the databases that they tell. -/
def connect (w : Surroundings) : Except CommandError (Settings × Databases) := do
  let settings ← (Settings.load w.environment).mapError .settings
  let databases ← (w.network.connectAll settings).mapError .connection
  .ok (settings, databases)

/-- What a command does, unless it fails. Only the database of the application is migrated. -/
def run (w : Surroundings) : Command → Except CommandError Ending
  | contacts => do
    let _ ← connect w
    .ok .endless
  | migrate => do
    let locator ← (w.environment.required Settings.databaseUrlName).mapError .settings
    let _ ← (w.network.connect locator).mapError .connection
    .ok (.printed "" none)
  | aggregate options => do
    let (settings, databases) ← connect w
    options.conclude (← options.run settings databases w.now)

end Command

def run (w : Surroundings) (args : List String) : Ending :=
  match Command.read args with
  | .error stop => .ofStop stop
  | .ok command =>
    match command.run w with
    | .error e => .failed e
    | .ok ending => ending

end ContactHistory.CommandLine
