import ContactHistory.CommandLine.Arguments

namespace ContactHistory.CommandLine

def version : String := "0.1.0"

/-- A text with spaces behind it up to a width. -/
def padded (width : Nat) (s : String) : String :=
  String.ofList (s.toList.rightpad width ' ')

def table (title : String) (rows : List (String × String)) : String :=
  let width := (rows.map fun r => r.1.length).foldl max 0
  "\n".intercalate ((title ++ ":") :: rows.map fun r => "  " ++ padded width r.1 ++ "  " ++ r.2)

namespace Switch

variable {δ : Type}

/-- A switch with the placeholder of its value. -/
def withValue (s : Switch δ) : String :=
  match s.effect with
  | .take placeholder _ => "--" ++ s.name ++ " <" ++ placeholder ++ ">"
  | _ => "--" ++ s.name

/-- A switch as a row of a page. -/
def row (s : Switch δ) : String × String :=
  match s.letter with
  | some c => ("-" ++ String.singleton c ++ ", " ++ s.withValue, s.about)
  | none => ("    " ++ s.withValue, s.about)

def table (switches : List (Switch δ)) : String := CommandLine.table "Options" (switches.map row)

/-- How switches are called: those that may be left out are not told one by one. -/
def usage (switches : List (Switch δ)) : List String :=
  "[OPTIONS]" :: (switches.filter (·.required)).map withValue

end Switch

namespace Topic

def about : Topic → String
  | program => "Circles contact aggregation"
  | contacts => "Serve the contacts HTTP API"
  | migrate => "Apply database migrations"
  | aggregate => "Aggregate the contacts of one subject and print them as JSON"
  | help => "Print this message or the help of the given subcommand(s)"

/-- How a command is called, word by word. -/
def usage : Topic → List String
  | program => [program.name, "<COMMAND>"]
  | help => [program.name, help.name, "[COMMAND]..."]
  | aggregate => [program.name, aggregate.name] ++ Switch.usage AggregateOptions.switches
  | t => [program.name, t.name]

/-- What may be given to a command, in tables. -/
def tables : Topic → List String
  | program =>
    [table "Commands" (commands.map fun t => (t.name, t.about)), Switch.table programSwitches]
  | help => [table "Arguments" [("[COMMAND]...", "Print help for the subcommand(s)")]]
  | aggregate => [Switch.table AggregateOptions.switches]
  | t => [Switch.table [(helpSwitch t : Switch Unit)]]

def page (t : Topic) : String :=
  "\n\n".intercalate ([t.about, "Usage: " ++ " ".intercalate t.usage] ++ t.tables) ++ "\n"

end Topic

def versionLine : String := Topic.program.name ++ " " ++ version ++ "\n"

end ContactHistory.CommandLine
