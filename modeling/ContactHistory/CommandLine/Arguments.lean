import ContactHistory.CommandLine.Switch

namespace ContactHistory.CommandLine

structure AggregateOptions where
  subject : String
  sources : List String
  addresses : List String
  pretty : Bool
  deriving DecidableEq, Repr

inductive Command where
  | contacts
  | migrate
  | aggregate (options : AggregateOptions)
  deriving DecidableEq, Repr

namespace Topic

/-- The commands, in the order of the help. -/
def commands : List Topic := [contacts, migrate, aggregate, help]

/-- The name by which a command is called. -/
def name : Topic → String
  | program => "cb"
  | contacts => "contacts"
  | migrate => "migrate"
  | aggregate => "aggregate"
  | help => "help"

def named? (s : String) : Option Topic := commands.find? fun t => t.name = s

end Topic

/-- The switch that asks for the help on a topic. -/
def helpSwitch {δ : Type} (t : Topic) : Switch δ where
  letter := some 'h'
  name := "help"
  about := "Print help"
  required := false
  effect := .stop (.help t)

def versionSwitch {δ : Type} : Switch δ where
  letter := some 'V'
  name := "version"
  about := "Print version"
  required := false
  effect := .stop .version

def programSwitches : List (Switch Unit) := [helpSwitch .program, versionSwitch]

namespace AggregateOptions

structure Draft where
  subject : Option String := none
  sources : List String := []
  addresses : List String := []
  pretty : Bool := false
  deriving DecidableEq, Repr

def ofDraft (d : Draft) : Except Stop AggregateOptions :=
  match d.subject with
  | some subject => .ok ⟨subject, d.sources, d.addresses, d.pretty⟩
  | none => .error .misuse

def subjectSwitch : Switch Draft where
  letter := none
  name := "subject"
  about := "Subject address"
  required := true
  effect := .take "SUBJECT" fun d v =>
    if d.subject.isSome then none else some { d with subject := some v }

def sourceSwitch : Switch Draft where
  letter := none
  name := "source"
  about := "Contact point to query; repeatable. Defaults to CONTACTS_DEFAULT_SOURCES or all"
  required := false
  effect := .take "SOURCES" fun d v => some { d with sources := d.sources ++ [v] }

def addressSwitch : Switch Draft where
  letter := none
  name := "address"
  about := "Only report these counterparties; repeatable"
  required := false
  effect := .take "ADDRESSES" fun d v => some { d with addresses := d.addresses ++ [v] }

def prettySwitch : Switch Draft where
  letter := none
  name := "pretty"
  about := "Pretty-print JSON output"
  required := false
  effect := .mark fun d => if d.pretty then none else some { d with pretty := true }

def switches : List (Switch Draft) :=
  [subjectSwitch, sourceSwitch, addressSwitch, prettySwitch, helpSwitch .aggregate]

def read (args : List String) : Except Stop AggregateOptions := do
  ofDraft (← Switch.readAll switches args {})

end AggregateOptions

namespace Command

/-- The page that the words behind `help` ask for. Only the program itself has commands. -/
def readHelp : List String → Stop
  | [] => .help .program
  | [s] => ((Topic.named? s).map .help).getD .misuse
  | _ => .misuse

def read : List String → Except Stop Command
  | [] => .error .misuse
  | arg :: rest =>
    match Topic.named? arg with
    | some .contacts => (Switch.readAll [helpSwitch .contacts] rest ()).map fun _ => contacts
    | some .migrate => (Switch.readAll [helpSwitch .migrate] rest ()).map fun _ => migrate
    | some .aggregate => aggregate <$> AggregateOptions.read rest
    | some .help => .error (readHelp rest)
    | _ => (Switch.readAll programSwitches (arg :: rest) ()).bind fun _ => .error .misuse

end Command
end ContactHistory.CommandLine
