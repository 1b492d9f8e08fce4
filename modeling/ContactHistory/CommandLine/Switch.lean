namespace ContactHistory.CommandLine

inductive Topic where
  | program
  | contacts
  | migrate
  | aggregate
  | help
  deriving DecidableEq, Repr

/-- Why reading ends before all is read: a page or the version is asked for, or the arguments do not
fit. -/
inductive Stop where
  | help (t : Topic)
  | version
  | misuse
  deriving DecidableEq, Repr

/-- What a switch does with a draft. One that may be given once changes no draft that has it. -/
inductive Effect (δ : Type) where
  | stop (s : Stop)
  | mark (set : δ → Option δ)
  | take (placeholder : String) (set : δ → String → Option δ)

structure Switch (δ : Type) where
  letter : Option Char
  name : String
  about : String
  required : Bool
  effect : Effect δ

/-- An argument, by what it looks like. A single dash is a plain one. -/
inductive Argument where
  | separator
  | named (name : String) (value : Option String)
  | letters (first : Char) (more : List Char)
  | plain (s : String)
  deriving DecidableEq, Repr

namespace Argument

/-- An argument of two dashes and some more characters: a name, and a value behind the first equals
sign. -/
def ofLong (cs : List Char) : Argument :=
  let name := cs.takeWhile (· ≠ '=')
  named (String.ofList name) <|
    match cs.drop name.length with
    | [] => none
    | _ :: value => some (String.ofList value)

def read (s : String) : Argument :=
  match s.toList with
  | ['-', '-'] => separator
  | '-' :: '-' :: cs => ofLong cs
  | '-' :: c :: cs => letters c cs
  | _ => plain s

/-- The value that an argument is for the switch before it. -/
def value? : Argument → Option String
  | plain s => some s
  | _ => none

example : read "--subject=a=b" = named "subject" (some "a=b") := by decide

end Argument

namespace Switch

variable {δ : Type}

/-- A draft behind a change that has to succeed. -/
def changed : Option δ → Except Stop δ
  | some d => .ok d
  | none => .error .misuse

/-- The draft behind a switch, and whether its value is still to come. -/
def give (s : Switch δ) (value : Option String) (d : δ) : Except Stop (Option δ) :=
  match s.effect, value with
  | .stop stop, none => .error stop
  | .mark set, none => some <$> changed (set d)
  | .take _ set, some v => some <$> changed (set d v)
  | .take _ _, none => .ok none
  | _, some _ => .error .misuse

/-- The draft behind a switch that takes the next argument. -/
def take (s : Switch δ) (next : String) (d : δ) : Except Stop δ :=
  match s.effect, (Argument.read next).value? with
  | .take _ set, some v => changed (set d v)
  | _, _ => .error .misuse

/-- The switch that an argument gives, with the value in the argument. -/
def find? (switches : List (Switch δ)) : Argument → Option (Switch δ × Option String)
  | .named name value => (switches.find? fun s => s.name = name).map fun s => (s, value)
  | .letters c _ => (switches.find? fun s => s.letter = some c).map fun s => (s, none)
  | _ => none

/-- Reads arguments into a draft. Two dashes alone may end them. -/
def readAll (switches : List (Switch δ)) : List String → δ → Except Stop δ
  | [], d => .ok d
  | arg :: rest, d =>
    if Argument.read arg = .separator then if rest = [] then .ok d else .error .misuse
    else
      match find? switches (Argument.read arg) with
      | none => .error .misuse
      | some (s, value) =>
        match s.give value d, rest with
        | .error stop, _ => .error stop
        | .ok (some d), rest => readAll switches rest d
        | .ok none, [] => .error .misuse
        | .ok none, next :: rest =>
          match s.take next d with
          | .error stop => .error stop
          | .ok d => readAll switches rest d

end Switch
end ContactHistory.CommandLine
