import ContactHistory.Text.Form

namespace ContactHistory.Locator.Path

/-- A tab or an end of a line. -/
def isIgnored (c : Char) : Bool := c = '\t' || c = '\n' || c = '\r'

def significant (cs : List Char) : List Char := cs.filter (!isIgnored ·)

def isDot (segment : List Char) : Bool :=
  [['.'], ['%', '2', 'e']].contains (segment.map Char.toLower)

/-- A segment that takes away the one in front of it. -/
def isDoubleDot (segment : List Char) : Bool :=
  [['.', '.'], ['.', '%', '2', 'e'], ['%', '2', 'e', '.'],
    ['%', '2', 'e', '%', '2', 'e']].contains (segment.map Char.toLower)

def isDrive : List Char → Bool
  | [c, mark] => c.isAlpha && (mark = ':' || mark = '|')
  | _ => false

/-- The name of a drive as it stands in a path. -/
def isPlainDrive : List Char → Bool
  | [c, ':'] => c.isAlpha
  | _ => false

/-- A segment that begins with the name of a drive, as is or with more behind a backslash. -/
def beginsWithDrive (segment : List Char) : Bool :=
  isDrive (segment.take 2) && (segment.drop 2).head?.all (· = '\\')

/-- The name of a drive that ignored characters part from the rest of a segment, and that rest. -/
def partedDrive? (segment : List Char) : Option (List Char × List Char) :=
  let name := significant segment |>.take 2
  let rest := (segment.dropWhile (· ≠ ':')).drop 1
  if isPlainDrive name && rest.head?.any isIgnored && !(significant rest).isEmpty then
    some (name, significant rest)
  else none

/-- What is left of a path up to its last slash. -/
def upToSlash (path : List Char) : List Char := (path.reverse.dropWhile (· ≠ '/')).reverse

def lastSegment (path : List Char) : List Char := (path.reverse.takeWhile (· ≠ '/')).reverse

/-- A path without its last slash, which stays if it is the first or stands behind a drive. -/
def withoutSlash (path : List Char) : List Char :=
  match path.reverse with
  | '/' :: front =>
    let front := front.reverse
    if front.contains '/' && !beginsWithDrive (lastSegment front) then front else path
  | _ => path

def shorten (isFile : Bool) (path : List Char) : List Char :=
  if isFile && isPlainDrive (lastSegment path) then path else upToSlash path

/-- The path with a slash at its end. -/
def closed (path : List Char) : List Char :=
  if path.getLast? = some '/' then path else path ++ ['/']

/-- What has been read of a path, and whether its locator still has a host. -/
structure State where
  path : List Char
  hosted : Bool
  deriving DecidableEq, Repr

/-- The state behind one more segment, all of whose characters count. -/
def stepPlain (isFile : Bool) (s : State) (segment mark : List Char) : State :=
  if isDoubleDot segment then
    let path := shorten isFile (withoutSlash s.path)
    { s with path := if mark.isEmpty then path else closed path }
  else if isDot segment then { s with path := closed s.path }
  else if isFile && s.path.length = 1 && isDrive segment then
    ⟨s.path ++ segment.take 1 ++ ':' :: mark, false⟩
  else { s with path := s.path ++ segment ++ mark }

def step (isFile : Bool) (s : State) (segment : List Char) (slash : Bool) : State :=
  let mark := if slash then ['/'] else []
  match partedDrive? segment with
  | some (drive, rest) =>
    if isFile && s.path.length = 1 then { s with path := s.path ++ drive ++ '/' :: rest ++ mark }
    else stepPlain isFile s (significant segment) mark
  | none => stepPlain isFile s (significant segment) mark

/-- The state behind some segments, all but the last with a slash. -/
def steps (isFile : Bool) : State → List (List Char) → State
  | s, [] => s
  | s, [segment] => step isFile s segment false
  | s, segment :: more => steps isFile (step isFile s segment true) more

/-- The path that characters add to what has been read. On the web a backslash is a slash. -/
def read (isFile isWeb : Bool) (s : State) (cs : List Char) : State :=
  let cs := if isWeb then cs.map fun c => if c = '\\' then '/' else c else cs
  steps isFile s (Text.splitAll '/' cs)

example : (read false false ⟨[], true⟩ "/a/../b".toList).path = "/b".toList := by decide

example : (read true true ⟨[], true⟩ "/c:\tx/../y".toList).path = "/c:/y".toList := by decide

end ContactHistory.Locator.Path
