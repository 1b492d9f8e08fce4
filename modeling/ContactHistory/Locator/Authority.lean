import ContactHistory.Locator.Host

namespace ContactHistory.Locator

inductive Kind where
  | web (service : Nat)
  | file
  | other
  deriving DecidableEq, Repr

namespace Kind

def ofScheme : String → Kind
  | "http" | "ws" => web 80
  | "https" | "wss" => web 443
  | "ftp" => web 21
  | "file" => file
  | _ => other

def hasBackslash : Kind → Bool
  | other => false
  | _ => true

def isEnd (k : Kind) (c : Char) : Bool :=
  c = '/' || c = '?' || c = '#' || (k.hasBackslash && c = '\\')

def isSlash (k : Kind) (c : Char) : Bool := c = '/' || (k.hasBackslash && c = '\\')

end Kind

/-- The user and the password in front of the last at sign of an authority, and the characters
behind it. -/
def readUser (k : Kind) (cs : List Char) :
    Except LocatorFault (List Char × List Char × List Char) :=
  let authority := cs.takeWhile (!k.isEnd ·)
  let place := (authority.reverse.takeWhile (· ≠ '@')).reverse
  let rest := cs.drop (authority.length - place.length)
  if !authority.contains '@' then .ok ([], [], cs)
  else
    let account := authority.take (authority.length - place.length - 1)
    if account.isEmpty && place.isEmpty && !rest.isEmpty then .error .noHost
    else
      let user := account.takeWhile (· ≠ ':')
      .ok (user, account.drop (user.length + 1), rest)

/-- How many characters stand in front of a colon outside of brackets or the end of an authority. -/
def hostLength (k : Kind) : Bool → List Char → Nat
  | _, [] => 0
  | inside, c :: cs =>
    if k.isEnd c || (c = ':' && !inside) then 0
    else hostLength k (if c = '[' then true else if c = ']' then false else inside) cs + 1

/-- The host of an authority. On the web it may not be empty. -/
def readHost (k : Kind) (cs : List Char) : Except LocatorFault Host :=
  match k with
  | .other => Host.readOpaque cs
  | _ => if cs.isEmpty then .error .noHost else Host.readWeb cs

/-- The number of a service behind a colon, and the characters behind it. -/
def readService (n : Option Nat) : List Char → Except LocatorFault (Option Nat × List Char)
  | [] => .ok (n, [])
  | c :: cs =>
    if c.isDigit then
      let m := 10 * n.getD 0 + Text.Decimal.digitValue c
      if 65535 < m then .error .badService else readService (some m) cs
    else if c = '/' || c = '\\' || c = '?' || c = '#' then .ok (n, c :: cs)
    else .error .badService

/-- The number of a service that its scheme does not stand for. -/
def ownService (k : Kind) (n : Option Nat) : Option Nat := n.filter fun n => k ≠ .web n

/-- The host and the service of an authority, and the characters behind it. A host without a name
has neither a service nor a user. -/
def readPlace (k : Kind) (hasUser : Bool) (cs : List Char) :
    Except LocatorFault (Option Host × Option Nat × List Char) := do
  let length := hostLength k false cs
  let host ← readHost k (cs.take length)
  let nameless := host == .name ""
  match cs.drop length with
  | ':' :: rest =>
    if nameless then .error .noHost
    else do
      let (service, rest) ← readService none rest
      .ok (some host, ownService k service, rest)
  | rest =>
    if !nameless then .ok (some host, none, rest)
    else if hasUser then .error .noHost
    else .ok (none, none, rest)

end ContactHistory.Locator
