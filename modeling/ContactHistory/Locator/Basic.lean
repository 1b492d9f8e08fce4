import ContactHistory.Locator.Authority
import ContactHistory.Locator.Path
import ContactHistory.Text.Form

namespace ContactHistory

/-- The parts of a scheme and a colon, then two slashes with an authority where there is one, a path
and a query. Locators of the web always have an authority, and those of files a host at most. -/
structure Locator where
  user : String
  password : String
  host : Option Host
  /-- The number of the service, unless it is the one that the scheme stands for. -/
  service : Option Nat
  path : String
  query : Option String

namespace Locator

def isControlOrSpace (c : Char) : Bool := c.toNat ≤ 0x20

/-- The characters of a locator without controls and spaces at its ends. -/
def trimmed (cs : List Char) : List Char :=
  ((cs.dropWhile isControlOrSpace).reverse.dropWhile isControlOrSpace).reverse

def pathChars (cs : List Char) : List Char := cs.takeWhile fun c => c ≠ '?' && c ≠ '#'

/-- The query behind a path, up to a fragment. -/
def queryOf? (cs : List Char) : Option String :=
  match cs.drop (pathChars cs).length with
  | '?' :: query => some (String.ofList (Path.significant (query.takeWhile (· ≠ '#'))))
  | _ => none

/-- The path behind an authority. On the web there is always one, and elsewhere it begins with a
slash if it is not empty. -/
def pathBehind (k : Kind) (cs : List Char) : List Char :=
  let cs := pathChars cs
  match k, cs with
  | .other, [] => []
  | _, c :: rest =>
    (Path.read false k.hasBackslash ⟨['/'], true⟩ (if k.isSlash c then rest else c :: rest)).path
  | _, [] => ['/']

def readAuthority (k : Kind) (cs : List Char) : Except LocatorFault Locator := do
  let (user, password, rest) ← readUser k cs
  let (host, service, rest) ← readPlace k (!(user.isEmpty && password.isEmpty)) rest
  .ok {
    user := String.ofList user
    password := String.ofList password
    host, service
    path := String.ofList (pathBehind k rest)
    query := queryOf? rest }

def ofPath (path : List Char) (cs : List Char) : Locator :=
  ⟨"", "", none, none, String.ofList path, queryOf? cs⟩

/-- The path of a file: the slashes in front count as one. -/
def filePath (s : Path.State) : List Char := '/' :: s.path.dropWhile (· = '/')

/-- The locator of a file on a host that has been read. -/
def readFileOn (host : Option Host) (start : List Char) (cs : List Char) : Locator :=
  let s := Path.read true true ⟨start, host.isSome⟩ (pathChars cs)
  { ofPath (filePath s) cs with host := if s.hosted then host else none }

/-- The locator of a file behind two slashes. A drive is no host, and the host of this machine does
not count. -/
def readFileHost (cs : List Char) : Except LocatorFault Locator := do
  let place := cs.takeWhile (!Kind.file.isEnd ·)
  let name := Path.significant place
  if Path.isDrive name then .ok (readFileOn none ['/'] cs)
  else
    let rest := cs.drop place.length
    if name.isEmpty then .ok (readFileOn none [] rest)
    else do
      let host ← Host.readWeb name
      if host == .name "localhost" then .ok (readFileOn none [] rest)
      else
        match rest with
        | c :: more =>
          .ok (readFileOn (some host) ['/'] (if Kind.file.isSlash c then more else rest))
        | [] => .ok (readFileOn (some host) ['/'] [])

/-- The locator of a file behind its scheme; the characters that do not count are still there. -/
def readFile (cs : List Char) : Except LocatorFault Locator :=
  match cs.dropWhile Path.isIgnored with
  | [] => .ok (readFileOn none ['/'] [])
  | c :: cs =>
    if !Kind.file.isSlash c then .ok (readFileOn none ['/'] (c :: cs))
    else
      match cs.dropWhile Path.isIgnored with
      | [] => .ok (readFileOn none ['/'] [])
      | d :: more =>
        if Kind.file.isSlash d then readFileHost more
        else .ok (readFileOn none ['/'] (d :: more))

def read (s : String) : Except LocatorFault Locator :=
  let cs := trimmed s.toList
  match Text.Scheme.split? (Path.significant cs) with
  | none => .error .noScheme
  | some (scheme, rest) =>
    match Kind.ofScheme scheme with
    | .web n => readAuthority (.web n) (rest.dropWhile fun c => c = '/' || c = '\\')
    | .file => readFile ((cs.dropWhile (· ≠ ':')).drop 1)
    | .other =>
      match rest with
      | '/' :: '/' :: cs => readAuthority .other cs
      | '/' :: cs => .ok (ofPath (Path.read false false ⟨['/'], true⟩ (pathChars cs)).path cs)
      | cs => .ok (ofPath (pathChars cs) cs)

end Locator
end ContactHistory
