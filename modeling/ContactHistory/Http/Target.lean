import ContactHistory.Http.Message
import ContactHistory.Text.Form

namespace ContactHistory.Http

@[ext] structure Target where
  path : String
  query : Option String
  deriving DecidableEq, Repr

namespace Target

/-- The largest number of bytes of a target. -/
def maxBytes : Nat := 65534

/-- A character that a path may hold as it is. -/
def isPathChar (c : Char) : Bool :=
  let n := c.toNat
  n = 0x21 || (0x24 ≤ n && n ≤ 0x3B) || n = 0x3D || (0x40 ≤ n && n ≤ 0x5F) ||
    (0x61 ≤ n && n ≤ 0x7A) || n = 0x7C || n = 0x7E || 0x80 ≤ n ||
    c = '"' || c = '\x7b' || c = '\x7d'

/-- A character that a query may hold as it is. -/
def isQueryChar (c : Char) : Bool :=
  let n := c.toNat
  n = 0x21 || (0x24 ≤ n && n ≤ 0x3B) || n = 0x3D || (0x3F ≤ n && n ≤ 0x7E) || 0x80 ≤ n

/-- A path with perhaps a query, and a fragment that does not count. The empty path is the root. -/
def ofPath? (cs : List Char) : Option Target :=
  let path := cs.takeWhile fun c => c ≠ '?' && c ≠ '#'
  if !path.all isPathChar then none
  else
    let root := if path.isEmpty then "/" else String.ofList path
    match cs.drop path.length with
    | '?' :: rest =>
      let query := rest.takeWhile (· ≠ '#')
      if query.all isQueryChar then some ⟨root, some (String.ofList query)⟩ else none
    | _ => some ⟨root, none⟩

/-- A character that a scheme may hold here, the tilde among them. -/
def isSchemeChar (c : Char) : Bool := Text.Scheme.isSchemeChar c || c = '~'

def maxScheme : Nat := 64

/-- The characters behind a scheme and its slashes. The outer value is missing if the scheme is too
long, the inner one if there is no scheme. -/
def afterScheme (cs : List Char) : Option (Option (List Char)) :=
  let scheme := cs.takeWhile isSchemeChar
  match cs.drop scheme.length with
  | ':' :: '/' :: '/' :: rest => if maxScheme < scheme.length then none else some (some rest)
  | _ => some none

structure AuthorityState where
  colons : Nat
  opened : Bool
  closed : Bool
  percent : Bool
  /-- The last character was an at sign. -/
  atEnd : Bool
  deriving DecidableEq, Repr

namespace AuthorityState

def start : AuthorityState := ⟨0, false, false, false, false⟩

/-- The marks of an authority that have no meaning of their own. -/
def plainMarks : List Char :=
  ['!', '$', '&', '\'', '(', ')', '*', '+', ',', '-', '.', ';', '=', '_', '~']

/-- A character of an authority that has no meaning of its own. -/
def isPlain (c : Char) : Bool := c.isAlphanum || plainMarks.contains c

/-- The state behind one more character, if it may stand there. -/
def step (s : AuthorityState) (c : Char) : Option AuthorityState :=
  if c = ':' then
    if 8 ≤ s.colons then none else some { s with colons := s.colons + 1, atEnd := false }
  else if c = '[' then
    if s.percent || s.opened then none else some { s with opened := true, atEnd := false }
  else if c = ']' then
    if !s.opened || s.closed then none
    else some { s with closed := true, colons := 0, percent := false, atEnd := false }
  else if c = '@' then some { s with colons := 0, percent := false, atEnd := true }
  else if c = '%' then some { s with percent := true, atEnd := false }
  else if isPlain c then some { s with atEnd := false }
  else none

def isFinal (s : AuthorityState) : Bool :=
  s.opened == s.closed && s.colons ≤ 1 && !s.percent && !s.atEnd

end AuthorityState

/-- The characters behind an authority, which ends at a slash, a question mark or a number sign. -/
def afterAuthority? (cs : List Char) : Option (List Char) :=
  let authority := cs.takeWhile fun c => c ≠ '/' && c ≠ '?' && c ≠ '#'
  match authority.foldlM AuthorityState.step .start with
  | some s => if s.isFinal then some (cs.drop authority.length) else none
  | none => none

def read? (s : String) : Option Target :=
  if maxBytes < s.utf8ByteSize then none
  else match s.toList with
  | [] => none
  | '/' :: cs => ofPath? ('/' :: cs)
  | ['*'] => some ⟨"*", none⟩
  | cs => do
    match ← afterScheme cs with
    | none =>
      let rest ← afterAuthority? cs
      if rest.isEmpty then some ⟨"", none⟩ else none
    | some behind =>
      let rest ← afterAuthority? behind
      if rest.length = behind.length then none else ofPath? rest

end Target

/-- The request of its parts, if each of them can be sent. -/
def Request.ofParts? (method target : String) (headers : List (String × String))
    (body : List UInt8) : Option Request := do
  let t ← Target.read? target
  if isToken method && headers.all isField then
    some ⟨method, t.path, t.query, headers, body⟩
  else none

end ContactHistory.Http
