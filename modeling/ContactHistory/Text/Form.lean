import ContactHistory.Text.Blank
import ContactHistory.Text.Utf8

namespace ContactHistory.Text

/-- The parts of a text between the separators; `n` separators give `n + 1` parts. -/
def splitAll (separator : Char) (cs : List Char) : List (List Char) :=
  cs.foldr (fun c parts =>
    if c = separator then [] :: parts
    else match parts with
      | [] => [[c]]
      | part :: rest => (c :: part) :: rest) [[]]

namespace CommaList

/-- The entries of a list, each without the blanks around it. -/
def entries (s : String) : List String :=
  (((splitAll ',' s.toList).map trim).filter (· ≠ [])).map String.ofList

/-- The text of a list: its entries with commas between them. -/
def join (xs : List String) : String := ",".intercalate xs

example : entries " a, ,b ," = ["a", "b"] := by decide

end CommaList

namespace Percent

/-- The value of a byte that is a hexadecimal digit. -/
def hexValue? (b : UInt8) : Option UInt8 :=
  if 0x30 ≤ b ∧ b ≤ 0x39 then some (b - 0x30)
  else if 0x41 ≤ b ∧ b ≤ 0x46 then some (b - 0x37)
  else if 0x61 ≤ b ∧ b ≤ 0x66 then some (b - 0x57)
  else none

def decode : List UInt8 → List UInt8
  | [] => []
  | b :: bs =>
    if b = 0x25 then
      match bs with
      | x :: y :: rest =>
        match hexValue? x, hexValue? y with
        | some x, some y => (16 * x + y) :: decode rest
        | _, _ => b :: decode (x :: y :: rest)
      | bs => b :: decode bs
    else b :: decode bs
  termination_by bs => bs.length

/-- The byte of a letter, a digit or one of `-`, `.`, `_` and `~`. -/
def isUnreserved (b : UInt8) : Bool :=
  (0x30 ≤ b && b ≤ 0x39) || (0x41 ≤ b && b ≤ 0x5A) || (0x61 ≤ b && b ≤ 0x7A) ||
    b = 0x2D || b = 0x2E || b = 0x5F || b = 0x7E

/-- A byte as it stands in an encoded text. -/
def encodeByte (b : UInt8) : List Char :=
  if isUnreserved b then [Char.ofNat b.toNat]
  else '%' :: [b.toNat / 16, b.toNat % 16].map fun n => (Nat.digitChar n).toUpper

/-- A text of which every byte is unreserved or written with a percent sign. -/
def encode (s : String) : String := String.ofList ((Utf8.encode s).flatMap encodeByte)

/-- The text that a part of a path stands for, if its bytes are one. -/
def decodeText? (s : String) : Option String := Utf8.decode? (decode (Utf8.encode s))

/-- The text that a part of a query stands for: a plus sign is a space, and stray bytes become
U+FFFD. -/
def decodeForm (cs : List Char) : String :=
  let spaced := cs.map fun c => if c = '+' then ' ' else c
  Utf8.decodeLossy (decode (Utf8.encode (String.ofList spaced)))

end Percent

namespace Form

/-- The name and the value of a pair. -/
def pair (cs : List Char) : String × String :=
  let name := cs.takeWhile (· ≠ '=')
  (Percent.decodeForm name, Percent.decodeForm (cs.drop (name.length + 1)))

/-- The pairs of a query; empty ones do not count. -/
def pairs (query : String) : List (String × String) :=
  ((splitAll '&' query.toList).filter (· ≠ [])).map pair

def values (form : List (String × String)) (name : String) : List String :=
  (form.filter fun p => p.1 = name).map Prod.snd

/-- No name of a list is given twice. -/
def isValid (form : List (String × String)) (names : List String) : Bool :=
  names.all fun n => (values form n).length ≤ 1

end Form

namespace Scheme

def isSchemeChar (c : Char) : Bool := c.isAlphanum || c = '+' || c = '-' || c = '.'

/-- A scheme in small letters, and the characters behind its colon. -/
def split? (cs : List Char) : Option (String × List Char) :=
  let scheme := cs.takeWhile isSchemeChar
  match scheme, cs.drop scheme.length with
  | c :: _, ':' :: rest =>
    if c.isAlpha then some (String.ofList (scheme.map Char.toLower), rest) else none
  | _, _ => none

end Scheme

end ContactHistory.Text
