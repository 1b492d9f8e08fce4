import ContactHistory.Json.Value

namespace ContactHistory.Json

/-- What stops a reader: the text is not JSON, it is JSON of another shape, or it ends early. -/
inductive Fault where
  | malformed
  | shape
  | truncated
  deriving DecidableEq, Repr

/-- A text whose bytes need not all be characters. -/
abbrev Input := List (Option Char)

def Input.ofString (s : String) : Input := s.toList.map some

namespace Reader

def isBlank : Option Char → Bool
  | some c => c = ' ' || c = '\n' || c = '\t' || c = '\r'
  | none => false

def skipBlanks (cs : Input) : Input := cs.dropWhile isBlank

/-- The rest of a keyword, of which the first letter is already read. -/
def keyword : List Char → Input → Except Fault Input
  | [], cs => .ok cs
  | _ :: _, [] => .error .truncated
  | k :: ks, c :: cs => if c = some k then keyword ks cs else .error .malformed

/-! ### Quoted texts -/

def hexValue? (c : Char) : Option Nat :=
  if '0' ≤ c ∧ c ≤ '9' then some (c.toNat - 48)
  else if 'a' ≤ c ∧ c ≤ 'f' then some (c.toNat - 87)
  else if 'A' ≤ c ∧ c ≤ 'F' then some (c.toNat - 55)
  else none

/-- The bytes that an item of the input takes at least. -/
def byteWidth : Option Char → Nat
  | some c => c.utf8Size
  | none => 1

/-- A number of four hexadecimal digits. The input is truncated if four bytes are not left. -/
def hexNumber (cs : Input) : Except Fault (Nat × Input) :=
  if (cs.take 4).foldl (fun n b => n + byteWidth b) 0 < 4 then .error .truncated
  else match cs with
    | some a :: some b :: some c :: some d :: cs =>
      match hexValue? a, hexValue? b, hexValue? c, hexValue? d with
      | some a, some b, some c, some d => .ok (((a * 16 + b) * 16 + c) * 16 + d, cs)
      | _, _, _, _ => .error .malformed
    | _ => .error .malformed

def exactly (k : Char) : Input → Except Fault Input
  | [] => .error .truncated
  | c :: cs => if c = some k then .ok cs else .error .malformed

def isHighSurrogate (n : Nat) : Bool := 0xD800 ≤ n && n ≤ 0xDBFF

def isLowSurrogate (n : Nat) : Bool := 0xDC00 ≤ n && n ≤ 0xDFFF

/-- The character of an escape `\u`. A high surrogate needs a low one behind it. -/
def unicodeEscape (cs : Input) : Except Fault (Char × Input) := do
  let (n, cs) ← hexNumber cs
  if isLowSurrogate n then .error .malformed
  else if isHighSurrogate n then
    let cs ← exactly '\\' cs
    let cs ← exactly 'u' cs
    let (m, cs) ← hexNumber cs
    if isLowSurrogate m then
      .ok (Char.ofNat (0x10000 + (n - 0xD800) * 0x400 + (m - 0xDC00)), cs)
    else .error .malformed
  else .ok (Char.ofNat n, cs)

/-- The letters of the short escapes, and what they stand for. -/
def shortEscape? : Char → Option Char
  | '"' => some '"'
  | '\\' => some '\\'
  | '/' => some '/'
  | 'b' => some '\x08'
  | 'f' => some '\x0c'
  | 'n' => some '\n'
  | 'r' => some '\r'
  | 't' => some '\t'
  | _ => none

/-- The character of an escape, behind its backslash. -/
def escaped : Input → Except Fault (Char × Input)
  | [] => .error .truncated
  | none :: _ => .error .malformed
  | some 'u' :: cs => unicodeEscape cs
  | some c :: cs =>
    match shortEscape? c with
    | some d => .ok (d, cs)
    | none => .error .malformed

/-- The characters up to the closing quote, in reverse onto those before. The first number bounds
the length of the input. -/
def quotedChars : Nat → List Char → Input → Except Fault (List Char × Input)
  | 0, _, _ => .error .truncated
  | _, _, [] => .error .truncated
  | _, _, none :: _ => .error .malformed
  | n + 1, acc, some c :: cs =>
    if c = '"' then .ok (acc, cs)
    else if c = '\\' then
      match escaped cs with
      | .error e => .error e
      | .ok (d, cs) => quotedChars n (d :: acc) cs
    else if c.toNat < 32 then .error .malformed
    else quotedChars n (c :: acc) cs

def quoted (cs : Input) : Except Fault (String × Input) := do
  let (acc, cs) ← quotedChars (cs.length + 1) [] cs
  .ok (String.ofList acc.reverse, cs)

/-! ### Numbers -/

def isDigit : Option Char → Bool
  | some c => Text.Decimal.isDigit c
  | none => false

def digitOf : Option Char → Nat
  | some c => Text.Decimal.digitValue c
  | none => 0

/-- A number as it was read: an integer that 64 bits hold, or any other number. -/
inductive Number where
  | unsigned (n : Nat)
  | negative (n : Nat)
  | other
  deriving DecidableEq, Repr

def unsignedMax : Nat := UInt64.size - 1

/-- Digits read onto a significand as long as 64 bits hold it, and the number of digits read. -/
def significandDigits : Nat → Nat → Input → Nat × Nat × Input
  | n, taken, [] => (n, taken, [])
  | n, taken, c :: cs =>
    if isDigit c ∧ 10 * n + digitOf c ≤ unsignedMax then
      significandDigits (10 * n + digitOf c) (taken + 1) cs
    else (n, taken, c :: cs)

def digitCount (cs : Input) : Nat := (cs.takeWhile isDigit).length

/-- Whether a significand times a power of ten is too large for a number of double precision. -/
def overflows (significand : Nat) (exponent : Int) : Bool :=
  if significand = 0 ∨ exponent < 0 then false
  else if exponent > 308 then true
  else (Float.ofNat significand * Float.ofScientific 1 false exponent.toNat).isInf

/-- The other numbers: refused if they are too large. -/
def scaled (significand : Nat) (exponent : Int) (cs : Input) : Except Fault (Number × Input) :=
  if overflows significand exponent then .error .malformed else .ok (.other, cs)

/-- The value of a run of digits, or the bound if it is not below it. -/
def boundedValue (bound : Nat) (ds : Input) : Nat :=
  ds.foldl (fun n c => min bound (10 * n + digitOf c)) 0

/-- The exponent of a number, behind its letter. -/
def exponentPart (significand : Nat) (start : Int) (cs : Input) : Except Fault (Number × Input) :=
  let (negative, cs) := match cs with
    | some '+' :: cs => (false, cs)
    | some '-' :: cs => (true, cs)
    | cs => (false, cs)
  match cs with
  | [] => .error .truncated
  | c :: rest =>
    if isDigit c then
      let e := boundedValue 0x80000000 ((c :: rest).takeWhile isDigit)
      let rest := rest.dropWhile isDigit
      if e = 0x80000000 then
        if significand ≠ 0 && !negative then .error .malformed else .ok (.other, rest)
      else scaled significand (if negative then start - e else start + e) rest
    else .error .malformed

/-- What follows a significand: an exponent or nothing. -/
def afterSignificand (significand : Nat) (exponent : Int) (cs : Input) :
    Except Fault (Number × Input) :=
  match cs with
  | some 'e' :: cs => exponentPart significand exponent cs
  | some 'E' :: cs => exponentPart significand exponent cs
  | cs => scaled significand exponent cs

/-- The digits behind the point, of which there is at least one. -/
def fractionPart (significand : Nat) (exponent : Int) (cs : Input) :
    Except Fault (Number × Input) :=
  match cs with
  | [] => .error .truncated
  | c :: _ =>
    if isDigit c then
      let (m, taken, cs) := significandDigits significand 0 cs
      afterSignificand m (exponent - taken) (cs.dropWhile isDigit)
    else .error .malformed

/-- The number of digits without point and exponent. -/
def integral (negative : Bool) (n : Nat) : Number :=
  if negative then if 0 < n ∧ n ≤ 0x8000000000000000 then .negative n else .other
  else .unsigned n

def number (negative : Bool) (cs : Input) : Except Fault (Number × Input) :=
  match cs with
  | [] => .error .truncated
  | some '0' :: c :: cs =>
    if isDigit c then .error .malformed else finish 0 0 (c :: cs)
  | c :: rest =>
    if isDigit c then
      let (m, _, rest) := significandDigits 0 0 (c :: rest)
      finish m (digitCount rest) (rest.dropWhile isDigit)
    else .error .malformed
where
  finish (m : Nat) (dropped : Nat) : Input → Except Fault (Number × Input)
    | some '.' :: cs => fractionPart m dropped cs
    | some 'e' :: cs => exponentPart m dropped cs
    | some 'E' :: cs => exponentPart m dropped cs
    | cs => if dropped = 0 then .ok (integral negative m, cs) else scaled m dropped cs

/-! ### Values of a wanted shape -/

/-- The fault of a value that has another shape than the wanted one: that of its text, if it is not
well formed up to the point that shows its shape. -/
def refuse {α : Type} : Input → Except Fault α
  | [] => .error .truncated
  | some 'n' :: cs => (keyword ['u', 'l', 'l'] cs).bind fun _ => .error .shape
  | some 't' :: cs => (keyword ['r', 'u', 'e'] cs).bind fun _ => .error .shape
  | some 'f' :: cs => (keyword ['a', 'l', 's', 'e'] cs).bind fun _ => .error .shape
  | some '-' :: cs => (number true cs).bind fun _ => .error .shape
  | some '"' :: cs => (quoted cs).bind fun _ => .error .shape
  | some '[' :: _ => .error .shape
  | some '{' :: _ => .error .shape
  | c :: cs => if isDigit c then (number false (c :: cs)).bind fun _ => .error .shape
    else .error .malformed

def text (cs : Input) : Except Fault (String × Input) :=
  match skipBlanks cs with
  | some '"' :: cs => quoted cs
  | cs => refuse cs

def int64 (cs : Input) : Except Fault (Int64 × Input) :=
  match skipBlanks cs with
  | some '-' :: cs => (number true cs).bind fun
    | (.negative n, cs) => .ok (Int64.ofInt (-(n : Int)), cs)
    | _ => .error .shape
  | c :: cs =>
    if isDigit c then (number false (c :: cs)).bind fun
      | (.unsigned n, cs) =>
        if n < 0x8000000000000000 then .ok (Int64.ofNat n, cs) else .error .shape
      | _ => .error .shape
    else refuse (c :: cs)
  | cs => refuse cs

def nullable {α : Type} (item : Input → Except Fault (α × Input)) (cs : Input) :
    Except Fault (Option α × Input) :=
  match skipBlanks cs with
  | some 'n' :: cs => (keyword ['u', 'l', 'l'] cs).map fun cs => (none, cs)
  | cs => (item cs).map fun (a, cs) => (some a, cs)

/-- Whether a list goes on: the text of its next item, or the text behind its bracket. -/
def nextItem (first : Bool) (cs : Input) : Except Fault (Bool × Input) :=
  match skipBlanks cs with
  | [] => .error .truncated
  | some ']' :: cs => .ok (false, cs)
  | c :: cs =>
    if first then .ok (true, c :: cs)
    else if c = some ',' then
      match skipBlanks cs with
      | [] => .error .truncated
      | some ']' :: _ => .error .malformed
      | cs => .ok (true, cs)
    else .error .malformed

/-- The items of a list, in reverse onto those before. The first number bounds the length of the
input. -/
def items {α : Type} (item : Input → Except Fault (α × Input)) :
    Nat → Bool → List α → Input → Except Fault (List α × Input)
  | 0, _, _, _ => .error .truncated
  | n + 1, first, acc, cs =>
    match nextItem first cs with
    | .error e => .error e
    | .ok (false, cs) => .ok (acc, cs)
    | .ok (true, cs) =>
      match item cs with
      | .error e => .error e
      | .ok (a, cs) => items item n false (a :: acc) cs

def list {α : Type} (item : Input → Except Fault (α × Input)) (cs : Input) :
    Except Fault (List α × Input) :=
  match skipBlanks cs with
  | some '[' :: cs => (items item (cs.length + 1) true [] cs).map fun (acc, cs) => (acc.reverse, cs)
  | cs => refuse cs

/-- The value of a whole text, with nothing but blanks behind it. -/
def whole {α : Type} (reader : Input → Except Fault (α × Input)) (cs : Input) : Except Fault α :=
  (reader cs).bind fun (a, cs) =>
    if (skipBlanks cs).isEmpty then .ok a else .error .malformed

end Reader
end ContactHistory.Json
