import ContactHistory.Text.Decimal
import ContactHistory.Text.Printable

namespace ContactHistory.Text

inductive Piece where
  | char (c : Char)
  | stray (bytes : List UInt8)
  deriving DecidableEq, Repr

namespace Piece

def char? : Piece → Option Char
  | char c => some c
  | stray _ => none

end Piece

/-- A character as it stands in a shown text. -/
def showChar (c : Char) : List Char :=
  if c = '\t' then ['\\', 't']
  else if c = '\r' then ['\\', 'r']
  else if c = '\n' then ['\\', 'n']
  else if c = '\x00' then ['\\', '0']
  else if c = '\\' ∨ c = '"' then ['\\', c]
  else if isExtending c || !isPrintable c then
    ['\\', 'u', '\x7b'] ++ Nat.toDigits 16 c.toNat ++ ['\x7d']
  else [c]

def showByte (b : UInt8) : List Char :=
  ['\\', 'x'] ++ [b.toNat / 16, b.toNat % 16].map fun n => (Nat.digitChar n).toUpper

/-- The pieces between quotes, with escapes for what cannot be shown. -/
def showPieces (ps : List Piece) : String :=
  String.ofList ('"' :: (ps.flatMap piece ++ ['"']))
where
  piece : Piece → List Char
    | .char c => showChar c
    | .stray bs => bs.flatMap showByte

/-- A text between quotes, with escapes for what cannot be shown. -/
def showText (s : String) : String :=
  String.ofList ('"' :: (s.toList.flatMap showChar ++ ['"']))

/-- Why a byte string is no text: a stray piece behind the given number of bytes, with its length
unless more bytes could make it a character. -/
structure Utf8Fault where
  index : Nat
  length : Option Nat
  deriving DecidableEq, Repr

def Utf8Fault.message : Utf8Fault → String
  | ⟨index, none⟩ => "incomplete utf-8 byte sequence from index " ++ Decimal.ofNat index
  | ⟨index, some n⟩ =>
    "invalid utf-8 sequence of " ++ Decimal.ofNat n ++ " bytes from index " ++ Decimal.ofNat index

namespace Utf8

/-- A first byte of a character of several bytes: the bounds of the second byte, and how many bytes
follow it. -/
def lead? (b : UInt8) : Option (UInt8 × UInt8 × Nat) :=
  if 0xC2 ≤ b ∧ b ≤ 0xDF then some (0x80, 0xBF, 0)
  else if b = 0xE0 then some (0xA0, 0xBF, 1)
  else if b = 0xED then some (0x80, 0x9F, 1)
  else if 0xE1 ≤ b ∧ b ≤ 0xEF then some (0x80, 0xBF, 1)
  else if b = 0xF0 then some (0x90, 0xBF, 2)
  else if 0xF1 ≤ b ∧ b ≤ 0xF3 then some (0x80, 0xBF, 2)
  else if b = 0xF4 then some (0x80, 0x8F, 2)
  else none

/-- The bits of a first byte that belong to the character. -/
def leadBits (b : UInt8) : Nat :=
  if b < 0xE0 then b.toNat % 32 else if b < 0xF0 then b.toNat % 16 else b.toNat % 8

/-- What of a character has been read: its bits, its bytes in reverse, and the bounds of the next
byte with the number of bytes behind it. -/
structure Partial where
  bits : Nat
  bytes : List UInt8
  low : UInt8
  high : UInt8
  left : Nat
  deriving DecidableEq, Repr

/-- The state of a decoder: the pieces so far in reverse, and a character that has begun. -/
structure Decoder where
  pieces : List Piece
  begun : Option Partial
  deriving DecidableEq, Repr

namespace Decoder

def start : Decoder := ⟨[], none⟩

/-- Takes a byte that no begun character waits for. -/
def first (pieces : List Piece) (b : UInt8) : Decoder :=
  if b < 0x80 then ⟨.char (Char.ofNat b.toNat) :: pieces, none⟩
  else match lead? b with
    | some (low, high, left) => ⟨pieces, some ⟨leadBits b, [b], low, high, left⟩⟩
    | none => ⟨.stray [b] :: pieces, none⟩

/-- Takes a byte. One that does not belong to the begun character ends it as a stray piece. -/
def step (d : Decoder) (b : UInt8) : Decoder :=
  match d.begun with
  | none => first d.pieces b
  | some p =>
    if p.low ≤ b ∧ b ≤ p.high then
      let bits := p.bits * 64 + b.toNat % 64
      match p.left with
      | 0 => ⟨.char (Char.ofNat bits) :: d.pieces, none⟩
      | n + 1 => ⟨d.pieces, some ⟨bits, b :: p.bytes, 0x80, 0xBF, n⟩⟩
    else first (.stray p.bytes.reverse :: d.pieces) b

def finish (d : Decoder) : List Piece :=
  match d.begun with
  | none => d.pieces.reverse
  | some p => (Piece.stray p.bytes.reverse :: d.pieces).reverse

end Decoder

def pieces (bs : List UInt8) : List Piece := (bs.foldl Decoder.step .start).finish

/-- The text of a byte string, if all of it is characters. -/
def decode? (bs : List UInt8) : Option String :=
  ((pieces bs).mapM Piece.char?).map String.ofList

/-- More bytes could make a stray piece a character. -/
def isBegun (bytes : List UInt8) : Bool := (bytes.head?.bind lead?).isSome

/-- The first stray piece behind a number of bytes. -/
def fault? (index : Nat) : List Piece → Option Utf8Fault
  | [] => none
  | .char c :: ps => fault? (index + c.utf8Size) ps
  | .stray bs :: ps => some ⟨index, if ps.isEmpty && isBegun bs then none else some bs.length⟩

/-- The text of a byte string, or its first fault. -/
def read (bs : List UInt8) : Except Utf8Fault String :=
  match fault? 0 (pieces bs) with
  | some f => .error f
  | none => .ok (String.ofList ((pieces bs).filterMap Piece.char?))

/-- The text of a byte string, with U+FFFD for each stray piece. -/
def decodeLossy (bs : List UInt8) : String :=
  String.ofList ((pieces bs).map fun p => p.char?.getD '\ufffd')

def encode (s : String) : List UInt8 := s.toList.flatMap String.utf8EncodeChar

example : decode? [0x61, 0xC3, 0xA9] = some "aé" := by decide

example : pieces [0xE2, 0x82, 0x61] = [.stray [0xE2, 0x82], .char 'a'] := by decide

example : fault? 0 (pieces [0x61, 0xE2, 0x82]) = some ⟨1, none⟩ := by decide

example : fault? 0 (pieces [0xE2, 0x82, 0x61]) = some ⟨0, some 2⟩ := by decide

end Utf8
end ContactHistory.Text
