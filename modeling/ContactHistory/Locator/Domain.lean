import ContactHistory.Locator.Punycode
import ContactHistory.Locator.Variant
import ContactHistory.Text.Direction
import ContactHistory.Text.Joining
import ContactHistory.Text.Utf8

namespace ContactHistory.Locator.Domain

open Text

def droppedRanges : List (Nat × Nat) :=
  [(0xAD, 0xAD), (0x34F, 0x34F), (0x115F, 0x1160), (0x17B4, 0x17B5), (0x180B, 0x180F),
    (0x200B, 0x200B), (0x2060, 0x2064), (0x206A, 0x206F), (0x3164, 0x3164), (0xFE00, 0xFE0F),
    (0xFEFF, 0xFEFF), (0xFFA0, 0xFFA0), (0x1BCA0, 0x1BCA3), (0x1D173, 0x1D17A), (0xE0100, 0xE01EF)]

/-- The printable code points that no name may hold. -/
def refusedRanges : List (Nat × Nat) :=
  [(0x2024, 0x2026), (0x2488, 0x249B), (0x2FF0, 0x2FFF), (0x31EF, 0x31EF), (0x33C2, 0x33C2),
    (0x33C7, 0x33C7), (0x33D8, 0x33D8), (0xFE12, 0xFE12), (0xFE19, 0xFE19), (0xFE30, 0xFE30),
    (0xFE52, 0xFE52), (0xFFFC, 0xFFFD), (0x1F100, 0x1F100)]

/-- The code points that a name may hold though they are not printable: the joiners, and those of
characters that are too new to be. -/
def unseenRanges : List (Nat × Nat) :=
  [(0x200C, 0x200D), (0x20C2, 0x20C4), (0xA7DD, 0xA7DD), (0x12550, 0x12686), (0x16D80, 0x16DA9),
    (0x18E00, 0x19191), (0x1F1AE, 0x1F1AE), (0x1F6D9, 0x1F6D9), (0x1FA8B, 0x1FA8D),
    (0x1FACC, 0x1FACC), (0x1FADD, 0x1FADD), (0x1FAEB, 0x1FAEB), (0x1FAF9, 0x1FAFA),
    (0x3D000, 0x3FC3F)]

/-- A character that a folded name may hold. -/
def isAllowed (c : Char) : Bool :=
  inRanges unseenRanges c.toNat || (isPrintable c && !inRanges refusedRanges c.toNat)

def isAscii (c : Char) : Bool := c.toNat < 0x80

/-- An ASCII character that no name may hold. -/
def isRefusedAscii (c : Char) : Bool :=
  c.toNat ≤ 0x20 || c.toNat = 0x7F ||
    ['%', '#', '/', ':', '<', '>', '?', '@', '[', '\\', ']', '^', '|'].contains c

/-- What folding makes of a character; nothing where it is refused. -/
def foldChar (c : Char) : Option (List Char) :=
  if isAscii c then some [c.toLower]
  else if inRanges droppedRanges c.toNat then some []
  else (Variant.standsFor? c).or (if isAllowed c then some [c] else none)

/-- The folded form of some characters. One that is refused in ASCII may be part of a composed
character. -/
def fold (cs : List Char) : Option (List Char) := do
  let folded := composed (← cs.mapM foldChar).flatten
  if folded.any isRefusedAscii then none else some folded

/-- No label in Punycode is longer than this behind its mark. -/
def punycodeLimit : Nat := 2000

/-- No label of other characters than ASCII is longer than this. -/
def labelLimit : Nat := 1000

def meaning? (label : List Char) : Option (List Char) :=
  match label with
  | 'x' :: 'n' :: '-' :: '-' :: word =>
    if punycodeLimit < word.length then none
    else (Punycode.decode? word).filter fun cs => !cs.all isAscii && fold cs = some cs
  | label => some label

/-- A label may stand in a name: no mark begins it, its joiners are in their places, and it is not
too long. -/
def isSound (label : List Char) : Bool :=
  !label.head?.any isMark && Joining.fit [] label &&
    (label.all isAscii || label.length ≤ labelLimit)

/-- The directions of all labels of a name fit, which matters if some character of it turns. -/
def areDirected (labels : List (List Char)) : Bool :=
  let directions := labels.map (·.map Direction.ofChar)
  !directions.any (·.any Direction.turns) || directions.all Direction.fit

def written (label : List Char) : List Char :=
  if label.all isAscii then label else ['x', 'n', '-', '-'] ++ Punycode.encode label

/-- The name of bytes in ASCII, if they are one. -/
def read? (bytes : List UInt8) : Option (List Char) := do
  let s ← Utf8.decode? bytes
  let labels := splitAll '.' (← fold s.toList)
  let meanings ← labels.mapM meaning?
  if meanings.all isSound && areDirected meanings then
    some (['.'].intercalate (labels.map written))
  else none

end ContactHistory.Locator.Domain
