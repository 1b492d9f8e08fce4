namespace ContactHistory.Locator.Punycode

/-- The value of a digit to the base 36. -/
def digit? (c : Char) : Option Nat :=
  if 'a' ≤ c ∧ c ≤ 'z' then some (c.toNat - 97)
  else if 'A' ≤ c ∧ c ≤ 'Z' then some (c.toNat - 65)
  else if '0' ≤ c ∧ c ≤ '9' then some (c.toNat - 22)
  else none

def digit (n : Nat) : Char := Char.ofNat (if n < 26 then 97 + n else 22 + n)

/-- The least digit that another one follows, at a place of a number. -/
def threshold (place bias : Nat) : Nat := min 26 (max 1 (place - bias))

/-- The bias for the sizes of numbers to come. -/
def slope (delta place : Nat) : Nat :=
  if 455 < delta then slope (delta / 35) (place + 36) else place + 36 * delta / (delta + 38)
termination_by delta
decreasing_by exact Nat.div_lt_self (by omega) (by omega)

/-- The bias behind a number, with so many characters by then. -/
def adapt (delta count : Nat) (first : Bool) : Nat :=
  let delta := if first then delta / 700 else delta / 2
  slope (delta + delta / count) 0

def numberLimit : Nat := 0x100000000

/-- What has been read: the characters, the code point of the last of them and the place behind it,
and of the number that has begun its sum, the weight and the place of its next digit. -/
structure State where
  chars : List Char
  point : Nat
  index : Nat
  bias : Nat
  sum : Nat
  weight : Nat
  place : Nat
  deriving DecidableEq, Repr

def start (plain : List Char) : State := ⟨plain, 128, 0, 72, 0, 1, 36⟩

def insert (s : State) (delta : Nat) : Option State :=
  let count := s.chars.length + 1
  let index := s.index + delta
  let point := s.point + index / count
  if point.isValidChar then
    let bias := adapt delta count (s.index = 0)
    some ⟨s.chars.insertIdx (index % count) (Char.ofNat point), point, index % count + 1, bias,
      0, 1, 36⟩
  else none

def step (s : State) (c : Char) : Option State := do
  let d ← digit? c
  let sum := s.sum + d * s.weight
  let t := threshold s.place s.bias
  let weight := s.weight * (36 - t)
  if numberLimit ≤ s.index + sum then none
  else if d < t then insert s sum
  else if numberLimit ≤ weight then none
  else some { s with sum, weight, place := s.place + 36 }

/-- The characters in front of the last hyphen of a word and those behind it. A hyphen at the
beginning has nothing in front of it and counts as a digit. -/
def split (cs : List Char) : List Char × List Char :=
  let digits := (cs.reverse.takeWhile (· ≠ '-')).reverse
  if cs.length - digits.length ≤ 1 then ([], cs)
  else (cs.take (cs.length - digits.length - 1), digits)

/-- The word that a word of ASCII characters stands for. -/
def decode? (cs : List Char) : Option (List Char) :=
  let (plain, digits) := split cs
  if plain.any (fun c => 0x80 ≤ c.toNat) then none
  else
    match digits.foldlM step (start plain) with
    | some s => if s.place = 36 then some s.chars else none
    | none => none

theorem threshold_bounds (place bias : Nat) :
    1 ≤ threshold place bias ∧ threshold place bias ≤ 26 := by
  unfold threshold
  omega

/-- The digits of a number from a place on. -/
def number (bias place n : Nat) : List Char :=
  let t := threshold place bias
  if n < t then [digit n]
  else digit (t + (n - t) % (36 - t)) :: number bias (place + 36) ((n - t) / (36 - t))
termination_by n
decreasing_by
  have hbounds := threshold_bounds place bias
  have hdiv := Nat.div_le_self (n - threshold place bias) (36 - threshold place bias)
  omega

/-- What has been written: the digits, the least code point that is left, what the next number has
to tell, the bias, and how many characters there are by now and were at first. -/
structure Writer where
  digits : List Char
  point : Nat
  delta : Nat
  bias : Nat
  count : Nat
  plain : Nat
  deriving DecidableEq, Repr

/-- Passes a character of the word on the way through it for one code point. -/
def pass (point : Nat) (w : Writer) (c : Char) : Writer :=
  if c.toNat < point then { w with delta := w.delta + 1 }
  else if c.toNat = point then
    { w with
      digits := w.digits ++ number w.bias 36 w.delta
      delta := 0
      bias := adapt w.delta (w.count + 1) (w.count = w.plain)
      count := w.count + 1 }
  else w

/-- Writes all occurrences of a code point in the word. -/
def writePoint (cs : List Char) (w : Writer) (point : Nat) : Writer :=
  let w := { w with delta := w.delta + (point - w.point) * (w.count + 1) }
  let w := cs.foldl (pass point) w
  { w with delta := w.delta + 1, point := point + 1 }

/-- The word of ASCII characters that stands for a word. -/
def encode (cs : List Char) : List Char :=
  let plain := cs.filter fun c => c.toNat < 0x80
  let points := ((cs.filter fun c => 0x80 ≤ c.toNat).map Char.toNat).mergeSort.eraseDups
  let w := points.foldl (writePoint cs) ⟨[], 0x80, 0, 72, plain.length, plain.length⟩
  plain ++ (if plain.isEmpty then [] else ['-']) ++ w.digits

example : decode? "mnchen-3ya".toList = some "münchen".toList := by decide +kernel

example : encode "münchen".toList = "mnchen-3ya".toList := by decide +kernel

end ContactHistory.Locator.Punycode
