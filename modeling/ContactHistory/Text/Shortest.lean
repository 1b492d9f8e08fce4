import ContactHistory.Text.Decimal

namespace ContactHistory.Text.Shortest

/-- A number of double precision that is neither negative nor infinite. It is narrow if the gap
below it is half of the gap above. -/
structure Binary where
  mantissa : Nat
  exponent : Int
  narrow : Bool
  deriving DecidableEq, Repr

namespace Binary

/-- The number of a pattern of bits, without its sign. -/
def ofBits (bits : UInt64) : Binary :=
  let field : Nat := bits.toNat / 0x10000000000000 % 0x800
  let fraction : Nat := bits.toNat % 0x10000000000000
  if field = 0 then ⟨fraction, -1074, false⟩
  else ⟨0x10000000000000 + fraction, (field : Int) - 1075, fraction = 0 && 1 < field⟩

/-- Numerator and denominator of `n` quarters of the unit of a number. -/
def quarters (x : Binary) (n : Nat) : Nat × Nat :=
  let e := x.exponent - 2
  (n * Nat.pow 2 e.toNat, Nat.pow 2 (-e).toNat)

/-- The decimal `digits * 10 ^ power` is one of the reals that round to the number. The ends of the
interval belong to it if the mantissa is even. -/
def readsBack (x : Binary) (digits : Nat) (power : Int) : Bool :=
  let low := x.quarters (4 * x.mantissa - if x.narrow then 1 else 2)
  let high := x.quarters (4 * x.mantissa + 2)
  let scaled (bound : Nat × Nat) : Nat × Nat :=
    (digits * Nat.pow 10 power.toNat * bound.2, bound.1 * Nat.pow 10 (-power).toNat)
  let below := scaled low
  let above := scaled high
  if x.mantissa % 2 = 0 then below.2 ≤ below.1 && above.1 ≤ above.2
  else below.2 < below.1 && above.1 < above.2

/-- The decimals next to the number on the grid of a power of ten that read back, the nearer one
first. -/
def onGrid? (x : Binary) (power : Int) : Option Nat :=
  let value := x.quarters (4 * x.mantissa)
  let num := value.1 * Nat.pow 10 (-power).toNat
  let den := value.2 * Nat.pow 10 power.toNat
  let floor := num / den
  let nearer := if 2 * (num % den) ≤ den then [floor, floor + 1] else [floor + 1, floor]
  nearer.find? (x.readsBack · power)

def scale (x : Binary) : Int :=
  let (num, den) := x.quarters (4 * x.mantissa)
  if den ≤ num then (Decimal.digits (num / den)).length
  else 2 - (Decimal.digits (den / num)).length

/-- The first grid that has a decimal which reads back, with this decimal. -/
def search (x : Binary) : Nat → Int → Nat × Int
  | 0, power => (0, power)
  | n + 1, power =>
    match x.onGrid? power with
    | some digits => (digits, power)
    | none => search x n (power - 1)

/-- The fewest digits that read back, with their power of ten. -/
def shortest (x : Binary) : Nat × Int :=
  if x.mantissa = 0 then (0, 0) else x.search 20 (x.scale - 1)

end Binary

/-- A decimal without an exponent, and without zeros behind its last digit. -/
def positional (digits : Nat) (power : Int) : List Char :=
  if 0 ≤ power then Decimal.digits digits ++ (if digits = 0 then [] else .replicate power.toNat '0')
  else
    let places := (-power).toNat
    let ds := Decimal.digits digits
    let ds := .replicate (places + 1 - ds.length) '0' ++ ds
    let whole := ds.take (ds.length - places)
    let fraction := (ds.drop (ds.length - places)).reverse.dropWhile (· = '0')
    if fraction.isEmpty then whole else whole ++ '.' :: fraction.reverse

/-- The text of a finite number that is not negative. -/
def text (x : Float) : String :=
  let (digits, power) := (Binary.ofBits x.toBits).shortest
  String.ofList (positional digits power)

example : positional 15 (-3) = ['0', '.', '0', '1', '5'] := by decide

end ContactHistory.Text.Shortest
