namespace ContactHistory.Text

/-- Why a text is not a number of a range. -/
inductive NumeralFault where
  | empty
  | notADigit
  | tooLarge
  | tooSmall
  deriving DecidableEq, Repr

def NumeralFault.message : NumeralFault → String
  | .empty => "cannot parse integer from empty string"
  | .notADigit => "invalid digit found in string"
  | .tooLarge => "number too large to fit in target type"
  | .tooSmall => "number too small to fit in target type"

namespace Decimal

def isDigit (c : Char) : Bool := '0' ≤ c && c ≤ '9'

def digitValue (c : Char) : Nat := c.toNat - '0'.toNat

/-- The number that a run of digits stands for. -/
def value (ds : List Char) : Nat := ds.foldl (fun n c => 10 * n + digitValue c) 0

/-- Digits read onto a number that may not exceed `bound`; `excess` is the fault if it would. -/
def readDigits (bound : Nat) (excess : NumeralFault) : Nat → List Char → Except NumeralFault Nat
  | n, [] => .ok n
  | n, c :: cs =>
    if isDigit c then
      if 10 * n + digitValue c ≤ bound then readDigits bound excess (10 * n + digitValue c) cs
      else .error excess
    else .error .notADigit

/-- An unsigned number up to `bound`; a plus sign may stand in front. -/
def readNat (bound : Nat) : List Char → Except NumeralFault Nat
  | [] => .error .empty
  | ['+'] => .error .notADigit
  | '+' :: cs => readDigits bound .tooLarge 0 cs
  | cs => readDigits bound .tooLarge 0 cs

def readInt64 : List Char → Except NumeralFault Int64
  | [] => .error .empty
  | ['+'] => .error .notADigit
  | ['-'] => .error .notADigit
  | '+' :: cs => (readDigits 0x7FFFFFFFFFFFFFFF .tooLarge 0 cs).map fun n => Int64.ofNat n
  | '-' :: cs =>
    (readDigits 0x8000000000000000 .tooSmall 0 cs).map fun n => Int64.ofInt (-(n : Int))
  | cs => (readDigits 0x7FFFFFFFFFFFFFFF .tooLarge 0 cs).map fun n => Int64.ofNat n

/-- The digits of a number, without leading zeros. -/
def digits (n : Nat) : List Char := Nat.toDigits 10 n

/-- The numeral of an integer: its digits, after a minus sign if it is negative. -/
def ofInt : Int → List Char
  | .ofNat n => digits n
  | .negSucc n => '-' :: digits (n + 1)

/-- The numeral of a number of 64 bits. -/
def ofInt64 (n : Int64) : String := String.ofList (ofInt n.toInt)

def ofNat (n : Nat) : String := String.ofList (digits n)

example : ofInt (-120) = ['-', '1', '2', '0'] := by decide

end Decimal
end ContactHistory.Text
