import ContactHistory.Locator.Domain
import ContactHistory.Fault
import ContactHistory.SocketAddress
import ContactHistory.Text.Form

namespace ContactHistory

open Text

/-- A name, or an address of the internet protocol. On the web a name whose last label is a number
has to be an address of version 4, and its numbers may be octal or hexadecimal. -/
inductive Host where
  | name (s : String)
  | v4 (address : Nat)
  | v6 (address : Ipv6)
  deriving DecidableEq

namespace Host

def text : Host → String
  | name s => s
  | v4 n =>
    String.ofList <| ['.'].intercalate
      ([n / 0x1000000, n / 0x10000 % 256, n / 0x100 % 256, n % 256].map Decimal.digits)
  | v6 a => String.ofList ('[' :: SocketAddress.Ipv6.text a ++ [']'])

def number? (base : Nat) (cs : List Char) : Option Nat :=
  cs.foldlM (fun n c => (SocketAddress.digit? base c).map fun d => base * n + d) 0

/-- The number of a label: hexadecimal behind `0x`, octal behind another zero. -/
def labelNumber? : List Char → Option Nat
  | [] => none
  | '0' :: 'x' :: cs => number? 16 cs
  | '0' :: 'X' :: cs => number? 16 cs
  | '0' :: c :: cs => if c.isDigit then number? 8 (c :: cs) else none
  | cs => number? 10 cs

/-- The labels of a name. An empty last one does not count. -/
def labels (cs : List Char) : List (List Char) :=
  let ls := splitAll '.' cs
  if ls.getLast? = some [] then ls.dropLast else ls

/-- The last label of a name is a number. -/
def isNumeric (cs : List Char) : Bool :=
  match (labels cs).getLast? with
  | some l => (!l.isEmpty && l.all Char.isDigit) || (labelNumber? l).isSome
  | none => false

/-- The address of the numbers of its labels. -/
def addressOf? (numbers : List Nat) : Option Nat :=
  match numbers.reverse with
  | [] => none
  | last :: front =>
    let size := Nat.pow 256 (4 - front.length)
    if 3 < front.length || front.any (255 < ·) || size ≤ last then none
    else some (front.reverse.foldl (fun n o => 256 * n + o) 0 * size + last)

/-- The address of version 4 that a name stands for. -/
def address? (cs : List Char) : Option Nat := ((labels cs).mapM labelNumber?).bind addressOf?

/-- An address of version 6 between brackets, the first of which has been read. -/
def readIpv6 (cs : List Char) : Except LocatorFault Host :=
  match SocketAddress.scanIpv6 cs with
  | some (a, [']']) => .ok (v6 a)
  | _ => .error .badIpv6

/-- A character that no name may hold off the web. -/
def isForbidden (c : Char) : Bool :=
  ['\x00', '\t', '\n', '\r', ' ', '#', '/', ':', '<', '>', '?', '@', '[', '\\', ']', '^',
    '|'].contains c

/-- A host off the web; its name is kept as it is. -/
def readOpaque : List Char → Except LocatorFault Host
  | '[' :: cs => readIpv6 cs
  | cs => if cs.any isForbidden then .error .badCharacter else .ok (name (String.ofList cs))

def readWeb : List Char → Except LocatorFault Host
  | '[' :: cs => readIpv6 cs
  | cs =>
    match Locator.Domain.read? (Percent.decode (Utf8.encode (String.ofList cs))) with
    | none => .error .badDomain
    | some d =>
      if d.isEmpty then .error .noHost
      else if isNumeric d then
        match address? d with
        | some n => .ok (v4 n)
        | none => .error .badIpv4
      else .ok (name (String.ofList d))

example : address? "0x7f.1".toList = some 0x7F000001 := by decide

example : address? "256.1".toList = none := by decide

end Host
end ContactHistory
