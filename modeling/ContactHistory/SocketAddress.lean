import ContactHistory.Text.Decimal

namespace ContactHistory

open Text

/-- An address of version 6: eight groups of 16 bits. -/
structure Ipv6 where
  groups : List UInt16
  length_eq : groups.length = 8
  deriving DecidableEq

/-- An address of the internet protocol, and the number of a service there. -/
inductive SocketAddress where
  | v4 (a b c d : UInt8) (service : UInt16)
  | v6 (ip : Ipv6) (scope : UInt32) (service : UInt16)
  deriving DecidableEq

namespace SocketAddress

/-- The value of a digit to the base 10 or 16, in any case. -/
def digit? (base : Nat) (c : Char) : Option Nat :=
  let n :=
    if '0' ≤ c ∧ c ≤ '9' then c.toNat - 48
    else if 'a' ≤ c ∧ c ≤ 'f' then c.toNat - 87
    else if 'A' ≤ c ∧ c ≤ 'F' then c.toNat - 55
    else base
  if n < base then some n else none

/-- How a number is written: its base, how many digits it may have, whether zeros may stand in
front, and its largest value. -/
structure NumberForm where
  base : Nat
  most : Option Nat
  zeros : Bool
  bound : Nat

def octetForm : NumberForm := ⟨10, some 3, false, 255⟩

def groupForm : NumberForm := ⟨16, some 4, true, 65535⟩

def serviceForm : NumberForm := ⟨10, none, true, 65535⟩

def scopeForm : NumberForm := ⟨10, none, true, UInt32.size - 1⟩

/-- The number that a run of digits in front stands for. -/
def scanNumber (form : NumberForm) (cs : List Char) : Option (Nat × List Char) :=
  let ds := (cs.takeWhile fun c => (digit? form.base c).isSome).filterMap (digit? form.base)
  let n := ds.foldl (fun n d => form.base * n + d) 0
  let tooMany := match form.most with
    | some k => decide (k < ds.length)
    | none => false
  if ds.isEmpty || tooMany || (!form.zeros && ds.head? = some 0 && 1 < ds.length) ||
      form.bound < n then none
  else some (n, cs.drop ds.length)

def scanMark (c : Char) : List Char → Option (List Char)
  | [] => none
  | d :: cs => if d = c then some cs else none

/-- Four numbers up to 255 with points between them. -/
def scanOctets (cs : List Char) : Option ((UInt8 × UInt8 × UInt8 × UInt8) × List Char) := do
  let (a, cs) ← scanNumber octetForm cs
  let (b, cs) ← scanNumber octetForm (← scanMark '.' cs)
  let (c, cs) ← scanNumber octetForm (← scanMark '.' cs)
  let (d, cs) ← scanNumber octetForm (← scanMark '.' cs)
  some ((.ofNat a, .ofNat b, .ofNat c, .ofNat d), cs)

/-- The two groups of an address of version 4. -/
def groupsOfOctets (a b c d : UInt8) : List UInt16 :=
  [.ofNat (a.toNat * 256 + b.toNat), .ofNat (c.toNat * 256 + d.toNat)]

/-- At most the given number of groups with colons between them, and whether an address of version
4 stands for the last two. -/
def scanGroups : Nat → Bool → List Char → List UInt16 × Bool × List Char
  | 0, _, cs => ([], false, cs)
  | n + 1, first, cs =>
    let start := if first then some cs else scanMark ':' cs
    match (if 0 < n then start.bind scanOctets else none) with
    | some ((a, b, c, d), rest) => (groupsOfOctets a b c d, true, rest)
    | none =>
      match start.bind (scanNumber groupForm) with
      | some (g, rest) =>
        let (gs, dotted, rest) := scanGroups n false rest
        (.ofNat g :: gs, dotted, rest)
      | none => ([], false, cs)

/-- Eight groups, or fewer with two colons for at least one group of zeros. -/
def scanIpv6 (cs : List Char) : Option (Ipv6 × List Char) := do
  let (front, dotted, cs) := scanGroups 8 true cs
  if h : front.length = 8 then some (⟨front, h⟩, cs)
  else if dotted then none
  else
    let cs ← scanMark ':' (← scanMark ':' cs)
    let (back, _, cs) := scanGroups (7 - front.length) true cs
    let groups := front ++ List.replicate (8 - front.length - back.length) 0 ++ back
    if h : groups.length = 8 then some (⟨groups, h⟩, cs) else none

def scanService (cs : List Char) : Option (UInt16 × List Char) := do
  let (n, cs) ← scanNumber serviceForm (← scanMark ':' cs)
  some (.ofNat n, cs)

def scanV4 (cs : List Char) : Option (SocketAddress × List Char) := do
  let ((a, b, c, d), cs) ← scanOctets cs
  let (service, cs) ← scanService cs
  some (.v4 a b c d service, cs)

/-- The number of a scope, if there is one. -/
def scanScope (cs : List Char) : UInt32 × List Char :=
  match (scanMark '%' cs).bind (scanNumber scopeForm) with
  | some (n, cs) => (.ofNat n, cs)
  | none => (0, cs)

def scanV6 (cs : List Char) : Option (SocketAddress × List Char) := do
  let (ip, cs) ← scanIpv6 (← scanMark '[' cs)
  let (scope, cs) := scanScope cs
  let (service, cs) ← scanService (← scanMark ']' cs)
  some (.v6 ip scope service, cs)

/-- The socket address that a whole text is. -/
def read? (s : String) : Option SocketAddress :=
  match (scanV4 s.toList).or (scanV6 s.toList) with
  | some (a, []) => some a
  | _ => none

def showOctets (a b c d : UInt8) : List Char :=
  ['.'].intercalate ([a, b, c, d].map fun o => Decimal.digits o.toNat)

def showGroups (gs : List UInt16) : List Char :=
  [':'].intercalate (gs.map fun g => Nat.toDigits 16 g.toNat)

/-- The place and the length of the first of the longest runs of zeros. -/
def longestZeros (gs : List UInt16) : Nat × Nat :=
  let runs := (List.range gs.length).map fun i => (i, ((gs.drop i).takeWhile (· = 0)).length)
  runs.foldl (fun best r => if best.2 < r.2 then r else best) (0, 0)

namespace Ipv6

/-- The address of version 4 that groups stand for, if they map one. -/
def mapped? : List UInt16 → Option (UInt8 × UInt8 × UInt8 × UInt8)
  | [0, 0, 0, 0, 0, 0xFFFF, g, h] =>
    some (.ofNat (g.toNat / 256), .ofNat g.toNat, .ofNat (h.toNat / 256), .ofNat h.toNat)
  | _ => none

def text (ip : Ipv6) : List Char :=
  match mapped? ip.groups with
  | some (a, b, c, d) => [':', ':', 'f', 'f', 'f', 'f', ':'] ++ showOctets a b c d
  | none =>
    let (start, len) := longestZeros ip.groups
    if len ≤ 1 then showGroups ip.groups
    else
      showGroups (ip.groups.take start) ++ [':', ':'] ++ showGroups (ip.groups.drop (start + len))

end Ipv6

def text : SocketAddress → String
  | .v4 a b c d service => String.ofList (showOctets a b c d ++ ':' :: Decimal.digits service.toNat)
  | .v6 ip scope service =>
    let scope := if scope = 0 then [] else '%' :: Decimal.digits scope.toNat
    String.ofList ('[' :: Ipv6.text ip ++ scope ++ [']', ':'] ++ Decimal.digits service.toNat)

end SocketAddress
end ContactHistory
