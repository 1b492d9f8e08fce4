import ContactHistory.Text.Blank

namespace ContactHistory

/-- The kinds of interaction between a subject and its counterparties. All but `search` are observed
by a source; `search` marks a profile that was found without any history. -/
inductive ContactPoint where
  | crcTrust
  | crcHubTransfer
  | erc20Transfer
  | chatMessage
  | invitationSent
  | invitationRedeemed
  | membershipOffer
  | search
  deriving DecidableEq, Repr

structure UnknownContactPoint where
  text : String
  deriving DecidableEq, Repr

def UnknownContactPoint.message (e : UnknownContactPoint) : String :=
  "unknown contact point `" ++ e.text ++ "`"

namespace ContactPoint

/-- The contact points that a source observes, in the order of the list of sources. -/
def sources : List ContactPoint :=
  [crcTrust, crcHubTransfer, erc20Transfer, chatMessage, invitationSent, invitationRedeemed,
    membershipOffer]

def all : List ContactPoint := sources ++ [search]

def isSource : ContactPoint → Bool
  | search => false
  | _ => true

def name : ContactPoint → String
  | crcTrust => "CrcTrust"
  | crcHubTransfer => "CrcHubTransfer"
  | erc20Transfer => "Erc20Transfer"
  | chatMessage => "ChatMessage"
  | invitationSent => "InvitationSent"
  | invitationRedeemed => "InvitationRedeemed"
  | membershipOffer => "MembershipOffer"
  | search => "Search"

/-- What a spelling of a name is compared by: no blanks around it, no separators, small letters. -/
def spellingKey (cs : List Char) : List Char :=
  ((Text.trim cs).filter fun c => c ≠ '_' && c ≠ '-').map Char.toLower

/-- The contact point that a text names, in any case and with any separators. -/
def read (s : String) : Except UnknownContactPoint ContactPoint :=
  match all.find? fun p => spellingKey p.name.toList = spellingKey s.toList with
  | some p => .ok p
  | none => .error ⟨s⟩

def ofName? (s : String) : Option ContactPoint := all.find? fun p => p.name = s

theorem mem_sources {p : ContactPoint} : p ∈ sources ↔ p.isSource = true := by
  cases p <;> decide

theorem mem_all (p : ContactPoint) : p ∈ all := by
  cases p <;> decide

theorem nodup_sources : sources.Nodup := by decide

example : (read "crc_hub-TRANSFER ").toOption = some crcHubTransfer := by decide

end ContactPoint

@[ext] structure Selection where
  points : List ContactPoint
  sublist : points.Sublist ContactPoint.sources
  deriving DecidableEq

namespace Selection

def all : Selection := ⟨ContactPoint.sources, List.Sublist.refl _⟩

/-- The sources that some text of a list names; texts that name no source do not count. -/
def ofNames (names : List String) : Selection where
  points := ContactPoint.sources.filter fun p =>
    names.any fun s => (ContactPoint.read s).toOption = some p
  sublist := List.filter_sublist

def contains (s : Selection) (p : ContactPoint) : Bool := s.points.contains p

def isEmpty (s : Selection) : Bool := s.points.isEmpty

/-- The sources that a list of names asks for; without a list or with an empty one, a default. -/
def ofNamesOr (default : Selection) : Option (List String) → Selection
  | none => default
  | some [] => default
  | some names => ofNames names

end Selection
end ContactHistory
