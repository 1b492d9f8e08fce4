import ContactHistory.Database.Basic
import ContactHistory.Locator.Basic
import ContactHistory.Settings
import ContactHistory.Text.Form

namespace ContactHistory

namespace Database

open Text

structure Location where
  host : String
  /-- The directory of sockets that takes the place of the host. -/
  directory : Option String
  service : Nat
  deriving DecidableEq, Repr

namespace Location

def standard : Location := ⟨"localhost", none, 5432⟩

/-- The bytes of a part of a locator are a text. -/
def readText (part : String) : Except ConfigurationFault String :=
  (Utf8.read (Percent.decode (Utf8.encode part))).mapError .notText

/-- The location with the host of a locator, which is a directory if it begins with a slash. -/
def setHost (l : Location) (host : Host) : Except ConfigurationFault Location :=
  if (Percent.decode (Utf8.encode host.text)).head? = some 0x2F then
    (readText host.text).map fun d => { l with directory := some d }
  else .ok { l with host := host.text }

/-- An address of the internet protocol, without a service. -/
def isAddress (cs : List Char) : Bool :=
  (SocketAddress.scanOctets cs).any (fun r => r.2.isEmpty) ||
    (SocketAddress.scanIpv6 cs).any fun r => r.2.isEmpty

def securityModes : List String :=
  ["disable", "allow", "prefer", "require", "verify-ca", "verify-full"]

def readNumber (bound : Nat) (value : String) : Except ConfigurationFault Nat :=
  (Decimal.readNat bound value.toList).mapError .numeral

/-- The location with what a pair of the query tells. -/
def setPair (l : Location) (pair : String × String) : Except ConfigurationFault Location :=
  let (name, value) := pair
  match name with
  | "sslmode" | "ssl-mode" =>
    if securityModes.contains value.toLower then .ok l else .error (.securityMode value)
  | "statement-cache-capacity" => (readNumber (UInt64.size - 1) value).map fun _ => l
  | "host" =>
    .ok (if value.toList.head? = some '/' then { l with directory := some value }
      else { l with host := value })
  | "hostaddr" =>
    if isAddress value.toList then .ok { l with host := value } else .error .notAnAddress
  | "port" => (readNumber 65535 value).map fun n => { l with service := n }
  | _ => .ok l

/-- The location of a locator. The first part that does not fit decides the fault. -/
def ofLocator (u : Locator) : Except ConfigurationFault Location := do
  let l ← match u.host with
    | some host => standard.setHost host
    | none => .ok standard
  let _ ← readText u.user
  let _ ← readText u.password
  let _ ← readText (String.ofList (u.path.toList.dropWhile (· = '/')))
  (Form.pairs (u.query.getD "")).foldlM setPair { l with service := u.service.getD l.service }

def read (text : String) : Except QueryError Location :=
  (((Locator.read text).mapError .locator).bind ofLocator).mapError .configuration

end Location
end Database

/-- The servers that listen, by the locators of their databases, each of which lets in or refuses,
and what comes of reaching for a location where none listens. -/
structure Network where
  servers : List (String × Except QueryError Database)
  absence : Database.Location → QueryError

namespace Network

def connect (n : Network) (locator : String) : Except QueryError Database := do
  let location ← Database.Location.read locator
  match n.servers.lookup locator with
  | some answer => answer
  | none => .error (n.absence location)

/-- The databases of some settings: first that of the application, then that of the index. -/
def connectAll (n : Network) (s : Settings) : Except QueryError Databases := do
  let application ← n.connect s.databaseUrl
  match s.indexUrl with
  | none => .ok ⟨application, none⟩
  | some locator => .ok ⟨application, some (← n.connect locator)⟩

end Network
end ContactHistory
