import ContactHistory.ContactPoint
import ContactHistory.SocketAddress
import ContactHistory.Text.Form
import ContactHistory.Text.Utf8

namespace ContactHistory

/-- What a variable of the environment holds. Only `required` tells a text from bytes that are none;
all other readers treat such a variable as if it were unset. -/
inductive Variable where
  | unset
  | text (s : String)
  | bytes (pieces : List Text.Piece)
  deriving DecidableEq, Repr

abbrev Environment := String → Variable

namespace Variable

/-- What a variable holds that is set to bytes. -/
def ofBytes (bs : List UInt8) : Variable :=
  match Text.Utf8.decode? bs with
  | some s => .text s
  | none => .bytes (Text.Utf8.pieces bs)

def text? : Variable → Option String
  | .text s => some s
  | _ => none

/-- The text of a variable without the blanks around it, if any of it is left. -/
def trimmed? (v : Variable) : Option String := (v.text?.map Text.trimmed).filter (· ≠ "")

def entries (v : Variable) : List String := (v.trimmed?.map Text.CommaList.entries).getD []

end Variable

/-- Why a text is not a value of the wanted kind. -/
inductive ValueFault where
  | numeral (f : Text.NumeralFault)
  | notABool
  | notASocketAddress
  deriving DecidableEq, Repr

def ValueFault.message : ValueFault → String
  | .numeral f => f.message
  | .notABool => "provided string was not `true` or `false`"
  | .notASocketAddress => "invalid socket address syntax"

/-- Why settings cannot be read. Each error names its variable. -/
inductive SettingsError where
  | missing (name : String)
  | notText (name : String) (pieces : List Text.Piece)
  | badSocketAddress (name : String)
  | badValue (name : String) (fault : ValueFault)
  deriving DecidableEq, Repr

namespace SettingsError

def message : SettingsError → String
  | missing name => "missing env: " ++ name
  | notText name _ => "missing env: " ++ name
  | badSocketAddress name =>
    "invalid socket addr for " ++ name ++ ": " ++ ValueFault.notASocketAddress.message
  | badValue name fault => "invalid value for " ++ name ++ ": " ++ fault.message

/-- The texts of what lies under an error, the nearest first. -/
def causes : SettingsError → List String
  | missing _ => ["environment variable not found"]
  | notText _ pieces => ["environment variable was not valid unicode: " ++ Text.showPieces pieces]
  | _ => []

def variableName : SettingsError → String
  | missing name => name
  | notText name _ => name
  | badSocketAddress name => name
  | badValue name _ => name

end SettingsError

namespace Environment

/-- The text of a variable as it is; it has to be set. -/
def required (env : Environment) (name : String) : Except SettingsError String :=
  match env name with
  | .unset => .error (.missing name)
  | .text s => .ok s
  | .bytes pieces => .error (.notText name pieces)

def socketAddress (env : Environment) (name default : String) :
    Except SettingsError SocketAddress :=
  match SocketAddress.read? ((env name).text?.getD default) with
  | some a => .ok a
  | none => .error (.badSocketAddress name)

/-- A value that a reader takes, with blanks around it, or a default for a blank variable. -/
def value {α : Type} (env : Environment) (read : String → Except ValueFault α) (name : String)
    (default : α) : Except SettingsError α :=
  match (env name).trimmed? with
  | none => .ok default
  | some s => (read s).mapError (.badValue name)

end Environment

namespace ValueFault

def readNat (bound : Nat) (s : String) : Except ValueFault Nat :=
  (Text.Decimal.readNat bound s.toList).mapError .numeral

def readInt64 (s : String) : Except ValueFault Int64 :=
  (Text.Decimal.readInt64 s.toList).mapError .numeral

def readBool : String → Except ValueFault Bool
  | "true" => .ok true
  | "false" => .ok false
  | _ => .error .notABool

def readSocketAddress (s : String) : Except ValueFault SocketAddress :=
  match SocketAddress.read? s with
  | some a => .ok a
  | none => .error .notASocketAddress

end ValueFault

structure Settings where
  address : SocketAddress
  databaseUrl : String
  /-- The database of the index, where it is not that of the application. -/
  indexUrl : Option String
  maxConnections : Nat
  defaultSources : List String
  deriving DecidableEq

namespace Settings

def addressName : String := "CONTACTS_ADDR"

def databaseUrlName : String := "DATABASE_URL"

def indexUrlName : String := "INDEXER_DATABASE_URL"

def maxConnectionsName : String := "CONTACTS_DB_MAX_CONNECTIONS"

def defaultSourcesName : String := "CONTACTS_DEFAULT_SOURCES"

def names : List String :=
  [addressName, databaseUrlName, indexUrlName, maxConnectionsName, defaultSourcesName]

def defaultAddress : String := "0.0.0.0:8090"

def defaultMaxConnections : Nat := 10

def load (env : Environment) : Except SettingsError Settings := do
  let address ← env.socketAddress addressName defaultAddress
  let databaseUrl ← env.required databaseUrlName
  let maxConnections ← env.value (ValueFault.readNat (UInt32.size - 1)) maxConnectionsName
    defaultMaxConnections
  .ok {
    address, databaseUrl, maxConnections
    indexUrl := (env indexUrlName).trimmed?
    defaultSources := (env defaultSourcesName).entries }

/-- The sources that a request without names asks for: those of the settings, or all. -/
def defaultSelection (defaultSources : List String) : Selection :=
  Selection.ofNamesOr .all (some defaultSources)

end Settings
end ContactHistory
