import ContactHistory.Text.Utf8

namespace ContactHistory

inductive LocatorFault where
  | noScheme
  | noHost
  | badDomain
  | badCharacter
  | badIpv4
  | badIpv6
  | badService
  deriving DecidableEq, Repr

def LocatorFault.message : LocatorFault → String
  | noScheme => "relative URL without a base"
  | noHost => "empty host"
  | badDomain => "invalid international domain name"
  | badCharacter => "invalid domain character"
  | badIpv4 => "invalid IPv4 address"
  | badIpv6 => "invalid IPv6 address"
  | badService => "invalid port number"

namespace Database

open Text

inductive ConfigurationFault where
  | locator (f : LocatorFault)
  | notText (f : Utf8Fault)
  | numeral (f : NumeralFault)
  | notAnAddress
  | securityMode (value : String)
  deriving DecidableEq, Repr

namespace ConfigurationFault

def securityText (value : String) : String :=
  "unknown value " ++ showText value ++ " for `ssl_mode`"

def message : ConfigurationFault → String
  | locator f => f.message
  | notText f => f.message
  | numeral f => f.message
  | notAnAddress => "invalid IP address syntax"
  | securityMode v => "error with configuration: " ++ securityText v

def causes : ConfigurationFault → List String
  | securityMode v => [securityText v]
  | _ => []

end ConfigurationFault

inductive CommunicationFault where
  | missingFile
  | notADirectory
  | longPath
  | nullInPath
  | nullInName
  | unknownName
  | unresolvedName
  deriving DecidableEq, Repr

def CommunicationFault.message : CommunicationFault → String
  | missingFile => "No such file or directory (os error 2)"
  | notADirectory => "Not a directory (os error 20)"
  | longPath => "path must be shorter than SUN_LEN"
  | nullInPath => "paths must not contain interior null bytes"
  | nullInName => "file name contained an unexpected NUL byte"
  | unknownName => "failed to lookup address information: Name or service not known"
  | unresolvedName =>
    "failed to lookup address information: Temporary failure in name resolution"

end Database

/-- What can go wrong when a database is asked. -/
inductive QueryError where
  | poolTimedOut
  | poolClosed
  | rowNotFound
  | columnNotFound (column : String)
  | unexpectedNull (column : String)
  | server (text : String)
  | configuration (fault : Database.ConfigurationFault)
  | communication (fault : Database.CommunicationFault)
  deriving DecidableEq, Repr

namespace QueryError

def nullText : String := "unexpected null; try decoding as an `Option`"

/-- The text of a failure to connect, over the failure that it comes from. -/
def connectText : String := "connect postgres"

def message : QueryError → String
  | poolTimedOut => "pool timed out while waiting for an open connection"
  | poolClosed => "attempted to acquire a connection on a closed pool"
  | rowNotFound => "no rows returned by a query that expected to return at least one row"
  | columnNotFound c => "no column found for name: " ++ c
  | unexpectedNull c => "error occurred while decoding column \"" ++ c ++ "\": " ++ nullText
  | server t => "error returned from database: " ++ t
  | configuration f => "error with configuration: " ++ f.message
  | communication f => "error communicating with database: " ++ f.message

def causes : QueryError → List String
  | unexpectedNull _ => [nullText]
  | server t => [t]
  | configuration f => f.message :: f.causes
  | communication f => [f.message]
  | _ => []

end QueryError
end ContactHistory
