import DocumentSearch.Json.Printer
import DocumentSearch.Json.Reader

/-!
# Errors

An error is a cause.  The words it is told in are a function of the cause, and so is the question
whether trying again may help.
-/

namespace DocumentSearch

/-- Why an argument was refused before any request was made. -/
inductive InvalidInput
  | emptyTable
  | emptyId
  | emptyData
  /-- The document holds nothing but its id. -/
  | onlyId
  /-- The document at this position of a batch is empty. -/
  | emptyDocument (position : Nat)
  | documentNotObject (json : Json)
  | emptyDocumentId
  | unusableDocumentId (json : Json)
  | emptyField
  | noColumns
  | zeroPage
  | zeroPageSize
  | unknownOperator (text : String)
  | nullValue
  | nestedValue (json : Json)
  | noTerms
  | noBound
  | unusableBound (json : Json)
  /-- A full-text condition was given as a filter. -/
  | inexactFilter
  | custom (message : String)
deriving DecidableEq, Repr

/-- Why the state of a client does not allow an operation. -/
inductive InvalidState
  | noTable
  | custom (message : String)
deriving DecidableEq, Repr

/-- Why a host could not be understood. -/
inductive HostFault
  | emptyHost
  | invalidPort
  | invalidIpv4
  | invalidIpv6
  | invalidDomain
deriving DecidableEq, Repr

/-- Why a configuration was refused. -/
inductive Misconfiguration
  | noHosts
  | blankHost
  | zeroTimeout
  | invalidHost (url : String) (fault : HostFault)
  | custom (message : String)
deriving DecidableEq, Repr

/-- Why an operation failed. -/
inductive Error
  | invalidInput (cause : InvalidInput)
  | invalidState (cause : InvalidState)
  | notFound (table id : String)
  /-- The engine refused the request with this status, or could not be reached. -/
  | transport (status : Option UInt16) (message : String)
  | serialization (fault : Json.Fault)
  | config (cause : Misconfiguration)
  | metrics (message : String)
deriving DecidableEq, Repr

namespace InvalidInput

/-- The words for a refused argument. -/
def message : InvalidInput → String
  | .emptyTable => "Table name cannot be empty"
  | .emptyId => "Id cannot be empty"
  | .emptyData => "Data cannot be empty"
  | .onlyId => "Data cannot be empty once the id is removed"
  | .emptyDocument position => "Document at position " ++ toString position ++ " is empty"
  | .documentNotObject json => "Document must be a JSON object, got " ++ json.toText
  | .emptyDocumentId => "Document id cannot be empty"
  | .unusableDocumentId json => "Document id must be a string or integer, got " ++ json.toText
  | .emptyField => "Field name cannot be empty"
  | .noColumns => "Columns cannot be empty"
  | .zeroPage => "page must be positive"
  | .zeroPageSize => "page size must be positive"
  | .unknownOperator text => "unknown operator '" ++ text ++ "'"
  | .nullValue => "condition value cannot be null"
  | .nestedValue json => "condition value must be a scalar, got " ++ json.toText
  | .noTerms => "terms condition needs at least one value"
  | .noBound => "range condition needs at least one bound"
  | .unusableBound json => "range bound must be a number or string, got " ++ json.toText
  | .inexactFilter => "filter conditions must be exact (term, terms or range)"
  | .custom message => message

end InvalidInput

namespace InvalidState

/-- The words for a missing precondition. -/
def message : InvalidState → String
  | .noTable => "no table selected; call table() first"
  | .custom message => message

end InvalidState

namespace HostFault

/-- The words for a host that could not be understood. -/
def message : HostFault → String
  | .emptyHost => "empty host"
  | .invalidPort => "invalid port number"
  | .invalidIpv4 => "invalid IPv4 address"
  | .invalidIpv6 => "invalid IPv6 address"
  | .invalidDomain => "invalid international domain name"

end HostFault

namespace Misconfiguration

/-- The words for a refused configuration. -/
def message : Misconfiguration → String
  | .noHosts => "hosts cannot be empty"
  | .blankHost => "host entries cannot be blank"
  | .zeroTimeout => "request timeout must be positive"
  | .invalidHost url fault => "invalid host '" ++ url ++ "': " ++ fault.message
  | .custom message => message

end Misconfiguration

namespace Json.Fault

/-- The words for a text that could not be read. -/
def message : Fault → String
  | .malformed => "malformed JSON"
  | .truncated => "JSON ends too early"
  | .mismatch => "JSON of another shape than expected"

end Json.Fault

namespace Error

/-- The message shown for an error. -/
def message : Error → String
  | .invalidInput cause => "Invalid input: " ++ cause.message
  | .invalidState cause => "Invalid state: " ++ cause.message
  | .notFound table id => "Document not found: " ++ table ++ "/" ++ id
  | .transport (some status) message =>
      "Transport error (status " ++ toString status.toNat ++ "): " ++ message
  | .transport none message => "Transport error: " ++ message
  | .serialization fault => "Serialization error: " ++ fault.message
  | .config cause => "Configuration error: " ++ cause.message
  | .metrics message => "Metrics error: Error: " ++ message

/-- The short name of an error's kind, under which failures are counted. -/
def kind : Error → String
  | .invalidInput _ => "invalid_input"
  | .invalidState _ => "invalid_state"
  | .notFound _ _ => "not_found"
  | .transport _ _ => "transport"
  | .serialization _ => "serialization"
  | .config _ => "config"
  | .metrics _ => "metrics"

/-- The statuses of an engine that is only temporarily unable to answer. -/
def retriableStatuses : List UInt16 := [429, 502, 503, 504]

/-- Whether the failure may pass: the engine was not reached, or said to come back later. -/
def isRetriable : Error → Bool
  | .transport none _ => true
  | .transport (some status) _ => retriableStatuses.contains status
  | _ => false

/-- Whether the engine has no such document. -/
def isNotFound : Error → Bool
  | .notFound _ _ => true
  | _ => false

end Error

end DocumentSearch
