import Hostwatch.Transport.Error
import Hostwatch.Url.Basic

/-!
# Failures of an agent

Why an agent could not be configured or could not take a measurement: a cause, and in front of it
what the agent was about to do.
-/

namespace Hostwatch

/-- Why a text is no unsigned integer of a given size. -/
inductive IntegerError where
  | invalidDigit
  | tooLarge
  deriving Repr, DecidableEq

def IntegerError.message : IntegerError → String
  | .invalidDigit => "invalid digit found in string"
  | .tooLarge => "number too large to fit in target type"

/-- What went wrong. -/
inductive Cause where
  | transport (e : TransportError)
  | io (e : IoError)
  | params (m : Json.Mismatch)
  | url (e : Url.ReadError)
  | integer (e : IntegerError)
  /-- A name, a record type or a message of the domain name system is not well formed. -/
  | dns
  | other (text : String)
  deriving Repr, DecidableEq

namespace Cause

/-- The texts of the cause and of what it was made of. -/
def chain : Cause → List String
  | .transport e => e.chain
  | .io e => [e.text]
  | .params m => [m.message]
  | .url e => [e.message]
  | .integer e => [e.message]
  | .dns => []
  | .other text => [text]

/-- The word by which reports classify the cause. -/
def kind : Cause → String
  | .transport e => e.kind
  | .io _ => "Io"
  | .params _ => "Json"
  | .url _ => "Url"
  | .integer _ => "ParseInt"
  | .dns => "Dns"
  | .other _ => "Error"

end Cause

/-- A failure of an agent. -/
structure Failure where
  /-- What was being done, the widest first. -/
  context : List String := []
  cause : Cause
  deriving Repr, DecidableEq

namespace Failure

def kind (f : Failure) : String :=
  f.cause.kind

/-- All texts of the failure in one line. -/
def message (f : Failure) : String :=
  ": ".intercalate (f.context ++ f.cause.chain)

/-- Says what was being done. -/
def within (f : Failure) (text : String) : Failure :=
  { f with context := text :: f.context }

def transport (e : TransportError) : Failure := { cause := .transport e }
def io (e : IoError) : Failure := { cause := .io e }
def params (m : Json.Mismatch) : Failure := { cause := .params m }
def other (text : String) : Failure := { cause := .other text }

end Failure

/-- The page that a text names, or why it names none. -/
def Url.read (text : String) : Except Failure Url :=
  (Url.parse text).mapError fun
    | .invalid e => { context := ["invalid url '" ++ text ++ "'"], cause := .url e }
    | .unsupportedScheme => .other ("unsupported url '" ++ text ++ "': only http:// is supported")

end Hostwatch
