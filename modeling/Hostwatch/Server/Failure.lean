import Hostwatch.Server.Config
import Hostwatch.Store.Error

/-!
# Failures at the start

Why a server could not be started: a cause, and in front of it what the server was about to do.
-/

namespace Hostwatch

/-- What went wrong. -/
inductive StartCause where
  | store (e : StoreError)
  | registry (e : RegistryError)
  | config (e : Config.LoadError)
  | other (text : String)
  /-- An interval is longer than a span can be. -/
  | intervalTooLong
  deriving Repr, DecidableEq

namespace StartCause

/-- The texts of the cause and of what it was made of. -/
def chain : StartCause → List String
  | .store e => e.chain
  | .registry e => [e.message]
  | .config (.io e) => [e.text]
  | .config .toml => ["invalid configuration"]
  | .other text => [text]
  | .intervalTooLong => ["interval out of range"]

/-- The word by which reports classify the cause. -/
def kind : StartCause → String
  | .store e => e.kind
  | .registry e => e.kind
  | .config (.io _) => "Io"
  | .config .toml => "Toml"
  | .other _ => "Error"
  | .intervalTooLong => "OutOfRange"

end StartCause

/-- A failure at the start. -/
structure StartFailure where
  /-- What was being done, the widest first. -/
  context : List String := []
  cause : StartCause
  deriving Repr, DecidableEq

namespace StartFailure

def kind (f : StartFailure) : String :=
  f.cause.kind

/-- All texts of the failure, the widest first. -/
def chain (f : StartFailure) : List String :=
  f.context ++ f.cause.chain

/-- All texts of the failure in one line. -/
def message (f : StartFailure) : String :=
  ": ".intercalate f.chain

/-- A text whose lines after the first are indented. -/
private def indented (indent text : String) : String :=
  ("\n" ++ indent).intercalate (text.splitOn "\n")

/-- A cause in a report of several. -/
private def numbered (index : Nat) (cause : String) : String :=
  let number := Number.natText index
  "\n" ++ "".pushn ' ' (5 - number.length) ++ number ++ ": " ++ indented "       " cause

/-- The failure as a report of several lines: the widest text, and the causes below it, numbered if
there are several. -/
def report (f : StartFailure) : String :=
  match f.chain with
  | [] => "Error: "
  | [only] => "Error: " ++ only
  | [first, cause] => "Error: " ++ first ++ "\n\nCaused by:\n    " ++ indented "    " cause
  | first :: causes =>
    "Error: " ++ first ++ "\n\nCaused by:"
      ++ String.join (causes.zipIdx.map fun (cause, index) => numbered index cause)

end StartFailure

end Hostwatch
