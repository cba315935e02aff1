import Hostwatch.Registry

/-!
# Errors of a store

Why a store refuses an operation or a record.
-/

namespace Hostwatch

/-- The two kinds of things that are stored. -/
inductive Entity where
  | host
  | probe
  deriving Repr, DecidableEq

def Entity.name : Entity → String
  | .host => "host"
  | .probe => "probe"

/-- A refusal. -/
inductive StoreError where
  | notFound (entity : Entity) (id : String)
  | accessDenied (entity : Entity) (id : String)
  | alreadyExists (entity : Entity) (id : String)
  /-- A record refers to an agent or a transport that the registry cannot make. -/
  | registry (e : RegistryError)
  | json (m : Json.Mismatch)
  /-- A time lies outside of the years of the calendar. -/
  | beyondCalendar
  deriving Repr, DecidableEq

namespace StoreError

private def named (entity : Entity) (what id : String) : String :=
  "Storage: " ++ entity.name ++ " " ++ what ++ " (id=" ++ id ++ ")"

def message : StoreError → String
  | .notFound entity id => named entity "not found" id
  | .accessDenied entity id => "Storage: access denied to " ++ entity.name ++ " (id=" ++ id ++ ")"
  | .alreadyExists entity id => named entity "already exists" id
  | .registry e => "Storage: " ++ e.message
  | .json m => "Storage: JSON error: " ++ m.message
  | .beyondCalendar => "Storage: time out of range"

/-- The texts of the error and of the one that it wraps. -/
def chain (e : StoreError) : List String :=
  e.message :: match e with
    | .registry r => [r.message]
    | .json m => [m.message]
    | _ => []

/-- The word by which reports classify the error. -/
def kind : StoreError → String
  | .notFound .. => "NotFound"
  | .accessDenied .. => "AccessDenied"
  | .alreadyExists .. => "AlreadyExists"
  | .registry e => e.kind
  | .json _ => "Json"
  | .beyondCalendar => "OutOfRange"

end StoreError

end Hostwatch
