import Hostwatch.Store.Probe

/-!
# Who may see what

Every operation on a store is done on somebody's behalf. The system sees everything, a tenant only
what belongs to its account; a scope narrows a listing further.
-/

namespace Hostwatch

/-- On whose behalf an operation is done. -/
inductive Actor where
  /-- The server itself, which sees every account. -/
  | system
  | account (name : String)
  deriving Repr, DecidableEq

/-- Whether something of that account is the actor's business. -/
def Actor.canAccess : Actor → String → Bool
  | .system, _ => true
  | .account own, owner => own == owner

/-- What a listing is narrowed to. -/
inductive Scope where
  | all
  | account (name : String)
  /-- A host and the probes bound to it. -/
  | host (id : String)
  deriving Repr, DecidableEq

namespace Scope

variable {α τ : Type}

def holdsHost : Scope → Host τ → Bool
  | .all, _ => true
  | .account a, h => h.account == a
  | .host id, h => h.id == id

def holdsProbe : Scope → Probe α → Bool
  | .all, _ => true
  | .account a, p => p.account == a
  | .host id, p => p.hostId == id

end Scope

end Hostwatch
