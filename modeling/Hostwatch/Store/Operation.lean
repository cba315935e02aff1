import Hostwatch.Store.Basic

/-!
# Operations on a store

The operations of a store as values, so that one can speak of sequences of them.
-/

namespace Hostwatch

/-- An operation, without the actor. -/
inductive Operation (α τ : Type) where
  | getProbe (id : String)
  | listProbes (scope : Scope)
  | addProbe (p : Probe α)
  | updateProbe (p : Probe α)
  | deleteProbe (id : String)
  | recordRun (id : String) (time : Timestamp) (points : Option (List Point))
  | reschedule (id : String) (next : Timestamp)
  | getHost (id : String)
  | listHosts (scope : Scope)
  | addHost (h : Host τ)
  | updateHost (h : Host τ)
  | deleteHost (id : String)

/-- What an operation answers when it is not refused. -/
inductive Answer (α τ : Type) where
  | done
  | probe (p : Probe α)
  | probes (ps : List (Probe α))
  | host (h : Host τ)
  | hosts (hs : List (Host τ))

namespace Store

variable {α τ : Type}

/-- What an operation leaves behind. -/
structure Outcome (α τ : Type) extends Revision α τ where
  answer : Except StoreError (Answer α τ)

namespace Outcome

/-- The outcome of looking something up. -/
def ofRead {β : Type} (s : Store α τ) (r : Except StoreError β) (f : β → Answer α τ) :
    Outcome α τ :=
  { answer := r.map f, store := s }

/-- The outcome of a change. -/
def ofChange (s : Store α τ) : Except StoreError (Revision α τ) → Outcome α τ
  | .ok revision => { revision with answer := .ok .done }
  | .error e => { answer := .error e, store := s }

end Outcome

variable [Plugin α] [Plugin τ]

/-- Carries out an operation. -/
def perform (s : Store α τ) (actor : Actor) : Operation α τ → Outcome α τ
  | .getProbe id => .ofRead s (s.getProbe actor id) .probe
  | .listProbes scope => .ofRead s (.ok (s.listProbes actor scope)) .probes
  | .addProbe p => .ofChange s (s.addProbe actor p)
  | .updateProbe p => .ofChange s (s.updateProbe actor p)
  | .deleteProbe id => .ofChange s (s.deleteProbe actor id)
  | .recordRun id time points =>
    let (answer, revision) := s.recordRun actor id time points
    { revision with answer := answer.map fun _ => .done }
  | .reschedule id next => .ofChange s (s.reschedule actor id next)
  | .getHost id => .ofRead s (s.getHost actor id) .host
  | .listHosts scope => .ofRead s (.ok (s.listHosts actor scope)) .hosts
  | .addHost h => .ofChange s (s.addHost actor h)
  | .updateHost h => .ofChange s (s.updateHost actor h)
  | .deleteHost id => .ofChange s (s.deleteHost actor id)

/-- Carries out operations one after the other. -/
def performAll (s : Store α τ) (operations : List (Actor × Operation α τ)) : Revision α τ :=
  operations.foldl (fun before (actor, operation) =>
    let outcome := before.store.perform actor operation
    { store := outcome.store, events := before.events ++ outcome.events }) { store := s }

end Store

end Hostwatch
