import Hostwatch.Scheduler.Basic
import Hostwatch.Server.Failure

/-!
# Before the first look for work

Before it works, the scheduler makes sure that the host is stored that stands for the machine it
runs on. Somebody else may store that host at the same time.
-/

namespace Hostwatch

namespace Link

variable {α τ : Type} [Plugin α] [Plugin τ]

/-- Stores the local host unless it is stored already. `wrap` makes the store's kind of transport of
one from the registry. -/
def ensureLocalhost (l : Link α τ) (registry : Registry) (wrap : Transport → τ) :
    Except StartFailure Unit × Link α τ :=
  match l.getHost .system Host.localId with
  | (.ok _, l) => (.ok (), l)
  | (.error (.notFound ..), l) =>
    match registry.transport "local" with
    | .error e => (.error { cause := .registry e }, l)
    | .ok transport =>
      match l.addHost .system (.localhost (wrap transport)) with
      | (.ok (), l) | (.error (.alreadyExists ..), l) => (.ok (), l)
      | (.error e, l) => (.error { cause := .store e }, l)
  | (.error e, l) => (.error { cause := .store e }, l)

end Link

end Hostwatch
