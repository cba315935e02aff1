import Hostwatch.Store.Error
import Hostwatch.Store.Probe

/-!
# Reading records

A record arrives as a JSON value. It has to have the shape of a record, and the registry has to know
what it refers to.
-/

namespace Hostwatch

/-- The host that a JSON record describes. -/
def Host.read (registry : Registry) (j : Json) : Except StoreError (Host Transport) := do
  let record ← (Host.ofJson j).mapError StoreError.json
  (Host.ofRecord registry record).mapError StoreError.registry

/-- The probe that a JSON record describes. -/
def Probe.read (registry : Registry) (j : Json) : Except StoreError (Probe Agent) := do
  let record ← (Probe.ofJson j).mapError StoreError.json
  (Probe.ofRecord registry record).mapError StoreError.registry

end Hostwatch
