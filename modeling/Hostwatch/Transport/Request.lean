import Hostwatch.Local.Machine
import Hostwatch.Requests
import Hostwatch.Ssh.Hub
import Hostwatch.Transport

/-!
# Requests to a transport

What users ask of a transport, and what they are answered. Parameters that are refused leave the
transport as it is; whatever else is asked is put to the host that the parameters name.
-/

namespace Hostwatch.Transport

/-- All that transports lead to: the machine itself, and the hosts behind a secure shell. -/
structure Reach (σ : Type) where
  machine : Local.Machine := {}
  hub : Ssh.Hub σ

namespace Reach

variable {σ α : Type}

/-- Carries out a task of the hub. -/
def onHub (r : Reach σ) (t : Ssh.Task σ α) : Except TransportError α × Reach σ :=
  let (result, hub) := (t.run : StateM (Ssh.Hub σ) _) r.hub
  (result, { r with hub })

end Reach

/-- What can be asked of a transport. A connection that is dialed gets a name. -/
inductive Request where
  | configure (params : Json)
  | params
  | exec (command : String) (args : List String)
  | fetch (path : String)
  | stat (path : String)
  | dial (network address name : String)

/-- What a request is answered with. -/
inductive Reply where
  | configured (result : Except TransportError Unit)
  | params (value : Json)
  | printed (result : Except TransportError Printed)
  | content (result : Except TransportError Octets)
  | usage (result : Except TransportError FsUsage)
  | dialed (result : Except TransportError Unit)

variable {σ : Type}

def exec (t : Transport) (r : Reach σ) (command : String) (args : List String) :
    Except TransportError Printed × Reach σ :=
  match t with
  | .thisMachine => (r.machine.exec Local.Machine.execTimeout command args, r)
  | .shell p => r.onHub (Ssh.Hub.exec p command args)

def fetch (t : Transport) (r : Reach σ) (path : String) : Except TransportError Octets × Reach σ :=
  match t with
  | .thisMachine => (r.machine.readWhole path, r)
  | .shell p => r.onHub (Ssh.Hub.fetch p path)

def stat (t : Transport) (r : Reach σ) (path : String) : Except TransportError FsUsage × Reach σ :=
  match t with
  | .thisMachine => (r.machine.stat path, r)
  | .shell p => r.onHub (Ssh.Hub.stat p path)

def dial (t : Transport) (r : Reach σ) (network address name : String) :
    Except TransportError Unit × Reach σ :=
  match t with
  | .thisMachine => (r.machine.dial network address, r)
  | .shell p => r.onHub (Ssh.Hub.dial p network address name)

/-- Does what is asked of a transport. -/
def perform (s : Transport × Reach σ) : Request → Reply × (Transport × Reach σ)
  | .configure j =>
    match s.1.configure j with
    | .ok t => (.configured (.ok ()), (t, s.2))
    | .error e => (.configured (.error e), s)
  | .params => (.params s.1.params, s)
  | .exec command args =>
    let (result, r) := s.1.exec s.2 command args
    (.printed result, (s.1, r))
  | .fetch path =>
    let (result, r) := s.1.fetch s.2 path
    (.content result, (s.1, r))
  | .stat path =>
    let (result, r) := s.1.stat s.2 path
    (.usage result, (s.1, r))
  | .dial network address name =>
    let (result, r) := s.1.dial s.2 network address name
    (.dialed result, (s.1, r))

end Hostwatch.Transport
