import Hostwatch.Ssh.Hub

/-!
# Requests to a hub

What users ask of a hub as values, so that one can speak of sequences of requests, and of what a
request does to the sessions. The latter is noted by a `Wire` that answers as another one does and
writes down which of the calls connect, open a channel on a session, or close a session.
-/

namespace Hostwatch.Ssh

/-- What can be asked of a hub. -/
inductive Request where
  | exec (p : Params) (command : String) (args : List String)
  /-- Read a file or open it for reading. -/
  | fetch (p : Params) (path : String)
  | stat (p : Params) (path : String)
  | dial (p : Params) (network address name : String)
  | receive (name : String)
  | send (name : String) (data : Octets)
  | close (name : String)
  | drop (name : String)
  | sweep (now : Nat)

namespace Request

/-- The host that a request is put to. A connection to what is no address or over a network that no
host provides is refused before any host is asked. -/
def asks? : Request → Option Params
  | .exec p _ _ | .fetch p _ | .stat p _ => some p
  | .dial p network address _ =>
    if Hub.networks.contains network ∧ (Address.split? address).isSome then some p else none
  | _ => none

/-- Whether the result of a request says that the session is broken. When a line was run or was to
be run, a failure to read says so as well; a connection that is dialed is not read from. -/
def tellsBroken : Request → Except TransportError Unit → Bool
  | .exec .., .error (.io _) | .fetch .., .error (.io _) | .stat .., .error (.io _) => true
  | .exec .., .error e | .fetch .., .error e | .stat .., .error e | .dial .., .error e =>
    e.isSessionFailure
  | _, _ => false

def isSweep : Request → Bool
  | .sweep _ => true
  | _ => false

/-- The request as a course of calls, its answer aside. -/
def task {σ : Type} : Request → Task σ Unit
  | .exec p command args => do let _ ← Hub.exec p command args
  | .fetch p path => do let _ ← Hub.fetch p path
  | .stat p path => do let _ ← Hub.stat p path
  | .dial p network address name => Hub.dial p network address name
  | .receive name => do let _ ← Hub.receive name
  | .send name data => do let _ ← Hub.send name data
  | .close name => Hub.close name
  | .drop name => do let _ ← Hub.drop name
  | .sweep now => do let _ ← Hub.sweep now

end Request

/-- What a call does to the sessions. -/
inductive SessionUse where
  | connect (host : String) (port : Nat)
  | openChannel (session : Session)
  | disconnect (session : Session)
  deriving Repr, DecidableEq

/-- What a call does to the sessions, if anything. -/
def Call.use? : Call → Option SessionUse
  | .connect host port => some (.connect host port)
  | .openChannel session | .openDirect session _ _ => some (.openChannel session)
  | .disconnect session => some (.disconnect session)
  | _ => none

/-- A world with notes of what was done to the sessions, in the order in which it was done. -/
structure Noted (σ : Type) where
  world : σ
  uses : List SessionUse := []

/-- The wire that answers as another one and takes notes. -/
def Wire.noting {σ : Type} (w : Wire σ) : Wire (Noted σ) := fun n c =>
  let (reply, world) := w n.world c
  (reply, { world, uses := n.uses ++ c.use?.toList })

namespace Hub

variable {σ : Type}

/-- A hub that nobody has asked anything yet. It takes notes. -/
def start (w : Wire σ) (world : σ) (idleTimeout : Nat) : Hub (Noted σ) :=
  { wire := w.noting, world := { world }, pool := { idleTimeout } }

/-- Puts a request to a hub. -/
def perform (h : Hub σ) (r : Request) : Except TransportError Unit × Hub σ :=
  (r.task : Task σ Unit).run h

/-- Puts requests to a hub, one after the other. -/
def performAll (h : Hub σ) (requests : List Request) : Hub σ :=
  requests.foldl (fun h r => (h.perform r).2) h

end Hub

end Hostwatch.Ssh
