import Hostwatch.Store.Host
import Hostwatch.Measure.Point

/-!
# Forwarding points

What a run found goes to the database as one batch, each point tagged with its host. A write that
fails is repeated a limited number of times, always with the whole batch, for a failed write says
nothing about what was stored.
-/

namespace Hostwatch

/-- How failed writes are repeated. -/
structure Forwarder where
  maxRetries : Nat
  /-- Milliseconds between two writes. -/
  backoffMillis : Nat
  deriving Repr, DecidableEq

/-- A batch on its way to the database. -/
structure Delivery where
  batch : List Point
  /-- How many writes have failed. -/
  failures : Nat := 0

/-- What becomes of a delivery after a write. -/
inductive Delivery.Fate where
  | delivered
  /-- It is written again after the backoff. -/
  | retry (next : Delivery)
  | dropped

namespace Forwarder

/-- A point with the tags of its host. -/
def tagged {τ : Type} (host : Host τ) (p : Point) : Point :=
  (p.tag "host" host.name).tag "host_id" host.id

/-- The batch of a run, if there is anything to write. -/
def delivery? {τ : Type} (points : List Point) (host : Host τ) : Option Delivery :=
  if points.isEmpty then none else some { batch := points.map (tagged host) }

/-- What becomes of a delivery when a write was accepted or failed. -/
def fate (f : Forwarder) (d : Delivery) (accepted : Bool) : Delivery.Fate :=
  if accepted then .delivered
  else if d.failures < f.maxRetries then .retry { d with failures := d.failures + 1 }
  else .dropped

/-- The outcome of sending a batch. -/
structure Sent (σ ε : Type) where
  /-- The error of the last write, if that failed. -/
  result : Except ε Unit
  database : σ
  /-- How often the backoff was waited for. -/
  waits : Nat

/-- Writes a batch until the database takes it or the retries are used up. -/
def deliver {σ ε : Type} (write : σ → List Point → Except ε Unit × σ) (batch : List Point) :
    (retries : Nat) → (waits : Nat) → σ → Sent σ ε
  | retries, waits, s =>
    match write s batch with
    | (.ok (), s) => { result := .ok (), database := s, waits }
    | (.error e, s) =>
      match retries with
      | 0 => { result := .error e, database := s, waits }
      | retries + 1 => deliver write batch retries (waits + 1) s

/-- Sends the points of a host to a database with the given way to write. -/
def send {σ ε τ : Type} (f : Forwarder) (write : σ → List Point → Except ε Unit × σ)
    (points : List Point) (host : Host τ) (s : σ) : Sent σ ε :=
  match delivery? points host with
  | none => { result := .ok (), database := s, waits := 0 }
  | some d => deliver write d.batch f.maxRetries 0 s

end Forwarder

end Hostwatch
