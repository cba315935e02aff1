import Hostwatch.Scheduler.Forwarder

/-!
# Writes and waits

Sending a batch is a sequence of writes with a wait between two of them. Here the waits are seen
too: what is sent to has a way to write and a way to let time pass, and each of the two may change
it, so that a database may well take after a wait what it refused before.
-/

namespace Hostwatch

/-- What points are sent to: a database, and the time that passes for it. -/
structure Receiver (σ ε : Type) where
  write : σ → List Point → Except ε Unit × σ
  /-- The state after a wait of some milliseconds. -/
  wait : σ → Nat → σ

/-- One thing that is done to send a batch. -/
inductive Act (ε : Type) where
  | write (batch : List Point) (result : Except ε Unit)
  | wait (millis : Nat)

namespace Act

variable {ε : Type}

/-- Whether something was stored. -/
def stores : Act ε → Bool
  | .write _ (.ok ()) => true
  | _ => false

end Act

namespace Receiver

variable {σ ε : Type}

/-- A database for which no time passes, with the number of waits. -/
def counting (write : σ → List Point → Except ε Unit × σ) : Receiver (σ × Nat) ε where
  write s batch :=
    let (result, t) := write s.1 batch
    (result, t, s.2)
  wait s _ := (s.1, s.2 + 1)

/-- The receiver with a note of all that is asked of it, in order. -/
def noting (r : Receiver σ ε) : Receiver (σ × List (Act ε)) ε where
  write s batch :=
    let (result, t) := r.write s.1 batch
    (result, t, s.2 ++ [.write batch result])
  wait s millis := (r.wait s.1 millis, s.2 ++ [.wait millis])

end Receiver

namespace Forwarder

variable {σ ε τ : Type}

/-- Writes a batch until it is taken or the retries are used up, and waits before each retry. -/
def persist (f : Forwarder) (r : Receiver σ ε) (batch : List Point) :
    (retries : Nat) → σ → Except ε Unit × σ
  | retries, s =>
    match r.write s batch with
    | (.ok (), s) => (.ok (), s)
    | (.error e, s) =>
      match retries with
      | 0 => (.error e, s)
      | retries + 1 => f.persist r batch retries (r.wait s f.backoffMillis)

/-- Sends the points of a host to a receiver. -/
def sendTo (f : Forwarder) (r : Receiver σ ε) (points : List Point) (host : Host τ) (s : σ) :
    Except ε Unit × σ :=
  match delivery? points host with
  | none => (.ok (), s)
  | some d => f.persist r d.batch f.maxRetries s

end Forwarder

end Hostwatch
