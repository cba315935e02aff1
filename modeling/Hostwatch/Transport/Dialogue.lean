import Hostwatch.Transport.Error
import Hostwatch.Transport.FsUsage
import Hostwatch.Text.Utf8

/-!
# Talking to a host

An agent never touches a machine. It describes what it would ask and how it goes on with each
reply, as a `Dialogue`, and whoever runs the dialogue answers: a local machine, a remote one, or a
script. The same description can so be carried out, rehearsed and reasoned about.
-/

namespace Hostwatch

/-- A question to a host or to the clock. At most one connection is open at a time. -/
inductive Query where
  | readFile (path : String)
  /-- Run a command and take its standard output. -/
  | exec (command : String) (args : List String)
  | stat (path : String)
  | dial (network address : String)
  | send (data : Octets)
  /-- Take at most that many octets from the connection; none means that it has ended. -/
  | receive (limit : Nat)
  | close
  /-- A random number of 16 bits. -/
  | random
  | now
  /-- Nanoseconds of a clock that only moves forward. -/
  | uptime
  deriving Repr, DecidableEq

/-- What a query is answered with. -/
def Query.Reply : Query → Type
  | .readFile _ | .exec .. => Except TransportError Octets
  | .stat _ => Except TransportError FsUsage
  | .dial .. | .close => Except TransportError Unit
  | .send _ => Except IoError Unit
  | .receive _ => Except IoError Octets
  | .random | .uptime => Nat
  | .now => Timestamp

/-- A course of questions with a result. -/
inductive Dialogue (α : Type) : Type where
  | done (result : α)
  | ask (query : Query) (next : query.Reply → Dialogue α)

namespace Dialogue

variable {α β σ : Type}

/-- Goes on with a second dialogue. -/
def bind (d : Dialogue α) (next : α → Dialogue β) : Dialogue β :=
  match d with
  | done result => next result
  | ask query reply => ask query fun r => (reply r).bind next

instance : Monad Dialogue where
  pure := done
  bind := bind

/-- Asks one question. -/
def query (q : Query) : Dialogue q.Reply :=
  ask q done

/-- The time. -/
def now : Dialogue Timestamp :=
  ask .now done

/-- Nanoseconds of a clock that only moves forward. -/
def uptime : Dialogue Nat :=
  ask .uptime done

/-- A random number of 16 bits. -/
def random : Dialogue Nat :=
  ask .random done

/-- Carries a dialogue out. `answer` replies to a query and moves the state of the host. -/
def run (answer : σ → (q : Query) → q.Reply × σ) (d : Dialogue α) (s : σ) : α × σ :=
  match d with
  | done result => (result, s)
  | ask q next =>
    let (reply, s) := answer s q
    (next reply).run answer s

@[simp] theorem run_done (answer : σ → (q : Query) → q.Reply × σ) (a : α) (s : σ) :
    (done a).run answer s = (a, s) := rfl

theorem run_bind (answer : σ → (q : Query) → q.Reply × σ) (d : Dialogue α)
    (next : α → Dialogue β) (s : σ) :
    (d.bind next).run answer s =
      (next (d.run answer s).1).run answer (d.run answer s).2 := by
  induction d generalizing s with
  | done => rfl
  | ask q reply ih => exact ih _ _

theorem bind_assoc {γ : Type} (d : Dialogue α) (next : α → Dialogue β) (last : β → Dialogue γ) :
    (d.bind next).bind last = d.bind fun a => (next a).bind last := by
  induction d with
  | done => rfl
  | ask q reply ih => exact congrArg (ask q) (funext ih)

/-- The octets that a connection still yields, up to a limit. A connection that ends or fails
early ends the reading. Being interrupted is a failure here like any other: to read again after each
interruption might never end, so that is left to whoever replies, who has to take up an interrupted
read and reply with what comes of it. -/
def receiveUpTo (limit : Nat) (got : List Octets) : Dialogue (Except IoError Octets) :=
  if limit = 0 then done (.ok got.reverse.flatten)
  else
    ask (.receive limit) fun
      | .error e => done (.error e)
      | .ok [] => done (.ok got.reverse.flatten)
      | .ok (b :: rest) =>
        if limit ≤ rest.length + 1 then done (.ok ((b :: rest) :: got).reverse.flatten)
        else receiveUpTo (limit - (rest.length + 1)) ((b :: rest) :: got)
termination_by limit
decreasing_by simp_all; omega

end Dialogue

/-- Seconds of a length of time in nanoseconds. -/
def secondsOfNanos (nanos : Nat) : Float :=
  Binary64.ofInt (nanos / 1000000000 : Nat) + Binary64.ofInt (nanos % 1000000000 : Nat) / 1000000000.0

/-- Milliseconds of a length of time in nanoseconds. -/
def millisOfNanos (nanos : Nat) : Float :=
  secondsOfNanos nanos * 1000.0

end Hostwatch
