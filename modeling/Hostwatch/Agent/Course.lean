import Hostwatch.Agent

/-!
# Courses of gathers

What becomes of an agent that gathers again and again, each time in other surroundings.
-/

namespace Hostwatch

/-- All that answers the questions of a gather: the host, the clock and the source of random
numbers. An answer may go by what was asked before. -/
structure Surroundings where
  State : Type
  answer : State → (q : Query) → q.Reply × State
  start : State

/-- A question and what it was answered with. -/
structure Exchange where
  query : Query
  reply : query.Reply

namespace Dialogue

variable {α σ : Type}

/-- All questions of a dialogue with their answers. -/
def transcript (answer : σ → (q : Query) → q.Reply × σ) (d : Dialogue α) (s : σ) : List Exchange :=
  match d with
  | done _ => []
  | ask q next =>
    let (reply, s) := answer s q
    ⟨q, reply⟩ :: (next reply).transcript answer s

end Dialogue

namespace Resolver

/-- Octets without those that hold the number of a query. `place` is where the number stands in all
that a connection carries in one direction, and `passed` how much of that came before. -/
def blot (place passed : Nat) (octets : Octets) : Octets :=
  octets.mapIdx fun i b => if passed + i = place ∨ passed + i = place + 1 then 0 else b

/-- How many octets an exchange brought. -/
def received : Exchange → Nat
  | ⟨.receive _, .ok octets⟩ => octets.length
  | _ => 0

/-- An exchange without the number of the query. -/
def blotOne (place passed : Nat) : Exchange → Exchange
  | ⟨.random, _⟩ => ⟨.random, (0 : Nat)⟩
  | ⟨.send data, reply⟩ => ⟨.send (blot place 0 data), reply⟩
  | ⟨.receive limit, .ok octets⟩ => ⟨.receive limit, .ok (blot place passed octets)⟩
  | e => e

def blotAll (place : Nat) : (passed : Nat) → List Exchange → List Exchange
  | _, [] => []
  | passed, e :: rest => blotOne place passed e :: blotAll place (passed + received e) rest

/-- What was asked and answered in a gather, without the number of the query. In a stream the number
stands behind the length of the message. -/
def withoutNumber (p : Params) (exchanges : List Exchange) : List Exchange :=
  blotAll (if p.network == "tcp" then 2 else 0) 0 exchanges

end Resolver

namespace Agent

/-- How many of its last readings the points of an agent follow from: rates compare two. -/
def span : Agent → Nat
  | .cpu _ | .disk _ | .mysql .. | .network _ | .nginx .. | .phpFpm .. => 2
  | .diskUsage .. | .dns .. | .load _ | .memory _ | .ping .. | .sockets _ | .tcpPort .. => 1

def gatherIn (a : Agent) (w : Surroundings) : Gathered :=
  (a.gather.run w.answer w.start).1

/-- What was asked in a gather and what was answered. -/
def transcriptIn (a : Agent) (w : Surroundings) : List Exchange :=
  a.gather.transcript w.answer w.start

/-- The agent after one gather in each of the surroundings. -/
def gatherAll (a : Agent) (course : List Surroundings) : Agent :=
  course.foldl (fun a w => (a.gatherIn w).2) a

/-- The surroundings in which the gather succeeded. -/
def successes (a : Agent) : List Surroundings → List Surroundings
  | [] => []
  | w :: rest =>
    let later := (a.gatherIn w).2.successes rest
    if (a.gatherIn w).1.isOk then w :: later else later

end Agent

end Hostwatch
