import Hostwatch.Agent.Course
import Hostwatch.Scheduler.World

/-!
# Agents at work among others

A step of gathering says itself what was found. Here it is the agents that find something: a gather
starts from what the agent of the run remembers at that moment, and what it finds follows from that
and from the surroundings in which it takes place. What agents do is a function, so that all said
here holds for agents of any kind.
-/

namespace Hostwatch

universe u

/-- What a run gets from a gather, and the agent after it. A gather that fails gives no points, and
neither does one after which working them out breaks off; but then the agent keeps what it read. -/
def Agent.harvest (a : Agent) (w : Surroundings) : Option (List Point) × Agent :=
  match a.gatherIn w with
  | (.ok (), a) => (a.points, a)
  | (.error _, a) => (none, a)

/-- One gather of a run. -/
structure Gather (β : Type) (ω : Type u) where
  /-- The probe whose run it is. -/
  id : String
  /-- The number of the agent. -/
  agent : Nat
  /-- The agent as it was before. -/
  start : β
  surroundings : ω

/-- What happens next, if it is left to the agents what they find. -/
inductive Deed (β τ : Type) (ω : Type u) where
  /-- The run of a probe gathers in certain surroundings. -/
  | gather (id : String) (surroundings : ω)
  /-- Any other step. -/
  | plain (next : World.Step β τ)

/-- Whether it is a step that says what a gather found. -/
def World.Step.isGather {β τ : Type} : World.Step β τ → Bool
  | .gathered .. => true
  | _ => false

/-- The probe whose run does it, if a run does it. -/
def Deed.run? {β τ : Type} {ω : Type u} : Deed β τ ω → Option String
  | .gather id _ => some id
  | .plain next => next.run?

variable {β τ : Type} {ω : Type u}

namespace Gather

variable (act : β → ω → Option (List Point) × β)

/-- What the run got from the gather. -/
def outcome (g : Gather β ω) : Option (List Point) :=
  (act g.start g.surroundings).1

/-- The step that the gather is. -/
def step (g : Gather β ω) : World.Step β τ :=
  .gathered g.id (g.outcome act) (act g.start g.surroundings).2

/-- What an agent finds when it gathers once in each of the surroundings. -/
def outcomes : β → List ω → List (Option (List Point))
  | _, [] => []
  | a, w :: rest => (act a w).1 :: outcomes (act a w).2 rest

/-- Each gather starts from what the one before it has left, the first from `a`. -/
def Continue : (a : β) → List (Gather β ω) → Prop
  | _, [] => True
  | a, g :: rest => g.start = a ∧ Continue (act a g.surroundings).2 rest

end Gather

namespace World

/-- The gather that is done, if a run does one. -/
def gather? (w : World β τ) : Deed β τ ω → Option (Gather β ω)
  | .gather id surroundings =>
    match w.scheduler.run? id with
    | some { probe, phase := .gathering _ } =>
      (w.scheduler.fleet.agent? probe.agent).map fun start =>
        { id, agent := probe.agent.number, start, surroundings }
    | _ => none
  | .plain _ => none

variable [Plugin β] [Plugin τ] (act : β → ω → Option (List Point) × β)

/-- The world after a deed. Nobody but the agents says what is found. -/
def deed (w : World β τ) (d : Deed β τ ω) : World β τ :=
  match d, w.gather? d with
  | .gather .., some g => w.step (g.step act)
  | .gather .., none => w
  | .plain next, _ => if next.isGather then w else w.step next

/-- The world after several deeds. -/
def did (w : World β τ) (deeds : List (Deed β τ ω)) : World β τ :=
  deeds.foldl (deed act) w

/-- The gathers that are done in the course of several deeds. -/
def gathers (w : World β τ) : List (Deed β τ ω) → List (Gather β ω)
  | [] => []
  | d :: rest => (w.gather? d).toList ++ (w.deed act d).gathers rest

theorem did_append (w : World β τ) (past later : List (Deed β τ ω)) :
    w.did act (past ++ later) = (w.did act past).did act later :=
  List.foldl_append

theorem gathers_append (w : World β τ) (past later : List (Deed β τ ω)) :
    w.gathers act (past ++ later) = w.gathers act past ++ (w.did act past).gathers act later := by
  induction past generalizing w with
  | nil => rfl
  | cons d rest ih =>
      rw [List.cons_append, gathers, ih, gathers, List.append_assoc]
      rfl

end World

end Hostwatch
