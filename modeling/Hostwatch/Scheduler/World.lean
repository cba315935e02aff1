import Hostwatch.Scheduler.Basic
import Hostwatch.Store.Operation

/-!
# The scheduler among others

Looks for work, the runs that they start and the other users of the store all go on at once. Here
every access to what they share is a step of its own, and the steps come in any order. In particular
a look for work can be interrupted between its accesses: after it has listed the probes, after it
has seen that one is not marked, and after it has marked it. Several looks can be under way.

A look for work that nobody interrupts is `Scheduler.dispatch`.
-/

namespace Hostwatch

/-- What a look for work does next about the probe at hand. -/
inductive Errand where
  /-- The probe counts as new and gets its first check. -/
  | schedule (probe : Probe AgentRef)
  /-- The probe was due when it was listed and gets marked. -/
  | claim (id : String)
  /-- The probe is marked and gets read again. -/
  | confirm (id : String)

namespace Errand

/-- What there is to do about a listed probe. -/
def of? (now : Timestamp) (probe : Probe AgentRef) (running : Bool) : Option Errand :=
  match probe.state now running with
  | .running | .idle => none
  | .unscheduled => some (.schedule probe)
  | .due => some (.claim probe.id)

end Errand

/-- A look for work under way. -/
structure Look where
  now : Timestamp
  /-- The listed probes that have yet to be dealt with. -/
  listed : List (Probe AgentRef)
  errand : Option Errand := none

namespace Look

variable {β τ : Type}

/-- The probe that a look for work has marked and not yet started. -/
def held? (l : Look) : Option String :=
  match l.errand with
  | some (.confirm id) => some id
  | _ => none

/-- Takes a look for work one access further. Nothing is left of a look that is over. -/
def advance (l : Look) (s : Scheduler β τ) (words : List Nat) :
    Option Look × Scheduler β τ :=
  match l.errand with
  | none =>
    match l.listed with
    | [] => (none, s)
    | probe :: rest =>
      (some { l with
        listed := rest
        errand := Errand.of? l.now probe (s.isRunning probe.id) }, s)
  | some (.schedule probe) =>
    match (jitteredStart l.now probe.interval words).1 with
    | none => (none, s)
    | some next => (some { l with errand := none }, s.plan probe.id next)
  | some (.claim id) =>
    match s.claim id with
    | none => (some { l with errand := none }, s)
    | some s => (some { l with errand := some (.confirm id) }, s)
  | some (.confirm id) => (some { l with errand := none }, (s.confirm l.now id).2)

/-- What is released when a look for work breaks off. -/
def abandon (l : Look) (s : Scheduler β τ) : Scheduler β τ :=
  match l.held? with
  | none => s
  | some id => s.release id

end Look

/-- A scheduler with the looks for work that are under way, the latest first. -/
structure World (β τ : Type) where
  scheduler : Scheduler β τ
  looks : List Look := []

namespace World

/-- A scheduler that has just been set up. -/
def start {β τ : Type} (link : Link AgentRef τ) (actor : Actor) (forwarder : Forwarder)
    (fleet : Fleet β) : World β τ :=
  { scheduler := { link, actor, forwarder, fleet } }

/-- The probes that are marked by a look for work and have yet to be started or given up. -/
def held {β τ : Type} (w : World β τ) : List String :=
  w.looks.flatMap (·.held?.toList)

/-- What is stored. -/
def store {β τ : Type} (w : World β τ) : Store AgentRef τ :=
  w.scheduler.link.store

/-- What can happen next. -/
inductive Step (β τ : Type) where
  /-- A look for work that nobody interrupts. -/
  | dispatch (now : Timestamp) (words : List Nat)
  /-- A look for work begins. -/
  | list (now : Timestamp)
  /-- The look for work at that place goes on. -/
  | look (place : Nat) (words : List Nat)
  /-- The look for work at that place breaks off. -/
  | abandon (place : Nat)
  | lookUp (id : String)
  | postpone (id : String) (now : Timestamp)
  | gathered (id : String) (points : Option (List Point)) (agent : β)
  | record (id : String) (now : Timestamp)
  | write (id : String) (accepted : Bool)
  /-- The run of a probe breaks off, in whatever phase it is. -/
  | crash (id : String)
  /-- Somebody else uses the store. -/
  | client (actor : Actor) (operation : Operation AgentRef τ)
  /-- From now on another state of the store is listed, or again the current one. -/
  | freeze (listed : Option (Store AgentRef τ))
  /-- An agent joins the fleet. -/
  | enlist (agent : β)

/-- The probe whose run takes the step, if it is a step of a run. -/
def Step.run? {β τ : Type} : Step β τ → Option String
  | .lookUp id | .postpone id _ | .gathered id .. | .record id _ | .write id _ | .crash id =>
    some id
  | _ => none

variable {β τ : Type} [Plugin τ]

/-- The world after a step. Nothing happens in a step that nobody can take. -/
def step [Plugin β] (w : World β τ) : Step β τ → World β τ
  | .dispatch now words => { w with scheduler := (w.scheduler.dispatch now words).scheduler }
  | .list now =>
    match w.scheduler.link.listProbes w.scheduler.actor .all with
    | (.ok listed, link) =>
      { scheduler := { w.scheduler with link }, looks := { now, listed } :: w.looks }
    | (.error _, link) => { w with scheduler := { w.scheduler with link } }
  | .look place words =>
    match w.looks[place]? with
    | none => w
    | some l =>
      match l.advance w.scheduler words with
      | (some l, scheduler) => { scheduler, looks := w.looks.set place l }
      | (none, scheduler) => { scheduler, looks := w.looks.eraseIdx place }
  | .abandon place =>
    match w.looks[place]? with
    | none => w
    | some l => { scheduler := l.abandon w.scheduler, looks := w.looks.eraseIdx place }
  | .lookUp id => { w with scheduler := w.scheduler.lookUp id }
  | .postpone id now => { w with scheduler := w.scheduler.postpone id now }
  | .gathered id points agent => { w with scheduler := w.scheduler.gathered id points agent }
  | .record id now => { w with scheduler := w.scheduler.record id now }
  | .write id accepted => { w with scheduler := w.scheduler.write id accepted }
  | .crash id => { w with scheduler := w.scheduler.breakOff id }
  | .client actor operation =>
    let link := w.scheduler.link
    { w with scheduler.link :=
      { link with store := (link.store.perform actor operation).store } }
  | .freeze listed => { w with scheduler.link := { w.scheduler.link with listed } }
  | .enlist agent =>
    { w with scheduler := { w.scheduler with fleet := (w.scheduler.fleet.enlist agent).2 } }

/-- The world after several steps. -/
def run [Plugin β] (w : World β τ) (steps : List (Step β τ)) : World β τ :=
  steps.foldl step w

@[simp] theorem run_cons [Plugin β] (w : World β τ) (next : Step β τ) (rest : List (Step β τ)) :
    w.run (next :: rest) = (w.step next).run rest := rfl

theorem run_append [Plugin β] (w : World β τ) (first second : List (Step β τ)) :
    w.run (first ++ second) = (w.run first).run second :=
  List.foldl_append

/-- What a run does outside of the scheduler and the store. -/
inductive Effect where
  /-- Its agent has gathered. -/
  | gather (id : String)
  /-- It has handed a batch to the database, which took it or did not. -/
  | write (id : String) (batch : List Point) (accepted : Bool)

/-- The probe whose run has the effect. -/
def Effect.id : Effect → String
  | .gather id | .write id .. => id

/-- The effect of a step outside. -/
def effect? (w : World β τ) : Step β τ → Option Effect
  | .gathered id .. =>
    match w.scheduler.run? id with
    | some { phase := .gathering _, .. } => some (.gather id)
    | _ => none
  | .write id accepted =>
    match w.scheduler.run? id with
    | some { phase := .forwarding delivery, .. } => some (.write id delivery.batch accepted)
    | _ => none
  | _ => none

/-- The effects of several steps outside, in their order. -/
def effects [Plugin β] (w : World β τ) : List (Step β τ) → List Effect
  | [] => []
  | s :: rest => (w.effect? s).toList ++ (w.step s).effects rest

theorem effects_append [Plugin β] (w : World β τ) (first second : List (Step β τ)) :
    w.effects (first ++ second) = w.effects first ++ (w.run first).effects second := by
  induction first generalizing w with
  | nil => rfl
  | cons s rest ih => simp [effects, ih]

end World

end Hostwatch
