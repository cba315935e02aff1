import Hostwatch.Proofs.Ssh.Pool
import Hostwatch.Ssh.Request

/-!
# What the tasks of a hub come to

A task is a course of calls that any of its calls may end. `Task.Yields` says what holds of its
result and of the hub after it, and is taken apart along the task: the rest of a task matters only
where what comes first has succeeded. Two kinds of pieces make up all tasks. Those of the first kind
only ask the wire, so they leave the pool and the connections as they are; what they do to the
sessions is noted. Those of the second kind change the pool and ask nothing.
-/

namespace Hostwatch.Ssh

variable {σ α β : Type}

/-- `Q` holds of what comes of a task and of the hub after it. -/
def Task.Yields (t : Task σ α) (h : Hub σ) (Q : Except TransportError α → Hub σ → Prop) : Prop :=
  Q (t.run h).1 (t.run h).2

variable {h h' : Hub σ} {Q Q' : Except TransportError α → Hub σ → Prop}

theorem Task.Yields.mono {t : Task σ α} (yields : t.Yields h Q)
    (weaker : ∀ r h', Q r h' → Q' r h') : t.Yields h Q' :=
  weaker _ _ yields

namespace Hub

@[simp] theorem yields_pure (a : α) : Task.Yields (pure a) h Q ↔ Q (.ok a) h := Iff.rfl

@[simp] theorem yields_throw (e : TransportError) : Task.Yields (throw e) h Q ↔ Q (.error e) h :=
  Iff.rfl

@[simp] theorem yields_mk (r : Except TransportError α) :
    Task.Yields (ExceptT.mk (pure r)) h Q ↔ Q r h := Iff.rfl

@[simp] theorem yields_step (f : Hub σ → α × Hub σ) :
    (step f).Yields h Q ↔ Q (.ok (f h).1) (f h).2 := Iff.rfl

/-- Where the first part of a task fails, so does the task; else the rest goes on. -/
theorem run_seq (t : Task σ α) (next : α → Task σ β) (h : Hub σ) :
    ExceptT.run (t >>= next) h =
      match t.run h with
      | (.ok a, h') => (next a).run h'
      | (.error e, h') => (.error e, h') := by
  cases first : t.run h with
  | mk r h' =>
      rw [ExceptT.run_bind]
      show StateT.bind t.run _ h = _
      cases r with
      | ok a => simp only [StateT.bind, first]; rfl
      | error e => simp only [StateT.bind, first]; rfl

section Seq

variable {P : Except TransportError α → Hub σ → Prop}
  {R : Except TransportError β → Hub σ → Prop} {next : α → Task σ β}

theorem Task.Yields.bind {t : Task σ α} (first : t.Yields h P)
    (rest : ∀ a h', P (.ok a) h' → (next a).Yields h' R)
    (fails : ∀ e h', P (.error e) h' → R (.error e) h') : Task.Yields (t >>= next) h R := by
  unfold Task.Yields at first ⊢
  rw [run_seq]
  cases came : t.run h with
  | mk r h' =>
      rw [came] at first
      cases r with
      | ok a => exact rest a h' first
      | error e => exact fails e h' first

theorem yields_onPool_bind (f : Pool Session → α × Pool Session) :
    Task.Yields (onPool f >>= next) h R ↔
      (next (f h.pool).1).Yields { h with pool := (f h.pool).2 } R := Iff.rfl

/-- The rest of a task is told what came of the first part, be it a failure. -/
theorem yields_outcome_bind {t : Task σ α} {next : Except TransportError α → Task σ β} :
    Task.Yields (outcome t >>= next) h R ↔ t.Yields h fun r h' => (next r).Yields h' R := Iff.rfl

end Seq

/-! ### Tasks that only ask the wire -/

variable {w : Wire σ} {g g' g'' : Hub (Noted σ)} {u v : List SessionUse}

/-- From one hub to another, that has been done to the sessions. -/
structure Did (g g' : Hub (Noted σ)) (uses : List SessionUse) : Prop where
  wire : g'.wire = g.wire
  uses : g'.world.uses = g.world.uses ++ uses

theorem Did.nothing (wire : g'.wire = g.wire) (uses : g'.world.uses = g.world.uses) :
    Did g g' [] :=
  ⟨wire, uses.trans (List.append_nil _).symm⟩

theorem Did.trans (first : Did g g' u) (second : Did g' g'' v) : Did g g'' (u ++ v) where
  wire := second.wire.trans first.wire
  uses := by rw [second.uses, first.uses, List.append_assoc]

/-- Besides, neither the pool nor the connections have changed. -/
structure Asked (g g' : Hub (Noted σ)) (uses : List SessionUse) : Prop extends Did g g' uses where
  pool : g'.pool = g.pool
  connections : g'.connections = g.connections

theorem Asked.refl (g : Hub (Noted σ)) : Asked g g [] :=
  { Did.nothing rfl rfl with pool := rfl, connections := rfl }

theorem Asked.trans (first : Asked g g' u) (second : Asked g' g'' v) : Asked g g'' (u ++ v) :=
  { first.toDid.trans second.toDid with
    pool := second.pool.trans first.pool
    connections := second.connections.trans first.connections }

theorem asked_call (notes : g.wire = w.noting) (c : Call) :
    Asked g ((call c).run g).2 c.use?.toList where
  wire := rfl
  pool := rfl
  connections := rfl
  uses := by
    show (g.wire g.world c).2.uses = _
    rw [notes]
    rfl

/-- A call is answered in some way, and the task goes on. -/
theorem yields_call_bind (notes : g.wire = w.noting) (c : Call)
    {next : c.Reply → Task (Noted σ) α} {Q : Except TransportError α → Hub (Noted σ) → Prop}
    (rest : ∀ reply g', Asked g g' c.use?.toList → (next reply).Yields g' Q) :
    Task.Yields (call c >>= next) g Q :=
  rest _ _ (asked_call notes c)

theorem yields_uptime_bind (notes : g.wire = w.noting) {next : Nat → Task (Noted σ) α}
    {Q : Except TransportError α → Hub (Noted σ) → Prop}
    (rest : ∀ now g', Asked g g' [] → (next now).Yields g' Q) :
    Task.Yields (uptime >>= next) g Q :=
  yields_call_bind notes .uptime rest

/-- A task that does nothing to the sessions, however it ends. -/
def Silent (w : Wire σ) (t : Task (Noted σ) α) : Prop :=
  ∀ g, g.wire = w.noting → t.Yields g fun _ g' => Asked g g' []

theorem Silent.bind {t : Task (Noted σ) α} {next : α → Task (Noted σ) β} (first : Silent w t)
    (rest : ∀ a, Silent w (next a)) : Silent w (t >>= next) := by
  intro g notes
  apply Task.Yields.bind (first g notes)
  · intro a g' asked
    exact (rest a g' (asked.wire.trans notes)).mono fun _ _ => asked.trans
  · intro e g' asked
    exact asked

theorem silent_pure (a : α) : Silent w (pure a) :=
  fun g _ => .refl g

theorem silent_throw (e : TransportError) : Silent w (throw e : Task (Noted σ) α) :=
  fun g _ => .refl g

theorem silent_orShell (r : Except ShellError α) : Silent w (orShell r) :=
  fun g _ => .refl g

theorem silent_orIo (r : Except IoError α) : Silent w (orIo r) :=
  fun g _ => .refl g

theorem silent_call {c : Call} (nothing : c.use? = none) : Silent w (call c) := by
  intro g notes
  have asked := asked_call notes c
  rw [nothing] at asked
  exact asked

theorem silent_ite {c : Prop} [Decidable c] {t t' : Task (Noted σ) α} (first : Silent w t)
    (second : Silent w t') : Silent w (if c then t else t') := by
  split
  · exact first
  · exact second

/-- A task whose first call does something to the sessions and whose others do not. -/
theorem Silent.after_call (notes : g.wire = w.noting) (c : Call)
    {next : c.Reply → Task (Noted σ) α} (rest : ∀ reply, Silent w (next reply)) :
    Task.Yields (call c >>= next) g fun _ g' => Asked g g' c.use?.toList := by
  apply yields_call_bind notes c
  intro reply g' asked
  apply (rest reply g' (asked.wire.trans notes)).mono
  intro _ g'' silent
  have both := asked.trans silent
  rw [List.append_nil] at both
  exact both

/-- Whether or not connecting succeeds, it begins with a connection to the port, and the sessions of
the pool have no part in it. -/
theorem yields_connect (notes : g.wire = w.noting) (p : Params) :
    (connect p).Yields g fun _ g' => Asked g g' [.connect p.host p.port] := by
  refine Silent.after_call notes (.connect p.host p.port) fun reply => ?_
  refine (silent_orIo reply).bind fun (found : Bool) => ?_
  refine silent_ite (silent_throw _) ?_
  refine (silent_call rfl).bind fun created => ?_
  refine (silent_orShell created).bind fun session => ?_
  refine (silent_call rfl).bind fun _ => ?_
  refine (silent_call rfl).bind fun greeted => ?_
  refine (silent_orShell greeted).bind fun _ => ?_
  refine (silent_call rfl).bind fun _ => ?_
  refine (silent_call rfl).bind fun known => ?_
  refine (silent_orShell known).bind fun _ => ?_
  refine (silent_call rfl).bind fun (authenticated : Bool) => ?_
  exact silent_ite (silent_pure session) (silent_throw _)

/-- Whatever comes of a line, it is run on one new channel of the session. -/
theorem yields_runOn (notes : g.wire = w.noting) (session : Session) (line : String) :
    (runOn session line).Yields g fun _ g' => Asked g g' [.openChannel session] := by
  refine Silent.after_call notes (.openChannel session) fun opened => ?_
  refine (silent_orShell opened).bind fun channel => ?_
  refine (silent_call rfl).bind fun started => ?_
  refine (silent_orShell started).bind fun _ => ?_
  refine (silent_call rfl).bind fun read => ?_
  refine (silent_orIo read).bind fun output => ?_
  refine (silent_call rfl).bind fun read => ?_
  refine (silent_orIo read).bind fun errors => ?_
  refine (silent_call rfl).bind fun ended => ?_
  refine (silent_orShell ended).bind fun _ => ?_
  refine (silent_call rfl).bind fun status => ?_
  refine (silent_orShell status).bind fun code => ?_
  exact silent_ite (silent_throw _) (silent_pure _)

theorem yields_disconnectAll (notes : g.wire = w.noting) (sessions : List Session) :
    (disconnectAll sessions).Yields g fun r g' =>
      r = .ok () ∧ Asked g g' (sessions.map .disconnect) := by
  induction sessions generalizing g with
  | nil => exact ⟨rfl, .refl g⟩
  | cons session rest ih =>
      apply yields_call_bind notes (.disconnect session)
      intro _ g' asked
      apply (ih (asked.wire.trans notes)).mono
      rintro r g'' ⟨fine, closed⟩
      exact ⟨fine, asked.trans closed⟩

end Hub

end Hostwatch.Ssh
