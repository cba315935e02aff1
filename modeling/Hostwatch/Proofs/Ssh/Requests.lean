import Hostwatch.Proofs.Ssh.Questions

/-!
# Sequences of requests

Whatever is asked of a hub, in whatever order and with whatever answers from the hosts: between two
requests the pool counts the leases of the open connections and no others, and a session goes only
if a question to its host shows it to be broken, or in a look for idle sessions.
-/

namespace Hostwatch.Ssh.Hub

variable {σ α : Type} {w : Wire σ} {g g' : Hub (Noted σ)} {r : Request}

theorem yields_get_bind {next : Hub σ → Task σ α} {h : Hub σ}
    {Q : Except TransportError α → Hub σ → Prop} :
    Task.Yields (get >>= next) h Q ↔ (next h).Yields h Q := Iff.rfl

/-! ### Requests that are put to no host -/

/-- Nothing was done to the sessions. -/
structure Rests (g g' : Hub (Noted σ)) : Prop where
  did : Did g g' []
  session : ∀ key, g'.pool.session? key = g.pool.session? key
  balanced : g'.Balanced []

theorem Rests.of_asked (balanced : g.Balanced []) (asked : Asked g g' []) : Rests g g' where
  did := asked.toDid
  session := by
    intro key
    rw [asked.pool]
  balanced := balanced.congr asked.connections fun key => by rw [asked.pool]

theorem silent_receive (name : String) : Silent w (receive name) := by
  intro g notes
  unfold receive
  rw [yields_get_bind]
  cases channelOf g name with
  | ok channel => exact silent_call rfl g notes
  | error e => exact .refl g

theorem silent_send (name : String) (data : Octets) : Silent w (send name data) := by
  intro g notes
  unfold send
  rw [yields_get_bind]
  cases channelOf g name with
  | ok channel => exact silent_call rfl g notes
  | error e => exact .refl g

theorem yields_drop (notes : g.wire = w.noting) (balanced : g.Balanced []) (name : String) :
    (drop name).Yields g fun _ g' => Rests g g' := by
  unfold drop
  rw [yields_get_bind]
  apply Task.Yields.bind (yields_close notes balanced name)
  · rintro _ g₁ ⟨-, closed⟩
    rw [yields_step]
    refine ⟨⟨closed.did.wire, closed.did.uses⟩, closed.session, ?_, ?_, ?_⟩
    · exact closed.balanced.sorted.filter _
    · intro other c found
      rw [Table.get?_erase] at found
      split at found
      · cases found
      · exact closed.balanced.leased other c found
    · intro key
      rw [openOn, closed.balanced.sorted.countP_erase]
      · exact closed.balanced.counted key
      · intro c found
        rw [Pooled.isOpenOn, closed.shut c found]
        rfl
  · rintro _ g₁ ⟨failed, -⟩
    cases failed

/-- A request that is put to no host and is no look for idle sessions. -/
theorem yields_unasked (notes : g.wire = w.noting) (balanced : g.Balanced [])
    (asks : r.asks? = none) (stays : r.isSweep = false) :
    (r.task : Task (Noted σ) Unit).Yields g fun _ g' => Rests g g' := by
  have unchanged : Rests g g := .of_asked balanced (.refl g)
  cases r with
  | exec p command args => cases asks
  | fetch p path => cases asks
  | stat p path => cases asks
  | dial p network address name =>
      show (dial p network address name).Yields g _
      unfold dial
      by_cases supported : networks.contains network = true
      · cases split : Address.split? address with
        | none =>
            simp only [supported, if_true]
            exact unchanged
        | some place =>
            rw [Request.asks?, if_pos ⟨supported, by rw [split]; rfl⟩] at asks
            cases asks
      · simp only [supported]
        exact unchanged
  | receive name =>
      have silent := (silent_receive (w := w) name).bind fun _ => silent_pure ()
      exact (silent g notes).mono fun _ _ => Rests.of_asked balanced
  | send name data =>
      have silent := (silent_send (w := w) name data).bind fun _ => silent_pure ()
      exact (silent g notes).mono fun _ _ => Rests.of_asked balanced
  | close name =>
      apply (yields_close notes balanced name).mono
      rintro _ g' ⟨-, closed⟩
      exact ⟨closed.did, closed.session, closed.balanced⟩
  | drop name =>
      exact Task.Yields.bind (yields_drop notes balanced name) (fun _ _ rests => rests)
        fun _ _ rests => rests
  | sweep now => cases stays

/-- What a look for idle sessions leaves. -/
structure Sweeps (g g' : Hub (Noted σ)) : Prop where
  wire : g'.wire = g.wire
  session : ∀ key session, g'.pool.session? key = some session →
    g.pool.session? key = some session
  balanced : g'.Balanced []

theorem yields_sweep (notes : g.wire = w.noting) (balanced : g.Balanced []) (now : Nat) :
    ((Request.sweep now).task : Task (Noted σ) Unit).Yields g fun _ g' => Sweeps g g' := by
  have swept : (sweep now).Yields g fun _ g' => Sweeps g g' := by
    unfold sweep
    rw [yields_onPool_bind]
    apply Task.Yields.bind (yields_disconnectAll (g := { g with pool := (g.pool.sweep now).2 })
      notes (g.pool.sweep now).1)
    · rintro _ g' ⟨-, closed⟩
      rw [yields_pure]
      refine ⟨closed.wire, ?_, balanced.congr closed.connections ?_⟩
      · intro key session there
        rw [closed.pool] at there
        exact Pool.session?_of_sweep there
      · intro key
        rw [closed.pool]
        exact Pool.counted_sweep g.pool now key
    · rintro e g' ⟨failed, -⟩
      cases failed
  exact Task.Yields.bind swept (fun _ _ sweeps => sweeps) fun _ _ sweeps => sweeps

/-! ### A request after others -/

/-- What every request finds and leaves. -/
structure Sound (w : Wire σ) (g : Hub (Noted σ)) : Prop where
  notes : g.wire = w.noting
  balanced : g.Balanced []

theorem sound_start (w : Wire σ) (world : σ) (idleTimeout : Nat) :
    Sound w (start w world idleTimeout) :=
  ⟨rfl, balanced_start w world idleTimeout⟩

namespace Sound

variable (sound : Sound w g)
include sound

theorem answers {p : Params} (asks : r.asks? = some p) :
    Answers g (g.perform r).2 p [] (g.perform r).1 (r.tellsBroken (g.perform r).1) :=
  yields_asked sound.notes sound.balanced asks

theorem rests (asks : r.asks? = none) (stays : r.isSweep = false) : Rests g (g.perform r).2 :=
  yields_unasked sound.notes sound.balanced asks stays

theorem sweeps (now : Nat) : Sweeps g (g.perform (.sweep now)).2 :=
  yields_sweep sound.notes sound.balanced now

theorem perform (r : Request) : Sound w (g.perform r).2 := by
  cases asks : r.asks? with
  | some p =>
      have answers := sound.answers asks
      obtain ⟨used?, serves, -⟩ := answers.served
      exact ⟨serves.did.wire.trans sound.notes, answers.balanced⟩
  | none =>
      cases r with
      | sweep now =>
          have sweeps := sound.sweeps now
          exact ⟨sweeps.wire.trans sound.notes, sweeps.balanced⟩
      | exec | fetch | stat | dial | receive | send | close | drop =>
          have rests := sound.rests asks rfl
          exact ⟨rests.did.wire.trans sound.notes, rests.balanced⟩

theorem performAll (requests : List Request) : Sound w (g.performAll requests) := by
  induction requests generalizing g with
  | nil => exact sound
  | cons r rest ih => exact ih (sound.perform r)

end Sound

/-- A request is put to a host of a key, and its result says that the session is broken. -/
def Shows (h : Hub σ) (r : Request) (key : Key) : Prop :=
  (∃ p, r.asks? = some p ∧ p.key = key) ∧ r.tellsBroken (h.perform r).1 = true

theorem Sound.kept {key : Key} {session : Session} (sound : Sound w g)
    (there : g.pool.session? key = some session) (stays : r.isSweep = false)
    (well : ¬ g.Shows r key) : (g.perform r).2.pool.session? key = some session := by
  cases asks : r.asks? with
  | some p =>
      obtain ⟨used?, serves, -⟩ := (sound.answers asks).served
      rw [serves.session]
      split
      · next here =>
          subst here
          have fine : r.tellsBroken (g.perform r).1 = false :=
            Bool.eq_false_iff.mpr fun broken => well ⟨⟨p, asks, rfl⟩, broken⟩
          rw [fine]
          exact serves.cached session there
      · exact there
  | none =>
      rw [(sound.rests asks stays).session]
      exact there

/-- Without looks for idle sessions, a session stays until a question to its host shows it to be
broken. -/
theorem Sound.kept_throughout {key : Key} {session : Session} (sound : Sound w g)
    (there : g.pool.session? key = some session) (more : List Request)
    (well : ∀ before r after, more = before ++ r :: after →
      r.isSweep = false ∧ ¬ (g.performAll before).Shows r key) :
    (g.performAll more).pool.session? key = some session := by
  induction more generalizing g with
  | nil => exact there
  | cons r rest ih =>
      obtain ⟨stays, now⟩ := well [] r rest rfl
      apply ih (sound.perform r) (sound.kept there stays now)
      intro before r' after split
      exact well (r :: before) r' after (by rw [split]; rfl)

/-- Whatever was asked of a hub and whatever the hosts answered, on each key as many leases are out
as there are open connections. A question is served by the session of its key that is there, or by a
new one for which the host is connected to; that session is closed and gone if the result of the
question says that it is broken, and is there afterwards if it does not. A question that succeeds
had a session. Other requests do nothing to the sessions, and a look for idle ones brings none. So a
session stays until a question shows it to be broken or a look for idle sessions is made. -/
theorem requests_leave_leases_balanced (w : Wire σ) (world : σ) (idleTimeout : Nat)
    (requests : List Request) :
    let h := (start w world idleTimeout).performAll requests
    (∀ key, h.pool.counted key = h.openOn key) ∧
    (∀ r p, r.asks? = some p →
      ∃ used?, Serves h (h.perform r).2 p used? (r.tellsBroken (h.perform r).1) ∧
        ((h.perform r).1 = .ok () → used?.isSome = true)) ∧
    (∀ r, r.asks? = none → r.isSweep = false →
      (h.perform r).2.world.uses = h.world.uses ∧
        ∀ key, (h.perform r).2.pool.session? key = h.pool.session? key) ∧
    (∀ now key session, (h.perform (.sweep now)).2.pool.session? key = some session →
      h.pool.session? key = some session) ∧
    (∀ key session more, h.pool.session? key = some session →
      (∀ before r after, more = before ++ r :: after →
        r.isSweep = false ∧ ¬ (h.performAll before).Shows r key) →
      (h.performAll more).pool.session? key = some session) := by
  intro h
  have sound : Sound w h := (sound_start w world idleTimeout).performAll requests
  refine ⟨?_, ?_, ?_, ?_, ?_⟩
  · intro key
    exact sound.balanced.counted key
  · intro r p asks
    obtain ⟨used?, serves, reached⟩ := (sound.answers asks).served
    exact ⟨used?, serves, reached ()⟩
  · intro r asks stays
    have rests := sound.rests asks stays
    exact ⟨rests.did.uses.trans (List.append_nil _), rests.session⟩
  · intro now
    exact (sound.sweeps now).session
  · intro key session more there well
    exact sound.kept_throughout there more well

/-- All is well but for the channels, which cannot be read. -/
def mute : Wire Unit := fun _ c =>
  (match c with
    | .connect .. => .ok true
    | .handshake _ | .authenticate .. | .exec .. | .awaitEnd _ | .send .. => .ok ()
    | .create => .ok ⟨1⟩
    | .isAuthenticated _ => true
    | .openChannel session | .openDirect session .. => .ok ⟨session, 0⟩
    | .output _ | .errorOutput _ => .error IoError.notText
    | .exitStatus _ => .ok (0 : Int)
    | .uptime => (0 : Nat)
    | .limit .. | .keepAlive .. | .disconnect _ => (), ())

def web : Params := { host := "web", username := "root" }

/-- A connection is dialed through the host. What is asked of the connection does not end the
session, a file that cannot be read does. -/
theorem mute_host_is_left :
    let h := (start mute () 10).performAll [.dial web "tcp" "db:5432" "db"]
    let file := Request.fetch web "/proc/stat"
    h.openOn web.key = 1 ∧ h.pool.counted web.key = 1 ∧
      h.pool.session? web.key = some ⟨1⟩ ∧
      (h.performAll [.receive "db", .close "db"]).pool.session? web.key = some ⟨1⟩ ∧
      file.asks? = some web ∧ file.tellsBroken (h.perform file).1 = true ∧
      (h.perform file).2.pool.session? web.key = none := by
  intro h file
  obtain ⟨balanced, served, -, -, kept⟩ :=
    requests_leave_leases_balanced mute () 10 [.dial web "tcp" "db:5432" "db"]
  have one : h.openOn web.key = 1 := by decide +kernel
  have there : h.pool.session? web.key = some ⟨1⟩ := by decide +kernel
  have broken : file.tellsBroken (h.perform file).1 = true := by decide +kernel
  refine ⟨one, (balanced web.key).trans one, there, ?_, rfl, broken, ?_⟩
  · apply kept web.key ⟨1⟩ [.receive "db", .close "db"] there
    intro before r after split
    have member : r ∈ [Request.receive "db", .close "db"] := by rw [split]; simp
    simp only [List.mem_cons, List.not_mem_nil, or_false] at member
    obtain rfl | rfl := member
    · refine ⟨rfl, ?_⟩
      rintro ⟨⟨p, asks, -⟩, -⟩
      cases asks
    · refine ⟨rfl, ?_⟩
      rintro ⟨⟨p, asks, -⟩, -⟩
      cases asks
  · obtain ⟨used?, serves, -⟩ := served file web rfl
    rw [serves.session, if_pos rfl, if_pos broken]

end Hostwatch.Ssh.Hub
