import Hostwatch.Proofs.Ssh.Holding

/-!
# Questions to a host

A question to a host is served by one session. That session is the one that was there, or else a new
one; it is closed if and only if the result of the question says that it is broken. All other
sessions stay.

The leases stay balanced: the pool counts on each key as many of them as there are open connections
on it. A question gives back what it takes, a connection that is dialed keeps its lease, and closing
the connection gives it back. To follow a question from within, the leases that it has taken and not
yet given back stand beside those of the connections.
-/

namespace Hostwatch.Ssh

variable {σ α β : Type}

theorem count_held (held : List Key) (key other : Key) :
    (key :: held).count other = held.count other + if other = key then 1 else 0 := by
  by_cases here : other = key
  · subst here
    rw [List.count_cons_self, if_pos rfl]
  · rw [List.count_cons_of_ne (Ne.symm here), if_neg here, Nat.add_zero]

namespace Pooled

variable {S C : Type} {c : Pooled S C} {p : Pool C} {now : Nat}

/-- Whether a connection is open and on a key. -/
def isOpenOn (key : Key) (c : Pooled S C) : Bool :=
  c.stream?.isSome && decide (key = c.lease.key)

theorem countP_isOpenOn {key : Key} (opened : c.stream?.isSome = true) :
    [c].countP (isOpenOn key) = if key = c.lease.key then 1 else 0 := by
  rw [List.countP_singleton, isOpenOn, opened]
  simp

theorem countP_isOpenOn_of_shut {key : Key} (shut : c.stream?.isSome = false) :
    [c].countP (isOpenOn key) = 0 := by
  rw [List.countP_singleton, isOpenOn, shut]
  rfl

theorem close_of_released (again : c.lease.released = true) :
    c.close p now = ({ lease := c.lease }, p) := by
  rw [close, Pool.release_of_released again]

theorem close_of_held (held : c.lease.released = false) :
    c.close p now =
      ({ lease := { c.lease with released := true } }, p.giveBack c.lease.key now) := by
  rw [close, Pool.release_of_held held]

end Pooled

namespace Hub

/-- How many of the dialed connections are open and on a key. -/
def openOn (h : Hub σ) (key : Key) : Nat :=
  h.connections.countP (Pooled.isOpenOn key ·.2)

/-- The leases that the pool counts are those of the open connections and those that are held. -/
structure Balanced (h : Hub σ) (held : List Key) : Prop where
  sorted : h.connections.Sorted
  /-- A connection is open for as long as it has its lease. -/
  leased : ∀ name c, h.connections.get? name = some c → c.stream?.isSome = !c.lease.released
  counted : ∀ key, h.pool.counted key = h.openOn key + held.count key

variable {w : Wire σ} {g g' g'' : Hub (Noted σ)} {held : List Key} {p : Params}
variable {lease : Lease Session}

theorem balanced_start (w : Wire σ) (world : σ) (idleTimeout : Nat) :
    (start w world idleTimeout).Balanced [] where
  sorted := List.Pairwise.nil
  leased := by
    intro name c found
    cases found
  counted := by
    intro key
    rfl

theorem Balanced.congr (balanced : g.Balanced held) (connections : g'.connections = g.connections)
    (counted : ∀ key, g'.pool.counted key = g.pool.counted key) : g'.Balanced held where
  sorted := connections ▸ balanced.sorted
  leased := connections ▸ balanced.leased
  counted := by
    intro key
    rw [counted, balanced.counted, openOn, openOn, connections]

/-- A connection is set; `counted` may go by what that changes in the number of open ones. -/
theorem Balanced.insert {held' : List Key} {name : String} {c : Pooled Channel Session}
    (balanced : g.Balanced held) (leased : c.stream?.isSome = !c.lease.released)
    (connections : g'.connections = g.connections.insert name c)
    (counted : ∀ key,
      g'.openOn key + (g.connections.get? name).toList.countP (Pooled.isOpenOn key) =
        g.openOn key + [c].countP (Pooled.isOpenOn key) →
      g'.pool.counted key = g'.openOn key + held'.count key) : g'.Balanced held' where
  sorted := connections ▸ balanced.sorted.insert name c
  leased := by
    intro other c' found
    rw [connections, Table.get?_insert] at found
    split at found
    · cases found
      exact leased
    · exact balanced.leased other c' found
  counted := by
    intro key
    apply counted
    rw [openOn, connections]
    exact balanced.sorted.countP_insert (Pooled.isOpenOn key) name c

theorem Acquired.balanced (acquired : Acquired g g' p lease) (balanced : g.Balanced held) :
    g'.Balanced (p.key :: held) where
  sorted := acquired.connections ▸ balanced.sorted
  leased := acquired.connections ▸ balanced.leased
  counted := by
    intro key
    rw [acquired.takes.counted, balanced.counted, openOn, openOn, acquired.connections,
      count_held, Nat.add_assoc]

theorem Ended.balanced {broken : Bool} (ended : Ended g g' lease broken)
    (balanced : g.Balanced (lease.key :: held)) : g'.Balanced held where
  sorted := ended.connections ▸ balanced.sorted
  leased := ended.connections ▸ balanced.leased
  counted := by
    intro key
    rw [ended.counted, balanced.counted, openOn, openOn, ended.connections, count_held]
    omega

/-! ### Closing a connection -/

/-- The connection of a name is not open any more. -/
structure Shut (g g' : Hub (Noted σ)) (name : String) (held : List Key) : Prop where
  did : Did g g' []
  session : ∀ key, g'.pool.session? key = g.pool.session? key
  balanced : g'.Balanced held
  shut : ∀ c, g'.connections.get? name = some c → c.stream? = none

theorem yields_close (notes : g.wire = w.noting) (balanced : g.Balanced held) (name : String) :
    (close name).Yields g fun r g' => r = .ok () ∧ Shut g g' name held := by
  apply yields_uptime_bind notes
  intro now g₁ waited
  have still : g₁.Balanced held := balanced.congr waited.connections fun key => by rw [waited.pool]
  have session (key : Key) : g₁.pool.session? key = g.pool.session? key := by rw [waited.pool]
  rw [yields_step]
  cases found : g₁.connections.get? name with
  | none =>
      refine ⟨rfl, waited.toDid, session, still, ?_⟩
      intro c there
      rw [found] at there
      cases there
  | some c =>
      have leased := still.leased name c found
      cases out : c.lease.released with
      | true =>
          rw [out] at leased
          simp only [Pooled.close_of_released out]
          refine ⟨trivial, ⟨waited.wire, waited.uses⟩, session, ?_, ?_⟩
          · apply still.insert (c := { lease := c.lease }) (by rw [out]; rfl) rfl
            intro key opened
            rw [found, Option.toList_some, Pooled.countP_isOpenOn_of_shut leased,
              Pooled.countP_isOpenOn_of_shut rfl] at opened
            rw [Nat.add_right_cancel opened]
            exact still.counted key
          · intro c' there
            rw [Table.get?_insert, if_pos rfl] at there
            cases there
            rfl
      | false =>
          rw [out] at leased
          simp only [Pooled.close_of_held out]
          refine ⟨trivial, ⟨waited.wire, waited.uses⟩, ?_, ?_, ?_⟩
          · intro key
            rw [Pool.session?_giveBack]
            exact session key
          · apply still.insert (c := { lease := { c.lease with released := true } }) rfl rfl
            intro key opened
            rw [found, Option.toList_some, Pooled.countP_isOpenOn leased,
              Pooled.countP_isOpenOn_of_shut rfl] at opened
            have counted := still.counted key
            rw [Pool.counted_giveBack]
            omega
          · intro c' there
            rw [Table.get?_insert, if_pos rfl] at there
            cases there
            rfl

/-! ### Questions to a host -/

/-- Whether what came of a line on a session says that the session is broken. -/
def breaks : Except TransportError α → Bool
  | .ok _ => false
  | .error e => breaksSession e

/-- A question to a host was served by a session, if the host could be reached; the session was
closed if it was broken. -/
structure Serves (g g' : Hub (Noted σ)) (p : Params) (used? : Option Session) (broken : Bool) :
    Prop where
  did : Did g g' (g.connects p ++
    (used?.toList.map .openChannel ++ if broken then used?.toList.map .disconnect else []))
  cached : ∀ session, g.pool.session? p.key = some session → used? = some session
  session : ∀ key, g'.pool.session? key =
    if key = p.key then (if broken then none else used?) else g.pool.session? key

/-- A question was served, and the leases are balanced as before. Only a question that failed may
have been without a session. -/
structure Answers (g g' : Hub (Noted σ)) (p : Params) (held : List Key)
    (r : Except TransportError α) (broken : Bool) : Prop where
  served : ∃ used?, Serves g g' p used? broken ∧ ∀ a, r = .ok a → used?.isSome = true
  balanced : g'.Balanced held

theorem Unreached.answers {r : Except TransportError α} {broken : Bool}
    (unreached : Unreached g g' p) (failed : ∀ a, r ≠ .ok a) (balanced : g.Balanced held) :
    Answers g g' p held r broken where
  served := by
    refine ⟨none, ⟨?_, ?_, ?_⟩, ?_⟩
    · have did := unreached.did
      simpa using did
    · intro session there
      rw [unreached.absent] at there
      cases there
    · intro key
      rw [unreached.pool]
      split
      · next here =>
          rw [here, unreached.absent, ite_self]
      · rfl
    · intro a fine
      exact absurd fine (failed a)
  balanced := balanced.congr unreached.connections fun key => by rw [unreached.pool]

/-- A channel was opened on the session of a lease that is still held. -/
theorem Acquired.serves (acquired : Acquired g g' p lease)
    (asked : Asked g' g'' [.openChannel lease.client]) :
    Serves g g'' p (some lease.client) false where
  did := acquired.did.trans asked.toDid
  cached := by
    intro session there
    rw [acquired.cached session there]
  session := by
    intro key
    rw [asked.pool]
    split
    · next here =>
        rw [here, ← acquired.takes.key_eq]
        exact acquired.takes.holds.session?
    · next elsewhere =>
        exact acquired.takes.session key elsewhere

theorem Serves.after {used? : Option Session} (serves : Serves g g' p used? false)
    (did : Did g' g'' []) (session : ∀ key, g''.pool.session? key = g'.pool.session? key) :
    Serves g g'' p used? false where
  did := by
    have all := serves.did.trans did
    rw [List.append_nil] at all
    exact all
  cached := serves.cached
  session := by
    intro key
    rw [session, serves.session]

theorem Serves.ended {broken : Bool} (serves : Serves g g' p (some lease.client) false)
    (same : lease.key = p.key) (ended : Ended g' g'' lease broken) :
    Serves g g'' p (some lease.client) broken where
  did := by
    have all := serves.did.trans ended.did
    simpa using all
  cached := serves.cached
  session := by
    intro key
    rw [ended.session, serves.session, same]
    cases broken with
    | false => simp
    | true =>
        by_cases here : key = p.key
        · simp [here]
        · simp [here]

/-- The task is done with its lease. -/
theorem yields_answers (notes : g.wire = w.noting) (balanced : g.Balanced held)
    (acquired : Acquired g g' p lease) (asked : Asked g' g'' [.openChannel lease.client])
    (broken : Bool) {r : Except TransportError α} :
    Task.Yields
      (if broken then do
        invalidate lease
        giveBack lease
        ExceptT.mk (pure r)
      else do
        giveBack lease
        ExceptT.mk (pure r)) g'' fun r' after => r' = r ∧ Answers g after p held r broken := by
  have same := acquired.takes.key_eq
  have holds : g''.pool.Holds lease := asked.pool ▸ acquired.takes.holds
  apply (yields_end (asked.wire.trans (acquired.did.wire.trans notes)) holds broken r).mono
  rintro r' after ⟨fine, ended⟩
  refine ⟨fine, ⟨some lease.client, (acquired.serves asked).ended same ended, fun _ _ => rfl⟩, ?_⟩
  apply ended.balanced
  rw [same]
  exact (acquired.balanced balanced).congr asked.connections fun key => by rw [asked.pool]

theorem yields_run (notes : g.wire = w.noting) (balanced : g.Balanced held) (p : Params)
    (line : String) :
    (run p line).Yields g fun r g' => Answers g g' p held r (breaks r) := by
  apply Task.Yields.bind (yields_acquire notes p)
  · intro lease g₁ acquired
    rw [yields_outcome_bind]
    apply (yields_runOn (acquired.did.wire.trans notes) lease.client line).mono
    intro r g₂ asked
    apply Task.Yields.mono (Q := fun r' after => r' = r ∧ Answers g after p held r (breaks r))
    · cases r with
      | ok printed => exact yields_answers notes balanced acquired asked false
      | error e => exact yields_answers notes balanced acquired asked (breaksSession e)
    · rintro r' after ⟨rfl, answers⟩
      exact answers
  · intro e g' unreached
    exact unreached.answers nofun balanced

/-- A connection that is dialed keeps its lease. -/
theorem yields_dialed (acquired : Acquired g g' p lease) (notes : g'.wire = w.noting)
    (asked : Asked g' g'' [.openChannel lease.client]) (balanced : g.Balanced held)
    (channel : Channel) (name : String) :
    Task.Yields
      (do
        close name
        step fun h => ((), { h with
          connections := h.connections.insert name { lease, stream? := some channel } })) g''
      fun r after => r = .ok () ∧ Answers g after p held r false := by
  have holding : g''.Balanced (p.key :: held) :=
    (acquired.balanced balanced).congr asked.connections fun key => by rw [asked.pool]
  apply Task.Yields.bind (yields_close (asked.wire.trans notes) holding name)
  · rintro _ g₃ ⟨-, closed⟩
    rw [yields_step]
    refine ⟨rfl, ⟨some lease.client, ?_, fun _ _ => rfl⟩, ?_⟩
    · exact (acquired.serves asked).after ⟨closed.did.wire, closed.did.uses⟩ closed.session
    · apply closed.balanced.insert (c := { lease, stream? := some channel })
      · rw [acquired.takes.holds.out]
        rfl
      · rfl
      · intro key opened
        have none_open : (g₃.connections.get? name).toList.countP (Pooled.isOpenOn key) = 0 := by
          cases found : g₃.connections.get? name with
          | none => rfl
          | some c =>
              exact Pooled.countP_isOpenOn_of_shut (by rw [closed.shut c found]; rfl)
        rw [none_open, Pooled.countP_isOpenOn rfl, acquired.takes.key_eq] at opened
        have counted := closed.balanced.counted key
        rw [count_held] at counted
        show g₃.pool.counted key = _
        omega
  · rintro _ g₃ ⟨failed, -⟩
    cases failed

/-- Whether what came of a dialed channel says that the session is broken. -/
def refuses : Except TransportError α → Bool
  | .ok _ => false
  | .error e => e.isSessionFailure

theorem yields_dial (notes : g.wire = w.noting) (balanced : g.Balanced held) (p : Params)
    {network address host : String} {port : Nat} (name : String)
    (supported : networks.contains network = true)
    (split : Address.split? address = some (host, port)) :
    (dial p network address name).Yields g fun r g' => Answers g g' p held r (refuses r) := by
  unfold dial
  simp only [supported, split, if_true]
  apply Task.Yields.bind (yields_acquire notes p)
  · intro lease g₁ acquired
    apply yields_call_bind (acquired.did.wire.trans notes)
    intro opened g₂ asked
    cases opened with
    | ok channel =>
        apply (yields_dialed acquired (acquired.did.wire.trans notes) asked balanced channel
          name).mono
        rintro r after ⟨rfl, answers⟩
        exact answers
    | error e =>
        apply (yields_answers (r := .error (.shell e)) notes balanced acquired asked
          (TransportError.shell e).isSessionFailure).mono
        rintro r' after ⟨rfl, answers⟩
        exact answers
  · intro e g' unreached
    exact unreached.answers nofun balanced

/-- What is made of an answer says no more about the session. -/
theorem yields_made {t : Task (Noted σ) α} {next : α → Task (Noted σ) β}
    (answers : t.Yields g fun r g' => Answers g g' p held r (breaks r))
    (made : ∀ a, ∃ r, next a = ExceptT.mk (pure r) ∧ breaks r = false) :
    Task.Yields (t >>= next) g fun r g' => Answers g g' p held r (breaks r) := by
  apply Task.Yields.bind answers
  · intro a g' answered
    obtain ⟨r, same, fine⟩ := made a
    obtain ⟨used?, serves, reached⟩ := answered.served
    rw [same, yields_mk, fine]
    exact ⟨⟨used?, serves, fun _ _ => reached a rfl⟩, answered.balanced⟩
  · intro e g' answered
    obtain ⟨used?, serves, -⟩ := answered.served
    exact ⟨⟨used?, serves, nofun⟩, answered.balanced⟩

theorem tellsBroken_question (p : Params) (command path : String) (args : List String)
    (r : Except TransportError Unit) :
    (Request.exec p command args).tellsBroken r = breaks r ∧
      (Request.fetch p path).tellsBroken r = breaks r ∧
        (Request.stat p path).tellsBroken r = breaks r := by
  cases r with
  | ok => exact ⟨rfl, rfl, rfl⟩
  | error e => cases e <;> simp [Request.tellsBroken, breaks, breaksSession]

theorem tellsBroken_dial (p : Params) (network address name : String)
    (r : Except TransportError Unit) :
    (Request.dial p network address name).tellsBroken r = refuses r := by
  cases r with
  | ok => rfl
  | error e => rfl

/-- A request that is put to a host. -/
theorem yields_asked (notes : g.wire = w.noting) (balanced : g.Balanced held) {r : Request}
    (asks : r.asks? = some p) :
    (r.task : Task (Noted σ) Unit).Yields g fun out g' =>
      Answers g g' p held out (r.tellsBroken out) := by
  cases r with
  | exec p' command args =>
      cases asks
      apply (yields_made (yields_run notes balanced p _) fun _ => ⟨.ok (), rfl, rfl⟩).mono
      intro out g' answers
      rw [(tellsBroken_question p command "" args out).1]
      exact answers
  | fetch p' path =>
      cases asks
      have fetched : (fetch p path).Yields g fun r g' => Answers g g' p held r (breaks r) :=
        yields_made (yields_run notes balanced p _) fun printed => ⟨.ok printed.output, rfl, rfl⟩
      apply (yields_made fetched fun _ => ⟨.ok (), rfl, rfl⟩).mono
      intro out g' answers
      rw [(tellsBroken_question p "" path [] out).2.1]
      exact answers
  | stat p' path =>
      cases asks
      have looked : (stat p path).Yields g fun r g' => Answers g g' p held r (breaks r) := by
        apply yields_made (yields_run notes balanced p _)
        intro printed
        dsimp only
        split
        · next usage _ => exact ⟨.ok usage, rfl, rfl⟩
        · exact ⟨_, rfl, rfl⟩
      apply (yields_made looked fun _ => ⟨.ok (), rfl, rfl⟩).mono
      intro out g' answers
      rw [(tellsBroken_question p "" path [] out).2.2]
      exact answers
  | dial p' network address name =>
      obtain ⟨⟨supported, split⟩, ⟨⟩⟩ := Option.ite_none_right_eq_some.mp asks
      obtain ⟨⟨host, port⟩, split⟩ := Option.isSome_iff_exists.mp split
      apply (yields_dial notes balanced p name supported split).mono
      intro out g' answers
      rw [tellsBroken_dial]
      exact answers
  | receive name => cases asks
  | send name data => cases asks
  | close name => cases asks
  | drop name => cases asks
  | sweep now => cases asks

end Hub

end Hostwatch.Ssh
