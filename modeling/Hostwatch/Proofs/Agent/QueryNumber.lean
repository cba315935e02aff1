import Hostwatch.Agent.Course
import Hostwatch.Proofs.Dns.Number

/-!
# The number of a query does not show

Two gathers of a name server agent may draw different numbers. Let all else that is asked and
answered be the same. If both gathers succeed, they end with the same reading.

The two gathers are followed side by side, one exchange at a time: for as long as what has been
asked and answered is the same but for the number, so is what each gather makes of it.
-/

namespace Hostwatch.Resolver

variable {α β γ δ : Type}

/-! ### Octets without the number -/

theorem blot_append (place passed : Nat) (first second : Octets) :
    blot place passed (first ++ second) =
      blot place passed first ++ blot place (passed + first.length) second := by
  have shifted (i : Nat) : passed + first.length + i = passed + (i + first.length) := by omega
  simp only [blot, List.mapIdx_append, shifted]

@[simp] theorem length_blot (place passed : Nat) (octets : Octets) :
    (blot place passed octets).length = octets.length :=
  List.length_mapIdx

theorem length_eq_of_blot {place passed : Nat} {octets octets' : Octets}
    (same : blot place passed octets = blot place passed octets') :
    octets.length = octets'.length := by
  rw [← length_blot place passed octets, same, length_blot]

/-- Octets that come before the number are all there. -/
theorem blot_before {place passed : Nat} {octets : Octets}
    (before : passed + octets.length ≤ place) : blot place passed octets = octets := by
  apply List.ext_getElem
  · exact length_blot place passed octets
  · intro i inside inside'
    simp only [blot, List.getElem_mapIdx]
    rw [if_neg (by omega)]

/-- Behind the number the octets are all there. -/
theorem drop_eq_of_blot {place : Nat} {octets octets' : Octets}
    (same : blot place place octets = blot place place octets') :
    octets.drop 2 = octets'.drop 2 := by
  have kept (octets : Octets) : (blot place place octets).drop 2 = octets.drop 2 := by
    apply List.ext_getElem
    · rw [List.length_drop, List.length_drop, length_blot]
    · intro i inside inside'
      simp only [blot, List.getElem_drop, List.getElem_mapIdx]
      rw [if_neg (by omega)]
  rw [← kept octets, same, kept]

/-! ### Two dialogues side by side -/

/-- If what is asked and answered in two dialogues is the same but for the number of the query,
their results are related. -/
def Twins (place passed : Nat) (R : α → β → Prop) (d : Dialogue α) (d' : Dialogue β) : Prop :=
  ∀ ⦃σ σ' : Type⦄ (answer : σ → (q : Query) → q.Reply × σ) (s : σ)
    (answer' : σ' → (q : Query) → q.Reply × σ') (s' : σ'),
    blotAll place passed (d.transcript answer s) = blotAll place passed (d'.transcript answer' s') →
    R (d.run answer s).1 (d'.run answer' s').1

variable {place passed : Nat} {R : α → β → Prop}

theorem twins_done {a : α} {b : β} (related : R a b) :
    Twins place passed R (.done a) (.done b) := by
  intro _ _ _ _ _ _ _
  exact related

theorem received_blotOne (place passed : Nat) (e : Exchange) :
    received (blotOne place passed e) = received e := by
  obtain ⟨q, reply⟩ := e
  cases q with
  | receive limit =>
      cases reply with
      | ok octets => exact length_blot place passed octets
      | error e => rfl
  | readFile | exec | stat | dial | send | close | random | now | uptime => rfl

theorem received_eq {e e' : Exchange} (same : blotOne place passed e = blotOne place passed e') :
    received e = received e' := by
  rw [← received_blotOne place passed e, same, received_blotOne]

theorem twins_ask {q q' : Query} {next : q.Reply → Dialogue α} {next' : q'.Reply → Dialogue β}
    (rest : ∀ reply reply', blotOne place passed ⟨q, reply⟩ = blotOne place passed ⟨q', reply'⟩ →
      Twins place (passed + received ⟨q, reply⟩) R (next reply) (next' reply')) :
    Twins place passed R (.ask q next) (.ask q' next') := by
  intro σ σ' answer s answer' s' same
  obtain ⟨first, later⟩ := List.cons.inj same
  rw [← received_eq first] at later
  exact rest _ _ first _ _ _ _ later

/-- A question whose answer has nothing to do with the number. -/
theorem twins_query {q : Query} {next : q.Reply → Dialogue α} {next' : q.Reply → Dialogue β}
    (plain : ∀ reply, blotOne place passed ⟨q, reply⟩ = ⟨q, reply⟩ ∧ received ⟨q, reply⟩ = 0)
    (rest : ∀ reply, Twins place passed R (next reply) (next' reply)) :
    Twins place passed R (Dialogue.query q >>= next) (Dialogue.query q >>= next') := by
  apply twins_ask
  intro reply reply' same
  rw [(plain reply).1, (plain reply').1] at same
  cases same
  rw [(plain reply).2]
  exact rest reply

theorem twins_uptime {next : Nat → Dialogue α} {next' : Nat → Dialogue β}
    (rest : ∀ nanos, Twins place passed R (next nanos) (next' nanos)) :
    Twins place passed R (Dialogue.uptime >>= next) (Dialogue.uptime >>= next') :=
  twins_query (q := .uptime) (fun _ => ⟨rfl, rfl⟩) rest

theorem twins_random {next : Nat → Dialogue α} {next' : Nat → Dialogue β}
    (rest : ∀ n n', Twins place passed R (next n) (next' n')) :
    Twins place passed R (Dialogue.random >>= next) (Dialogue.random >>= next') := by
  apply twins_ask
  intro n n' _
  exact rest n n'

theorem twins_send {data data' : Octets} {next next' : Except IoError Unit → Dialogue α}
    {R : α → α → Prop} (rest : ∀ reply, Twins place passed R (next reply) (next' reply)) :
    Twins place passed R (.ask (.send data) next) (.ask (.send data') next') := by
  apply twins_ask
  intro reply reply' same
  obtain ⟨-, replies⟩ := Exchange.mk.inj same
  cases eq_of_heq replies
  exact rest reply

/-- What two connections yielded is the same but for the number. Before it, as many octets had come
as `passed` says. -/
def Yielded (place passed : Nat) : Except IoError Octets → Except IoError Octets → Prop
  | .ok octets, .ok octets' => blot place passed octets = blot place passed octets'
  | .error e, .error e' => e = e'
  | _, _ => False

section Connection

variable {limit : Nat} {R : α → α → Prop} {next next' : Except IoError Octets → Dialogue α}

theorem twins_receive
    (rest : ∀ reply reply', Yielded place passed reply reply' →
      Twins place (passed + received ⟨.receive limit, reply⟩) R (next reply) (next' reply')) :
    Twins place passed R (.ask (.receive limit) next) (.ask (.receive limit) next') := by
  apply twins_ask
  intro reply reply' same
  apply rest
  cases reply with
  | ok octets =>
      cases reply' with
      | ok octets' =>
          obtain ⟨-, replies⟩ := Exchange.mk.inj same
          exact Except.ok.inj (eq_of_heq replies)
      | error e' =>
          obtain ⟨-, replies⟩ := Exchange.mk.inj same
          cases eq_of_heq replies
  | error e =>
      cases reply' with
      | ok octets' =>
          obtain ⟨-, replies⟩ := Exchange.mk.inj same
          cases eq_of_heq replies
      | error e' =>
          obtain ⟨-, replies⟩ := Exchange.mk.inj same
          exact Except.error.inj (eq_of_heq replies)

/-- Several readings in a row bring what one reading would have brought. -/
theorem twins_receiveUpTo (base : Nat) (got got' : List Octets)
    (same : blot place base got.reverse.flatten = blot place base got'.reverse.flatten)
    (so_far : passed = base + got.reverse.flatten.length)
    (rest : ∀ reply reply' passed, Yielded place base reply reply' →
      (∀ octets, reply = .ok octets → passed = base + octets.length) →
      Twins place passed R (next reply) (next' reply')) :
    Twins place passed R ((Dialogue.receiveUpTo limit got).bind next)
      ((Dialogue.receiveUpTo limit got').bind next') := by
  induction limit using Nat.strongRecOn generalizing got got' passed with
  | ind limit ih =>
      have complete : Twins place passed R (next (.ok got.reverse.flatten))
          (next' (.ok got'.reverse.flatten)) := by
        apply rest (.ok got.reverse.flatten) (.ok got'.reverse.flatten) _ same
        rintro _ ⟨⟩
        exact so_far
      rw [Dialogue.receiveUpTo, Dialogue.receiveUpTo]
      by_cases nothing : limit = 0
      · rw [if_pos nothing, if_pos nothing]
        exact complete
      · rw [if_neg nothing, if_neg nothing]
        apply twins_receive
        intro reply reply' yielded
        match reply, reply', yielded with
        | .error e, .error e', yielded => exact rest (.error e) (.error e') _ yielded nofun
        | .ok [], .ok [], _ => exact complete
        | .ok [], .ok (_ :: _), yielded => cases length_eq_of_blot yielded
        | .ok (_ :: _), .ok [], yielded => cases length_eq_of_blot yielded
        | .ok (b :: more), .ok (b' :: more'), yielded =>
            have lengths : more.length = more'.length :=
              Nat.succ.inj (length_eq_of_blot yielded)
            have joined (got : List Octets) (piece : Octets) :
                (piece :: got).reverse.flatten = got.reverse.flatten ++ piece := by simp
            have total := length_eq_of_blot same
            have same' : blot place base ((b :: more) :: got).reverse.flatten =
                blot place base ((b' :: more') :: got').reverse.flatten := by
              rw [joined, joined, blot_append, blot_append, same, ← total, ← so_far, yielded]
            have so_far' : passed + (more.length + 1) =
                base + ((b :: more) :: got).reverse.flatten.length := by
              rw [joined, List.length_append, List.length_cons]
              omega
            dsimp only
            rw [← lengths]
            by_cases enough : limit ≤ more.length + 1
            · rw [if_pos enough, if_pos enough]
              apply rest (.ok _) (.ok _) _ same'
              rintro _ ⟨⟩
              exact so_far'
            · rw [if_neg enough, if_neg enough]
              exact ih (limit - (more.length + 1)) (by omega) _ _ same' so_far'

theorem twins_receiveExactly {count : Nat}
    (rest : ∀ reply reply' passed', Yielded place passed reply reply' →
      (∀ octets, reply = .ok octets → octets.length = count ∧ passed' = passed + count) →
      Twins place passed' R (next reply) (next' reply')) :
    Twins place passed R
      ((receiveExactly count).bind next) ((receiveExactly count).bind next') := by
  show Twins place passed R ((Dialogue.bind (Dialogue.receiveUpTo count []) _).bind next)
    ((Dialogue.bind (Dialogue.receiveUpTo count []) _).bind next')
  rw [Dialogue.bind_assoc, Dialogue.bind_assoc]
  refine twins_receiveUpTo passed [] [] rfl rfl ?_
  intro reply reply' passed' yielded after
  match reply, reply', yielded with
  | .error e, .error e', yielded => exact rest (.error e) (.error e') _ yielded nofun
  | .ok octets, .ok octets', yielded =>
      have lengths := length_eq_of_blot yielded
      dsimp only
      rw [← lengths]
      by_cases enough : (octets.length == count) = true
      · rw [if_pos enough, if_pos enough]
        apply rest (.ok octets) (.ok octets') _ yielded
        rintro _ ⟨⟩
        have all := beq_iff_eq.mp enough
        rw [after octets rfl, all]
        exact ⟨rfl, rfl⟩
      · rw [if_neg enough, if_neg enough]
        exact rest (.error shortRead) (.error shortRead) _ rfl nofun

end Connection

/-! ### A query and its response -/

section Exchange

variable {R : α → α → Prop} {next next' : Except Failure Octets → Dialogue α}

/-- Two responses are the same but for their number. -/
def Responded (response response' : Except Failure Octets) : Prop :=
  ∀ octets octets', response = .ok octets → response' = .ok octets' →
    octets.length = octets'.length ∧ octets.drop 2 = octets'.drop 2

theorem twins_exchangeDatagram {query query' : Octets}
    (rest : ∀ response response' passed, Responded response response' →
      Twins 0 passed R (next response) (next' response')) :
    Twins 0 0 R (exchangeDatagram query >>= next) (exchangeDatagram query' >>= next') := by
  apply twins_send
  intro sent
  cases sent with
  | error e => exact rest _ _ _ nofun
  | ok =>
      apply twins_receive
      intro reply reply' yielded
      apply rest
      match reply, reply', yielded with
      | .error e, .error e', _ => exact nofun
      | .ok octets, .ok octets', yielded =>
          rintro _ _ ⟨⟩ ⟨⟩
          exact ⟨length_eq_of_blot yielded, drop_eq_of_blot yielded⟩

theorem twins_exchangeStream {query query' : Octets} (lengths : query.length = query'.length)
    (rest : ∀ response response' passed, Responded response response' →
      Twins 2 passed R (next response) (next' response')) :
    Twins 2 0 R (exchangeStream query >>= next) (exchangeStream query' >>= next') := by
  unfold exchangeStream receiveFramed
  rw [← lengths]
  by_cases large : query.length ≥ Word.count16
  · rw [if_pos large, if_pos large]
    exact rest _ _ _ nofun
  · rw [if_neg large, if_neg large]
    apply twins_send
    intro sent
    cases sent with
    | error e => exact rest _ _ _ nofun
    | ok =>
        show Twins 2 0 R ((Dialogue.bind (receiveExactly 2) _).bind next)
          ((Dialogue.bind (receiveExactly 2) _).bind next')
        rw [Dialogue.bind_assoc, Dialogue.bind_assoc]
        apply twins_receiveExactly
        intro reply reply' passed yielded after
        match reply, reply', yielded with
        | .error e, .error e', yielded =>
            cases yielded
            exact rest _ _ _ nofun
        | .ok octets, .ok octets', yielded =>
            obtain ⟨two, rfl⟩ := after octets rfl
            have two' : octets'.length = 2 := (length_eq_of_blot yielded).symm.trans two
            -- The length of the message comes before the number, so it is the same.
            have same : octets = octets' := by
              have kept (start : Octets) (two : start.length = 2) : blot 2 0 start = start :=
                blot_before (by omega)
              rw [← kept octets two, yielded, kept octets' two']
            subst same
            match octets, two with
            | [high, low], _ =>
                show Twins 2 2 R ((Dialogue.bind (receiveExactly _) _).bind next)
                  ((Dialogue.bind (receiveExactly _) _).bind next')
                rw [Dialogue.bind_assoc, Dialogue.bind_assoc]
                apply twins_receiveExactly
                intro reply reply' passed yielded _
                apply rest
                match reply, reply', yielded with
                | .error e, .error e', _ => exact nofun
                | .ok octets, .ok octets', yielded =>
                    rintro _ _ ⟨⟩ ⟨⟩
                    exact ⟨length_eq_of_blot yielded, drop_eq_of_blot yielded⟩

end Exchange

/-! ### A whole gather -/

theorem length_query (id id' : Nat) (name : Dns.Name) (recordType : Nat) :
    (Dns.query id name recordType).length = (Dns.query id' name recordType).length := by
  simp [Dns.query, Dns.encodeWord]

/-- Two gathers that succeed end with the same reading. -/
def SameReading {β : Type} (r r' : Except Failure β) : Prop :=
  ∀ reading reading', r = .ok reading → r' = .ok reading' → reading = reading'

theorem twins_error_left {β : Type} (e : Failure) (d : Dialogue (Except Failure β)) :
    Twins place passed SameReading (.done (.error e)) d := by
  intro _ _ _ _ _ _ _
  exact nofun

theorem twins_error_right {β : Type} (d : Dialogue (Except Failure β)) (e : Failure) :
    Twins place passed SameReading d (.done (.error e)) := by
  intro _ _ _ _ _ _ _ _ _ _
  exact nofun

theorem eq_of_ofOctets {id : Nat} {millis : Float} {octets : Octets} {a : Answer}
    (read : Answer.ofOctets id millis octets = .ok a) :
    ∃ s, Dns.Summary.read? octets = some s ∧ a = ⟨millis, s.answers, s.code⟩ := by
  unfold Answer.ofOctets at read
  split at read
  · cases read
  · next s found =>
      split at read
      · cases read
        exact ⟨s, found, rfl⟩
      · cases read

theorem answers_eq {id id' : Nat} {millis : Float} {octets octets' : Octets} {a a' : Answer}
    (length : octets.length = octets'.length) (body : octets.drop 2 = octets'.drop 2)
    (read : Answer.ofOctets id millis octets = .ok a)
    (read' : Answer.ofOctets id' millis octets' = .ok a') : a = a' := by
  obtain ⟨s, found, rfl⟩ := eq_of_ofOctets read
  obtain ⟨s', found', rfl⟩ := eq_of_ofOctets read'
  obtain ⟨answers, code⟩ := Dns.summary_alike length body found found'
  rw [answers, code]

/-- What follows when the response is there. -/
theorem twins_finish {id id' start : Nat} {response response' : Except Failure Octets}
    (responded : Responded response response') :
    Twins place passed SameReading
      (do
        let finish ← Dialogue.uptime
        let _ ← Dialogue.query .close
        match response with
        | .error e => return .error e
        | .ok octets => Reading.timed (Answer.ofOctets id (millisOfNanos (finish - start)) octets))
      (do
        let finish ← Dialogue.uptime
        let _ ← Dialogue.query .close
        match response' with
        | .error e => return .error e
        | .ok octets =>
          Reading.timed (Answer.ofOctets id' (millisOfNanos (finish - start)) octets)) := by
  apply twins_uptime
  intro finish
  refine twins_query (fun _ => ⟨rfl, rfl⟩) ?_
  intro closed
  cases response with
  | error e => exact twins_error_left e _
  | ok octets =>
      cases response' with
      | error e => exact twins_error_right _ e
      | ok octets' =>
          obtain ⟨length, body⟩ := responded octets octets' rfl rfl
          dsimp only
          cases read : Answer.ofOctets id (millisOfNanos (finish - start)) octets with
          | error e => exact twins_error_left e _
          | ok a =>
              cases read' : Answer.ofOctets id' (millisOfNanos (finish - start)) octets' with
              | error e => exact twins_error_right _ e
              | ok a' =>
                  cases answers_eq length body read read'
                  refine twins_query (q := .now) (fun _ => ⟨rfl, rfl⟩) ?_
                  intro time
                  apply twins_done
                  rintro _ _ ⟨⟩ ⟨⟩
                  rfl

theorem twins_read (p : Params) :
    Twins (if p.network == "tcp" then 2 else 0) 0 SameReading (read p) (read p) := by
  unfold read
  cases p.check with
  | error e => exact twins_done nofun
  | ok asked =>
      obtain ⟨name, recordType⟩ := asked
      apply twins_random
      intro id id'
      unfold Dns.query?
      by_cases fits : name.fits = true
      · rw [if_pos fits, if_pos fits]
        dsimp only
        apply twins_uptime
        intro start
        refine twins_query (fun _ => ⟨rfl, rfl⟩) ?_
        intro dialed
        cases dialed with
        | error e => exact twins_done nofun
        | ok =>
            dsimp only
            unfold exchange
            split
            · refine twins_exchangeStream (length_query id id' name recordType) ?_
              intro response response' passed responded
              exact twins_finish responded
            · refine twins_exchangeDatagram ?_
              intro response response' passed responded
              exact twins_finish responded
      · rw [if_neg fits, if_neg fits]
        exact twins_done nofun

end Hostwatch.Resolver
