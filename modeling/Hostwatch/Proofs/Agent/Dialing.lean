import Hostwatch.Proofs.Agent.Connections
import Hostwatch.Proofs.Dns.Name
import Hostwatch.Proofs.Registry.Parameters

/-!
# How far a gather gets

Three kinds of agents dial an address that their parameters name. Before they dial they check the
parameters once more, and one of them writes its query. None of that can fail in an agent that was
configured, so whatever the host replies, the address is dialed, and that once.
-/

namespace Hostwatch

/-! ### What a dialogue asks -/

namespace Query

/-- The question asks for a connection. -/
def Dials : Query → Prop
  | .dial .. => True
  | _ => False

/-- The question does not concern the host. -/
def Idles (q : Query) : Prop :=
  q = .random ∨ q = .uptime

end Query

/-- Among the exchanges the address is dialed once, and no other. Before that, nothing is asked of
the host. -/
def DialsOnce (network address : String) (exchanges : List Exchange) : Prop :=
  ∃ before reply after, exchanges = before ++ ⟨.dial network address, reply⟩ :: after ∧
    (∀ e ∈ before, e.query.Idles) ∧ ∀ e ∈ after, ¬ e.query.Dials

namespace Dialogue

variable {α β : Type} {network address : String} {P : Query → Prop}

/-- Whatever is replied, only such questions are asked. -/
def Asks (P : Query → Prop) (d : Dialogue α) : Prop :=
  ∀ ⦃σ : Type⦄ (answer : σ → (q : Query) → q.Reply × σ) (s : σ),
    ∀ e ∈ d.transcript answer s, P e.query

namespace Asks

theorem done (a : α) : Asks P (.done a) :=
  fun _ _ _ => List.forall_mem_nil _

theorem of_receives {d : Dialogue α} (receives : d.Asks fun q => ∃ n, q = .receive n) :
    d.Asks (¬ ·.Dials) := by
  intro σ answer s e member
  obtain ⟨n, received⟩ := receives answer s e member
  rw [received]
  exact id

theorem query_bind {q : Query} {next : q.Reply → Dialogue α} (here : P q)
    (later : ∀ reply, Asks P (next reply)) : Asks P (query q >>= next) :=
  fun _ answer _ => List.forall_mem_cons.mpr ⟨here, later _ answer _⟩

theorem bind {d : Dialogue α} {next : α → Dialogue β} (first : d.Asks P)
    (later : ∀ a, Asks P (next a)) : Asks P (d >>= next) := by
  intro σ answer s
  rw [bind_eq_bind, transcript_bind]
  exact List.forall_mem_append.mpr ⟨first answer s, later _ answer _⟩

end Asks

theorem asks_receiveUpTo (limit : Nat) (got : List Octets) :
    (receiveUpTo limit got).Asks (¬ ·.Dials) :=
  .of_receives fun _ answer s => transcript_receiveUpTo answer s limit got

/-- Whatever is replied, the address is dialed once. -/
def GoesToDial (network address : String) (d : Dialogue α) : Prop :=
  ∀ ⦃σ : Type⦄ (answer : σ → (q : Query) → q.Reply × σ) (s : σ),
    DialsOnce network address (d.transcript answer s)

namespace GoesToDial

theorem dial {next : Except TransportError Unit → Dialogue α}
    (later : ∀ reply, Asks (¬ ·.Dials) (next reply)) :
    GoesToDial network address (query (.dial network address) >>= next) :=
  fun _ answer _ => ⟨[], _, _, rfl, List.forall_mem_nil _, later _ answer _⟩

theorem idle {q : Query} {next : q.Reply → Dialogue α} (idles : q.Idles)
    (later : ∀ reply, GoesToDial network address (next reply)) :
    GoesToDial network address (query q >>= next) := by
  intro σ answer s
  obtain ⟨before, reply, after, whole, idle, silent⟩ := later (answer s q).1 answer (answer s q).2
  refine ⟨⟨q, (answer s q).1⟩ :: before, reply, after, ?_, ?_, silent⟩
  · rw [transcript_query_bind, whole]
    rfl
  · exact List.forall_mem_cons.mpr ⟨idles, idle⟩

theorem random {next : Nat → Dialogue α} (later : ∀ n, GoesToDial network address (next n)) :
    GoesToDial network address (Dialogue.random >>= next) :=
  idle (.inl rfl) later

theorem uptime {next : Nat → Dialogue α} (later : ∀ n, GoesToDial network address (next n)) :
    GoesToDial network address (Dialogue.uptime >>= next) :=
  idle (.inr rfl) later

theorem bind {d : Dialogue α} {next : α → Dialogue β} (first : GoesToDial network address d)
    (later : ∀ a, Asks (¬ ·.Dials) (next a)) : GoesToDial network address (d >>= next) := by
  intro σ answer s
  obtain ⟨before, reply, after, whole, idle, silent⟩ := first answer s
  rw [bind_eq_bind, transcript_bind, whole, List.append_assoc, List.cons_append]
  exact ⟨before, reply, _, rfl, idle,
    List.forall_mem_append.mpr ⟨silent, later _ answer _⟩⟩

end GoesToDial

end Dialogue

open Dialogue

/-! ### Readings -/

theorem Reading.asks_timed {α : Type} (reading : Except Failure α) :
    (Reading.timed reading).Asks (¬ ·.Dials) := by
  cases reading with
  | ok value => exact .query_bind (q := .now) id fun _ => .done _
  | error e => exact .done _

theorem Agent.goesToDial_remember {α : Type} {network address : String}
    {reading : Dialogue (Except Failure (α × Timestamp))} {otherwise : Agent}
    {push : α → Timestamp → Agent} (goes : GoesToDial network address reading) :
    GoesToDial network address (remember reading otherwise push) := by
  refine goes.bind fun result => ?_
  cases result with
  | ok reading => exact .done _
  | error e => exact .done _

namespace Http

theorem goesToDial_get (u : Url) : GoesToDial "tcp" u.address (get u) := by
  refine .dial fun opened => ?_
  cases opened with
  | error e => exact .done _
  | ok =>
      refine .query_bind id fun sent => ?_
      cases sent with
      | error e => exact .done _
      | ok =>
          refine .bind (asks_receiveUpTo _ _) fun answer => ?_
          refine .query_bind id fun _ => ?_
          cases answer with
          | error e => exact .done _
          | ok octets => exact .done _

theorem goesToDial_getOk (u : Url) : GoesToDial "tcp" u.address (getOk u) := by
  refine (goesToDial_get u).bind fun result => ?_
  cases result with
  | error e => exact .done _
  | ok response =>
      dsimp only
      split
      · exact .done _
      · exact .done _

end Http

theorem Nginx.goesToDial_read {p : Params} {url : Url} (named : Url.read p.url = .ok url) :
    GoesToDial "tcp" url.address (read p) := by
  unfold read
  rw [named]
  exact (Http.goesToDial_getOk url).bind fun _ => Reading.asks_timed _

theorem PhpFpm.goesToDial_read {p : Params} {url : Url} (named : Url.read p.url = .ok url) :
    GoesToDial "tcp" url.address (read p) := by
  unfold read
  rw [named]
  exact (Http.goesToDial_getOk url).bind fun _ => Reading.asks_timed _

/-! ### Name servers -/

namespace Resolver

theorem asks_receiveFramed : receiveFramed.Asks (¬ ·.Dials) :=
  .of_receives fun _ => transcript_receiveFramed

theorem asks_exchange (network : String) (query : Octets) :
    (exchange network query).Asks (¬ ·.Dials) := by
  unfold exchange
  split
  · unfold exchangeStream
    split
    · exact .done _
    · refine .query_bind id fun sent => ?_
      cases sent with
      | error e => exact .done _
      | ok => exact asks_receiveFramed
  · refine .query_bind id fun sent => ?_
    cases sent with
    | error e => exact .done _
    | ok => exact .query_bind id fun _ => .done _

/-- What the check of parameters finds out. -/
theorem Params.check_eq_ok_iff {p : Params} {name : Dns.Name} {recordType : Nat} :
    p.check = .ok (name, recordType) ↔
      (p.network = "udp" ∨ p.network = "tcp") ∧ Dns.Name.read? p.query = some name ∧
        Dns.recordType? p.recordType = some recordType := by
  unfold check
  split
  · next other => grind
  · next known =>
      cases Dns.Name.read? p.query with
      | none => simp
      | some name' =>
          cases Dns.recordType? p.recordType with
          | none => simp
          | some recordType' => grind

/-- A query for a name that was read can be written. -/
theorem query?_of_read? {text : String} {name : Dns.Name} (read : Dns.Name.read? text = some name)
    (id recordType : Nat) : Dns.query? id name recordType = some (Dns.query id name recordType) :=
  if_pos (Dns.Name.fits_read? read)

theorem goesToDial_read {p : Params} {name : Dns.Name} {recordType : Nat}
    (checked : p.check = .ok (name, recordType)) :
    GoesToDial p.network p.server (read p) := by
  obtain ⟨-, named, -⟩ := Params.check_eq_ok_iff.mp checked
  unfold read
  rw [checked]
  refine .random fun number => ?_
  rw [query?_of_read? named]
  refine .uptime fun start => ?_
  refine .dial fun opened => ?_
  cases opened with
  | error e => exact .done _
  | ok =>
      refine .bind (asks_exchange _ _) fun response => ?_
      refine .query_bind (q := .uptime) id fun finish => ?_
      refine .query_bind id fun _ => ?_
      cases response with
      | error e => exact .done _
      | ok octets => exact Reading.asks_timed _

end Resolver

/-! ### Agents that were asked before -/

namespace Agent

/-- Whatever is asked of a fresh agent, its parameters stay such as configuring leaves them, and it
stays of its kind. -/
theorem configured_of_fresh {a : Agent} (new : a ∈ fresh) (requests : List Request) :
    (inTurn perform a requests).2.Configured ∧ (inTurn perform a requests).2.name = a.name :=
  configured_inTurn (configured_of_mem_fresh a new) requests

theorem exists_dns {a : Agent} (configured : a.Configured) (kind : a.name = "dns") :
    ∃ p last question, a = .dns p last ∧ p.check = .ok question := by
  cases a with
  | dns p last =>
      obtain ⟨question, checked⟩ := configured
      exact ⟨p, last, question, rfl, checked⟩
  | _ => simp [name] at kind

theorem exists_nginx {a : Agent} (configured : a.Configured) (kind : a.name = "nginx") :
    ∃ p history url, a = .nginx p history ∧ Url.read p.url = .ok url := by
  cases a with
  | nginx p history =>
      obtain ⟨url, named⟩ := configured
      exact ⟨p, history, url, rfl, named⟩
  | _ => simp [name] at kind

theorem exists_phpFpm {a : Agent} (configured : a.Configured) (kind : a.name = "phpfpm") :
    ∃ p history url, a = .phpFpm p history ∧ Url.read p.url = .ok url := by
  cases a with
  | phpFpm p history =>
      obtain ⟨url, named⟩ := configured
      exact ⟨p, history, url, rfl, named⟩
  | _ => simp [name] at kind

end Agent

/-- An agent that dials always gets as far as dialing.

Let a fresh agent be asked anything, with any parameters, be they accepted or refused. All that a
gather then does before it dials succeeds: the parameters that the agent has pass the checks, and a
query for them can be written. So in whatever surroundings, a gather dials exactly once, and that
over the network and to the address that these parameters name. It can only fail from there on. -/
theorem gathers_reach_their_dial :
    (∀ requests, let a := (inTurn Agent.perform (.dns {} none) requests).2
      ∃ p last name recordType, a = .dns p last ∧ p.check = .ok (name, recordType) ∧
        (p.network = "udp" ∨ p.network = "tcp") ∧ Dns.Name.read? p.query = some name ∧
        Dns.recordType? p.recordType = some recordType ∧
        (∀ id, Dns.query? id name recordType = some (Dns.query id name recordType)) ∧
        ∀ w, DialsOnce p.network p.server (a.transcriptIn w)) ∧
    (∀ requests, let a := (inTurn Agent.perform (.nginx {} {}) requests).2
      ∃ p history url, a = .nginx p history ∧ Url.read p.url = .ok url ∧
        ∀ w, DialsOnce "tcp" url.address (a.transcriptIn w)) ∧
    (∀ requests, let a := (inTurn Agent.perform (.phpFpm {} {}) requests).2
      ∃ p history url, a = .phpFpm p history ∧ Url.read p.url = .ok url ∧
        ∀ w, DialsOnce "tcp" url.address (a.transcriptIn w)) := by
  refine ⟨fun requests => ?_, fun requests => ?_, fun requests => ?_⟩
  · have new : Agent.dns {} none ∈ Agent.fresh := by simp [Agent.fresh]
    obtain ⟨configured, kind⟩ := Agent.configured_of_fresh new requests
    obtain ⟨p, last, ⟨name, recordType⟩, same, checked⟩ := Agent.exists_dns configured kind
    obtain ⟨network, named, typed⟩ := Resolver.Params.check_eq_ok_iff.mp checked
    refine ⟨p, last, name, recordType, same, checked, network, named, typed,
      fun id => Resolver.query?_of_read? named id recordType, fun w => ?_⟩
    rw [same]
    exact Agent.goesToDial_remember (Resolver.goesToDial_read checked) w.answer w.start
  · have new : Agent.nginx {} {} ∈ Agent.fresh := by simp [Agent.fresh]
    obtain ⟨configured, kind⟩ := Agent.configured_of_fresh new requests
    obtain ⟨p, history, url, same, named⟩ := Agent.exists_nginx configured kind
    refine ⟨p, history, url, same, named, fun w => ?_⟩
    rw [same]
    exact Agent.goesToDial_remember (Nginx.goesToDial_read named) w.answer w.start
  · have new : Agent.phpFpm {} {} ∈ Agent.fresh := by simp [Agent.fresh]
    obtain ⟨configured, kind⟩ := Agent.configured_of_fresh new requests
    obtain ⟨p, history, url, same, named⟩ := Agent.exists_phpFpm configured kind
    refine ⟨p, history, url, same, named, fun w => ?_⟩
    rw [same]
    exact Agent.goesToDial_remember (PhpFpm.goesToDial_read named) w.answer w.start

end Hostwatch
