import Hostwatch.Agent.Request
import Hostwatch.Proofs.Store.RoundTrip
import Hostwatch.Proofs.Transport.Parameters
import Hostwatch.Transport.Request

/-!
# Parameters that are applied and stored

An agent or a transport keeps its parameters as a JSON value, from which a registry makes it again.
In between it may have been asked anything: what it says its parameters are is always something that
its kind accepts. Parameters that it refuses leave no trace in what it answers later.
-/

namespace Hostwatch

/-! ### Agents -/

namespace Agent

/-- Whatever is asked of an agent, its parameters stay such as configuring leaves them. -/
theorem configured_perform {a : Agent} (r : Request) (configured : a.Configured) :
    (a.perform r).2.Configured ∧ (a.perform r).2.name = a.name := by
  cases r with
  | configure j =>
      simp only [perform]
      cases accepted : a.configure j with
      | ok b => exact configured_of_configure accepted
      | error e => exact ⟨configured, rfl⟩
  | gather w =>
      have blank := a.gatherIn_latest_zero w
      constructor
      · rw [← configured_latest _ 0] at configured ⊢
        exact blank ▸ configured
      · show (a.gatherIn w).2.name = a.name
        rw [← name_latest _ 0, blank, name_latest]
  | params | points => exact ⟨configured, rfl⟩

theorem configured_inTurn {a : Agent} (configured : a.Configured) (requests : List Request) :
    (inTurn perform a requests).2.Configured ∧ (inTurn perform a requests).2.name = a.name := by
  refine inTurn.induction (P := fun b => b.Configured ∧ b.name = a.name) perform a ?_
    ⟨configured, rfl⟩ requests
  intro b r before
  obtain ⟨after, same⟩ := configured_perform r before.1
  exact ⟨after, same.trans before.2⟩

/-- Refused parameters might as well not have been given. -/
theorem inTurn_of_refused {a : Agent} {before : List Request} {j : Json} {e : Failure}
    (refused : (inTurn perform a before).2.configure j = .error e) (after : List Request) :
    inTurn perform a (before ++ .configure j :: after) =
      ((inTurn perform a (before ++ after)).1.insertIdx before.length (.configured (.error e)),
        (inTurn perform a (before ++ after)).2) := by
  have reply : perform (inTurn perform a before).2 (.configure j) =
      (.configured (.error e), (inTurn perform a before).2) := by
    simp only [perform, refused]
  rw [inTurn.insert_idle perform a before after (congrArg Prod.snd reply), reply]

/-- An agent takes what any other of its kind takes, and then has the same parameters. -/
theorem params_configure {a b : Agent} (same : a.name = b.name) (j : Json) :
    (a.configure j).map params = (b.configure j).map params := by
  have blind (c : Agent) : (c.configure j).map params = ((c.latest 0).configure j).map params := by
    rw [configure_latest]
    cases c.configure j with
    | error e => rfl
    | ok d => exact congrArg Except.ok (d.params_latest 0).symm
  rw [blind a, blind b, configure_of_name_eq same]

/-- The default parameters of an agent are among those that it takes. -/
theorem configured_of_mem_fresh : ∀ a ∈ fresh, a.Configured := by
  simp only [fresh, List.forall_mem_cons]
  have nginx : ∃ url, Url.read ({} : Nginx.Params).url = .ok url := ⟨_, by with_unfolding_all rfl⟩
  have phpFpm : ∃ url, Url.read ({} : PhpFpm.Params).url = .ok url :=
    ⟨_, by with_unfolding_all rfl⟩
  exact ⟨trivial, trivial, trivial, ⟨_, rfl⟩, trivial, trivial, nofun, trivial, nginx, phpFpm,
    ⟨by decide, by decide⟩, trivial, trivial, nofun⟩

end Agent

/-! ### Transports -/

namespace Transport

variable {σ : Type}

theorem configured_perform {s : Transport × Reach σ} (r : Request) (configured : s.1.Configured) :
    (perform s r).2.1.Configured ∧ (perform s r).2.1.name = s.1.name := by
  cases r with
  | configure j =>
      simp only [perform]
      cases accepted : s.1.configure j with
      | ok t => exact configured_of_configure accepted
      | error e => exact ⟨configured, rfl⟩
  | params | exec | fetch | stat | dial => exact ⟨configured, rfl⟩

theorem configured_inTurn {s : Transport × Reach σ} (configured : s.1.Configured)
    (requests : List Request) :
    (inTurn perform s requests).2.1.Configured ∧
      (inTurn perform s requests).2.1.name = s.1.name := by
  refine inTurn.induction (P := fun t => t.1.Configured ∧ t.1.name = s.1.name) perform s ?_
    ⟨configured, rfl⟩ requests
  intro t r before
  obtain ⟨after, same⟩ := configured_perform r before.1
  exact ⟨after, same.trans before.2⟩

/-- Refused parameters might as well not have been given. -/
theorem inTurn_of_refused {s : Transport × Reach σ} {before : List Request} {j : Json}
    {e : TransportError} (refused : (inTurn perform s before).2.1.configure j = .error e)
    (after : List Request) :
    inTurn perform s (before ++ .configure j :: after) =
      ((inTurn perform s (before ++ after)).1.insertIdx before.length (.configured (.error e)),
        (inTurn perform s (before ++ after)).2) := by
  have reply : perform (inTurn perform s before).2 (.configure j) =
      (.configured (.error e), (inTurn perform s before).2) := by
    simp only [perform, refused]
  rw [inTurn.insert_idle perform s before after (congrArg Prod.snd reply), reply]

/-- A transport takes what any other of its kind takes, and then is the same. -/
theorem configure_of_name_eq {t u : Transport} (same : t.name = u.name) (j : Json) :
    t.configure j = u.configure j := by
  cases t with
  | thisMachine =>
      cases u with
      | thisMachine => rfl
      | shell q => exact absurd same (by simp [name])
  | shell p =>
      cases u with
      | thisMachine => exact absurd same (by simp [name])
      | shell q => rfl

end Transport

/-! ### The registry -/

namespace Registry

variable {registry : Registry} {name : String} {v : Json} {a : Agent} {t : Transport}

theorem decodeTransport_eq_ok_iff :
    registry.decodeTransport name v = .ok t ↔
      ∃ fresh, registry.transports.get? name = some fresh ∧ fresh.configure v = .ok t := by
  unfold decodeTransport transport
  cases registry.transports.get? name with
  | none => simp [bind, Except.bind]
  | some fresh => simp [bind, Except.bind, mapError_eq_ok_iff]

/-- An agent that a registry made is made again from its parameters, whatever it was asked. -/
theorem decodeAgent_params (made : registry.decodeAgent name v = .ok a)
    (requests : List Agent.Request) :
    ∃ b, registry.decodeAgent name (inTurn Agent.perform a requests).2.params = .ok b ∧
      b.params = (inTurn Agent.perform a requests).2.params := by
  obtain ⟨fresh, found, accepted⟩ := decodeAgent_eq_ok_iff.mp made
  obtain ⟨configured, kind⟩ := Agent.configured_of_configure accepted
  obtain ⟨later, same⟩ := Agent.configured_inTurn configured requests
  obtain ⟨b, again, alike⟩ := Agent.exists_configure_params later (kind.symm.trans same.symm)
  refine ⟨b, decodeAgent_eq_ok_iff.mpr ⟨fresh, found, again⟩, ?_⟩
  rw [← b.params_latest 0, alike, Agent.params_latest]

/-- A transport that a registry made is made again from its parameters, whatever it was asked. -/
theorem decodeTransport_params {σ : Type} {r : Transport.Reach σ}
    (made : registry.decodeTransport name v = .ok t) (requests : List Transport.Request) :
    registry.decodeTransport name (inTurn Transport.perform (t, r) requests).2.1.params =
      .ok (inTurn Transport.perform (t, r) requests).2.1 := by
  obtain ⟨fresh, found, accepted⟩ := decodeTransport_eq_ok_iff.mp made
  obtain ⟨configured, kind⟩ := Transport.configured_of_configure accepted
  obtain ⟨later, same⟩ := Transport.configured_inTurn (s := (t, r)) configured requests
  exact decodeTransport_eq_ok_iff.mpr
    ⟨fresh, found, Transport.configure_params later (kind.symm.trans same.symm)⟩

theorem agent_eq_ok_iff : registry.agent name = .ok a ↔ registry.agents.get? name = some a := by
  unfold agent
  cases registry.agents.get? name <;> simp

theorem transport_eq_ok_iff :
    registry.transport name = .ok t ↔ registry.transports.get? name = some t := by
  unfold transport
  cases registry.transports.get? name <;> simp

/-- A fresh agent of the registry of everything takes its default parameters. -/
theorem decodeAgent_default (there : defaults.agent name = .ok a) :
    ∃ b, defaults.decodeAgent name a.params = .ok b ∧ b.params = a.params := by
  have found := agent_eq_ok_iff.mp there
  obtain ⟨_, fresh, same⟩ :=
    List.mem_map.mp ((Table.mem_ofList (by decide)).mp (Table.mem_of_get? found))
  cases same
  have configured := Agent.configured_of_mem_fresh a fresh
  obtain ⟨b, accepted, alike⟩ := Agent.exists_configure_params (b := a) configured rfl
  refine ⟨b, decodeAgent_eq_ok_iff.mpr ⟨a, found, accepted⟩, ?_⟩
  rw [← b.params_latest 0, alike, Agent.params_latest]

theorem decodeTransport_default (there : defaults.transport name = .ok t) :
    defaults.decodeTransport name t.params = .ok t := by
  have found := transport_eq_ok_iff.mp there
  obtain ⟨_, fresh, same⟩ :=
    List.mem_map.mp ((Table.mem_ofList (by decide)).mp (Table.mem_of_get? found))
  cases same
  have configured := Transport.configured_of_mem_fresh t fresh
  exact decodeTransport_eq_ok_iff.mpr ⟨t, found, Transport.configure_params configured rfl⟩

end Registry

/-- The record of a host is that of one host only, if its transport was made by a registry. -/
theorem Host.ofRecord_toRecord {registry : Registry} {name : String} {v : Json}
    {h : Host Transport} (made : registry.decodeTransport name v = .ok h.transport) :
    Host.ofRecord Registry.defaults h.toRecord = .ok h := by
  obtain ⟨fresh, -, accepted⟩ := Registry.decodeTransport_eq_ok_iff.mp made
  have configured := (Transport.configured_of_configure accepted).1
  have again : Registry.defaults.decodeTransport h.transport.name h.transport.params =
      .ok h.transport := by
    cases kind : h.transport with
    | thisMachine => rfl
    | shell p =>
        rw [kind] at configured
        exact Registry.decodeTransport_eq_ok_iff.mpr
          ⟨.shell {}, rfl, Transport.configure_params configured rfl⟩
  show (Registry.defaults.decodeTransport h.transport.name h.transport.params >>= fun t => _) = _
  rw [again]
  rfl

open Registry (defaults) in
/-- Parameters are applied as a whole or not at all, and stored so that they can be applied again.

What a registry made under a name, be it fresh or with accepted parameters, it makes again under the
name from the parameters that the instance says it has, whatever the instance was asked meanwhile;
so a host is made again from its record. Parameters that an instance refuses change none of its
later answers, and those that it accepts are the ones that any instance of its kind accepts and then
has. -/
theorem parameters_round_trip :
    (∀ (registry : Registry) name v a, registry.decodeAgent name v = .ok a → ∀ requests,
      let later := (inTurn Agent.perform a requests).2
      ∃ b, registry.decodeAgent name later.params = .ok b ∧ b.params = later.params) ∧
    (∀ (registry : Registry) name v t, registry.decodeTransport name v = .ok t →
      ∀ {σ : Type} (r : Transport.Reach σ) requests,
        let later := (inTurn Transport.perform (t, r) requests).2.1
        registry.decodeTransport name later.params = .ok later) ∧
    (∀ name a, defaults.agent name = .ok a →
      ∃ b, defaults.decodeAgent name a.params = .ok b ∧ b.params = a.params) ∧
    (∀ name t, defaults.transport name = .ok t → defaults.decodeTransport name t.params = .ok t) ∧
    (∀ (registry : Registry) name v (h : Host Transport),
      registry.decodeTransport name v = .ok h.transport →
      Host.ofRecord defaults h.toRecord = .ok h) ∧
    (∀ (a : Agent) before j e, (inTurn Agent.perform a before).2.configure j = .error e →
      ∀ after, inTurn Agent.perform a (before ++ .configure j :: after) =
        let without := inTurn Agent.perform a (before ++ after)
        (without.1.insertIdx before.length (.configured (.error e)), without.2)) ∧
    (∀ {σ : Type} (s : Transport × Transport.Reach σ) before j e,
      (inTurn Transport.perform s before).2.1.configure j = .error e →
      ∀ after, inTurn Transport.perform s (before ++ .configure j :: after) =
        let without := inTurn Transport.perform s (before ++ after)
        (without.1.insertIdx before.length (.configured (.error e)), without.2)) ∧
    (∀ (a b : Agent) j, a.name = b.name →
      (a.configure j).map Agent.params = (b.configure j).map Agent.params) ∧
    (∀ (t u : Transport) j, t.name = u.name → t.configure j = u.configure j) := by
  refine ⟨?_, ?_, ?_, ?_, ?_, ?_, ?_, ?_, ?_⟩
  · exact fun registry name v a made => Registry.decodeAgent_params made
  · exact fun registry name v t made σ r => Registry.decodeTransport_params made
  · exact fun name a there => Registry.decodeAgent_default there
  · exact fun name t there => Registry.decodeTransport_default there
  · exact fun registry name v h made => Host.ofRecord_toRecord made
  · exact fun a before j e refused => Agent.inTurn_of_refused refused
  · exact fun s before j e refused => Transport.inTurn_of_refused refused
  · exact fun a b j same => Agent.params_configure same j
  · exact fun t u j same => Transport.configure_of_name_eq same j

/-- A ping with parameters. -/
def pingWeb : Agent := .ping { target := "web", count := 5 } none

/-- A host behind a secure shell, with a port of its own. -/
def shellHost : Host Transport :=
  { id := "h1", account := "a", name := "web"
    transport := .shell { host := "web", port := 2222, username := "monitor" } }

open Registry (defaults) in
/-- A ping that is given no target goes on with the one that it has, and a secure shell with a
negative port stays where it was. Both are made again from what they say of themselves. -/
theorem ping_and_shell_round_trip :
    let untargeted : Json := .obj [("count", .int 1)]
    let negative : Json := .obj [("host", .str "db"), ("port", .int (-1))]
    let far := shellHost.transport
    (∃ b, defaults.decodeAgent "ping" pingWeb.params = .ok b ∧ b.params = pingWeb.params) ∧
    (∃ b, defaults.decodeAgent "load" (.obj []) = .ok b ∧ b.params = .obj []) ∧
    inTurn Agent.perform pingWeb [.configure untargeted, .params] =
      ([.configured (.error (.params (.missingField "target"))), .params pingWeb.params],
        pingWeb) ∧
    ((Agent.ping { target := "127.0.0.1" } none).configure pingWeb.params).map Agent.params =
      (pingWeb.configure pingWeb.params).map Agent.params ∧
    (∀ r : Transport.Reach Unit,
      inTurn Transport.perform (far, r) [.configure negative, .params] =
        ([.configured (.error (.invalidParams (.invalidValue "integer \x60-1\x60" "u16"))),
          .params far.params], (far, r)) ∧
      defaults.decodeTransport "ssh" (inTurn Transport.perform (far, r) []).2.1.params = .ok far) ∧
    defaults.decodeTransport "local" Transport.thisMachine.params = .ok .thisMachine ∧
    Host.ofRecord defaults shellHost.toRecord = .ok shellHost ∧
    (Transport.shell {}).configure far.params = far.configure far.params := by
  intro untargeted negative far
  obtain ⟨agents, transports, fresh, blank, hosts, refused, denied, alike, equal⟩ :=
    parameters_round_trip
  have made : defaults.decodeAgent "ping" (.obj [("count", .int 5), ("target", .str "web")]) =
      .ok pingWeb := rfl
  have reached : defaults.decodeTransport "ssh"
      (.obj [("host", .str "web"), ("port", .int 2222), ("username", .str "monitor")]) =
      .ok far := rfl
  refine ⟨agents _ _ _ _ made [], fresh "load" (.load none) rfl, ?_, alike _ _ _ rfl, ?_,
    blank "local" .thisMachine rfl, hosts _ _ _ shellHost reached, equal _ _ _ rfl⟩
  · exact refused pingWeb [] untargeted _ rfl [.params]
  · intro r
    exact ⟨denied (far, r) [] negative _ rfl [.params], transports _ _ _ _ reached r []⟩

end Hostwatch
