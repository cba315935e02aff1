import Hostwatch.Proofs.Store.Operations
import Hostwatch.Server.Seed
import Mathlib.Data.List.Induction

/-!
# What seeding does

Seeding goes through the hosts and then the probes of a configuration, and stops at the first one
that cannot be had. `HostStep` and `ProbeStep` say all that a seed can come to in its turn. From
them follows what has become of the store when a list of seeds is through or has come to a stop: it
has what it had before, and one host for each seed whose identifier was free, and one probe for each
seed.
-/

namespace Hostwatch

namespace Store

variable {α τ : Type} {s t : Store α τ}

/-! ### Adding as the system -/

theorem addHost_of_free [Plugin τ] {h : Host τ} (free : s.host? h.id = none) :
    s.addHost .system h = .ok (s.putHost .added h) :=
  addHost_eq_ok_iff.mpr ⟨rfl, free, rfl⟩

theorem addHost_of_taken [Plugin τ] {h other : Host τ} (taken : s.host? h.id = some other) :
    s.addHost .system h = .error (.alreadyExists .host h.id) := by
  simp only [addHost, checkAccess, Actor.canAccess, taken, Option.isSome_some, if_true]
  rfl

theorem addProbe_of_free [Plugin α] {p : Probe α} {h : Host τ} (bound : s.host? p.hostId = some h)
    (free : s.probe? p.id = none) : s.addProbe .system p = .ok (s.putProbe .added p) :=
  addProbe_eq_ok_iff.mpr ⟨rfl, ⟨h, bound, rfl⟩, free, rfl⟩

theorem addProbe_of_taken [Plugin α] {p other : Probe α} {h : Host τ}
    (bound : s.host? p.hostId = some h) (taken : s.probe? p.id = some other) :
    s.addProbe .system p = .error (.alreadyExists .probe p.id) := by
  have host : s.getHost .system p.hostId = .ok h := getHost_eq_ok_iff.mpr ⟨bound, rfl⟩
  simp only [addProbe, checkAccess, Actor.canAccess, host, taken, Option.isSome_some, if_true]
  rfl

/-! ### Hosts by name -/

/-- What a name stands for: the host with that identifier, or else, of the hosts of that name, the
one with the least identifier. -/
def Resolves (s : Store α τ) (name id : String) : Prop :=
  if (s.host? name).isSome then id = name
  else (∃ h, s.host? id = some h ∧ h.name = name) ∧
    ∀ other h, s.host? other = some h → h.name = name → id ≤ other

theorem resolves_congr (same : t.hosts = s.hosts) (name id : String) :
    t.Resolves name id ↔ s.Resolves name id := by
  unfold Resolves host?
  rw [same]

theorem listHosts_system (s : Store α τ) : s.listHosts .system .all = s.hosts.values :=
  List.filter_eq_self.mpr fun _ _ => rfl

theorem listHosts_congr (same : t.hosts = s.hosts) :
    t.listHosts .system .all = s.listHosts .system .all := by
  rw [listHosts_system, listHosts_system, same]

end Store

namespace Seeding

open Store

/-- Names are looked up as they are meant. -/
theorem resolves_of_hostOf? {s : Store AgentRef Transport} {name : String} {h : Host Transport}
    (named : hostOf? (s.listHosts .system .all) name = some h) :
    s.host? h.id = some h ∧ s.Resolves name h.id := by
  rw [hostOf?, listHosts_system, s.hosts_filed.find?_values] at named
  unfold Resolves
  change (s.host? name).or _ = _ at named
  cases found : s.host? name with
  | some _ =>
      rw [found] at named
      cases named
      have same : h.id = name := id_of_host? found
      rw [same]
      refine ⟨found, ?_⟩
      rw [if_pos Option.isSome_some]
  | none =>
      rw [found, Option.none_or] at named
      have stored : s.host? h.id = some h :=
        s.hosts_filed.get?_of_mem_values (List.mem_of_find?_eq_some named)
      refine ⟨stored, ?_⟩
      rw [if_neg (by simp)]
      refine ⟨⟨h, stored, by simpa using List.find?_some named⟩, fun id other here same => ?_⟩
      exact s.hosts_filed.least_of_find? named here (by simpa using same)

theorem hostOf?_eq_none_iff {s : Store AgentRef Transport} {name : String} :
    hostOf? (s.listHosts .system .all) name = none ↔ ∀ id, ¬ s.Resolves name id := by
  constructor
  · intro unknown id resolves
    rw [hostOf?, listHosts_system, s.hosts_filed.find?_values, Option.or_eq_none_iff] at unknown
    obtain ⟨absent, nameless⟩ := unknown
    change s.host? name = none at absent
    rw [Resolves, absent, if_neg (by simp)] at resolves
    obtain ⟨⟨h, stored, same⟩, -⟩ := resolves
    have member : h ∈ s.hosts.values := List.mem_map_of_mem (Table.mem_of_get? stored)
    exact List.find?_eq_none.mp nameless h member (beq_iff_eq.mpr same)
  · intro unknown
    cases named : hostOf? (s.listHosts .system .all) name with
    | none => rfl
    | some h => exact absurd (resolves_of_hostOf? named).2 (unknown h.id)

end Seeding

/-! ### Running steps -/

/-- The identifier of a host, given or else drawn from the source, and the source after it. -/
def IdSource.named (ids : IdSource) : Option String → String × IdSource
  | some id => (id, ids)
  | none => ids.nextText

namespace Seeding

variable {β γ : Type}

theorem run_bind (x : Step β) (f : β → Step γ) (s : Seeding) :
    (x >>= f).run.run s =
      match x.run.run s with
      | (.ok b, t) => (f b).run.run t
      | (.error e, t) => (.error e, t) := by
  change (x.run >>= ExceptT.bindCont f).run s = _
  rw [StateT.run_bind]
  rcases x.run.run s with ⟨_ | b, t⟩
  · rfl
  · rfl

theorem run_get (s : Seeding) : (get : Step Seeding).run.run s = (.ok s, s) := rfl

theorem run_set (s t : Seeding) : (set t : Step PUnit).run.run s = (.ok ⟨⟩, t) := rfl

theorem run_orFail_ok {ε : Type} (f : ε → StartFailure) (b : β) (s : Seeding) :
    (orFail f (.ok b)).run.run s = (.ok b, s) := rfl

theorem run_identifier (given : Option String) (s : Seeding) :
    (identifier given).run.run s =
      (.ok (s.ids.named given).1, { s with ids := (s.ids.named given).2 }) := by
  cases given with
  | none => rfl
  | some id => rfl

theorem run_forM_append (f : β → Step PUnit) (items more : List β) (s : Seeding) :
    ((items ++ more).forM f).run.run s =
      match (items.forM f).run.run s with
      | (.ok _, m) => (more.forM f).run.run m
      | (.error e, m) => (.error e, m) := by
  rw [List.forM_eq_forM, List.forM_append, run_bind]
  rcases (forM items f).run.run s with ⟨_ | _, m⟩
  · rfl
  · rfl

/-- What holds before a list of steps and is kept by each one that succeeds holds when all of them
have, or else when the first of them fails. -/
theorem forM_ends {f : β → Step PUnit} {P : List β → Seeding → Prop} {s : Seeding} (start : P [] s)
    (keeps : ∀ past item m t, P past m → (f item).run.run m = (.ok ⟨⟩, t) → P (past ++ [item]) t)
    (items : List β) :
    (∃ t, (items.forM f).run.run s = (.ok ⟨⟩, t) ∧ P items t) ∨
    ∃ past item rest m e t, items = past ++ item :: rest ∧ P past m ∧
      (past.forM f).run.run s = (.ok ⟨⟩, m) ∧ (f item).run.run m = (.error e, t) ∧
      (items.forM f).run.run s = (.error e, t) := by
  -- What holds is said of the steps that are past, so the list is taken apart from its end.
  induction items using List.reverseRecOn with
  | nil => exact .inl ⟨s, rfl, start⟩
  | append_singleton items last ih =>
      have single (m : Seeding) : ([last].forM f).run.run m = (f last).run.run m := by
        rw [List.forM_eq_forM, List.forM_cons, List.forM_nil, bind_pure_unit]
      simp only [run_forM_append, single]
      obtain ⟨m, run, holds⟩ | ⟨past, item, rest, m, e, t, split, holds, before, fails, run⟩ := ih
      · rw [run]
        rcases ends : (f last).run.run m with ⟨e | b, t⟩
        · exact .inr ⟨items, last, [], m, e, t, rfl, holds, run, ends, ends⟩
        · exact .inl ⟨t, ends, keeps items last m t holds ends⟩
      · rw [run]
        refine .inr ⟨past, item, rest ++ [last], m, e, t, ?_, holds, before, fails, rfl⟩
        rw [split, List.append_assoc, List.cons_append]

end Seeding

/-! ### One host -/

theorem Host.ofRecord_of_decoded {registry : Registry} {r : Host PluginSpec} {t : Transport}
    (decoded : registry.decodeTransport r.transport.kind r.transport.params = .ok t) :
    Host.ofRecord registry r = .ok (r.withTransport t) := by
  unfold Host.ofRecord
  rw [decoded]
  rfl

theorem Host.ofRecord_of_refused {registry : Registry} {r : Host PluginSpec} {e : RegistryError}
    (refused : registry.decodeTransport r.transport.kind r.transport.params = .error e) :
    Host.ofRecord registry r = .error e := by
  unfold Host.ofRecord
  rw [refused]
  rfl

/-- A host is as a seed asks for it, with its identifier drawn from a source if none is given. -/
structure HostSeed.Makes (registry : Registry) (ids : IdSource) (seed : HostSeed)
    (h : Host Transport) : Prop where
  id : h.id = (ids.named seed.id).1
  account : h.account = seed.account
  name : h.name = seed.name
  transport :
    registry.decodeTransport seed.transport.kind seed.transport.params = .ok h.transport

namespace Seeding

variable {registry : Registry} {s t : Seeding}

/-- All that a host seed can come to: its transport is refused, its host is stored, or the
identifier is taken. -/
inductive HostStep (registry : Registry) (seed : HostSeed) (s : Seeding) :
    Except StartFailure Unit × Seeding → Prop where
  | refused {e : RegistryError} (context : List String) :
    registry.decodeTransport seed.transport.kind seed.transport.params = .error e →
    HostStep registry seed s
      (.error { context, cause := .store (.registry e) },
        { s with ids := (s.ids.named seed.id).2 })
  | stored {h : Host Transport} :
    seed.Makes registry s.ids h → s.store.host? h.id = none →
    HostStep registry seed s
      (.ok ⟨⟩,
        { s with
          ids := (s.ids.named seed.id).2
          store := s.store.setHost h
          summary.hosts := s.summary.hosts + 1 })
  | skipped {h other : Host Transport} :
    seed.Makes registry s.ids h → s.store.host? h.id = some other →
    HostStep registry seed s (.ok ⟨⟩, { s with ids := (s.ids.named seed.id).2 })

theorem addHost_steps (registry : Registry) (seed : HostSeed) (s : Seeding) :
    HostStep registry seed s ((addHost registry seed).run.run s) := by
  simp only [addHost, run_bind, run_identifier]
  cases decoded : registry.decodeTransport seed.transport.kind seed.transport.params with
  | error e =>
      rw [Host.ofRecord_of_refused decoded]
      exact .refused _ decoded
  | ok transport =>
      rw [Host.ofRecord_of_decoded decoded]
      simp only [run_orFail_ok, run_get]
      generalize made : Host.withTransport _ transport = h
      have makes : seed.Makes registry s.ids h := by
        subst made
        exact ⟨rfl, rfl, rfl, decoded⟩
      cases taken : s.store.host? h.id with
      | none =>
          rw [Store.addHost_of_free taken]
          exact .stored makes taken
      | some other =>
          rw [Store.addHost_of_taken taken]
          exact .skipped makes taken

end Seeding

/-! ### One probe -/

/-- An agent stays where it is while others are taken on. -/
theorem Fleet.agent?_of_prefix {β : Type} {f f' : Fleet β} (grown : f.agents <+: f'.agents)
    {ref : AgentRef} {agent : β} (found : f.agent? ref = some agent) :
    f'.agent? ref = some agent := by
  obtain ⟨more, same⟩ := grown
  unfold agent? at found ⊢
  rw [← same, List.getElem?_append_left (List.getElem?_eq_some_iff.mp found).1, found]

theorem Fleet.prefix_enlist {β : Type} [Plugin β] (f : Fleet β) (agent : β) :
    f.agents <+: (f.enlist agent).2.agents :=
  List.prefix_append f.agents [agent]

theorem Fleet.agent?_enlist {β : Type} [Plugin β] (f : Fleet β) (agent : β) :
    (f.enlist agent).2.agent? (f.enlist agent).1 = some agent := by
  simp [enlist, agent?]

/-- A probe is as a seed asks for it, in a store and with an agent of a fleet. -/
structure ProbeSeed.Makes (registry : Registry) (s : Store AgentRef Transport) (fleet : Fleet Agent)
    (seed : ProbeSeed) (p : Probe AgentRef) : Prop where
  account : p.account = seed.account
  host : s.Resolves seed.host p.hostId
  positive : 0 < seed.intervalSeconds
  counted : (seed.intervalSeconds : Int) ≤ Span.wordMax / 1000
  interval : p.interval = ⟨seed.intervalSeconds * 1000000000⟩
  agent : ∃ a, registry.decodeAgent seed.agent.kind seed.agent.params = .ok a ∧
    fleet.agent? p.agent = some a ∧ p.agent.spec = Plugin.spec a
  fresh : p.lastCheck = none ∧ p.nextCheck = none ∧ p.lastPoints = none

theorem ProbeSeed.Makes.mono {registry : Registry} {s s' : Store AgentRef Transport}
    {fleet fleet' : Fleet Agent} {seed : ProbeSeed} {p : Probe AgentRef}
    (makes : seed.Makes registry s fleet p) (same : s'.hosts = s.hosts)
    (grown : fleet.agents <+: fleet'.agents) : seed.Makes registry s' fleet' p := by
  obtain ⟨a, decoded, found, spec⟩ := makes.agent
  exact { makes with
    host := (Store.resolves_congr same _ _).mpr makes.host
    agent := ⟨a, decoded, Fleet.agent?_of_prefix grown found, spec⟩ }

namespace Seeding

variable {registry : Registry} {s t : Seeding}

/-- The seconds of a seed are an interval as long as a span can have that length. -/
theorem interval?_of_counted {seconds : Nat} (counted : (seconds : Int) ≤ Span.wordMax / 1000) :
    interval? seconds = some ⟨seconds * 1000000000⟩ := by
  have uncut : min (seconds : Int) Span.wordMax = seconds := by
    unfold Span.wordMax Word.greatest at *
    omega
  rw [interval?, uncut, Span.ofSeconds?, Span.ofNanos?, if_pos]
  rw [Bool.and_eq_true, decide_eq_true_eq, decide_eq_true_eq]
  unfold Span.limit Span.wordMax Word.greatest at *
  omega

/-- More seconds than that are none, also when they are cut to a word. -/
theorem interval?_of_beyond {seconds : Nat} (beyond : Span.wordMax / 1000 < (seconds : Int)) :
    interval? seconds = none := by
  rw [interval?, Span.ofSeconds?, Span.ofNanos?, if_neg]
  rw [Bool.and_eq_true, decide_eq_true_eq, decide_eq_true_eq]
  unfold Span.limit Span.wordMax Word.greatest at *
  omega

/-- All that a probe seed can come to: its host is not known, its interval is zero, its agent is
refused, its interval is too long, the identifier that is drawn is taken, or its probe is stored. -/
inductive ProbeStep (registry : Registry) (seed : ProbeSeed) (s : Seeding) :
    Except StartFailure Unit × Seeding → Prop where
  | unknown (text : String) :
    (∀ id, ¬ s.store.Resolves seed.host id) →
    ProbeStep registry seed s (.error { cause := .other text }, s)
  | unset (text : String) :
    seed.intervalSeconds = 0 →
    ProbeStep registry seed s (.error { cause := .other text }, s)
  | refused {e : RegistryError} (context : List String) :
    registry.decodeAgent seed.agent.kind seed.agent.params = .error e →
    ProbeStep registry seed s (.error { context, cause := .registry e }, s)
  | beyond {id : String} {a : Agent} :
    s.store.Resolves seed.host id →
    registry.decodeAgent seed.agent.kind seed.agent.params = .ok a →
    Span.wordMax / 1000 < seed.intervalSeconds →
    ProbeStep registry seed s (.error { cause := .intervalTooLong }, s)
  | taken {p other : Probe AgentRef} (fleet : Fleet Agent) (ids : IdSource) :
    s.fleet.agents <+: fleet.agents → seed.Makes registry s.store fleet p →
    s.store.probe? p.id = some other →
    ProbeStep registry seed s
      (.error (storeFailure (.alreadyExists .probe p.id)), { s with fleet, ids })
  | stored {p : Probe AgentRef} (fleet : Fleet Agent) (ids : IdSource) :
    s.fleet.agents <+: fleet.agents → seed.Makes registry s.store fleet p →
    s.store.probe? p.id = none →
    ProbeStep registry seed s
      (.ok ⟨⟩,
        { s with
          fleet, ids
          store := s.store.setProbe p
          summary.probes := s.summary.probes + 1 })

theorem addProbe_steps (registry : Registry) (seed : ProbeSeed) (s : Seeding) :
    ProbeStep registry seed s
      ((addProbe registry (s.store.listHosts .system .all) seed).run.run s) := by
  unfold addProbe
  cases named : hostOf? (s.store.listHosts .system .all) seed.host with
  | none => exact .unknown _ (hostOf?_eq_none_iff.mp named)
  | some host =>
      obtain ⟨bound, resolves⟩ := resolves_of_hostOf? named
      dsimp only
      -- An interval of zero is found before the agent is looked at, one that is too long after it.
      by_cases zero : seed.intervalSeconds = 0
      · rw [if_pos (beq_iff_eq.mpr zero)]
        exact .unset _ zero
      rw [if_neg (by simpa using zero)]
      cases decoded : registry.decodeAgent seed.agent.kind seed.agent.params with
      | error e => exact .refused _ decoded
      | ok a =>
          simp only [run_bind, run_orFail_ok]
          by_cases beyond : Span.wordMax / 1000 < (seed.intervalSeconds : Int)
          · rw [interval?_of_beyond beyond]
            exact .beyond resolves decoded beyond
          rw [interval?_of_counted (Int.not_lt.mp beyond)]
          simp only [run_bind, run_get, run_set]
          generalize created : Probe.create s.ids seed.account host.id _ _ = drawn
          obtain ⟨p, ids⟩ := drawn
          unfold Probe.create at created
          obtain ⟨made, -⟩ := Prod.mk.inj created
          have own : p.hostId = host.id := by rw [← made]
          have makes : seed.Makes registry s.store (s.fleet.enlist a).2 p := by
            subst made
            exact ⟨rfl, resolves, Nat.pos_of_ne_zero zero, Int.not_lt.mp beyond, rfl,
              ⟨a, decoded, s.fleet.agent?_enlist a, rfl⟩, rfl, rfl, rfl⟩
          rw [← own] at bound
          dsimp only
          cases free : s.store.probe? p.id with
          | none =>
              rw [Store.addProbe_of_free bound free]
              exact .stored _ _ (s.fleet.prefix_enlist a) makes free
          | some other =>
              rw [Store.addProbe_of_taken bound free]
              exact .taken _ _ (s.fleet.prefix_enlist a) makes free

end Seeding

end Hostwatch
