import Hostwatch.Proofs.Server.Seeding
import Hostwatch.Proofs.Store.Link
import Hostwatch.Server.CommandLine

/-!
# What a server starts with

At the start the host is stored that stands for the machine, if it is missing, and then what the
configuration asks for. `HostsDone` and `ProbesDone` say what has come of the seeds so far. Each is
kept by one more seed, so `apply_ends` can say what has come of them all, or of those before the
first one that failed.
-/

namespace Hostwatch

/-- What is added for host seeds, one after the other. A seed whose identifier is taken when its
turn comes adds nothing; of the others each adds the host that it asks for. `taken` are the
identifiers that are taken before the first of them, and the last argument is what they leave of a
source of identifiers. -/
inductive HostsAdded (registry : Registry) (taken : String → Prop) (ids : IdSource) :
    List HostSeed → List (Host Transport) → IdSource → Prop where
  | nil : HostsAdded registry taken ids [] [] ids
  | stored {past : List HostSeed} {added : List (Host Transport)} {now : IdSource}
      {seed : HostSeed} {h : Host Transport} :
    HostsAdded registry taken ids past added now → seed.Makes registry now h →
    ¬ taken h.id → (∀ other ∈ added, other.id ≠ h.id) →
    HostsAdded registry taken ids (past ++ [seed]) (added ++ [h]) (now.named seed.id).2
  | skipped {past : List HostSeed} {added : List (Host Transport)} {now : IdSource}
      {seed : HostSeed} {h : Host Transport} :
    HostsAdded registry taken ids past added now → seed.Makes registry now h →
    (taken h.id ∨ ∃ other ∈ added, other.id = h.id) →
    HostsAdded registry taken ids (past ++ [seed]) added (now.named seed.id).2

namespace Seeding

open Table (Gains)

variable {registry : Registry} {s m t : Seeding}

/-! ### All hosts -/

/-- What has come of some host seeds. -/
structure HostsDone (registry : Registry) (s : Seeding) (past : List HostSeed)
    (added : List (Host Transport)) (t : Seeding) : Prop where
  seeds : HostsAdded registry (fun id => s.store.host? id ≠ none) s.ids past added t.ids
  hosts : Gains Host.id s.store.hosts t.store.hosts added
  probes : t.store.probes = s.store.probes
  fleet : t.fleet = s.fleet
  summary : t.summary = { s.summary with hosts := s.summary.hosts + added.length }

theorem HostsDone.refl (registry : Registry) (s : Seeding) : HostsDone registry s [] [] s :=
  ⟨.nil, .refl _ _, rfl, rfl, rfl⟩

theorem HostsDone.step {past : List HostSeed} {added : List (Host Transport)} {seed : HostSeed}
    (done : HostsDone registry s past added m) (step : HostStep registry seed m (.ok ⟨⟩, t)) :
    ∃ added', HostsDone registry s (past ++ [seed]) added' t := by
  cases step with
  | @stored h makes free =>
      obtain ⟨before, since⟩ := done.hosts.unused free
      refine ⟨added ++ [h], .stored done.seeds makes (fun taken => taken before) since,
        done.hosts.insert free, done.probes, done.fleet, ?_⟩
      rw [done.summary, List.length_append, List.length_singleton, Nat.add_assoc]
  | @skipped h other makes found =>
      have taken := (done.hosts.ne_none_iff h.id).mp (Option.ne_none_iff_exists'.mpr ⟨other, found⟩)
      exact ⟨added, .skipped done.seeds makes taken, done.hosts, done.probes, done.fleet,
        done.summary⟩

theorem HostsDone.probe?_eq {past : List HostSeed} {added : List (Host Transport)}
    (done : HostsDone registry s past added t) (id : String) :
    t.store.probe? id = s.store.probe? id :=
  congrArg (Table.get? · id) done.probes

/-! ### All probes -/

/-- What has come of some probe seeds. -/
structure ProbesDone (registry : Registry) (s : Seeding) (past : List ProbeSeed)
    (added : List (Probe AgentRef)) (t : Seeding) : Prop where
  made : List.Forall₂ (fun seed p => seed.Makes registry t.store t.fleet p) past added
  probes : Gains Probe.id s.store.probes t.store.probes added
  hosts : t.store.hosts = s.store.hosts
  fleet : s.fleet.agents <+: t.fleet.agents
  summary : t.summary = { s.summary with probes := s.summary.probes + added.length }

namespace ProbesDone

theorem refl (registry : Registry) (s : Seeding) : ProbesDone registry s [] [] s :=
  ⟨.nil, .refl _ _, rfl, List.prefix_rfl, rfl⟩

variable {past : List ProbeSeed} {added : List (Probe AgentRef)} {seed : ProbeSeed}

/-- A seed that fails does not matter. -/
theorem failed {f : StartFailure} (done : ProbesDone registry s past added m)
    (step : ProbeStep registry seed m (.error f, t)) : ProbesDone registry s past added t := by
  cases step with
  | unknown | unset | refused | beyond => exact done
  | taken fleet ids grown =>
      exact { done with
        made := done.made.imp fun _ _ makes => makes.mono rfl grown
        fleet := done.fleet.trans grown }

theorem step (done : ProbesDone registry s past added m)
    (step : ProbeStep registry seed m (.ok ⟨⟩, t)) :
    ∃ p, ProbesDone registry s (past ++ [seed]) (added ++ [p]) t := by
  cases step with
  | @stored p fleet ids grown makes free =>
      refine ⟨p, List.rel_append ?_ (.cons ?_ .nil), done.probes.insert free, done.hosts,
        done.fleet.trans grown, ?_⟩
      · exact done.made.imp fun _ _ makes => makes.mono rfl grown
      · exact makes.mono rfl List.prefix_rfl
      · rw [done.summary, List.length_append, List.length_singleton, Nat.add_assoc]

end ProbesDone

/-! ### All seeds -/

/-- When the host seeds are through, something has come of each. Otherwise the transport of one was
refused, and something has come of those before it. -/
theorem addHosts_ends (registry : Registry) (seeds : List HostSeed) (s : Seeding) :
    (∃ t added, (seeds.forM (addHost registry)).run.run s = (.ok ⟨⟩, t) ∧
      HostsDone registry s seeds added t) ∨
    ∃ past seed rest added m f t, seeds = past ++ seed :: rest ∧
      HostsDone registry s past added m ∧ HostStep registry seed m (.error f, t) ∧
      (seeds.forM (addHost registry)).run.run s = (.error f, t) := by
  have keeps (past : List HostSeed) (seed : HostSeed) (m t : Seeding) :
      (∃ added, HostsDone registry s past added m) →
      (addHost registry seed).run.run m = (.ok ⟨⟩, t) →
      ∃ added, HostsDone registry s (past ++ [seed]) added t := by
    rintro ⟨added, done⟩ ran
    exact done.step (ran ▸ addHost_steps registry seed m)
  obtain ⟨t, ran, added, done⟩ | ⟨past, seed, rest, m, f, t, split, ⟨added, done⟩, -, fails, ran⟩ :=
    forM_ends ⟨[], .refl registry s⟩ keeps seeds
  · exact .inl ⟨t, added, ran, done⟩
  · exact .inr ⟨past, seed, rest, added, m, f, t, split, done,
      fails ▸ addHost_steps registry seed m, ran⟩

/-- Going through probe seeds with the hosts that are stored. -/
def runProbes (registry : Registry) (s : Seeding) (seeds : List ProbeSeed) :
    Except StartFailure Unit × Seeding :=
  (seeds.forM (addProbe registry (s.store.listHosts .system .all))).run.run s

/-- When the probe seeds are through, something has come of each. Otherwise one of them has failed,
and something has come of those before it, which are through without it. -/
theorem runProbes_ends (registry : Registry) (s : Seeding) (seeds : List ProbeSeed) :
    (∃ t added, runProbes registry s seeds = (.ok ⟨⟩, t) ∧
      ProbesDone registry s seeds added t) ∨
    ∃ past seed rest added m f t, seeds = past ++ seed :: rest ∧
      runProbes registry s past = (.ok ⟨⟩, m) ∧ ProbesDone registry s past added m ∧
      ProbeStep registry seed m (.error f, t) ∧ runProbes registry s seeds = (.error f, t) := by
  have steps {past added m} (done : ProbesDone registry s past added m) (seed : ProbeSeed) :
      ProbeStep registry seed m
        ((addProbe registry (s.store.listHosts .system .all) seed).run.run m) := by
    -- The hosts are listed once, before the first probe, and are the same ever after.
    rw [← Store.listHosts_congr done.hosts]
    exact addProbe_steps registry seed m
  have keeps (past : List ProbeSeed) (seed : ProbeSeed) (m t : Seeding) :
      (∃ added, ProbesDone registry s past added m) →
      (addProbe registry (s.store.listHosts .system .all) seed).run.run m = (.ok ⟨⟩, t) →
      ∃ added, ProbesDone registry s (past ++ [seed]) added t := by
    rintro ⟨added, done⟩ ran
    obtain ⟨p, done⟩ := done.step (ran ▸ steps done seed)
    exact ⟨_, done⟩
  obtain ⟨t, ran, added, done⟩ | ⟨past, seed, rest, m, f, t, split, ⟨added, done⟩, before, fails,
      ran⟩ :=
    forM_ends ⟨[], .refl registry s⟩ keeps seeds
  · exact .inl ⟨t, added, ran, done⟩
  · exact .inr ⟨past, seed, rest, added, m, f, t, split, before, done, fails ▸ steps done seed, ran⟩

/-- After the seeds that are through, it is the next one's turn. -/
theorem runProbes_append {before : List ProbeSeed} {added : List (Probe AgentRef)}
    (through : runProbes registry s before = (.ok ⟨⟩, t))
    (done : ProbesDone registry s before added t) (after : List ProbeSeed) :
    runProbes registry s (before ++ after) = runProbes registry t after := by
  unfold runProbes at through ⊢
  rw [run_forM_append, through, Store.listHosts_congr done.hosts]

/-- The hosts are through before the first probe. -/
theorem apply_eq (s : Seeding) (registry : Registry) (config : Config) :
    s.apply registry config =
      match (config.hosts.forM (addHost registry)).run.run { s with summary := {} } with
      | (.error f, m) => (.error f, m)
      | (.ok _, m) =>
        match runProbes registry m config.probes with
        | (.error f, t) => (.error f, t)
        | (.ok _, t) => (.ok t.summary, t) := by
  unfold apply addAll runProbes
  rw [run_bind]
  rcases (config.hosts.forM (addHost registry)).run.run { s with summary := {} } with ⟨_ | _, m⟩
  · rfl
  · dsimp only
    rw [run_bind, run_get]
    dsimp only
    rcases (config.probes.forM (addProbe registry (m.store.listHosts .system .all))).run.run m with
      ⟨_ | _, t⟩
    · rfl
    · rfl

/-- All that seeding can come to: the transport of a host is refused, a probe cannot be had, or
everything is stored. -/
inductive Ends (registry : Registry) (config : Config) (s : Seeding) :
    Except StartFailure SeedSummary × Seeding → Prop where
  | host {past : List HostSeed} {seed : HostSeed} {rest : List HostSeed}
      {hosts : List (Host Transport)} {m t : Seeding} {f : StartFailure} :
    config.hosts = past ++ seed :: rest →
    HostsDone registry { s with summary := {} } past hosts m →
    HostStep registry seed m (.error f, t) → Ends registry config s (.error f, t)
  | probe {hosts : List (Host Transport)} {past : List ProbeSeed} {seed : ProbeSeed}
      {rest : List ProbeSeed} {probes : List (Probe AgentRef)} {l m t : Seeding} {f : StartFailure} :
    config.probes = past ++ seed :: rest →
    HostsDone registry { s with summary := {} } config.hosts hosts l →
    s.apply registry { config with probes := past } = (.ok m.summary, m) →
    ProbesDone registry l past probes m →
    ProbeStep registry seed m (.error f, t) → Ends registry config s (.error f, t)
  | all {hosts : List (Host Transport)} {probes : List (Probe AgentRef)} {m t : Seeding} :
    HostsDone registry { s with summary := {} } config.hosts hosts m →
    ProbesDone registry m config.probes probes t → Ends registry config s (.ok t.summary, t)

theorem apply_ends (s : Seeding) (registry : Registry) (config : Config) :
    Ends registry config s (s.apply registry config) := by
  obtain ⟨m, hosts, ran, done⟩ | ⟨past, seed, rest, hosts, m, f, t, split, done, fails, ran⟩ :=
    addHosts_ends registry config.hosts { s with summary := {} }
  · obtain ⟨t, probes, through, made⟩ | ⟨past, seed, rest, probes, l, f, t, split, before, made,
        fails, stopped⟩ :=
      runProbes_ends registry m config.probes
    · simp only [apply_eq, ran, through]
      exact .all done made
    · rw [apply_eq]
      simp only [ran, stopped]
      refine .probe split done ?_ made fails
      simp only [apply_eq, ran, before]
  · rw [apply_eq]
    simp only [ran]
    exact .host split done fails

end Seeding

/-! ### The whole start -/

/-- A seed that a probe can be made of. -/
structure ProbeSeed.Sound (registry : Registry) (s : Store AgentRef Transport) (seed : ProbeSeed) :
    Prop where
  host : ∃ id, s.Resolves seed.host id
  positive : 0 < seed.intervalSeconds
  counted : (seed.intervalSeconds : Int) ≤ Span.wordMax / 1000
  agent : ∃ a, registry.decodeAgent seed.agent.kind seed.agent.params = .ok a

/-- A probe seed fails if no probe can be made of it, or the identifier that is drawn is taken. -/
theorem Seeding.ProbeStep.why {registry : Registry} {seed : ProbeSeed} {s t : Seeding}
    {f : StartFailure} (step : ProbeStep registry seed s (.error f, t)) :
    ¬ seed.Sound registry t.store ∨
      ∃ id other, f.cause = .store (.alreadyExists .probe id) ∧
        t.store.probe? id = some other := by
  cases step with
  | unknown text unknown => exact .inl fun sound => sound.host.elim unknown
  | unset text zero => exact .inl fun sound => Nat.ne_of_gt sound.positive zero
  | refused context refused =>
      refine .inl fun sound => ?_
      obtain ⟨a, decoded⟩ := sound.agent
      cases refused.symm.trans decoded
  | beyond _ _ beyond => exact .inl fun sound => Int.not_lt.mpr sound.counted beyond
  | @taken p other _ _ _ _ found => exact .inr ⟨p.id, other, rfl, found⟩

/-- The local host, if it is missing. -/
def Store.missingLocalhost {α τ : Type} (s : Store α τ) (here : τ) : List (Host τ) :=
  if s.host? Host.localId = none then [.localhost here] else []

/-- Over a plain link the local host is stored if it is missing and the registry has its
transport. -/
theorem Link.ensureLocalhost_plain (registry : Registry) (s : Store AgentRef Transport) :
    ({ store := s } : Link AgentRef Transport).ensureLocalhost registry id =
      match s.host? Host.localId, registry.transport "local" with
      | some _, _ => (.ok (), { store := s })
      | none, .error e => (.error { cause := .registry e }, { store := s })
      | none, .ok here => (.ok (), { store := s.setHost (.localhost here) }) := by
  have read : ({ store := s } : Link AgentRef Transport).getHost .system Host.localId =
      (s.findHost Host.localId, { store := s }) := by
    rw [getHost, read_of_sound rfl, Store.getHost_system]
  rw [ensureLocalhost, read, Store.findHost]
  cases found : s.host? Host.localId with
  | some h => rfl
  | none =>
      cases registry.transport "local" with
      | error e => rfl
      | ok here =>
          have free : s.host? (Host.localhost here).id = none := found
          have added : ({ store := s } : Link AgentRef Transport).addHost .system
              (.localhost here) = (.ok (), { store := s.setHost (.localhost here) }) := by
            rw [addHost, change, interrupt_of_sound rfl]
            dsimp only
            rw [Store.addHost_of_free free]
            rfl
          simp only [id, added]

/-- The start: the local host, and then what the configuration asks for. -/
def startUp (registry : Registry) (config : Config) (s : Seeding) :
    Except StartFailure SeedSummary × Seeding :=
  let (present, l) := ({ store := s.store } : Link AgentRef Transport).ensureLocalhost registry id
  match present with
  | .error f => (.error f, { s with store := l.store })
  | .ok () => ({ s with store := l.store } : Seeding).apply registry config

/-- A server is prepared by a start with nothing stored. -/
theorem CommandLine.prepare_eq (registry : Registry) (config : Config) (ids : IdSource) :
    prepare registry config ids =
      match startUp registry config { store := .empty, fleet := {}, ids } with
      | (.error f, _) => .error f
      | (.ok _, t) => .ok { config, link := { store := t.store }, fleet := t.fleet } := by
  have present : ({} : Link AgentRef Transport).ensureLocalhost registry id =
      ({ store := .empty } : Link AgentRef Transport).ensureLocalhost registry id := rfl
  unfold prepare startUp
  dsimp only
  rw [present, Link.ensureLocalhost_plain, show Store.host? .empty Host.localId = none from rfl]
  cases registry.transport "local" with
  | error e => rfl
  | ok here =>
      dsimp only
      generalize Seeding.apply _ registry config = ended
      obtain ⟨_ | _, t⟩ := ended
      · rfl
      · rfl

/-- What a start has made of the first host seeds and probe seeds. Everything that was stored is
stored still, and besides it the local host if it was missing, the hosts that are added for the host
seeds, and a probe for each probe seed. -/
structure Started (registry : Registry) (here : Transport) (s : Seeding)
    (hostSeeds : List HostSeed) (hosts : List (Host Transport)) (probeSeeds : List ProbeSeed)
    (probes : List (Probe AgentRef)) (t : Seeding) : Prop where
  hostsGain : Table.Gains Host.id s.store.hosts t.store.hosts (s.store.missingLocalhost here ++ hosts)
  probesGain : Table.Gains Probe.id s.store.probes t.store.probes probes
  seeded : ∃ ids, HostsAdded registry (fun id => id = Host.localId ∨ s.store.host? id ≠ none) s.ids
    hostSeeds hosts ids
  made : List.Forall₂ (fun seed p => seed.Makes registry t.store t.fleet p) probeSeeds probes

namespace Started

open Seeding

variable {registry : Registry} {here : Transport} {s l m t : Seeding} {hostSeeds : List HostSeed}
variable {hosts : List (Host Transport)} {probeSeeds : List ProbeSeed}
variable {probes : List (Probe AgentRef)}

/-- After the local host is stored, its identifier is taken besides those that were. -/
theorem taken_iff {s' : Store AgentRef Transport}
    (gains : Table.Gains Host.id s.store.hosts s'.hosts (s.store.missingLocalhost here))
    (id : String) : s'.host? id ≠ none ↔ id = Host.localId ∨ s.store.host? id ≠ none := by
  unfold Store.host?
  rw [gains.ne_none_iff, or_comm]
  unfold Store.missingLocalhost
  split
  · simp only [List.mem_singleton, exists_eq_left, Host.localhost, eq_comm]
  · next present =>
      simp only [List.not_mem_nil, false_and, exists_false, false_or]
      exact ⟨.inr, fun taken => taken.elim (fun own => own ▸ present) fun other => other⟩

theorem of_done {s' : Store AgentRef Transport}
    (gains : Table.Gains Host.id s.store.hosts s'.hosts (s.store.missingLocalhost here))
    (same : s'.probes = s.store.probes)
    (through : HostsDone registry { s with store := s', summary := {} } hostSeeds hosts m)
    (done : ProbesDone registry m probeSeeds probes t) :
    Started registry here s hostSeeds hosts probeSeeds probes t where
  hostsGain := by
    rw [done.hosts]
    exact gains.trans through.hosts
  probesGain := by
    rw [← same, ← through.probes]
    exact done.probes
  seeded := by
    have seeds := through.seeds
    simp only [taken_iff gains] at seeds
    exact ⟨m.ids, seeds⟩
  made := done.made

/-- A start that gets no further than the host seeds leaves the probes alone. -/
theorem of_hosts {s' : Store AgentRef Transport}
    (gains : Table.Gains Host.id s.store.hosts s'.hosts (s.store.missingLocalhost here))
    (same : s'.probes = s.store.probes)
    (through : HostsDone registry { s with store := s', summary := {} } hostSeeds hosts m) :
    Started registry here s hostSeeds hosts [] [] m :=
  .of_done gains same through (.refl registry m)

theorem congr (started : Started registry here s hostSeeds hosts [] [] m)
    (same : t.store = m.store) : Started registry here s hostSeeds hosts [] [] t where
  hostsGain := same ▸ started.hostsGain
  probesGain := same ▸ started.probesGain
  seeded := started.seeded
  made := .nil

theorem keepsHosts (started : Started registry here s hostSeeds hosts probeSeeds probes t)
    (id : String) (h : Host Transport) (found : s.store.host? id = some h) :
    t.store.host? id = some h :=
  started.hostsGain.keeps found

theorem keepsProbes (started : Started registry here s hostSeeds hosts probeSeeds probes t)
    (id : String) (p : Probe AgentRef) (found : s.store.probe? id = some p) :
    t.store.probe? id = some p :=
  started.probesGain.keeps found

end Started

theorem startUp_of_local {registry : Registry} {here : Transport}
    (isLocal : registry.transport "local" = .ok here) (config : Config) (s : Seeding) :
    ∃ s' : Store AgentRef Transport,
      startUp registry config s = ({ s with store := s' } : Seeding).apply registry config ∧
      Table.Gains Host.id s.store.hosts s'.hosts (s.store.missingLocalhost here) ∧
      s'.probes = s.store.probes := by
  unfold startUp Store.missingLocalhost
  rw [Link.ensureLocalhost_plain, isLocal]
  cases found : s.store.host? Host.localId with
  | some h => exact ⟨s.store, rfl, .refl _ _, rfl⟩
  | none =>
      have free : s.store.host? (Host.localhost here).id = none := found
      exact ⟨s.store.setHost (.localhost here), rfl, .single free, rfl⟩

/-- The start never changes or takes out a host or a probe that is stored. When it succeeds, all
seeds have had their turn: the local host is added if it was missing, a host for each host seed
whose identifier was not taken when its turn came, and a probe for each probe seed, and these are
counted. When it fails, that holds of the seeds before the one that failed. That is a host seed
whose transport is refused, or a probe seed of which no probe can be made or whose generated
identifier is taken. -/
theorem startUp_effect (registry : Registry) (config : Config) (s : Seeding) {here : Transport}
    (isLocal : registry.transport "local" = .ok here) :
    let (result, t) := startUp registry config s
    (∀ id h, s.store.host? id = some h → t.store.host? id = some h) ∧
    (∀ id p, s.store.probe? id = some p → t.store.probe? id = some p) ∧
    ∃ hostSeeds hosts probeSeeds probes,
      Started registry here s hostSeeds hosts probeSeeds probes t ∧
      match result with
      | .ok summary =>
        hostSeeds = config.hosts ∧ probeSeeds = config.probes ∧
          summary = { hosts := hosts.length, probes := config.probes.length }
      | .error f =>
        (∃ seed rest e, config.hosts = hostSeeds ++ seed :: rest ∧ probeSeeds = [] ∧
          registry.decodeTransport seed.transport.kind seed.transport.params = .error e ∧
          f.cause = .store (.registry e)) ∨
        hostSeeds = config.hosts ∧ ∃ seed rest, config.probes = probeSeeds ++ seed :: rest ∧
          (¬ seed.Sound registry t.store ∨
            ∃ id other, f.cause = .store (.alreadyExists .probe id) ∧
              t.store.probe? id = some other) := by
  obtain ⟨s', started, gains, same⟩ := startUp_of_local isLocal config s
  have ends := ({ s with store := s' } : Seeding).apply_ends registry config
  rw [← started] at ends
  generalize startUp registry config s = ended at ends
  obtain ⟨result, t⟩ := ended
  cases ends with
  | @host past seed rest hosts m _ f split through step =>
      cases step with
      | @refused e context refused =>
          have done {ids : IdSource} : Started registry here s past hosts [] [] { m with ids } :=
            (Started.of_hosts gains same through).congr rfl
          exact ⟨done.keepsHosts, done.keepsProbes, past, hosts, [], [], done,
            .inl ⟨seed, rest, e, split, rfl, refused, rfl⟩⟩
  | @probe hosts past seed rest probes l m _ f split through _ made step =>
      have done := Started.of_done gains same through (made.failed step)
      exact ⟨done.keepsHosts, done.keepsProbes, config.hosts, hosts, past, probes, done,
        .inr ⟨rfl, seed, rest, split, step.why⟩⟩
  | @all hosts probes m _ through made =>
      have done := Started.of_done gains same through made
      refine ⟨done.keepsHosts, done.keepsProbes, config.hosts, hosts, config.probes, probes, done,
        rfl, rfl, ?_⟩
      rw [made.summary, through.summary, made.made.length_eq, Nat.zero_add, Nat.zero_add]

/-- One host that is new, and one probe on the local host. -/
def smallConfig : Config where
  hosts := [{ id := some "web", name := "web", transport := { kind := "local" } }]
  probes := [{ agent := { kind := "load" } }]

/-- Nothing is stored, and one generated identifier is left of the last bucket. -/
def nothingStored : Seeding where
  store := .empty
  fleet := {}
  ids := { millis := 0, machine := 0, node := 0, bucket := [41] }

/-- With all agents and transports the start succeeds. Besides the local host it adds the host of
the configuration and a probe of the local host. -/
theorem startUp_small :
    let web : Host Transport :=
      { id := "web", account := Host.systemAccount, name := "web", transport := .thisMachine }
    let load : Probe AgentRef :=
      { id := "41", account := Host.systemAccount, hostId := Host.localId
        agent := { number := 0, spec := { kind := "load", params := .obj [] } }
        interval := ⟨10000000000⟩ }
    let (result, t) := startUp Registry.defaults smallConfig nothingStored
    Registry.defaults.transport "local" = .ok .thisMachine ∧
      result = .ok { hosts := 1, probes := 1 } ∧
      Started Registry.defaults .thisMachine nothingStored smallConfig.hosts [web]
        smallConfig.probes [load] t := by
  intro web load
  have isLocal : Registry.defaults.transport "local" = .ok .thisMachine := rfl
  have effect := startUp_effect Registry.defaults smallConfig nothingStored isLocal
  have succeeded : (startUp Registry.defaults smallConfig nothingStored).1 =
      .ok { hosts := 1, probes := 1 } := rfl
  have webStored : (startUp Registry.defaults smallConfig nothingStored).2.store.host? "web" =
      some web := rfl
  have loadStored : (startUp Registry.defaults smallConfig nothingStored).2.store.probe? "41" =
      some load := rfl
  generalize startUp Registry.defaults smallConfig nothingStored = ended at *
  obtain ⟨result, t⟩ := ended
  cases succeeded
  obtain ⟨-, -, hostSeeds, hosts, probeSeeds, probes, started, rfl, rfl, counted⟩ := effect
  obtain ⟨host, rfl⟩ : ∃ host, hosts = [host] :=
    List.length_eq_one_iff.mp (congrArg SeedSummary.hosts counted).symm
  obtain ⟨probe, rfl⟩ : ∃ probe, probes = [probe] :=
    List.length_eq_one_iff.mp started.made.length_eq.symm
  have sameHost : web = host := by
    have among : web ∈ [.localhost .thisMachine, host] := started.hostsGain.mem_added rfl webStored
    obtain isLocalHost | same := List.mem_cons.mp among
    · exact absurd (congrArg Host.id isLocalHost) (by decide)
    · exact List.mem_singleton.mp same
  have sameProbe : load = probe :=
    List.mem_singleton.mp (started.probesGain.mem_added rfl loadStored)
  exact ⟨isLocal, rfl, sameHost ▸ sameProbe ▸ started⟩

end Hostwatch
