import Hostwatch.Proofs.Server.StartUp

/-!
# Intervals that are too long

A configuration gives intervals in seconds, up to what a word can hold, and cuts them at what a
signed word can hold. That is the greatest number of milliseconds in a span, not of seconds, so an
interval can pass the cut and still be too long for a span. Seeding then breaks off;
`apply_breaks_off_iff` says when.
-/

namespace Hostwatch.Seeding

variable {registry : Registry} {seed : ProbeSeed} {s t : Seeding}

theorem interval?_eq_none_iff {seconds : Nat} :
    interval? seconds = none ↔ Span.wordMax / 1000 < (seconds : Int) := by
  refine ⟨fun none => ?_, interval?_of_beyond⟩
  by_contra counted
  rw [interval?_of_counted (Int.not_lt.mp counted)] at none
  cases none

/-- The probes that are added have intervals above zero. -/
theorem ProbesDone.nanos_pos {past : List ProbeSeed} {added : List (Probe AgentRef)}
    (done : ProbesDone registry s past added t) {id : String} {p : Probe AgentRef}
    (found : t.store.probe? id = some p) : s.store.probe? id = some p ∨ 0 < p.interval.nanos := by
  obtain before | ⟨member, -⟩ := (done.probes.found_iff id p).mp found
  · exact .inl before
  have positive : List.Forall₂ (fun (p : Probe AgentRef) (_ : ProbeSeed) =>
      0 < p.interval.nanos ∧ True) added past := by
    refine done.made.flip.imp fun p seed makes => ⟨?_, trivial⟩
    have seconds := makes.positive
    rw [makes.interval]
    dsimp only
    omega
  exact .inr (((List.forall₂_and_left added past).mp positive).1 p member)

/-- A seed breaks seeding off if all else about it is in order but its interval is too long. -/
structure Breaks (registry : Registry) (s : Store AgentRef Transport) (seed : ProbeSeed) : Prop where
  host : ∃ id, s.Resolves seed.host id
  agent : ∃ a, registry.decodeAgent seed.agent.kind seed.agent.params = .ok a
  beyond : Span.wordMax / 1000 < (seed.intervalSeconds : Int)

theorem ProbeStep.breaks {f : StartFailure} (step : ProbeStep registry seed s (.error f, t))
    (long : f.cause = .intervalTooLong) : Breaks registry s.store seed := by
  cases step with
  | unknown | unset | refused | taken => cases long
  | beyond resolves decoded beyond => exact ⟨⟨_, resolves⟩, ⟨_, decoded⟩, beyond⟩

theorem ProbeStep.of_breaks (breaks : Breaks registry s.store seed)
    {ended : Except StartFailure Unit × Seeding} (step : ProbeStep registry seed s ended) :
    ended = (.error { cause := .intervalTooLong }, s) := by
  obtain ⟨⟨id, resolves⟩, ⟨a, decoded⟩, beyond⟩ := breaks
  cases step with
  | unknown text unknown => exact absurd resolves (unknown id)
  | unset text zero =>
      rw [zero] at beyond
      unfold Span.wordMax Word.greatest at beyond
      omega
  | refused context refused => cases refused.symm.trans decoded
  | beyond => rfl
  | taken fleet ids grown makes | stored fleet ids grown makes =>
      exact absurd makes.counted (Int.not_le.mpr beyond)

/-- Seeding goes on after the seeds that are through. -/
theorem apply_of_breaks {config : Config} {before after : List ProbeSeed} {summary : SeedSummary}
    (split : config.probes = before ++ seed :: after)
    (through : s.apply registry { config with probes := before } = (.ok summary, t))
    (breaks : Breaks registry t.store seed) :
    s.apply registry config = (.error { cause := .intervalTooLong }, t) := by
  rw [apply_eq] at through ⊢
  dsimp only at through
  generalize (config.hosts.forM (addHost registry)).run.run _ = hosted at through ⊢
  obtain ⟨_ | _, m⟩ := hosted
  · cases through
  dsimp only at through ⊢
  obtain ⟨l, added, ran, done⟩ | ⟨_, _, _, _, _, _, _, -, -, -, -, ran⟩ :=
    runProbes_ends registry m before
  · rw [ran] at through
    cases through
    have broken : runProbes registry t (seed :: after) = (.error { cause := .intervalTooLong }, t) := by
      rw [runProbes, List.forM_eq_forM, List.forM_cons, run_bind,
        (addProbe_steps registry seed t).of_breaks breaks]
    rw [split, runProbes_append ran done, broken]
  · rw [ran] at through
    cases through

/-- Seeding breaks off at an interval exactly if the seeds before one are through, and all else about
that one is in order but its interval is more than a span can be long. No other interval does any
harm: the probes that are added have intervals above zero. -/
theorem apply_breaks_off_iff (s : Seeding) (registry : Registry) (config : Config) :
    ((∃ f, (s.apply registry config).1 = .error f ∧ f.cause = .intervalTooLong) ↔
      ∃ before seed after summary t, config.probes = before ++ seed :: after ∧
        s.apply registry { config with probes := before } = (.ok summary, t) ∧
        Breaks registry t.store seed) ∧
    (∀ id p, (s.apply registry config).2.store.probe? id = some p →
      s.store.probe? id = some p ∨ 0 < p.interval.nanos) ∧
    ∀ seconds, interval? seconds = none ↔ Span.wordMax / 1000 < (seconds : Int) := by
  refine ⟨⟨?_, ?_⟩, ?_, fun _ => interval?_eq_none_iff⟩
  · rintro ⟨f, failed, long⟩
    have ends := s.apply_ends registry config
    generalize s.apply registry config = ended at ends failed
    cases ends with
    | host _ _ step =>
        cases failed
        cases step
        cases long
    | probe split _ through _ step =>
        cases failed
        exact ⟨_, _, _, _, _, split, through, step.breaks long⟩
    | all => cases failed
  · rintro ⟨before, seed, after, summary, t, split, through, breaks⟩
    exact ⟨_, congrArg Prod.fst (apply_of_breaks split through breaks), rfl⟩
  · intro id p found
    have ends := s.apply_ends registry config
    generalize s.apply registry config = ended at ends found
    cases ends with
    | host _ through step =>
        cases step
        exact .inl ((through.probe?_eq id).symm.trans found)
    | probe _ through _ done step =>
        exact ((done.failed step).nanos_pos found).imp_left (through.probe?_eq id).symm.trans
    | all through done => exact (done.nanos_pos found).imp_left (through.probe?_eq id).symm.trans

/-- A probe on the local host with the longest interval that a configuration can ask for cut to a
signed word. -/
def longConfig : Config where
  probes := [{ agent := { kind := "load" }, intervalSeconds := 9223372036854775807 }]

/-- Seeding with a probe on the local host breaks off if its interval is the greatest signed
word. -/
theorem long_interval_breaks_off :
    ∃ here, Registry.defaults.transport "local" = .ok here ∧
      (({ store := Store.empty.setHost (.localhost here), fleet := {}, ids := .start ⟨0, 0⟩ 0 0 } :
        Seeding).apply Registry.defaults longConfig).1 = .error { cause := .intervalTooLong } := by
  refine ⟨_, rfl, ?_⟩
  decide +kernel

end Hostwatch.Seeding
