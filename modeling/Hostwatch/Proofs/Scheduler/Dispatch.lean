import Hostwatch.Proofs.Scheduler.Calendar
import Hostwatch.Proofs.Scheduler.Starts

/-!
# The exact effect of a look for work

If the listing is what is stored, and no time comes to lie beyond the calendar, then every probe
that is not marked is dealt with by where it stands: one that is due gets its run, one that has no
next check or fell too far behind gets a first check, and nothing else changes.
-/

namespace Hostwatch

/-- A moment at which a probe with the interval can have its first check. -/
def Span.FirstCheck (interval : Span) (now next : Timestamp) : Prop :=
  if interval.nanos < 1000000 then next = now
  else now ≤ next ∧ next.toNanos < now.toNanos + interval.nanos

/-- Whole milliseconds are rounded toward zero. -/
theorem Span.millis_le_zero_iff {s : Span} : s.millis ≤ 0 ↔ s.nanos < 1000000 := by
  rw [Span.millis, Int.tdiv_eq_ediv]
  split
  · omega
  · rw [show Int.sign 1000000 = 1 by rfl]
    omega

theorem Span.millis_mul_le {s : Span} (nonneg : 0 ≤ s.nanos) : s.millis * 1000000 ≤ s.nanos := by
  rw [Span.millis, Int.tdiv_eq_ediv_of_nonneg nonneg]
  omega

/-- Every first check lies within the coming interval, and in the calendar if the last millisecond
of the interval does. -/
theorem exists_firstCheck {now : Timestamp} {interval : Span} {words : List Nat}
    (inside : now.inRange = true) (small : Jitter.AreWords words)
    (early : now.toNanos + interval.nanos - 1000000 < Timestamp.calendarEnd) :
    ∃ next, (jitteredStart now interval words).1 = some next ∧ interval.FirstCheck now next := by
  simp only [jitteredStart, Span.FirstCheck, Span.millis_le_zero_iff]
  split
  · exact ⟨now, rfl, rfl⟩
  · next long =>
      have whole := interval.millis_mul_le (by omega)
      have positive : 0 < interval.millis := by
        have := Span.millis_le_zero_iff (s := interval)
        omega
      have less := Jitter.below_lt (n := interval.millis.toNat) (by omega) small
      generalize (Jitter.below interval.millis.toNat words).1 = offset at less ⊢
      cases sum : now.add? (.ofMillis offset) with
      | none =>
          have nonneg : 0 ≤ (Span.ofMillis offset).nanos :=
            Int.mul_nonneg (Int.natCast_nonneg _) (by decide)
          have past := (Timestamp.add?_eq_none_iff inside nonneg).mp sum
          simp only [Span.ofMillis] at past
          omega
      | some next =>
          have place := Timestamp.toNanos_of_add? sum
          simp only [Span.ofMillis] at place
          refine ⟨next, rfl, ?_, ?_⟩
          · rw [Timestamp.le_iff]
            omega
          · omega

theorem areWords_jitteredStart {now : Timestamp} {interval : Span} {words : List Nat}
    (small : Jitter.AreWords words) : Jitter.AreWords (jitteredStart now interval words).2 := by
  unfold jitteredStart
  dsimp only
  split
  · exact small
  · exact fun w member => small w (Jitter.mem_of_mem_below member)

/-! ### First checks in the store -/

namespace Store

variable {α τ : Type} {now : Timestamp} {s s' s'' : Store α τ} {q : Probe α} {rest : List (Probe α)}

/-- Some probes got their first check, and nothing else has changed. -/
structure GivesFirst (now : Timestamp) (probes : List (Probe α)) (s s' : Store α τ) : Prop where
  hosts : s'.hosts = s.hosts
  given : ∀ q ∈ probes, ∃ next, q.interval.FirstCheck now next ∧
    s'.probe? q.id = some { q with nextCheck := some next }
  others : ∀ id, (∀ q ∈ probes, q.id ≠ id) → s'.probe? id = s.probe? id

namespace GivesFirst

theorem refl (s : Store α τ) : GivesFirst now [] s s :=
  ⟨rfl, nofun, fun _ _ => rfl⟩

theorem setProbe {next : Timestamp} (first : q.interval.FirstCheck now next) :
    GivesFirst now [q] s (s.setProbe { q with nextCheck := some next }) where
  hosts := rfl
  given := by
    intro other member
    rw [List.mem_singleton.mp member]
    exact ⟨next, first, by simp⟩
  others := by
    intro id different
    have := different q (List.mem_singleton.mpr rfl)
    simp [Ne.symm this]

theorem append {probes probes' : List (Probe α)} (first : GivesFirst now probes s s')
    (second : GivesFirst now probes' s' s'')
    (apart : ∀ a ∈ probes, ∀ b ∈ probes', b.id ≠ a.id) :
    GivesFirst now (probes ++ probes') s s'' where
  hosts := second.hosts.trans first.hosts
  given := by
    intro q member
    obtain here | later := List.mem_append.mp member
    · obtain ⟨next, inside, stored⟩ := first.given q here
      exact ⟨next, inside, (second.others q.id (apart q here)).trans stored⟩
    · exact second.given q later
  others := by
    intro id different
    have before := first.others id fun q here => different q (List.mem_append_left _ here)
    have after := second.others id fun q later => different q (List.mem_append_right _ later)
    exact after.trans before

end GivesFirst

end Store

namespace Scheduler

variable {β τ : Type} {s : Scheduler β τ} {p : Pass β τ} {now : Timestamp} {q : Probe AgentRef}
variable {probes rest : List (Probe AgentRef)}

/-- Whether a probe is to be started: its next check has come and nobody has marked it. -/
def toStart (s : Scheduler β τ) (now : Timestamp) (q : Probe AgentRef) : Bool :=
  !s.isRunning q.id && q.timely now

/-- Whether a probe is to have a first check. -/
def toPlan (s : Scheduler β τ) (now : Timestamp) (q : Probe AgentRef) : Bool :=
  !s.isRunning q.id && q.lapsed now

theorem toStart_iff :
    s.toStart now q = true ↔ q.state now (s.isRunning q.id) = .due := by
  simp [toStart, Probe.state_eq_due_iff_timely]

theorem toPlan_iff :
    s.toPlan now q = true ↔ q.state now (s.isRunning q.id) = .unscheduled := by
  simp [toPlan, Probe.state_eq_unscheduled_iff_lapsed]

/-- The listed records are those of the store, and no first check will break the look for work
off. -/
structure Pass.Current (p : Pass β τ) (now : Timestamp) (probes : List (Probe AgentRef)) :
    Prop where
  going : p.broken = false
  sound : p.scheduler.link.faults = []
  small : Jitter.AreWords p.words
  apart : probes.Pairwise fun a b => a.id ≠ b.id
  stored : ∀ q ∈ probes, p.scheduler.link.store.probe? q.id = some q
  visible : ∀ q ∈ probes, p.scheduler.actor.canAccess q.account = true
  early : ∀ q ∈ probes, p.scheduler.toPlan now q = true →
    now.toNanos + q.interval.nanos - 1000000 < Timestamp.calendarEnd

namespace Pass.Current

theorem getProbe (current : p.Current now probes) (member : q ∈ probes) :
    p.scheduler.link.getProbe p.scheduler.actor q.id = (.ok q, p.scheduler.link) := by
  rw [Link.getProbe, Link.read_of_sound current.sound]
  exact congrArg (·, _) (Store.getProbe_eq_ok_iff.mpr
    ⟨current.stored q member, current.visible q member⟩)

theorem link_plan (current : p.Current now probes) (member : q ∈ probes) (next : Timestamp) :
    (p.scheduler.plan q.id next).link =
      { p.scheduler.link with
        store := p.scheduler.link.store.setProbe { q with nextCheck := some next } } := by
  have granted : p.scheduler.link.store.reschedule p.scheduler.actor q.id next =
      .ok (p.scheduler.link.store.putProbe .updated { q with nextCheck := some next }) :=
    Store.reschedule_eq_ok_iff.mpr
      ⟨q, current.stored q member, current.visible q member, rfl⟩
  simp only [plan, Link.reschedule, Link.change, Link.interrupt_of_sound current.sound, granted,
    Store.putProbe]

/-- A probe that is to be started is, with the record that is listed. -/
theorem starts? (current : p.Current now probes) (member : q ∈ probes) :
    (p.starts? now q).toList = [q].filter (p.scheduler.toStart now) := by
  simp only [Pass.starts?, current.going, true_and, current.getProbe member, ← toStart_iff]
  cases due : p.scheduler.toStart now q with
  | false => simp [due]
  | true =>
      have timely := (Bool.and_eq_true_iff.mp due).2
      simp [due, Probe.state_eq_due_iff_timely, timely]

/-- What a visit does to the store. -/
theorem link_visit (current : p.Current now probes) (inside : now.inRange = true)
    (member : q ∈ probes) :
    (visit now p q).broken = false ∧ ∃ store,
      (visit now p q).scheduler.link = { p.scheduler.link with store } ∧
      Store.GivesFirst now ([q].filter (p.scheduler.toPlan now)) p.scheduler.link.store store := by
  unfold visit
  rw [current.going]
  simp only [Bool.false_eq_true, if_false]
  cases state : q.state now (p.scheduler.isRunning q.id) with
  | running | idle =>
      have known : p.scheduler.toPlan now q = false := by
        simp [Bool.eq_false_iff, toPlan_iff, state]
      simpa [known] using ⟨current.going, _, rfl, .refl _⟩
  | due =>
      have known : p.scheduler.toPlan now q = false := by
        simp [Bool.eq_false_iff, toPlan_iff, state]
      have read := current.getProbe member
      obtain ⟨free, -⟩ := Probe.state_eq_due_iff_timely.mp state
      obtain ⟨probe, -, -, begun⟩ | ⟨-, refused⟩ := startDue_scheduler p now free
      · simpa [begun, read, known, launchAll] using ⟨current.going, _, rfl, .refl _⟩
      · simpa [refused, read, known] using ⟨current.going, _, rfl, .refl _⟩
  | unscheduled =>
      have new := toPlan_iff.mpr state
      obtain ⟨next, first, inside⟩ :=
        exists_firstCheck inside current.small (current.early q member new)
      rcases drawn : jitteredStart now q.interval p.words with ⟨_, words⟩
      rw [drawn] at first
      cases first
      simp only [schedule, drawn, current.link_plan member, List.filter_singleton, new, cond_true]
      exact ⟨current.going, _, rfl, .setProbe inside⟩

/-- The other probes are left alone when one is visited. -/
theorem spares_visit (current : p.Current now (q :: rest)) {other : Probe AgentRef}
    (member : other ∈ rest) : Spares other.id p.scheduler (visit now p q).scheduler := by
  have different := (List.pairwise_cons.mp current.apart).1 other member
  have only : ∀ listed ∈ [q], other.id ≠ listed.id := by
    intro listed here
    rw [List.mem_singleton.mp here]
    exact different.symm
  exact Spares.visitAll p now only

theorem filter_toStart (current : p.Current now (q :: rest)) :
    rest.filter ((visit now p q).scheduler.toStart now) =
      rest.filter (p.scheduler.toStart now) :=
  List.filter_congr fun other member => by
    rw [toStart, toStart, (current.spares_visit member).mark]

theorem filter_toPlan (current : p.Current now (q :: rest)) :
    rest.filter ((visit now p q).scheduler.toPlan now) =
      rest.filter (p.scheduler.toPlan now) :=
  List.filter_congr fun other member => by
    rw [toPlan, toPlan, (current.spares_visit member).mark]

theorem visit (current : p.Current now (q :: rest)) (inside : now.inRange = true) :
    (visit now p q).Current now rest := by
  obtain ⟨going, store, link, -⟩ := current.link_visit inside List.mem_cons_self
  have others {other : Probe AgentRef} (member : other ∈ rest) := current.spares_visit member
  have actor : (Scheduler.visit now p q).scheduler.actor = p.scheduler.actor := by
    rw [(visit_scheduler p now q).1]
    rfl
  refine ⟨going, ?_, ?_, (List.pairwise_cons.mp current.apart).2, ?_, ?_, ?_⟩
  · rw [link]
    exact current.sound
  · rw [words_visit current.going]
    split
    · exact areWords_jitteredStart current.small
    · exact current.small
  · intro other member
    exact (others member).record.trans (current.stored other (List.mem_cons_of_mem _ member))
  · intro other member
    rw [actor]
    exact current.visible other (List.mem_cons_of_mem _ member)
  · intro other member new
    refine current.early other (List.mem_cons_of_mem _ member) ?_
    rwa [toPlan, (others member).mark] at new

/-- All that comes of dealing with listed probes in turn. -/
theorem visitAll (current : p.Current now probes) (inside : now.inRange = true) :
    (probes.foldl (Scheduler.visit now) p).broken = false ∧
      startsOf now probes p = probes.filter (p.scheduler.toStart now) ∧
      ∃ store,
        (probes.foldl (Scheduler.visit now) p).scheduler.link = { p.scheduler.link with store } ∧
        Store.GivesFirst now (probes.filter (p.scheduler.toPlan now)) p.scheduler.link.store
          store := by
  induction probes generalizing p with
  | nil => exact ⟨current.going, rfl, _, rfl, .refl _⟩
  | cons q rest ih =>
      obtain ⟨-, store, link, first⟩ := current.link_visit inside List.mem_cons_self
      obtain ⟨going, starts, store', link', more⟩ := ih (current.visit inside)
      rw [current.filter_toStart] at starts
      rw [current.filter_toPlan, link] at more
      rw [link] at link'
      refine ⟨going, ?_, store', link', ?_⟩
      · rw [startsOf, starts, current.starts? List.mem_cons_self, ← List.filter_append]
        rfl
      · have split : (q :: rest).filter (p.scheduler.toPlan now) =
            [q].filter (p.scheduler.toPlan now) ++ rest.filter (p.scheduler.toPlan now) := by
          rw [← List.filter_append]
          rfl
        rw [split]
        refine first.append more fun a here b later => ?_
        rw [List.mem_singleton.mp (List.mem_of_mem_filter here)]
        exact ((List.pairwise_cons.mp current.apart).1 b (List.mem_of_mem_filter later)).symm

end Pass.Current

/-- A look for work that goes by some records, whatever is stored. -/
def dispatchIn (s : Scheduler β τ) (now : Timestamp) (words : List Nat)
    (records : List (Probe AgentRef)) : Pass β τ :=
  records.foldl (visit now) { scheduler := s, words }

/-- The records are read over the link, which may be left with a fault less. -/
theorem dispatch_eq_dispatchIn (s : Scheduler β τ) (now : Timestamp) (words : List Nat) :
    s.dispatch now words =
      { s with link := (s.link.listProbes s.actor .all).2 }.dispatchIn now words s.listing :=
  s.dispatch_eq_foldl now words

/-- What is known of the probes that a look for work starts, whatever it goes by. -/
structure StartsDue (s : Scheduler β τ) (now : Timestamp) (words : List Nat)
    (records started : List (Probe AgentRef)) : Prop where
  count : (s.dispatchIn now words records).started = started.length
  scheduler : (s.dispatchIn now words records).scheduler =
    s.launchAll (s.dispatchIn now words records).scheduler.link started
  once : started.Pairwise fun a b => a.id ≠ b.id
  free : ∀ q ∈ started, s.isRunning q.id = false
  timely : ∀ q ∈ started, q.timely now = true
  /-- The record is the one that was stored when the look for work came to the probe. -/
  reread : ∀ q ∈ started, ∃ before, before <+: records ∧
    (s.dispatchIn now words before).scheduler.link.store.probe? q.id = some q
  stored : (records.Pairwise fun a b => a.id ≠ b.id) → ∀ q ∈ started,
    s.link.store.probe? q.id = some q

theorem startsDue (s : Scheduler β τ) (now : Timestamp) (words : List Nat)
    (records : List (Probe AgentRef)) :
    s.StartsDue now words records (startsOf now records { scheduler := s, words }) where
  count := by
    rw [dispatchIn, (visitAll_scheduler records _).2, Nat.zero_add]
  scheduler := (visitAll_scheduler records _).1
  once := startsOf_pairwise records _
  free _ member := free_of_mem_startsOf (p := { scheduler := s, words }) member
  timely q member := by
    obtain ⟨before, listed, later, -, starts⟩ := mem_startsOf member
    exact (Pass.of_starts? starts).2.2.2.2
  reread q member := by
    obtain ⟨before, listed, later, rfl, starts⟩ := mem_startsOf member
    exact ⟨before, List.prefix_append .., (Pass.of_starts? starts).2.2.1⟩
  stored apart q member := stored_of_mem_startsOf (p := { scheduler := s, words }) apart member

/-- What a look for work does when it goes by what is stored, in any order: it starts just the
visible probes that are due and not marked, once each, and marks them; it gives a first check to
those that have no next check or fell too far behind; and it does nothing else. Whatever else it
goes by, a probe that it starts is due by what is stored. -/
theorem dispatch_exact (sound : s.link.faults = []) (inside : now.inRange = true)
    {words : List Nat} (small : Jitter.AreWords words)
    (listed : probes.Perm (s.link.store.listProbes s.actor .all))
    (early : ∀ q ∈ probes, s.toPlan now q = true →
      now.toNanos + q.interval.nanos - 1000000 < Timestamp.calendarEnd) :
    let pass := s.dispatchIn now words probes
    let due := probes.filter (s.toStart now)
    (s.listing = probes → s.dispatch now words = pass) ∧
    pass.broken = false ∧ pass.started = due.length ∧ (due.Pairwise fun a b => a.id ≠ b.id) ∧
    (∃ store, pass.scheduler = s.launchAll { s.link with store } due ∧
      Store.GivesFirst now (probes.filter (s.toPlan now)) s.link.store store) ∧
    ∀ (t : Scheduler β τ) (later : Timestamp) (words : List Nat),
      (t.dispatch later words =
        { t with link := (t.link.listProbes t.actor .all).2 }.dispatchIn later words t.listing ∧
        t.listing.Pairwise fun a b => a.id ≠ b.id) ∧
      ∀ records, ∃ started, t.StartsDue later words records started := by
  intro pass due
  have current : Pass.Current { scheduler := s, words } now probes :=
    { going := rfl
      sound
      small
      apart := listed.symm.pairwise (s.link.store.listProbes_pairwise s.actor .all) Ne.symm
      stored := fun q member => s.link.store.probes_filed.get?_of_mem_values
        (List.mem_of_mem_filter (listed.mem_iff.mp member))
      visible := fun q member =>
        (Bool.and_eq_true_iff.mp (List.mem_filter.mp (listed.mem_iff.mp member)).2).1
      early }
  obtain ⟨going, starts, store, link, first⟩ := current.visitAll inside
  have begun := s.startsDue now words probes
  rw [starts] at begun
  refine ⟨?_, going, begun.count, begun.once, ⟨store, ?_, first⟩, fun t later words => ⟨⟨?_, ?_⟩,
    fun records => ⟨_, t.startsDue later words records⟩⟩⟩
  · intro same
    rw [dispatch_eq_dispatchIn, same, Link.listProbes, Link.read_of_sound sound]
  · rw [begun.scheduler]
    exact congrArg (s.launchAll · due) link
  · exact t.dispatch_eq_dispatchIn later words
  · exact t.listing_pairwise

/-- A probe that runs every minute. -/
def everyMinute (id : String) (nextCheck : Option Timestamp) : Probe AgentRef :=
  { id, account := "a", hostId := "web", agent := { number := 0, spec := { kind := "load" } }
    interval := .ofMillis 60000, nextCheck }

/-- Probes that are due since now and since two intervals, one that fell behind by a nanosecond more
and one that has half a millisecond to go, one that is new and runs more than once a millisecond,
one that is being run, and one of another account. -/
def crowd : List (Probe AgentRef) :=
  [everyMinute "due" (some ⟨1700000000, 0⟩), everyMinute "last" (some ⟨1699999880, 0⟩),
    everyMinute "late" (some ⟨1699999879, 999999999⟩),
    everyMinute "soon" (some ⟨1700000000, 500000⟩),
    { everyMinute "new" none with interval := ⟨500000⟩ },
    everyMinute "busy" (some ⟨1700000000, 0⟩),
    { everyMinute "other" (some ⟨1700000000, 0⟩) with account := "b" }]

/-- A scheduler for the first account. -/
def crowded : Scheduler Agent Transport :=
  let host : Host Transport :=
    { id := "web", account := "a", name := "web", transport := .thisMachine }
  { link := { store := (Store.performAll .empty
      ((.system, .addHost host) :: crowd.map fun q => (.system, .addProbe q))).store }
    actor := .account "a", forwarder := { maxRetries := 0, backoffMillis := 0 }
    inFlight := ["busy"] }

/-- Two of the probes are started, and two others get a first check: one of them some time in the
coming minute, the other one now. -/
theorem dispatch_crowded :
    let now : Timestamp := ⟨1700000000, 0⟩
    let pass := crowded.dispatch now [12345678901234567890]
    pass.started = 2 ∧ pass.scheduler.inFlight = ["last", "due", "busy"] ∧
      ∃ store, pass.scheduler.link = { crowded.link with store } ∧
        Store.GivesFirst now
          [everyMinute "late" (some ⟨1699999879, 999999999⟩),
            { everyMinute "new" none with interval := ⟨500000⟩ }]
          crowded.link.store store := by
  intro now pass
  have all : crowded.listing = crowded.link.store.listProbes crowded.actor .all := by
    with_unfolding_all rfl
  have due : crowded.listing.filter (crowded.toStart now) =
      [everyMinute "due" (some ⟨1700000000, 0⟩), everyMinute "last" (some ⟨1699999880, 0⟩)] := by
    with_unfolding_all rfl
  have new : crowded.listing.filter (crowded.toPlan now) =
      [everyMinute "late" (some ⟨1699999879, 999999999⟩),
        { everyMinute "new" none with interval := ⟨500000⟩ }] := by
    with_unfolding_all rfl
  have small : Jitter.AreWords [12345678901234567890] := by
    simp [Jitter.AreWords, Word.count64]
  have early : ∀ q ∈ crowded.listing, crowded.toPlan now q = true →
      now.toNanos + q.interval.nanos - 1000000 < Timestamp.calendarEnd := by decide
  obtain ⟨same, -, count, -, ⟨store, scheduler, first⟩, -⟩ :=
    dispatch_exact (s := crowded) rfl (by decide : now.inRange = true) small (.of_eq all) early
  rw [due] at count scheduler
  rw [new] at first
  have whole : pass = crowded.dispatchIn now _ crowded.listing := same rfl
  rw [whole, count, scheduler]
  exact ⟨rfl, rfl, store, rfl, first⟩

end Scheduler

end Hostwatch
