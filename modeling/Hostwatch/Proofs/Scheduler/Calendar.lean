import Hostwatch.Proofs.Scheduler.FreshListing
import Hostwatch.Proofs.Scheduler.Pacing
import Hostwatch.Server.Seed

/-!
# The end of the calendar

Three times are computed from an interval: the first check of a new probe, the next check after a
run, and the check to which a probe without a host is put off. Intervals are not bounded by the
calendar, so each of the three sums can lie beyond it, and then whatever computes it breaks off. A
look for work that breaks off leaves all probes after that one alone.

Below is what decides it. A first check is drawn from the coming interval, so some draw breaks the
look for work off exactly if the last millisecond of that interval lies beyond the calendar. The end
of a run has no draw, so the interval itself decides.
-/

namespace Hostwatch

namespace Timestamp

/-- The first nanosecond after the calendar. -/
def calendarEnd : Int := (lastSecond + 1) * 1000000000

theorem add?_eq_none_iff {t : Timestamp} {s : Span} (inside : t.inRange = true)
    (nonneg : 0 ≤ s.nanos) : t.add? s = none ↔ calendarEnd ≤ t.toNanos + s.nanos := by
  rw [inRange_iff] at inside
  have early : firstSecond * 1000000000 ≤ t.toNanos := by
    unfold toNanos
    omega
  have sum : (ofNanos (t.toNanos + s.nanos)).inRange = true ↔
      t.toNanos + s.nanos < calendarEnd := by
    simp only [inRange_iff, ofNanos, calendarEnd]
    omega
  simp only [add?, ite_eq_right_iff, reduceCtorEq, imp_false, sum, Int.not_lt]

end Timestamp

/-! ### Drawing a first check -/

namespace Jitter

/-- Words of 64 bits. -/
def AreWords (words : List Nat) : Prop :=
  ∀ w ∈ words, w < Word.count64

theorem below_lt {n : Nat} (positive : 0 < n) {words : List Nat} (small : AreWords words) :
    (below n words).1 < n := by
  induction words with
  | nil => exact positive
  | cons w rest ih =>
      unfold below
      split
      · refine Nat.div_lt_of_lt_mul ?_
        exact Nat.mul_lt_mul_of_pos_right (small w List.mem_cons_self) positive
      · exact ih fun v member => small v (List.mem_cons_of_mem _ member)

/-- A word whose product has a low half below `n` is accepted. -/
theorem below_cons {n w : Nat} (low : w * n % Word.count64 < n) (rest : List Nat) :
    below n (w :: rest) = (w * n / Word.count64, rest) := by
  have accepted : w * n % Word.count64 ≤ zone n := by
    have whole : n ≤ n * Word.pow2 (63 - Nat.log2 n) :=
      Nat.le_mul_of_pos_right n (Nat.pow_pos (by decide))
    unfold zone
    omega
  rw [below, if_pos accepted]

theorem mem_of_mem_below {n w : Nat} {words : List Nat} (member : w ∈ (below n words).2) :
    w ∈ words := by
  induction words with
  | nil => exact member
  | cons v rest ih =>
      unfold below at member
      split at member
      · exact List.mem_cons_of_mem _ member
      · exact List.mem_cons_of_mem _ (ih member)

theorem below_zero {n : Nat} (positive : 0 < n) (rest : List Nat) :
    below n (0 :: rest) = (0, rest) := by
  rw [below_cons (by simpa using positive)]
  simp

/-- Every number below `n` can be drawn, in particular the greatest. -/
theorem exists_below_eq {n k : Nat} (smaller : k < n) (size : n ≤ Word.count64) :
    ∃ w < Word.count64, below n [w] = (k, []) := by
  -- the least word whose product has `k` in its high half
  let w := (k * Word.count64 + n - 1) / n
  have positive : 0 < n := by omega
  have divided := Nat.div_add_mod (k * Word.count64 + n - 1) n
  have rest := Nat.mod_lt (k * Word.count64 + n - 1) positive
  have split : w * n = k * Word.count64 + (w * n - k * Word.count64) ∧
      w * n - k * Word.count64 < n := by
    rw [Nat.mul_comm w n]
    change n * w + _ = _ at divided
    omega
  have room : k * Word.count64 + n ≤ n * Word.count64 := by
    have step : (k + 1) * Word.count64 ≤ n * Word.count64 :=
      Nat.mul_le_mul_right _ (Nat.succ_le_of_lt smaller)
    rw [Nat.add_mul] at step
    omega
  have low : w * n % Word.count64 = w * n - k * Word.count64 := by
    rw [split.1, Nat.add_comm, Nat.add_mul_mod_self_right, Nat.mod_eq_of_lt (by omega)]
    omega
  have high : w * n / Word.count64 = k := by
    rw [split.1, Nat.add_comm, Nat.add_mul_div_right _ _ (by decide),
      Nat.div_eq_of_lt (by omega), Nat.zero_add]
  refine ⟨w, ?_, ?_⟩
  · refine Nat.lt_of_mul_lt_mul_right (a := n) ?_
    rw [Nat.mul_comm Word.count64]
    omega
  · rw [below_cons (by omega), high]

end Jitter

/-- An interval that a configuration or a record can give a probe, if it is not zero. -/
inductive Span.Configured : Span → Prop where
  | seed {seconds : Nat} {i : Span} :
    0 < seconds → Seeding.interval? seconds = some i → Configured i
  | record {millis : Nat} : 0 < millis → Configured (Probe.intervalOfMillis millis)

/-- Such an interval is a whole number of milliseconds that a signed word can count. -/
theorem Span.Configured.exists_millis {i : Span} (configured : i.Configured) :
    ∃ n : Nat, 0 < n ∧ n ≤ Word.count64 ∧ i = .ofMillis n := by
  cases configured with
  | @seed seconds i positive made =>
      unfold Seeding.interval? Span.ofSeconds? Span.ofNanos? at made
      simp only [Bool.and_eq_true, decide_eq_true_eq, Option.ite_none_right_eq_some,
        Option.some.injEq] at made
      obtain ⟨⟨-, fits⟩, rfl⟩ := made
      simp only [Span.limit, Span.wordMax, Word.greatest] at fits ⊢
      refine ⟨1000 * seconds, ?_, ?_, ?_⟩
      · omega
      · unfold Word.count64
        omega
      · simp only [Span.ofMillis, Span.mk.injEq]
        omega
  | @record millis positive =>
      refine ⟨min millis Word.greatest.toNat, ?_, ?_, ?_⟩
      · simp only [Word.greatest]
        omega
      · simp only [Word.greatest, Word.count64]
        omega
      · simp only [Probe.intervalOfMillis, Span.wordMax, Word.greatest]
        congr 1
        omega

theorem Span.Configured.nanos_pos {i : Span} (configured : i.Configured) : 0 < i.nanos := by
  obtain ⟨n, positive, -, rfl⟩ := configured.exists_millis
  simp only [Span.ofMillis]
  omega

theorem jitteredStart_ofMillis {n : Nat} (positive : 0 < n) (now : Timestamp) (words : List Nat) :
    jitteredStart now (.ofMillis n) words =
      (now.add? (.ofMillis (Jitter.below n words).1), (Jitter.below n words).2) := by
  have millis : (Span.ofMillis n).millis = n := by
    simp [Span.millis, Span.ofMillis, Int.mul_tdiv_cancel]
  simp only [jitteredStart, millis, Int.toNat_natCast]
  rw [if_neg (by omega)]

/-- Reading a probe computes no time. -/
theorem Store.getProbe_ne_beyondCalendar {α τ : Type} {s : Store α τ} {actor : Actor}
    {id : String} : s.getProbe actor id ≠ .error .beyondCalendar := by
  unfold getProbe findProbe
  cases s.probe? id with
  | none => simp [bind, Except.bind]
  | some q =>
      cases granted : actor.canAccess q.account with
      | false => simp [checkAccess, granted, bind, Except.bind]
      | true => simp [checkAccess, granted, bind, Except.bind, pure, Except.pure]

namespace Scheduler

variable {β τ : Type} {s : Scheduler β τ} {now : Timestamp}

/-! ### Looking for work -/

/-- Whether all first checks lie in the calendar that are drawn for several probes in turn. -/
def drawnInside (now : Timestamp) : List (Probe AgentRef) → List Nat → Bool
  | [], _ => true
  | q :: rest, words =>
    (jitteredStart now q.interval words).1.isSome &&
      drawnInside now rest (jitteredStart now q.interval words).2

/-- Whether a look for work takes a listed probe for new. -/
def isNew (s : Scheduler β τ) (now : Timestamp) (q : Probe AgentRef) : Bool :=
  q.state now (s.isRunning q.id) = .unscheduled

theorem broken_visit {p : Pass β τ} {q : Probe AgentRef} (going : p.broken = false) :
    (visit now p q).broken =
      (p.scheduler.isNew now q && (jitteredStart now q.interval p.words).1.isNone) := by
  unfold visit isNew
  rw [going]
  cases state : q.state now (p.scheduler.isRunning q.id) with
  | running | idle => simpa using going
  | due =>
      simp only [Bool.false_eq_true, if_false, startDue]
      split
      · simpa using going
      · simpa using going
  | unscheduled =>
      simp only [Bool.false_eq_true, if_false, schedule]
      cases first : jitteredStart now q.interval p.words with
      | mk next words =>
          cases next with
          | none => rfl
          | some next => simpa using going

theorem words_visit {p : Pass β τ} {q : Probe AgentRef} (going : p.broken = false) :
    (visit now p q).words =
      if p.scheduler.isNew now q then (jitteredStart now q.interval p.words).2 else p.words := by
  unfold visit isNew
  rw [going]
  cases state : q.state now (p.scheduler.isRunning q.id) with
  | running | idle => simp
  | due =>
      simp only [Bool.false_eq_true, if_false, startDue]
      split
      · simp
      · simp
  | unscheduled =>
      simp only [Bool.false_eq_true, if_false, schedule]
      cases first : jitteredStart now q.interval p.words with
      | mk next words =>
          cases next with
          | none => simp
          | some next => simp

/-- Which probes are new does not change when another one is visited. -/
theorem filter_isNew_visit {p : Pass β τ} {q : Probe AgentRef} {rest : List (Probe AgentRef)}
    (others : ∀ other ∈ rest, q.id ≠ other.id) :
    rest.filter ((visit now p q).scheduler.isNew now) =
      rest.filter (p.scheduler.isNew now) := by
  refine List.filter_congr fun other member => ?_
  have absent : ∀ listed ∈ [q], other.id ≠ listed.id := fun listed here => by
    rw [List.mem_singleton.mp here]
    exact Ne.symm (others other member)
  have spares : Spares other.id p.scheduler ([q].foldl (visit now) p).scheduler :=
    .visitAll p now absent
  rw [isNew, isNew, ← spares.mark, List.foldl_cons, List.foldl_nil]

/-- Only the first checks of new probes can break a look for work off. No probe is listed twice, so
the marks that count are those at its beginning. -/
theorem broken_visitAll {p : Pass β τ} (going : p.broken = false) {probes : List (Probe AgentRef)}
    (apart : probes.Pairwise fun a b => a.id ≠ b.id) :
    (probes.foldl (visit now) p).broken =
      !drawnInside now (probes.filter (p.scheduler.isNew now)) p.words := by
  induction probes generalizing p with
  | nil => simpa [drawnInside] using going
  | cons q rest ih =>
      obtain ⟨others, apart⟩ := List.pairwise_cons.mp apart
      have marks : rest.filter ((visit now p q).scheduler.isNew now) =
          rest.filter (p.scheduler.isNew now) := filter_isNew_visit others
      have visited : (visit now p q).broken = _ := broken_visit going
      have left : (visit now p q).words = _ := words_visit going
      rw [List.foldl_cons, List.filter_cons]
      cases new : p.scheduler.isNew now q with
      | false =>
          rw [new] at visited left
          rw [ih visited apart, marks, left]
          simp
      | true =>
          rw [new, Bool.true_and] at visited
          rw [new, if_pos rfl] at left
          simp only [if_true, drawnInside]
          cases first : (jitteredStart now q.interval p.words).1 with
          | none =>
              rw [first] at visited
              rw [visitAll_of_broken visited]
              simpa using visited
          | some next =>
              rw [first] at visited
              rw [ih visited apart, marks, left]
              simp

theorem broken_dispatch (s : Scheduler β τ) (now : Timestamp) (words : List Nat) :
    (s.dispatch now words).broken =
      !drawnInside now (s.listing.filter (s.isNew now)) words := by
  rw [dispatch_eq_foldl]
  exact broken_visitAll rfl s.listing_pairwise

/-- The last moment at which the first check of a new probe can be is one millisecond before the
end of the coming interval. -/
theorem drawnInside_iff (inside : now.inRange = true) {probes : List (Probe AgentRef)}
    (configured : ∀ q ∈ probes, q.interval.Configured) :
    (∀ words, Jitter.AreWords words → drawnInside now probes words = true) ↔
      ∀ q ∈ probes, now.toNanos + q.interval.nanos - 1000000 < Timestamp.calendarEnd := by
  induction probes with
  | nil => simp [drawnInside]
  | cons q rest ih =>
      obtain ⟨n, positive, size, interval⟩ :=
        (configured q List.mem_cons_self).exists_millis
      have later := ih fun other member => configured other (List.mem_cons_of_mem _ member)
      have drawn (words : List Nat) := jitteredStart_ofMillis positive now words
      have length : q.interval.nanos = n * 1000000 := by rw [interval, Span.ofMillis]
      have past (k : Nat) : now.add? (.ofMillis k) = none ↔
          Timestamp.calendarEnd ≤ now.toNanos + k * 1000000 :=
        Timestamp.add?_eq_none_iff inside (by simp only [Span.ofMillis]; omega)
      rw [List.forall_mem_cons, ← later]
      simp only [drawnInside, interval, drawn, Bool.and_eq_true, ← Option.ne_none_iff_isSome]
      constructor
      · intro all
        constructor
        · -- the greatest number below `n` is drawn
          obtain ⟨w, small, greatest⟩ :=
            Jitter.exists_below_eq (Nat.sub_lt positive Nat.one_pos) size
          have drawn := (all [w] (by simpa [Jitter.AreWords] using small)).1
          rw [greatest, Ne, past] at drawn
          simp only [Span.ofMillis]
          omega
        · -- the first probe takes a word of its own, and the others have the rest
          intro words small
          have drawn := (all (0 :: words) (by
            intro w member
            rcases List.mem_cons.mp member with rfl | member
            · decide
            · exact small w member)).2
          rwa [Jitter.below_zero positive] at drawn
      · rintro ⟨early, rest⟩ words small
        constructor
        · have less := Jitter.below_lt positive small
          rw [Ne, past]
          simp only [Span.ofMillis] at early
          omega
        · refine rest _ fun w member => small w ?_
          exact Jitter.mem_of_mem_below member

/-! ### The end of a run -/

/-- Whether the step breaks off with which a run would end at `finish`. A run that waits for its
host puts its probe off by the interval that it started with; a run that has gathered records the
outcome, and the interval is that of the record by now. -/
def endBreaksOff (s : Scheduler β τ) (id : String) (finish : Timestamp) : Bool :=
  match s.run? id with
  | some { probe, phase := .postponing } => (finish.add? probe.interval).isNone
  | some { phase := .recording _ points, .. } =>
    match (s.link.recordRun s.actor id finish points).1 with
    | .error .beyondCalendar => true
    | _ => false
  | _ => false

/-- The interval by which the step that ends a run moves the next check on, if it does. -/
def endInterval? (s : Scheduler β τ) (id : String) : Option Span :=
  match s.run? id with
  | some { probe, phase := .postponing } => some probe.interval
  | some { phase := .recording .., .. } =>
    (s.link.store.getProbe s.actor id).toOption.map (·.interval)
  | _ => none

theorem endBreaksOff_eq (sound : s.link.faults = []) (id : String) (finish : Timestamp) :
    s.endBreaksOff id finish = (s.endInterval? id).any fun i => (finish.add? i).isNone := by
  unfold endBreaksOff endInterval?
  cases s.run? id with
  | none => rfl
  | some r =>
      obtain ⟨probe, phase⟩ := r
      cases phase with
      | starting | gathering | forwarding => rfl
      | postponing => rfl
      | recording host points =>
          dsimp only
          rw [s.link.recordRun_of_sound sound]
          cases read : s.link.store.getProbe s.actor id with
          | error e =>
              have other : e ≠ .beyondCalendar := by
                rintro rfl
                exact Store.getProbe_ne_beyondCalendar read
              rw [Store.recordRun_eq_error read]
              cases e with
              | beyondCalendar => exact absurd rfl other
              | notFound | accessDenied | alreadyExists | registry | json => rfl
          | ok q =>
              obtain ⟨stored, granted⟩ := Store.getProbe_eq_ok_iff.mp read
              rw [Store.recordRun_eq stored granted]
              cases sum : finish.add? q.interval with
              | none => simp [Except.toOption, sum]
              | some next => simp [Except.toOption, sum]

/-- The intervals that the scheduler works with come from configurations and records. -/
structure Configured (s : Scheduler β τ) : Prop where
  listed : ∀ q ∈ s.listing, q.interval.Configured
  stored : ∀ entry ∈ s.link.store.probes, entry.2.interval.Configured
  run : ∀ r ∈ s.runs, r.probe.interval.Configured

theorem Configured.end (configured : s.Configured) {id : String} {i : Span}
    (moves : s.endInterval? id = some i) : i.Configured := by
  unfold endInterval? at moves
  split at moves
  · next probe found =>
      cases moves
      exact configured.run _ (List.mem_of_find?_eq_some found)
  · next found =>
      cases read : s.link.store.getProbe s.actor id with
      | error e =>
          rw [read] at moves
          cases moves
      | ok q =>
          rw [read] at moves
          cases moves
          obtain ⟨stored, -⟩ := Store.getProbe_eq_ok_iff.mp read
          exact configured.stored _ (Table.mem_of_get? stored)
  · cases moves

/-- What the scheduler does breaks off only when a time comes to lie beyond the calendar. A look for
work breaks off with some random words exactly if the coming interval of a new probe is not over by
then, save its last millisecond; the end of a run, exactly if the interval that it moves the next
check by is not. -/
theorem breaks_off_only_beyond_calendar {finish : Timestamp} (configured : s.Configured)
    (sound : s.link.faults = []) (started : now.inRange = true) (ended : finish.inRange = true) :
    ((∀ words, Jitter.AreWords words → (s.dispatch now words).broken = false) ↔
      ∀ q ∈ s.listing, s.isNew now q = true →
        now.toNanos + q.interval.nanos - 1000000 < Timestamp.calendarEnd) ∧
    ∀ id, s.endBreaksOff id finish = false ↔
      ∀ i ∈ s.endInterval? id, finish.toNanos + i.nanos < Timestamp.calendarEnd := by
  constructor
  · have early := drawnInside_iff started fun q member =>
      configured.listed q (List.mem_of_mem_filter (p := s.isNew now) member)
    simp only [broken_dispatch, Bool.not_eq_false', early, List.mem_filter, and_imp]
  · intro id
    rw [endBreaksOff_eq sound]
    cases moves : s.endInterval? id with
    | none => simp
    | some i =>
        have nonneg := Int.le_of_lt (configured.end moves).nanos_pos
        have past := Timestamp.add?_eq_none_iff ended nonneg
        simp only [Option.any_some, Option.isNone_eq_false_iff, ← Option.ne_none_iff_isSome,
          Ne, past, Int.not_le, Option.mem_some_iff, forall_eq']

end Scheduler

namespace World

/-- The run of a probe that was just added has gathered. -/
def gatheredEvery (millis : Int) : Scheduler Agent Transport :=
  ((addedEvery millis).run gathersOnce).scheduler

theorem addedEvery_configured {millis : Int} (configured : (Span.ofMillis millis).Configured) :
    (addedEvery millis).scheduler.Configured where
  listed q member := by
    have only : (addedEvery millis).scheduler.listing = [newEvery millis] := by
      with_unfolding_all rfl
    rw [only] at member
    rw [List.mem_singleton.mp member]
    exact configured
  stored entry member := by
    have only : (addedEvery millis).scheduler.link.store.probes = [("load", newEvery millis)] := by
      with_unfolding_all rfl
    rw [only] at member
    rw [List.mem_singleton.mp member]
    exact configured
  run r member := by
    have idle : (addedEvery millis).scheduler.runs = [] := by with_unfolding_all rfl
    rw [idle] at member
    exact absurd member List.not_mem_nil

/-- A daily probe is planned, run and recorded within the next millennia. -/
theorem daily_never_breaks_off :
    let planned := (addedEvery 86400000).scheduler
    let gathered := gatheredEvery 86400000
    (∀ words, Jitter.AreWords words → (planned.dispatch ⟨1700000000, 0⟩ words).broken = false) ∧
      gathered.endBreaksOff "load" ⟨253402300799, 0⟩ = false := by
  intro planned gathered
  have daily : (Span.ofMillis 86400000).Configured := .seed (by decide : 0 < 86400) (by decide)
  have added : planned.Configured := addedEvery_configured daily
  have listed : ∀ q ∈ gathered.listing, q.interval = .ofMillis 86400000 := by decide
  have stored : ∀ entry ∈ gathered.link.store.probes,
    entry.2.interval = .ofMillis 86400000 := by decide
  have run : ∀ r ∈ gathered.runs, r.probe.interval = .ofMillis 86400000 := by decide
  have configured : gathered.Configured :=
    ⟨fun q member => listed q member ▸ daily, fun entry member => stored entry member ▸ daily,
      fun r member => run r member ▸ daily⟩
  have today : (⟨1700000000, 0⟩ : Timestamp).inRange = true := by decide
  have later : (⟨253402300799, 0⟩ : Timestamp).inRange = true := by decide
  constructor
  · refine (Scheduler.breaks_off_only_beyond_calendar added rfl today later).1.mpr ?_
    decide
  · refine ((Scheduler.breaks_off_only_beyond_calendar configured rfl today later).2
      "load").mpr ?_
    decide

/-- With the longest interval that a record can have, the greatest word takes the first check of the
probe beyond the calendar, and a run breaks off whenever it is recorded. -/
theorem longest_interval_breaks_off :
    let planned := (addedEvery 9223372036854775807).scheduler
    let gathered := gatheredEvery 9223372036854775807
    planned.Configured ∧
      (planned.dispatch ⟨1700000000, 0⟩ [18446744073709551615]).broken = true ∧
      gathered.endInterval? "load" = some (Probe.intervalOfMillis 9223372036854775807) ∧
      gathered.endBreaksOff "load" ⟨1700000000, 0⟩ = true := by
  have longest : (Span.ofMillis 9223372036854775807).Configured :=
    .record (by decide : 0 < 9223372036854775807)
  exact ⟨addedEvery_configured longest, by decide⟩

end World

end Hostwatch
