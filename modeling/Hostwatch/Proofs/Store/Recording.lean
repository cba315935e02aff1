import Hostwatch.Proofs.Store.Operations

/-!
# Recording a run

The outcome of a run is three things: when it ended, when the next one is due, and what it found.
They belong together, so they should be stored together or not at all. They are, unless the next
check lies beyond the calendar: the time of the run is stored before the next check is computed, and
when that comes to nothing, the time stays. An attempt is refused, carried out whole, or leaves a
fragment; each has a lemma, and `recorded_whole_or_not_at_all_iff` says when it is which.
-/

namespace Hostwatch

namespace Store

variable {α τ : Type} {s : Store α τ} {id : String}

/-- Filing what is filed already changes nothing. -/
theorem setProbe_self {p : Probe α} (found : s.probe? id = some p) : s.setProbe p = s := by
  refine eq_of_probes rfl fun other => ?_
  rw [probe?_setProbe]
  split
  · next own => rw [own, id_of_probe? found, found]
  · rfl

/-- The time of a run makes no difference to a probe exactly if it is stored already. -/
theorem setProbe_lastCheck_iff {p : Probe α} {time : Timestamp} (found : s.probe? id = some p) :
    s.setProbe { p with lastCheck := some time } = s ↔ p.lastCheck = some time := by
  constructor
  · intro same
    have filed : (s.setProbe { p with lastCheck := some time }).probe? id =
        some { p with lastCheck := some time } := by
      rw [probe?_setProbe, if_pos (id_of_probe? found).symm]
    rw [same, found] at filed
    exact congrArg Probe.lastCheck (Option.some.inj filed)
  · intro stored
    rw [← stored]
    exact setProbe_self found

/-! ### What can come of an attempt -/

namespace Outcome

/-- The run is recorded whole: the probe has its time, the check one stored interval later and what
was found, the new record is announced, and nothing else is different. -/
def IsWhole [Plugin α] (o : Outcome α τ) (s : Store α τ) (id : String) (time : Timestamp)
    (points : Option (List Point)) : Prop :=
  ∃ p next, s.probe? id = some p ∧ time.add? p.interval = some next ∧
    let recorded : Probe α :=
      { p with lastCheck := some time, nextCheck := some next, lastPoints := points }
    o.store = s.setProbe recorded ∧ o.events = [⟨.probe, .updated, recorded.toJson⟩]

/-- Nothing is changed and nothing is announced. -/
def IsNothing (o : Outcome α τ) (s : Store α τ) : Prop :=
  o.store = s ∧ o.events = []

/-- Of the record of a run only the time is stored, beside the next check and the points of an
earlier run, and nobody is told. -/
def IsFragment (o : Outcome α τ) (s : Store α τ) (id : String) (time : Timestamp) : Prop :=
  ∃ p, s.probe? id = some p ∧ p.lastCheck ≠ some time ∧
    o.store = s.setProbe { p with lastCheck := some time } ∧ o.events = []

theorem IsFragment.not_nothing {o : Outcome α τ} {time : Timestamp}
    (fragment : o.IsFragment s id time) : ¬ o.IsNothing s := by
  obtain ⟨p, found, new, stored, -⟩ := fragment
  rintro ⟨same, -⟩
  rw [stored, setProbe_lastCheck_iff found] at same
  exact new same

end Outcome

variable [Plugin α] [Plugin τ] {actor : Actor} {time : Timestamp} {p : Probe α}

/-- An attempt to record a run of a probe that the actor does not see does nothing. -/
theorem recordRun_of_refused {e : StoreError} (refused : s.getProbe actor id = .error e)
    (time : Timestamp) (points : Option (List Point)) :
    let o := s.perform actor (.recordRun id time points)
    o.answer = .error e ∧ o.IsNothing s := by
  simp only [perform, recordRun_eq_error refused]
  exact ⟨rfl, rfl, rfl⟩

section Seen

variable (seen : s.getProbe actor id = .ok p)
include seen

/-- An attempt is carried out whole if the next check lies in the calendar. -/
theorem recordRun_of_inside {next : Timestamp} (inside : time.add? p.interval = some next)
    (points : Option (List Point)) :
    let o := s.perform actor (.recordRun id time points)
    o.answer = .ok .done ∧ o.IsWhole s id time points := by
  obtain ⟨found, granted⟩ := getProbe_eq_ok_iff.mp seen
  simp only [perform]
  rw [recordRun_eq found granted, inside]
  exact ⟨rfl, p, next, found, inside, rfl, rfl⟩

/-- An attempt breaks off if the next check lies beyond the calendar. It leaves a fragment, unless
the time of the run was stored before. -/
theorem recordRun_of_beyond (beyond : time.add? p.interval = none)
    (points : Option (List Point)) :
    let o := s.perform actor (.recordRun id time points)
    o.answer = .error .beyondCalendar ∧ ¬ o.IsWhole s id time points ∧
      (p.lastCheck = some time → o.IsNothing s) ∧
      (p.lastCheck ≠ some time → o.IsFragment s id time) := by
  obtain ⟨found, granted⟩ := getProbe_eq_ok_iff.mp seen
  simp only [perform]
  rw [recordRun_eq found granted, beyond]
  refine ⟨rfl, ?_, ?_, ?_⟩
  · rintro ⟨q, next, stored, within, -⟩
    rw [found] at stored
    cases stored
    rw [beyond] at within
    cases within
  · exact fun stored => ⟨(setProbe_lastCheck_iff found).mpr stored, rfl⟩
  · exact fun new => ⟨p, found, new, rfl, rfl⟩

end Seen

/-- A run is recorded whole or not at all exactly when the next check lies in the calendar, or the
time of the run is the one that is stored already. It is recorded if the probe is seen and the next
check lies in the calendar; if that lies beyond, a fragment of the record stays. -/
theorem recorded_whole_or_not_at_all_iff (s : Store α τ) (actor : Actor) (id : String)
    (time : Timestamp) (points : Option (List Point)) :
    let o := s.perform actor (.recordRun id time points)
    (o.IsWhole s id time points ∨ o.IsNothing s ↔
      ∀ p, s.getProbe actor id = .ok p → time.add? p.interval = none →
        p.lastCheck = some time) ∧
    match s.getProbe actor id with
    | .error e => o.answer = .error e ∧ o.IsNothing s
    | .ok p =>
      match time.add? p.interval with
      | some _ => o.answer = .ok .done ∧ o.IsWhole s id time points
      | none => o.answer = .error .beyondCalendar ∧
          (p.lastCheck ≠ some time → o.IsFragment s id time) := by
  intro o
  cases seen : s.getProbe actor id with
  | error e =>
      have refused := recordRun_of_refused seen time points
      exact ⟨iff_of_true (.inr refused.2) nofun, refused⟩
  | ok p =>
      simp only [Except.ok.injEq, forall_eq']
      cases sum : time.add? p.interval with
      | some next =>
          have recorded := recordRun_of_inside seen sum points
          exact ⟨iff_of_true (.inl recorded.2) nofun, recorded⟩
      | none =>
          obtain ⟨breaks, torn, nothing, fragment⟩ := recordRun_of_beyond seen sum points
          refine ⟨⟨fun good _ => ?_, fun stored => .inr (nothing (stored rfl))⟩, breaks, fragment⟩
          by_contra new
          exact (fragment new).not_nothing (good.resolve_left torn)

/-- The local host, and a probe on it with an interval that its record gives in milliseconds. -/
def oneProbe (millis : Nat) : Store PluginSpec PluginSpec :=
  (performAll .empty [
    (.system, .addHost (.localhost { kind := "local" })),
    (.system, .addProbe
      { id := "load", account := Host.systemAccount, hostId := Host.localId
        agent := { kind := "load" }, interval := Probe.intervalOfMillis millis })]).store

/-- With the longest interval that a record can have, the time of a run is stored alone. -/
theorem longest_interval_leaves_fragment :
    let o := (oneProbe 9223372036854775807).perform .system
      (.recordRun "load" ⟨1700000000, 0⟩ (some []))
    ¬ (o.IsWhole (oneProbe 9223372036854775807) "load" ⟨1700000000, 0⟩ (some []) ∨
      o.IsNothing (oneProbe 9223372036854775807)) ∧
    (o.store.probe? "load").map (fun p => (p.lastCheck, p.nextCheck, p.lastPoints.isSome)) =
      some (some ⟨1700000000, 0⟩, none, false) := by
  intro o
  have seen : (oneProbe 9223372036854775807).getProbe .system "load" = .ok _ := rfl
  have beyond : (⟨1700000000, 0⟩ : Timestamp).add? (Probe.intervalOfMillis 9223372036854775807) =
    none := by decide
  obtain ⟨-, torn, -, fragment⟩ := recordRun_of_beyond seen beyond (some [])
  exact ⟨not_or.mpr ⟨torn, (fragment (by decide)).not_nothing⟩, by decide⟩

end Store

end Hostwatch
