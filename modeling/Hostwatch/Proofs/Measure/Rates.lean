import Hostwatch.Measure.Rates
import Hostwatch.Proofs.Number.Signs
import Hostwatch.Proofs.Table
import Hostwatch.Requests

/-!
# Rates of a sequence of samples

A tracker is given one sample after the other, whole ones or the counters of a single entity. What it
answers to one depends on that sample, the one before and the two times, and on nothing else: not on
the entry points, nor on what came earlier. So one look at a step, and one at what it leaves for the
next, settle every sequence.
-/

namespace Hostwatch.Rates

/-- What a tracker is given: a sample, or the counters of one entity without a name. -/
inductive Reading where
  | all (sample : Sample)
  | one (counters : Counters)

/-- The sample that a reading stands for. -/
def Reading.sample : Reading → Sample
  | .all sample => sample
  | .one counters => [("", counters)]

/-- A reading and when it was taken. -/
structure Taking where
  reading : Reading
  time : Timestamp

/-- What a tracker answers: rates by entity, or those of the one entity. -/
inductive Answer where
  | all (rates : Sample)
  | one (rates : Option Counters)

/-- The rates of an entity in an answer. -/
def Answer.get? : Answer → String → Option Counters
  | .all rates, entity => rates.get? entity
  | .one rates, entity => if entity = "" then rates else none

namespace Tracker

/-- Gives a reading to the tracker by the entry point that takes it. -/
def take (t : Tracker) (taking : Taking) : Answer × Tracker :=
  match taking.reading with
  | .all sample =>
    let (rates, t) := t.update sample taking.time
    (.all rates, t)
  | .one counters =>
    let (rates, t) := t.updateOne counters taking.time
    (.one rates, t)

variable {t : Tracker} {taking : Taking}

theorem take_snd (t : Tracker) (taking : Taking) :
    (t.take taking).2 = { t with last := some (taking.reading.sample, taking.time) } := by
  obtain ⟨reading | reading, time⟩ := taking
  · rfl
  · rfl

theorem compare_of_first (first : t.last = none) (sample : Sample) (time : Timestamp) :
    t.compare sample time = [] := by
  rw [compare, first]

/-- What is found of an entity when a sample is compared with the last one. -/
theorem get?_compare {old : Sample} {before : Timestamp} (last : t.last = some (old, before))
    (sample : Sample) (time : Timestamp) (entity : String) :
    (t.compare sample time).get? entity =
      Option.map₂
        (fun previous current => rates previous current (time.since before).toSeconds t.places)
        (old.get? entity) (sample.get? entity) := by
  rw [compare, last]
  exact Table.get?_filterMap sample old
    (fun previous current => rates previous current (time.since before).toSeconds t.places) entity

/-- Both entry points answer alike. -/
theorem get?_take (t : Tracker) (taking : Taking) (entity : String) :
    (t.take taking).1.get? entity =
      (t.compare taking.reading.sample taking.time).get? entity := by
  obtain ⟨sample | counters, time⟩ := taking
  · rfl
  · change (if entity = "" then (t.compare [("", counters)] time).get? "" else none) =
      (t.compare [("", counters)] time).get? entity
    split
    · next own => rw [own]
    · next other =>
        cases last : t.last with
        | none => rw [compare_of_first last, Table.get?_nil]
        | some baseline =>
            rw [get?_compare last, Table.get?_cons, if_neg other, Table.get?_nil]
            exact (Option.map₂_none_right _ _).symm

end Tracker

/-- What is found of a field among the rates of two samples. -/
theorem get?_rates (previous current : Counters) (elapsed : Span) (places : Nat) (field : String) :
    (rates previous current elapsed.toSeconds places).get? field =
      if 0 < elapsed.counted then
        Option.map₂ (fun before now => roundHalfUp ((now - before) / elapsed.toSeconds) places)
          (previous.get? field) (current.get? field)
      else none := by
  unfold rates
  by_cases passed : 0 < elapsed.counted
  · rw [if_pos passed, if_pos ((Span.toSeconds_pos_iff elapsed).mpr passed)]
    exact Table.get?_filterMap current previous
      (fun before now => rate before now elapsed.toSeconds places) field
  · rw [if_neg passed, if_neg (fun above => passed ((Span.toSeconds_pos_iff elapsed).mp above)),
      Table.get?_nil]

/-- An answer has rates of the entities that both of two samples have. If there is anything to count
of the time between them, the rates of an entity are those of the fields that both samples have of
it; otherwise it has none. -/
structure Answer.Compares (places : Nat) (before now : Taking) (answer : Answer) : Prop where
  entities : ∀ entity, answer.get? entity ≠ none ↔
    before.reading.sample.get? entity ≠ none ∧ now.reading.sample.get? entity ≠ none
  fields : ∀ entity previous current rates,
    before.reading.sample.get? entity = some previous →
    now.reading.sample.get? entity = some current → answer.get? entity = some rates →
    let elapsed := now.time.since before.time
    ∀ field, rates.get? field =
      if 0 < elapsed.counted then
        Option.map₂ (fun old new => roundHalfUp ((new - old) / elapsed.toSeconds) places)
          (previous.get? field) (current.get? field)
      else none

namespace Tracker

/-- One step: a tracker that holds a sample compares the next one with it. -/
theorem compares_take (before now : Taking) {t : Tracker}
    (last : t.last = some (before.reading.sample, before.time)) :
    (t.take now).1.Compares t.places before now := by
  have found (entity : String) := get?_compare last now.reading.sample now.time entity
  simp only [← get?_take] at found
  constructor
  · intro entity
    rw [found, ne_eq, Option.map₂_eq_none_iff, not_or]
  · intro entity previous current rates had has answered
    rw [found, had, has] at answered
    cases answered
    exact get?_rates previous current _ t.places

/-- Whatever came before, a tracker holds the sample that it was given last. -/
theorem state_concat (places : Nat) (before : List Taking) (taking : Taking) :
    (inTurn take { places } (before ++ [taking])).2 =
      { places, last := some (taking.reading.sample, taking.time) } := by
  have same : (inTurn take { places } before).2.places = places := by
    refine inTurn.induction (P := fun t => t.places = places) take _ (fun t k same => ?_) rfl before
    rw [take_snd]
    exact same
  rw [inTurn.state_concat, take_snd, same]

end Tracker

/-- Whatever a tracker is given, one after the other, it answers to the first nothing, and to each of
the others what the comparison with the one before gives. After each it holds that one, with the time
when it was taken. -/
theorem rates_in_turn (places : Nat) (takings : List Taking) :
    let answers := (inTurn Tracker.take { places } takings).1
    answers.length = takings.length ∧
    (∀ first ∈ answers.head?, ∀ entity, first.get? entity = none) ∧
    (∀ n before now, takings[n]? = some before → takings[n + 1]? = some now →
      ∃ answer, answers[n + 1]? = some answer ∧ answer.Compares places before now) ∧
    ∀ n taking, takings[n]? = some taking →
      let t := (inTurn Tracker.take { places } (takings.take (n + 1))).2
      t.last = some (taking.reading.sample, taking.time) ∧ t.isWarm = true := by
  have left {n : Nat} {taking : Taking} (nth : takings[n]? = some taking) :
      (inTurn Tracker.take { places } (takings.take (n + 1))).2 =
        { places, last := some (taking.reading.sample, taking.time) } := by
    rw [List.take_add_one, nth, Option.toList_some, Tracker.state_concat]
  refine ⟨inTurn.length _ _ takings, ?_, ?_, ?_⟩
  · cases takings with
    | nil => exact nofun
    | cons taking rest =>
        intro first head entity
        rw [inTurn.cons, List.head?_cons] at head
        rw [← Option.some.inj head, Tracker.get?_take, Tracker.compare_of_first rfl, Table.get?_nil]
  · intro n before now nth next
    rw [inTurn.getElem?_answers, next, left nth]
    let t : Tracker := { places, last := some (before.reading.sample, before.time) }
    exact ⟨(t.take now).1, rfl, Tracker.compares_take before now (t := t) rfl⟩
  · intro n taking nth
    rw [left nth]
    exact ⟨rfl, rfl⟩

end Hostwatch.Rates
