import Hostwatch.Agent.Course
import Mathlib.Data.List.Induction

/-!
# What agents remember

An agent that is made to forget all but its last few readings goes on just as before, with one
reading more to remember after each gather that succeeds. So what an agent remembers in the end
follows from the last gathers that succeeded, and those before them might as well not have been.
-/

namespace Hostwatch

namespace History

variable {α : Type}

/-- Forgets all but the last `n` readings. -/
def latest (h : History α) : Nat → History α
  | 0 => {}
  | 1 => { h with previous := none }
  | _ + 2 => h

theorem push_latest (h : History α) (n : Nat) (value : α) (time : Timestamp) :
    (h.latest n).push value time = (h.push value time).latest (n + 1) := by
  match n with
  | 0 => rfl
  | 1 => rfl
  | _ + 2 => rfl

end History

namespace Agent

/-- The last reading, if any is to be kept. -/
def keep {β : Type} (last : Option β) : Nat → Option β
  | 0 => none
  | _ + 1 => last

/-- Forgets all but the last `n` readings. -/
def latest (a : Agent) (n : Nat) : Agent :=
  match a with
  | .cpu h => .cpu (h.latest n)
  | .disk h => .disk (h.latest n)
  | .diskUsage p last => .diskUsage p (keep last n)
  | .dns p last => .dns p (keep last n)
  | .load last => .load (keep last n)
  | .memory last => .memory (keep last n)
  | .mysql p h => .mysql p (h.latest n)
  | .network h => .network (h.latest n)
  | .nginx p h => .nginx p (h.latest n)
  | .phpFpm p h => .phpFpm p (h.latest n)
  | .ping p last => .ping p (keep last n)
  | .sockets last => .sockets (keep last n)
  | .tcpPort p last => .tcpPort p (keep last n)

theorem latest_of_span_le {a : Agent} {n : Nat} (enough : a.span ≤ n) : a.latest n = a := by
  obtain ⟨more, rfl⟩ := Nat.exists_eq_add_of_le' enough
  cases a <;> rfl

@[simp] theorem span_latest (a : Agent) (n : Nat) : (a.latest n).span = a.span := by
  cases a <;> rfl

theorem span_eq {a b : Agent} (blank : b.latest 0 = a.latest 0) : b.span = a.span := by
  rw [← span_latest b 0, blank, span_latest]

/-- The agent after a gather that failed. -/
def afterFailure : Agent → Agent
  | .tcpPort p _ => .tcpPort p none
  | a => a

theorem points_afterFailure (a : Agent) :
    a.afterFailure.points = if a.name = "tcpport" then some [] else a.points := by
  cases a <;> rfl

theorem afterFailure_latest (a : Agent) :
    a.afterFailure.latest (a.span - 1) = a.latest (a.span - 1) := by
  cases a <;> rfl

theorem afterFailure_latest_zero (a : Agent) : a.afterFailure.latest 0 = a.latest 0 := by
  cases a <;> rfl

/-! ### One gather -/

variable {a : Agent} {w : Surroundings} {α : Type}

/-- All that a gather can do, also to an agent that was made to forget: it fails and teaches
nothing, or it adds one reading. -/
inductive Comes (a : Agent) (w : Surroundings) : Prop where
  | failed (e : Failure) (whole : a.gatherIn w = (.error e, a.afterFailure))
      (fails : ∀ n, ((a.latest n).gatherIn w).1 = .error e)
  | learned (b : Agent) (whole : a.gatherIn w = (.ok (), b)) (blank : b.latest 0 = a.latest 0)
      (learns : ∀ n, (a.latest n).gatherIn w = (.ok (), b.latest (n + 1)))

section Reading

variable {reading : Dialogue (Except Failure (α × Timestamp))} {otherwise : Agent}
variable {push : α → Timestamp → Agent}

/-- The gather of an agent that remembers a reading comes to what becomes of the reading. -/
theorem gatherIn_eq (gathers : a.gather = remember reading otherwise push) (w : Surroundings) :
    a.gatherIn w = ((remember (.done (reading.run w.answer w.start).1) otherwise push).run w.answer
      (reading.run w.answer w.start).2).1 := by
  rw [gatherIn, gathers]
  show ((Dialogue.bind reading _).run w.answer w.start).1 = _
  rw [Dialogue.run_bind]
  rfl

theorem gatherIn_of_reading (gathers : a.gather = remember reading otherwise push) {value : α}
    {time : Timestamp} (taken : (reading.run w.answer w.start).1 = .ok (value, time)) :
    a.gatherIn w = (.ok (), push value time) := by
  rw [gatherIn_eq gathers, taken]
  rfl

theorem gatherIn_of_no_reading (gathers : a.gather = remember reading otherwise push) {e : Failure}
    (failed : (reading.run w.answer w.start).1 = .error e) :
    a.gatherIn w = (.error e, otherwise) := by
  rw [gatherIn_eq gathers, failed]
  rfl

end Reading

theorem comes_of_remember (reading : Dialogue (Except Failure (α × Timestamp)))
    (push : α → Timestamp → Agent)
    (gathers : ∀ n, (a.latest n).gather =
      remember reading (a.latest n).afterFailure fun value time => (push value time).latest (n + 1))
    (blank : ∀ value time, (push value time).latest 0 = a.latest 0) : a.Comes w := by
  have whole := gathers a.span
  rw [latest_of_span_le (Nat.le_refl _)] at whole
  cases taken : (reading.run w.answer w.start).1 with
  | ok taken' =>
      obtain ⟨value, time⟩ := taken'
      have enough : (push value time).span ≤ a.span + 1 := by
        rw [span_eq (blank value time)]
        exact Nat.le_succ _
      have learned := gatherIn_of_reading whole taken
      rw [latest_of_span_le enough] at learned
      exact .learned _ learned (blank value time) fun n => gatherIn_of_reading (gathers n) taken
  | error e =>
      refine .failed e (gatherIn_of_no_reading whole taken) fun n => ?_
      rw [gatherIn_of_no_reading (gathers n) taken]

theorem comes (a : Agent) (w : Surroundings) : a.Comes w := by
  cases a with
  | cpu h =>
      refine comes_of_remember Cpu.read (fun value time => .cpu (h.push value time)) ?_
        fun _ _ => rfl
      intro n
      simp only [latest, gather, afterFailure, History.push_latest]
  | disk h =>
      refine comes_of_remember Disk.read (fun value time => .disk (h.push value time)) ?_
        fun _ _ => rfl
      intro n
      simp only [latest, gather, afterFailure, History.push_latest]
  | diskUsage p last =>
      exact comes_of_remember (DiskUsage.read p)
        (fun value time => .diskUsage p (some (value, time)))
        (fun _ => rfl) fun _ _ => rfl
  | dns p last =>
      exact comes_of_remember (Resolver.read p) (fun value time => .dns p (some (value, time)))
        (fun _ => rfl) fun _ _ => rfl
  | load last =>
      exact comes_of_remember Load.read (fun value time => .load (some (value, time)))
        (fun _ => rfl) fun _ _ => rfl
  | memory last =>
      exact comes_of_remember Memory.read (fun value time => .memory (some (value, time)))
        (fun _ => rfl) fun _ _ => rfl
  | mysql p h =>
      refine comes_of_remember (Mysql.read p) (fun value time => .mysql p (h.push value time)) ?_
        fun _ _ => rfl
      intro n
      simp only [latest, gather, afterFailure, History.push_latest]
  | network h =>
      refine comes_of_remember Network.read (fun value time => .network (h.push value time)) ?_
        fun _ _ => rfl
      intro n
      simp only [latest, gather, afterFailure, History.push_latest]
  | nginx p h =>
      refine comes_of_remember (Nginx.read p) (fun value time => .nginx p (h.push value time)) ?_
        fun _ _ => rfl
      intro n
      simp only [latest, gather, afterFailure, History.push_latest]
  | phpFpm p h =>
      refine comes_of_remember (PhpFpm.read p) (fun value time => .phpFpm p (h.push value time)) ?_
        fun _ _ => rfl
      intro n
      simp only [latest, gather, afterFailure, History.push_latest]
  | ping p last =>
      exact comes_of_remember (Ping.read p) (fun value time => .ping p (some (value, time)))
        (fun _ => rfl) fun _ _ => rfl
  | sockets last =>
      exact comes_of_remember Sockets.read (fun value time => .sockets (some (value, time)))
        (fun _ => rfl) fun _ _ => rfl
  | tcpPort p last =>
      exact comes_of_remember (TcpPort.read p) (fun value time => .tcpPort p (some (value, time)))
        (fun _ => rfl) fun _ _ => rfl

/-- A gather that fails leaves the agent as it is, but for the check of a port. -/
theorem gatherIn_of_error {e : Failure} (failed : (a.gatherIn w).1 = .error e) :
    (a.gatherIn w).2 = a.afterFailure := by
  cases a.comes w with
  | failed e' whole fails => rw [whole]
  | learned b whole blank learns =>
      rw [whole] at failed
      cases failed

/-- A gather changes neither the kind of agent nor its parameters. -/
theorem gatherIn_latest_zero (a : Agent) (w : Surroundings) :
    (a.gatherIn w).2.latest 0 = a.latest 0 := by
  cases a.comes w with
  | failed e whole fails =>
      rw [whole]
      exact a.afterFailure_latest_zero
  | learned b whole blank learns =>
      rw [whole]
      exact blank

/-- Whether a gather succeeds does not depend on what the agent remembers. -/
theorem isOk_gatherIn_latest (a : Agent) (w : Surroundings) (n : Nat) :
    ((a.latest n).gatherIn w).1.isOk = (a.gatherIn w).1.isOk := by
  cases a.comes w with
  | failed e whole fails => rw [whole, fails n]
  | learned b whole blank learns => rw [whole, learns n]

theorem isOk_gatherIn_congr {b : Agent} (blank : b.latest 0 = a.latest 0) (w : Surroundings) :
    (b.gatherIn w).1.isOk = (a.gatherIn w).1.isOk := by
  rw [← isOk_gatherIn_latest b w 0, blank, isOk_gatherIn_latest]

/-- After a gather that succeeds, an agent remembers one reading more of those that it would have
remembered. -/
theorem gatherIn_latest (succeeded : (a.gatherIn w).1.isOk = true) (n : Nat) :
    ((a.latest n).gatherIn w).2 = (a.gatherIn w).2.latest (n + 1) := by
  cases a.comes w with
  | failed e whole fails =>
      rw [whole] at succeeded
      cases succeeded
  | learned b whole blank learns => rw [whole, learns n]

/-! ### Courses of gathers -/

variable {course : List Surroundings}

theorem gatherAll_append (a : Agent) (first second : List Surroundings) :
    a.gatherAll (first ++ second) = (a.gatherAll first).gatherAll second :=
  List.foldl_append

theorem gatherAll_latest_zero (a : Agent) (course : List Surroundings) :
    (a.gatherAll course).latest 0 = a.latest 0 := by
  induction course generalizing a with
  | nil => rfl
  | cons w rest ih => exact (ih (a.gatherIn w).2).trans (a.gatherIn_latest_zero w)

theorem successes_eq_filter (a : Agent) (course : List Surroundings) :
    a.successes course = course.filter fun w => (a.gatherIn w).1.isOk := by
  induction course generalizing a with
  | nil => rfl
  | cons w rest ih =>
      have same (w' : Surroundings) :
          ((a.gatherIn w).2.gatherIn w').1.isOk = (a.gatherIn w').1.isOk :=
        isOk_gatherIn_congr (a.gatherIn_latest_zero w) w'
      rw [successes, ih, List.filter_cons]
      simp only [same]

/-- If all gathers succeed, the agent remembers one reading more for each of them. -/
theorem gatherAll_latest (succeed : ∀ w ∈ course, (a.gatherIn w).1.isOk = true) (n : Nat) :
    (a.latest n).gatherAll course = (a.gatherAll course).latest (n + course.length) := by
  induction course generalizing a n with
  | nil => rfl
  | cons w rest ih =>
      have first := gatherIn_latest (succeed w List.mem_cons_self) n
      have others (w' : Surroundings) (member : w' ∈ rest) :
          ((a.gatherIn w).2.gatherIn w').1.isOk = true := by
        rw [isOk_gatherIn_congr (a.gatherIn_latest_zero w)]
        exact succeed w' (List.mem_cons_of_mem w member)
      show ((a.latest n).gatherIn w).2.gatherAll rest = _
      rw [first, ih others, List.length_cons, Nat.add_assoc, Nat.add_comm 1]
      rfl

/-- If all gathers succeed, only as many of the last ones count as the agent remembers readings. -/
theorem gatherAll_eq_last (succeed : ∀ w ∈ course, (a.gatherIn w).1.isOk = true) :
    a.gatherAll course = a.gatherAll (course.drop (course.length - a.span)) := by
  by_cases few : course.length ≤ a.span
  · rw [Nat.sub_eq_zero_of_le few, List.drop_zero]
  · -- The last gathers alone fill the memory, whoever begins with them.
    generalize cut : course.length - a.span = k
    have long : (course.drop k).length = a.span := by
      rw [List.length_drop]
      omega
    have filled (b : Agent) (blank : b.latest 0 = a.latest 0) :
        b.gatherAll (course.drop k) = (a.latest 0).gatherAll (course.drop k) := by
      have ready (w : Surroundings) (member : w ∈ course.drop k) :
          (b.gatherIn w).1.isOk = true := by
        rw [isOk_gatherIn_congr blank]
        exact succeed w (List.mem_of_mem_drop member)
      have enough : (b.gatherAll (course.drop k)).span ≤ 0 + (course.drop k).length := by
        have same : (b.gatherAll (course.drop k)).span = a.span :=
          span_eq ((gatherAll_latest_zero b _).trans blank)
        omega
      rw [← blank, gatherAll_latest ready, latest_of_span_le enough]
    calc a.gatherAll course
        = a.gatherAll (course.take k ++ course.drop k) := by rw [List.take_append_drop]
      _ = (a.gatherAll (course.take k)).gatherAll (course.drop k) := gatherAll_append a _ _
      _ = (a.latest 0).gatherAll (course.drop k) := filled _ (gatherAll_latest_zero a _)
      _ = a.gatherAll (course.drop k) := (filled a rfl).symm

/-- A gather that succeeds makes up for what an agent has forgotten of its oldest reading. -/
theorem gatherIn_congr {b : Agent} (same : b.latest (a.span - 1) = a.latest (a.span - 1))
    (blank : b.latest 0 = a.latest 0) (succeeded : (a.gatherIn w).1.isOk = true) :
    (b.gatherIn w).2 = (a.gatherIn w).2 := by
  have whole (c : Agent) (blank : c.latest 0 = a.latest 0) :
      (c.gatherIn w).2 = ((c.latest (a.span - 1)).gatherIn w).2 := by
    rw [gatherIn_latest (by rw [isOk_gatherIn_congr blank, succeeded]), latest_of_span_le]
    rw [span_eq ((gatherIn_latest_zero c w).trans blank)]
    omega
  rw [whole b blank, whole a rfl, same]

theorem successes_append_singleton (a : Agent) (before : List Surroundings) (w : Surroundings) :
    a.successes (before ++ [w]) =
      a.successes before ++ if (a.gatherIn w).1.isOk then [w] else [] := by
  simp only [successes_eq_filter, List.filter_append, List.filter_cons, List.filter_nil]

/-- Apart from the oldest reading that it can remember, an agent is after a course of gathers as it
is after those that succeeded. -/
theorem gatherAll_successes (a : Agent) (course : List Surroundings) :
    (a.gatherAll course).latest (a.span - 1) =
      (a.gatherAll (a.successes course)).latest (a.span - 1) := by
  induction course using List.reverseRecOn with
  | nil => rfl
  | append_singleton before w ih =>
      have blank := gatherAll_latest_zero a before
      have blank' := gatherAll_latest_zero a (a.successes before)
      have span := span_eq blank
      have span' := span_eq blank'
      rw [gatherAll_append, successes_append_singleton]
      show ((a.gatherAll before).gatherIn w).2.latest _ = _
      cases came : (a.gatherIn w).1 with
      | ok =>
          have fine : ((a.gatherAll (a.successes before)).gatherIn w).1.isOk = true := by
            rw [isOk_gatherIn_congr blank', came]
            rfl
          rw [gatherIn_congr (by rw [span', ih]) (blank.trans blank'.symm) fine]
          exact congrArg (latest · _) (gatherAll_append a (a.successes before) [w]).symm
      | error e =>
          have wrong : ((a.gatherAll before).gatherIn w).1.isOk = false := by
            rw [isOk_gatherIn_congr blank, came]
            rfl
          have failed :
              ((a.gatherAll before).gatherIn w).2 = (a.gatherAll before).afterFailure := by
            cases came' : ((a.gatherAll before).gatherIn w).1 with
            | ok => rw [came'] at wrong; cases wrong
            | error e => exact gatherIn_of_error came'
          have kept := afterFailure_latest (a.gatherAll before)
          rw [span] at kept
          rw [failed, kept, ih]
          exact congrArg (fun course => (a.gatherAll course).latest _)
            (List.append_nil (a.successes before)).symm

/-- After a gather that succeeds, an agent is as if of all gathers only the last ones that succeeded
had taken place, as many of them as it remembers readings. -/
theorem gatherAll_eq_last_successes {before : List Surroundings}
    (succeeded : ((a.gatherAll before).gatherIn w).1.isOk = true) :
    let good := a.successes (before ++ [w])
    a.gatherAll (before ++ [w]) = a.gatherAll (good.drop (good.length - a.span)) := by
  intro good
  have blank := gatherAll_latest_zero a before
  have blank' := gatherAll_latest_zero a (a.successes before)
  have fine : (a.gatherIn w).1.isOk = true := by rw [← isOk_gatherIn_congr blank, succeeded]
  have split : good = a.successes before ++ [w] := by
    show a.successes (before ++ [w]) = _
    rw [successes_append_singleton, if_pos fine]
  have succeed (w' : Surroundings) (member : w' ∈ good) : (a.gatherIn w').1.isOk = true := by
    have filtered : w' ∈ a.successes (before ++ [w]) := member
    rw [successes_eq_filter] at filtered
    exact (List.mem_filter.mp filtered).2
  calc a.gatherAll (before ++ [w])
      = ((a.gatherAll before).gatherIn w).2 := gatherAll_append a before [w]
    _ = ((a.gatherAll (a.successes before)).gatherIn w).2 := by
        apply gatherIn_congr
        · rw [span_eq blank']
          exact gatherAll_successes a before
        · exact blank.trans blank'.symm
        · rw [isOk_gatherIn_congr blank', fine]
    _ = a.gatherAll good := by
        rw [split]
        exact (gatherAll_append a (a.successes before) [w]).symm
    _ = a.gatherAll (good.drop (good.length - a.span)) := gatherAll_eq_last succeed

end Agent

end Hostwatch
