import Mathlib.Data.List.Forall2
import Hostwatch.Scheduler.Sending

/-!
# Bounded retries

A batch is written until the first success or until the retries are used up, with one wait between
two writes and the same batch in each. The receiver that takes notes is what says so: its notes are
some failed writes, each with a wait after it, and then the write that decides.
-/

namespace Hostwatch

variable {σ ε τ : Type}

/-! ### Notes -/

namespace Act

/-- A failed write and the wait before the next one. -/
def failed (batch : List Point) (millis : Nat) (e : ε) : List (Act ε) :=
  [.write batch (.error e), .wait millis]

/-- The failed writes of a batch, each with its wait, and the last write. -/
def trail (batch : List Point) (millis : Nat) (failures : List ε) (last : Except ε Unit) :
    List (Act ε) :=
  failures.flatMap (failed batch millis) ++ [.write batch last]

variable (batch : List Point) (millis : Nat) (failures : List ε) (last : Except ε Unit)

@[simp] theorem trail_nil : trail batch millis [] last = [.write batch last] := rfl

@[simp] theorem trail_cons (e : ε) :
    trail batch millis (e :: failures) last =
      .write batch (.error e) :: .wait millis :: trail batch millis failures last := rfl

/-- Only the last write can have stored the batch. -/
theorem any_stores_trail :
    (trail batch millis failures last).any stores = true ↔ last = .ok () := by
  induction failures with
  | nil => cases last <;> simp [stores]
  | cons e failures ih => simpa [stores] using ih

end Act

namespace Receiver

variable (r : Receiver σ ε) (s : σ) (acts : List (Act ε))

@[simp] theorem noting_write (batch : List Point) :
    r.noting.write (s, acts) batch =
      ((r.write s batch).1, (r.write s batch).2, acts ++ [.write batch (r.write s batch).1]) := rfl

@[simp] theorem noting_wait (millis : Nat) :
    r.noting.wait (s, acts) millis = (r.wait s millis, acts ++ [.wait millis]) := rfl

@[simp] theorem counting_write (write : σ → List Point → Except ε Unit × σ) (waits : Nat)
    (batch : List Point) :
    (counting write).write (s, waits) batch = ((write s batch).1, (write s batch).2, waits) := rfl

@[simp] theorem counting_wait (write : σ → List Point → Except ε Unit × σ) (waits millis : Nat) :
    (counting write).wait (s, waits) millis = (s, waits + 1) := rfl

end Receiver

namespace Forwarder

/-! ### Tags -/

/-- A point as the database gets it: its host replaces the tags of two names, and all else is as it
was. -/
structure TaggedAs (host : Host τ) (p sent : Point) : Prop where
  name : sent.name = p.name
  fields : sent.fields = p.fields
  time : sent.time = p.time
  tags : ∀ key, sent.tags.get? key =
    if key = "host_id" then some host.id
    else if key = "host" then some host.name
    else p.tags.get? key

theorem taggedAs_tagged (host : Host τ) (p : Point) : TaggedAs host p (tagged host p) where
  name := rfl
  fields := rfl
  time := rfl
  tags key := by simp only [tagged, Point.tag, Table.get?_insert]

theorem forall₂_taggedAs (host : Host τ) (points : List Point) :
    List.Forall₂ (TaggedAs host) points (points.map (tagged host)) := by
  rw [List.forall₂_map_right_iff]
  exact List.forall₂_same.mpr fun p _ => taggedAs_tagged host p

/-! ### One write -/

variable (f : Forwarder) (r : Receiver σ ε) (batch : List Point)

theorem persist_of_ok {retries : Nat} {s t : σ} (taken : r.write s batch = (.ok (), t)) :
    f.persist r batch retries s = (.ok (), t) := by
  rw [persist, taken]

theorem persist_zero_of_error {s t : σ} {e : ε} (refused : r.write s batch = (.error e, t)) :
    f.persist r batch 0 s = (.error e, t) := by
  rw [persist, refused]

theorem persist_succ_of_error {retries : Nat} {s t : σ} {e : ε}
    (refused : r.write s batch = (.error e, t)) :
    f.persist r batch (retries + 1) s = f.persist r batch retries (r.wait t f.backoffMillis) := by
  rw [persist, refused]

/-- A delivery that is kept between its writes meets the same fate. -/
theorem persist_eq_fate (d : Delivery) (s : σ) :
    f.persist r d.batch (f.maxRetries - d.failures) s =
      match f.fate d (r.write s d.batch).1.isOk with
      | .delivered | .dropped => r.write s d.batch
      | .retry next =>
        f.persist r next.batch (f.maxRetries - next.failures)
          (r.wait (r.write s d.batch).2 f.backoffMillis) := by
  rcases written : r.write s d.batch with ⟨result, t⟩
  cases result with
  | ok => simp [f.persist_of_ok r _ written, fate, Except.isOk, Except.toBool]
  | error e =>
    by_cases left : d.failures < f.maxRetries
    · obtain ⟨more, retries⟩ : ∃ more, f.maxRetries - d.failures = more + 1 :=
        Nat.exists_eq_add_one_of_ne_zero (by omega)
      have rest : f.maxRetries - (d.failures + 1) = more := by omega
      simp [retries, rest, left, f.persist_succ_of_error r _ written, fate, Except.isOk,
        Except.toBool]
    · have none : f.maxRetries - d.failures = 0 := by omega
      simp [none, left, f.persist_zero_of_error r _ written, fate, Except.isOk, Except.toBool]

/-! ### A batch -/

/-- The notes change nothing, and they are the trail of the batch: after some failed writes, at
most as many as there are retries, the result is that of the last write, and that has failed only
if no retry was left. -/
theorem persist_noting (retries : Nat) (s : σ) (acts : List (Act ε)) :
    ∃ failures : List ε,
      f.persist r.noting batch retries (s, acts) =
        ((f.persist r batch retries s).1, (f.persist r batch retries s).2,
          acts ++ Act.trail batch f.backoffMillis failures (f.persist r batch retries s).1) ∧
      failures.length ≤ retries ∧
      ((f.persist r batch retries s).1 ≠ .ok () → failures.length = retries) := by
  induction retries generalizing s acts with
  | zero =>
    refine ⟨[], ?_, Nat.le_refl 0, fun _ => rfl⟩
    rcases written : r.write s batch with ⟨result, t⟩
    have noted : r.noting.write (s, acts) batch = (result, t, acts ++ [.write batch result]) := by
      rw [r.noting_write, written]
    cases result with
    | ok => rw [f.persist_of_ok _ _ written, f.persist_of_ok _ _ noted, Act.trail_nil]
    | error e =>
      rw [f.persist_zero_of_error _ _ written, f.persist_zero_of_error _ _ noted, Act.trail_nil]
  | succ retries ih =>
    rcases written : r.write s batch with ⟨result, t⟩
    have noted : r.noting.write (s, acts) batch = (result, t, acts ++ [.write batch result]) := by
      rw [r.noting_write, written]
    cases result with
    | ok =>
      rw [f.persist_of_ok _ _ written, f.persist_of_ok _ _ noted]
      exact ⟨[], by rw [Act.trail_nil], Nat.zero_le _, fun failed => absurd rfl failed⟩
    | error e =>
      -- The rest is a batch with one retry less, from after the wait.
      rw [f.persist_succ_of_error _ _ written, f.persist_succ_of_error _ _ noted, r.noting_wait]
      obtain ⟨failures, notes, most, all⟩ := ih (r.wait t f.backoffMillis)
        (acts ++ [.write batch (.error e)] ++ [.wait f.backoffMillis])
      refine ⟨e :: failures, ?_, Nat.succ_le_succ most, fun failed => congrArg (· + 1) (all failed)⟩
      rw [notes]
      simp

/-- A delivery is a batch for a receiver that counts the waits. -/
theorem deliver_eq_persist (write : σ → List Point → Except ε Unit × σ) (retries waits : Nat)
    (s : σ) :
    deliver write batch retries waits s =
      let (result, database, waits) := f.persist (.counting write) batch retries (s, waits)
      { result, database, waits } := by
  induction retries generalizing waits s with
  | zero =>
    rcases written : write s batch with ⟨result, t⟩
    have counted : (Receiver.counting write).write (s, waits) batch = (result, t, waits) := by
      rw [Receiver.counting_write, written]
    cases result with
    | ok => rw [deliver, written, f.persist_of_ok _ _ counted]
    | error e => rw [deliver, written, f.persist_zero_of_error _ _ counted]
  | succ retries ih =>
    rcases written : write s batch with ⟨result, t⟩
    have counted : (Receiver.counting write).write (s, waits) batch = (result, t, waits) := by
      rw [Receiver.counting_write, written]
    cases result with
    | ok => rw [deliver, written, f.persist_of_ok _ _ counted]
    | error e =>
      rw [deliver, written, f.persist_succ_of_error _ _ counted, Receiver.counting_wait]
      exact ih (waits + 1) t

theorem send_eq_sendTo (write : σ → List Point → Except ε Unit × σ) (points : List Point)
    (host : Host τ) (s : σ) :
    f.send write points host s =
      let (result, database, waits) := f.sendTo (.counting write) points host (s, 0)
      { result, database, waits } := by
  cases handed : delivery? points host with
  | none => simp [send, sendTo, handed]
  | some d => simpa [send, sendTo, handed] using f.deliver_eq_persist d.batch write f.maxRetries 0 s

/-- Sending never touches the receiver for an empty batch. Otherwise the batch, that is the given
points in order with the tags of their host, is written until the first success or until all retries
have failed as well, with one wait for the backoff between two writes; the result is that of the
last write, and it is a success exactly if something was stored. -/
theorem sendTo_noting (points : List Point) (host : Host τ) (s : σ) :
    let sent := f.sendTo r.noting points host (s, [])
    f.sendTo r points host s = (sent.1, sent.2.1) ∧
    (points = [] → sent = (.ok (), s, [])) ∧
    (points ≠ [] → ∃ (batch : List Point) (failures : List ε),
      List.Forall₂ (TaggedAs host) points batch ∧
      sent.2.2 = Act.trail batch f.backoffMillis failures sent.1 ∧
      failures.length ≤ f.maxRetries ∧
      (sent.1 ≠ .ok () → failures.length = f.maxRetries) ∧
      (sent.1 = .ok () ↔ sent.2.2.any Act.stores = true)) ∧
    ∀ write : σ → List Point → Except ε Unit × σ,
      f.send write points host s =
        let (result, database, waits) := f.sendTo (.counting write) points host (s, 0)
        { result, database, waits } := by
  intro sent
  cases points with
  | nil =>
    exact ⟨rfl, fun _ => rfl, fun some => absurd rfl some, fun write =>
      f.send_eq_sendTo write [] host s⟩
  | cons p points =>
    let batch := (p :: points).map (tagged host)
    have handed : delivery? (p :: points) host = some { batch } := rfl
    have sendTo_eq : f.sendTo r (p :: points) host s = f.persist r batch f.maxRetries s := by
      simp only [sendTo, handed]
    obtain ⟨failures, notes, most, all⟩ := f.persist_noting r batch f.maxRetries s []
    have sent_eq : sent = f.persist r.noting batch f.maxRetries (s, []) := by
      simp only [sent, sendTo, handed]
    rw [sent_eq, notes]
    exact ⟨sendTo_eq, nofun, fun _ => ⟨batch, failures, forall₂_taggedAs host _, rfl, most, all,
      (Act.any_stores_trail ..).symm⟩, fun write => f.send_eq_sendTo write (p :: points) host s⟩

/-- A database that can be reached once some milliseconds have passed, and tells when it could
not. -/
def reachableAfter (start : Nat) : Receiver Nat Nat where
  write passed _ := (if passed < start then .error passed else .ok (), passed)
  wait passed millis := passed + millis

/-- One point, which claims to be of another host. -/
def strayPoint : Point :=
  { name := "load", tags := [("host", "db"), ("os", "linux")], time := default }

/-- Nothing to send, a database that comes back in time, and one that does not. -/
theorem sendTo_noting_reachableAfter :
    let f : Forwarder := { maxRetries := 3, backoffMillis := 100 }
    let host : Host Unit := { id := "h1", account := "a", name := "web", transport := () }
    let sent start points := f.sendTo (reachableAfter start).noting points host (0, [])
    sent 150 [] = (.ok (), 0, []) ∧
    (sent 150 [strayPoint]).2.2 =
      Act.trail [tagged host strayPoint] 100 [0, 100] (.ok ()) ∧
    (tagged host strayPoint).tags = [("host", "web"), ("host_id", "h1"), ("os", "linux")] ∧
    (∃ (batch : List Point) (failures : List Nat),
      (sent 150 [strayPoint]).2.2 = Act.trail batch 100 failures (.ok ()) ∧
      failures.length ≤ 3) ∧
    (∃ (batch : List Point) (failures : List Nat),
      (sent 1000 [strayPoint]).2.2 = Act.trail batch 100 failures (.error 300) ∧
      failures.length = 3) := by
  intro f host sent
  obtain ⟨-, nothing, -, -⟩ := sendTo_noting f (reachableAfter 150) [] host 0
  obtain ⟨-, -, back, -⟩ := sendTo_noting f (reachableAfter 150) [strayPoint] host 0
  obtain ⟨-, -, away, -⟩ := sendTo_noting f (reachableAfter 1000) [strayPoint] host 0
  obtain ⟨batch, failures, -, notes, most, -, -⟩ := back (List.cons_ne_nil _ _)
  obtain ⟨batch', failures', -, notes', -, all, -⟩ := away (List.cons_ne_nil _ _)
  exact ⟨nothing rfl, rfl, by decide, ⟨batch, failures, notes, most⟩,
    ⟨batch', failures', notes', all nofun⟩⟩

end Forwarder

end Hostwatch
