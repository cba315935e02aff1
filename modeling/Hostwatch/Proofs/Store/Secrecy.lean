import Hostwatch.Proofs.Store.Confinement
import Hostwatch.Proofs.Table

/-!
# What a tenant can tell

A tenant should learn nothing about the hosts and probes of others. So take two stores that differ
in these as much as one likes, but hold the same hosts and probes of one account: whatever the
tenant does to both, it is told the same and finds the same of its own afterwards.

There is one way to tell them apart. An identifier can be taken only once in the whole store, and
adding something under an identifier that another account has taken is refused.
-/

namespace Hostwatch

namespace Table.Sorted

variable {α : Type _} {t u : Table α}

/-- Tables that agree on what is owned list the same of it. -/
theorem values_filter_eq (sorted : t.Sorted) (sorted' : u.Sorted) {owned : α → Bool}
    (same : ∀ key value, owned value = true → (t.get? key = some value ↔ u.get? key = some value))
    (keep : α → Bool) :
    (t.values.filter fun value => owned value && keep value) =
      u.values.filter fun value => owned value && keep value := by
  have entries : (t.filter fun entry => owned entry.2) = u.filter fun entry => owned entry.2 := by
    refine ext (sorted.filter _) (sorted'.filter _) ?_
    intro key
    rw [sorted.get?_filter, sorted'.get?_filter]
    refine Option.ext fun value => ?_
    simp only [Option.filter_eq_some_iff]
    exact and_congr_left (same key value)
  have listed (table : Table α) :
      (table.values.filter fun value => owned value && keep value) =
        (Table.values (table.filter fun entry => owned entry.2)).filter keep := by
    simp only [values, List.filter_map, List.filter_filter]
    refine congrArg _ (List.filter_congr fun entry _ => ?_)
    exact Bool.and_comm _ _
  rw [listed t, listed u, entries]

end Table.Sorted

namespace Store

variable {α τ : Type} {s t : Store α τ} {account : String}

/-- Two stores hold the same hosts and the same probes of an account. -/
structure SameFor (account : String) (s t : Store α τ) : Prop where
  host : ∀ id h, h.account = account → (s.host? id = some h ↔ t.host? id = some h)
  probe : ∀ id p, p.account = account → (s.probe? id = some p ↔ t.probe? id = some p)

namespace SameFor

variable (same : s.SameFor account t)
include same

theorem symm : t.SameFor account s :=
  ⟨fun id h own => (same.host id h own).symm, fun id p own => (same.probe id p own).symm⟩

/-! ### Reading -/

theorem getProbe {id : String} {p : Probe α} (found : s.getProbe (.account account) id = .ok p) :
    t.getProbe (.account account) id = .ok p := by
  obtain ⟨stored, own⟩ := getProbe_eq_ok_iff.mp found
  exact getProbe_eq_ok_iff.mpr ⟨(same.probe id p (canAccess_account.mp own)).mp stored, own⟩

theorem getHost {id : String} {h : Host τ} (found : s.getHost (.account account) id = .ok h) :
    t.getHost (.account account) id = .ok h := by
  obtain ⟨stored, own⟩ := getHost_eq_ok_iff.mp found
  exact getHost_eq_ok_iff.mpr ⟨(same.host id h (canAccess_account.mp own)).mp stored, own⟩

theorem listProbes (scope : Scope) :
    s.listProbes (.account account) scope = t.listProbes (.account account) scope :=
  s.probes_filed.sorted.values_filter_eq t.probes_filed.sorted
    (fun id p own => same.probe id p (canAccess_account.mp own)) scope.holdsProbe

theorem listHosts (scope : Scope) :
    s.listHosts (.account account) scope = t.listHosts (.account account) scope :=
  s.hosts_filed.sorted.values_filter_eq t.hosts_filed.sorted
    (fun id h own => same.host id h (canAccess_account.mp own)) scope.holdsHost

/-! ### Changing both stores alike -/

theorem setHost (h : Host τ) : (s.setHost h).SameFor account (t.setHost h) := by
  refine ⟨?_, same.probe⟩
  intro id other own
  simp only [host?_setHost]
  split
  · exact Iff.rfl
  · exact same.host id other own

theorem setProbe (p : Probe α) : (s.setProbe p).SameFor account (t.setProbe p) := by
  refine ⟨same.host, ?_⟩
  intro id other own
  simp only [probe?_setProbe]
  split
  · exact Iff.rfl
  · exact same.probe id other own

theorem eraseProbe (gone : String) : (s.eraseProbe gone).SameFor account (t.eraseProbe gone) := by
  refine ⟨same.host, ?_⟩
  intro id other own
  simp only [probe?_eraseProbe]
  split
  · exact Iff.rfl
  · exact same.probe id other own

theorem eraseHost (gone : String) : (s.eraseHost gone).SameFor account (t.eraseHost gone) := by
  constructor
  · intro id other own
    simp only [host?_eraseHost]
    split
    · exact Iff.rfl
    · exact same.host id other own
  · intro id other own
    simp only [probe?_eraseHost, Option.filter_eq_some_iff]
    exact and_congr_left fun _ => same.probe id other own

end SameFor

/-- A tenant whose probes are on its own hosts does not notice that a host of another one goes. -/
theorem Confined.sameFor_eraseHost (confined : s.Confined account) {gone : String}
    (foreign : ¬ s.HasHost account gone) : s.SameFor account (s.eraseHost gone) := by
  constructor
  · intro id h own
    rw [host?_eraseHost]
    split
    · next same =>
        subst same
        exact iff_of_false (fun found => foreign ⟨h, found, own⟩) (by simp)
    · exact Iff.rfl
  · intro id p own
    rw [probe?_eraseHost, Option.filter_eq_some_iff, bne_iff_ne]
    refine ⟨fun found => ⟨found, fun bound => ?_⟩, And.left⟩
    rw [← bound] at foreign
    exact foreign (confined id p found own)

/-! ### One operation on both stores -/

/-- What an operation answers to a tenant and leaves to it is the same twice. Why it is refused may
differ. -/
structure Outcome.Alike (account : String) (a b : Outcome α τ) : Prop where
  answer : a.answer.toOption = b.answer.toOption
  store : a.store.SameFor account b.store

theorem Outcome.Alike.symm {a b : Outcome α τ} (alike : Outcome.Alike account a b) :
    Outcome.Alike account b a :=
  ⟨alike.answer.symm, alike.store.symm⟩

/-- A change that is granted in one store is granted in the other one too, and leaves the same to
the tenant. -/
def Follows (account : String) (x y : Except StoreError (Revision α τ)) : Prop :=
  ∀ r, x = .ok r → ∃ r', y = .ok r' ∧ r.store.SameFor account r'.store

/-- An operation adds something under an identifier that another account has taken, and is refused
for that. -/
def Collides [Plugin α] [Plugin τ] (s : Store α τ) (account : String) : Operation α τ → Prop
  | .addHost h =>
    (∃ other ∈ s.host? h.id, other.account ≠ account) ∧
      s.addHost (.account account) h = .error (.alreadyExists .host h.id)
  | .addProbe p =>
    (∃ other ∈ s.probe? p.id, other.account ≠ account) ∧
      s.addProbe (.account account) p = .error (.alreadyExists .probe p.id)
  | _ => False

namespace SameFor

/-- Something is read in both stores or in none. -/
theorem ofRead {γ : Type} (same : s.SameFor account t) {x y : Except StoreError γ}
    (there : ∀ c, x = .ok c → y = .ok c) (back : ∀ c, y = .ok c → x = .ok c)
    (f : γ → Answer α τ) : Outcome.Alike account (.ofRead s x f) (.ofRead t y f) := by
  refine ⟨?_, same⟩
  simp only [Outcome.ofRead]
  cases x with
  | ok c => rw [there c rfl]
  | error e =>
      cases y with
      | ok c => cases back c rfl
      | error e' => rfl

/-- A change is made to both stores or to none. -/
theorem ofChange (same : s.SameFor account t) {x y : Except StoreError (Revision α τ)}
    (there : Follows account x y) (back : Follows account y x) :
    Outcome.Alike account (.ofChange s x) (.ofChange t y) := by
  cases x with
  | ok r =>
      obtain ⟨r', granted, after⟩ := there r rfl
      rw [granted]
      exact ⟨rfl, after⟩
  | error e =>
      cases y with
      | ok r =>
          obtain ⟨r', granted, -⟩ := back r rfl
          cases granted
      | error e' => exact ⟨rfl, same⟩

variable (same : s.SameFor account t)
include same

theorem deleteProbe (id : String) :
    Follows account (s.deleteProbe (.account account) id)
      (t.deleteProbe (.account account) id) := by
  intro r granted
  obtain ⟨⟨old, found, visible⟩, rfl⟩ := deleteProbe_eq_ok_iff.mp granted
  have found := (same.probe id old (canAccess_account.mp visible)).mp found
  exact ⟨_, deleteProbe_eq_ok_iff.mpr ⟨⟨old, found, visible⟩, rfl⟩, same.eraseProbe id⟩

theorem deleteHost (id : String) :
    Follows account (s.deleteHost (.account account) id)
      (t.deleteHost (.account account) id) := by
  intro r granted
  obtain ⟨⟨old, found, visible⟩, rfl⟩ := deleteHost_eq_ok_iff.mp granted
  have found := (same.host id old (canAccess_account.mp visible)).mp found
  exact ⟨_, deleteHost_eq_ok_iff.mpr ⟨⟨old, found, visible⟩, rfl⟩, same.eraseHost id⟩

section Probes

variable [Plugin α]

theorem updateProbe (p : Probe α) :
    Follows account (s.updateProbe (.account account) p) (t.updateProbe (.account account) p) := by
  intro r granted
  obtain ⟨own, ⟨old, found, visible⟩, rfl⟩ := updateProbe_eq_ok_iff.mp granted
  have found := (same.probe p.id old (canAccess_account.mp visible)).mp found
  exact ⟨_, updateProbe_eq_ok_iff.mpr ⟨own, ⟨old, found, visible⟩, rfl⟩, same.setProbe p⟩

theorem reschedule (id : String) (next : Timestamp) :
    Follows account (s.reschedule (.account account) id next)
      (t.reschedule (.account account) id next) := by
  intro r granted
  obtain ⟨old, found, visible, rfl⟩ := reschedule_eq_ok_iff.mp granted
  have found := (same.probe id old (canAccess_account.mp visible)).mp found
  exact ⟨_, reschedule_eq_ok_iff.mpr ⟨old, found, visible, rfl⟩, same.setProbe _⟩

/-- Recording a run goes wrong in both stores or in none: the next check follows from the probe. -/
theorem recordRun (id : String) (time : Timestamp) (points : Option (List Point)) :
    (s.recordRun (.account account) id time points).1.toOption =
        (t.recordRun (.account account) id time points).1.toOption ∧
      (s.recordRun (.account account) id time points).2.store.SameFor account
        (t.recordRun (.account account) id time points).2.store := by
  cases read : s.getProbe (.account account) id with
  | ok p =>
      obtain ⟨found, visible⟩ := getProbe_eq_ok_iff.mp read
      obtain ⟨found', -⟩ := getProbe_eq_ok_iff.mp (same.getProbe read)
      rw [recordRun_eq found visible, recordRun_eq found' visible]
      cases time.add? p.interval with
      | none => exact ⟨rfl, same.setProbe _⟩
      | some next => exact ⟨rfl, same.setProbe _⟩
  | error e =>
      cases read' : t.getProbe (.account account) id with
      | ok p => cases read.symm.trans (same.symm.getProbe read')
      | error e' =>
          rw [recordRun_eq_error read, recordRun_eq_error read']
          exact ⟨rfl, same⟩

variable [Plugin τ]

theorem addProbe {p : Probe α} (free : ¬ t.Collides account (.addProbe p)) :
    Follows account (s.addProbe (.account account) p) (t.addProbe (.account account) p) := by
  intro r granted
  obtain ⟨own, ⟨h, found, visible⟩, fresh, rfl⟩ := addProbe_eq_ok_iff.mp granted
  have found := (same.host p.hostId h (canAccess_account.mp visible)).mp found
  refine ⟨_, addProbe_eq_ok_iff.mpr ⟨own, ⟨h, found, visible⟩, ?_, rfl⟩, same.setProbe p⟩
  cases taken : t.probe? p.id with
  | none => rfl
  | some other =>
      refine absurd ⟨⟨other, taken, fun owned => ?_⟩, ?_⟩ free
      · cases fresh.symm.trans ((same.probe p.id other owned).mpr taken)
      · have allowed : checkAccess (.account account) .probe p.id p.account = .ok () :=
          checkAccess_eq_ok_iff.mpr own
        have bound : t.getHost (.account account) p.hostId = .ok h :=
          getHost_eq_ok_iff.mpr ⟨found, visible⟩
        simp only [Store.addProbe, allowed, bound, taken]
        rfl

end Probes

section Hosts

variable [Plugin τ]

theorem updateHost (h : Host τ) :
    Follows account (s.updateHost (.account account) h) (t.updateHost (.account account) h) := by
  intro r granted
  obtain ⟨own, ⟨old, found, visible⟩, rfl⟩ := updateHost_eq_ok_iff.mp granted
  have found := (same.host h.id old (canAccess_account.mp visible)).mp found
  exact ⟨_, updateHost_eq_ok_iff.mpr ⟨own, ⟨old, found, visible⟩, rfl⟩, same.setHost h⟩

theorem addHost [Plugin α] {h : Host τ} (free : ¬ t.Collides account (.addHost h)) :
    Follows account (s.addHost (.account account) h) (t.addHost (.account account) h) := by
  intro r granted
  obtain ⟨own, fresh, rfl⟩ := addHost_eq_ok_iff.mp granted
  refine ⟨_, addHost_eq_ok_iff.mpr ⟨own, ?_, rfl⟩, same.setHost h⟩
  cases taken : t.host? h.id with
  | none => rfl
  | some other =>
      refine absurd ⟨⟨other, taken, fun owned => ?_⟩, ?_⟩ free
      · cases fresh.symm.trans ((same.host h.id other owned).mpr taken)
      · have allowed : checkAccess (.account account) .host h.id h.account = .ok () :=
          checkAccess_eq_ok_iff.mpr own
        simp only [Store.addHost, allowed, taken]
        rfl

end Hosts

/-- Without a collision, every operation answers the same to a tenant and leaves the same to it. -/
theorem perform [Plugin α] [Plugin τ] {op : Operation α τ} (free : ¬ s.Collides account op)
    (free' : ¬ t.Collides account op) :
    Outcome.Alike account (s.perform (.account account) op) (t.perform (.account account) op) := by
  have same' := same.symm
  cases op with
  | getProbe id => exact same.ofRead (fun _ => same.getProbe) (fun _ => same'.getProbe) .probe
  | listProbes scope => exact ⟨by simp [Store.perform, Outcome.ofRead, same.listProbes], same⟩
  | addProbe p => exact same.ofChange (same.addProbe free') (same'.addProbe free)
  | updateProbe p => exact same.ofChange (same.updateProbe p) (same'.updateProbe p)
  | deleteProbe id => exact same.ofChange (same.deleteProbe id) (same'.deleteProbe id)
  | recordRun id time points =>
      obtain ⟨answer, store⟩ := same.recordRun id time points
      refine ⟨?_, store⟩
      have mapped (x : Except StoreError Unit) :
          (x.map fun _ => (.done : Answer α τ)).toOption = x.toOption.map fun _ => .done := by
        cases x with
        | ok => rfl
        | error => rfl
      simp only [Store.perform, mapped, answer]
  | reschedule id next => exact same.ofChange (same.reschedule id next) (same'.reschedule id next)
  | getHost id => exact same.ofRead (fun _ => same.getHost) (fun _ => same'.getHost) .host
  | listHosts scope => exact ⟨by simp [Store.perform, Outcome.ofRead, same.listHosts], same⟩
  | addHost h => exact same.ofChange (same.addHost free') (same'.addHost free)
  | updateHost h => exact same.ofChange (same.updateHost h) (same'.updateHost h)
  | deleteHost id => exact same.ofChange (same.deleteHost id) (same'.deleteHost id)

end SameFor

variable [Plugin α] [Plugin τ]

/-- An operation that collides does nothing. If it is not granted in another store either, it ends
alike in both. -/
theorem Collides.alike_or_granted (same : s.SameFor account t) {op : Operation α τ}
    (taken : s.Collides account op) :
    Outcome.Alike account (s.perform (.account account) op) (t.perform (.account account) op) ∨
      (t.perform (.account account) op).answer = .ok .done := by
  have either {x y : Except StoreError (Revision α τ)} {e : StoreError} (refused : x = .error e) :
      Outcome.Alike account (.ofChange s x) (.ofChange t y) ∨
        (Outcome.ofChange t y).answer = .ok .done := by
    rw [refused]
    cases y with
    | ok r => exact .inr rfl
    | error e' => exact .inl ⟨rfl, same⟩
  cases op with
  | addHost h => exact either taken.2
  | addProbe p => exact either taken.2
  | _ => exact taken.elim

/-- To a tenant, two stores that hold the same of its own look the same. Their listings are equal,
and an operation either ends alike, with the same value and with the same left to the tenant, or it
is refused in only one of the two: there it adds what another account has taken the identifier of.
-/
theorem account_sees_only_its_own (same : s.SameFor account t) :
    (∀ scope, s.listProbes (.account account) scope = t.listProbes (.account account) scope ∧
      s.listHosts (.account account) scope = t.listHosts (.account account) scope) ∧
    ∀ op : Operation α τ,
      let a := s.perform (.account account) op
      let b := t.perform (.account account) op
      Outcome.Alike account a b ∨
        (s.Collides account op ∧ b.answer = .ok .done) ∨
        (t.Collides account op ∧ a.answer = .ok .done) := by
  refine ⟨fun scope => ⟨same.listProbes scope, same.listHosts scope⟩, ?_⟩
  intro op a b
  by_cases taken : s.Collides account op
  · exact (taken.alike_or_granted same).imp_right fun granted => .inl ⟨taken, granted⟩
  · by_cases taken' : t.Collides account op
    · refine (taken'.alike_or_granted same.symm).imp Outcome.Alike.symm ?_
      exact fun granted => .inr ⟨taken', granted⟩
    · exact .inl (same.perform taken taken')

/-- Whether its neighbour is there, a tenant finds out only by trying to take its identifier. -/
theorem neighbour_goes_unseen :
    let without := neighbours.eraseHost "db"
    let own : Operation Agent Transport := .deleteHost "web"
    let taken : Operation Agent Transport :=
      .addHost { id := "db", account := "acme", name := "db", transport := .thisMachine }
    neighbours.SameFor "acme" without ∧
      Outcome.Alike "acme" (neighbours.perform (.account "acme") own)
        (without.perform (.account "acme") own) ∧
      neighbours.Collides "acme" taken ∧
      (without.perform (.account "acme") taken).answer = .ok .done := by
  intro without own taken
  have same : neighbours.SameFor "acme" without :=
    Confined.sameFor_eraseHost (by decide) (by decide)
  have collides : neighbours.Collides "acme" taken := ⟨by decide, rfl⟩
  have told := (account_sees_only_its_own same).2
  refine ⟨same, ?_, collides, ?_⟩
  · obtain alike | ⟨none, -⟩ | ⟨none, -⟩ := told own
    · exact alike
    · exact none.elim
    · exact none.elim
  · rfl

end Store

end Hostwatch
