import Hostwatch.Proofs.Store.Operations

/-!
# Probes and hosts of one account

A tenant should only have probes on hosts of its own account. That is checked when a probe is added,
and what happens to hosts afterwards does not break it. An update, however, may bind a probe to any
host at all: only the account of the probe is looked at. So the probes of a tenant are where they
should be throughout a run of its operations exactly if no update in it takes a probe elsewhere.
-/

namespace Hostwatch.Store

variable {α τ : Type} {s : Store α τ} {account : String}

/-- Whether a host of the account is stored under an identifier. -/
def HasHost (s : Store α τ) (account id : String) : Prop :=
  ∃ h ∈ s.host? id, h.account = account

/-- Every probe of the account is bound to a stored host of the account. -/
def Confined (s : Store α τ) (account : String) : Prop :=
  ∀ id p, s.probe? id = some p → p.account = account → s.HasHost account p.hostId

/-- An update of a probe of the account that binds it to anything but a host of the account. -/
def Strays (s : Store α τ) (account : String) : Operation α τ → Prop
  | .updateProbe p =>
    p.account = account ∧ (∃ old ∈ s.probe? p.id, old.account = account) ∧
      ¬ s.HasHost account p.hostId
  | _ => False

instance (s : Store α τ) (account id : String) : Decidable (s.HasHost account id) :=
  inferInstanceAs (Decidable (∃ h ∈ s.host? id, h.account = account))

theorem confined_iff_forall_mem :
    s.Confined account ↔
      ∀ entry ∈ s.probes, entry.2.account = account → s.HasHost account entry.2.hostId := by
  constructor
  · intro confined entry member owned
    exact confined entry.1 entry.2 (s.probes_filed.sorted.mem_iff.mp member) owned
  · intro all id p found owned
    exact all (id, p) (Table.mem_of_get? found) owned

instance (s : Store α τ) (account : String) : Decidable (s.Confined account) :=
  decidable_of_iff _ confined_iff_forall_mem.symm

@[simp] theorem canAccess_account {own owner : String} :
    (Actor.account own).canAccess owner = true ↔ owner = own := by
  rw [Actor.canAccess, beq_iff_eq, eq_comm]

/-! ### What the parts of an operation do -/

theorem HasHost.setHost {id : String} (present : s.HasHost account id) {h : Host τ}
    (own : h.account = account) : (s.setHost h).HasHost account id := by
  obtain ⟨old, found, owned⟩ := present
  by_cases same : id = h.id
  · exact ⟨h, by simp [same], own⟩
  · exact ⟨old, by simp [same, found], owned⟩

theorem HasHost.eraseHost {id gone : String} (present : s.HasHost account id) (other : id ≠ gone) :
    (s.eraseHost gone).HasHost account id := by
  obtain ⟨h, found, owned⟩ := present
  exact ⟨h, by simp [other, found], owned⟩

/-- A probe that is filed anew has to be confined itself. -/
theorem Confined.setProbe (confined : s.Confined account) {p : Probe α}
    (bound : p.account = account → s.HasHost account p.hostId) :
    (s.setProbe p).Confined account := by
  intro id q found owned
  rw [probe?_setProbe] at found
  split at found
  · cases found
    exact bound owned
  · exact confined id q found owned

/-- A probe may be filed anew with other values, as long as its account and its host stay. -/
theorem Confined.refile (confined : s.Confined account) {id : String} {old p : Probe α}
    (found : s.probe? id = some old) (sameAccount : p.account = old.account)
    (sameHost : p.hostId = old.hostId) : (s.setProbe p).Confined account := by
  refine confined.setProbe fun owned => ?_
  rw [sameHost]
  exact confined id old found (sameAccount.symm.trans owned)

theorem Confined.eraseProbe (confined : s.Confined account) (gone : String) :
    (s.eraseProbe gone).Confined account := by
  intro id q found owned
  rw [probe?_eraseProbe] at found
  split at found
  · cases found
  · exact confined id q found owned

theorem Confined.setHost (confined : s.Confined account) {h : Host τ}
    (own : h.account = account) : (s.setHost h).Confined account := by
  intro id q found owned
  exact (confined id q found owned).setHost own

/-- The probes that were bound to a host are gone with it. -/
theorem Confined.eraseHost (confined : s.Confined account) (gone : String) :
    (s.eraseHost gone).Confined account := by
  intro id q found owned
  rw [probe?_eraseHost, Option.filter_eq_some_iff] at found
  obtain ⟨found, elsewhere⟩ := found
  exact (confined id q found owned).eraseHost (bne_iff_ne.mp elsewhere)

/-! ### One operation and many -/

/-- No operation but a straying update takes a probe of the account elsewhere. -/
theorem Confined.moves {op : Operation α τ} {after : Store α τ} (confined : s.Confined account)
    (move : s.Moves (.account account) op after) (stays : ¬ s.Strays account op) :
    after.Confined account := by
  cases move with
  | kept => exact confined
  | addProbe own found visible fresh =>
      exact confined.setProbe fun _ => ⟨_, found, canAccess_account.mp visible⟩
  | updateProbe own found visible =>
      refine confined.setProbe fun owned => Classical.byContradiction fun elsewhere => ?_
      exact stays ⟨owned, ⟨_, found, canAccess_account.mp visible⟩, elsewhere⟩
  | deleteProbe => exact confined.eraseProbe _
  | recordRun found => exact confined.refile found rfl rfl
  | recordBeyond found => exact confined.refile found rfl rfl
  | reschedule found => exact confined.refile found rfl rfl
  | addHost own => exact confined.setHost (canAccess_account.mp own)
  | updateHost own => exact confined.setHost (canAccess_account.mp own)
  | deleteHost => exact confined.eraseHost _

variable [Plugin α] [Plugin τ]

/-- An update that strays is granted, and the probe is out at once. -/
theorem not_confined_of_strays {op : Operation α τ} (strays : s.Strays account op) :
    ¬ (s.perform (.account account) op).store.Confined account := by
  cases op with
  | updateProbe p =>
      obtain ⟨own, ⟨old, found, owned⟩, elsewhere⟩ := strays
      have granted : s.updateProbe (.account account) p = .ok (s.putProbe .updated p) :=
        updateProbe_eq_ok_iff.mpr
          ⟨canAccess_account.mpr own, ⟨old, found, canAccess_account.mpr owned⟩, rfl⟩
      have after : (s.perform (.account account) (.updateProbe p)).store = s.setProbe p := by
        simp only [perform, granted, Outcome.ofChange, putProbe]
      intro confined
      rw [after] at confined
      exact elsewhere (confined p.id p (by simp) own)
  | _ => exact strays.elim

theorem confined_perform_iff (confined : s.Confined account) (op : Operation α τ) :
    (s.perform (.account account) op).store.Confined account ↔ ¬ s.Strays account op :=
  ⟨fun after strays => not_confined_of_strays strays after,
    confined.moves (perform_moves s _ op)⟩

/-- The store after operations that are all done on behalf of one actor. -/
def performAs (s : Store α τ) (actor : Actor) (ops : List (Operation α τ)) : Store α τ :=
  (s.performAll (ops.map fun op => (actor, op))).store

theorem performAs_take_succ (s : Store α τ) (actor : Actor) {ops : List (Operation α τ)} {n : Nat}
    {op : Operation α τ} (next : ops[n]? = some op) :
    s.performAs actor (ops.take (n + 1)) =
      ((s.performAs actor (ops.take n)).perform actor op).store := by
  unfold performAs performAll
  rw [List.take_add_one, next, Option.toList_some, List.map_append, List.foldl_append]
  rfl

/-- The probes of a tenant are bound to its own hosts throughout a run of its operations, if they
were so before it, exactly when no operation of the run strays. -/
theorem confined_throughout_iff (confined : s.Confined account) (ops : List (Operation α τ)) :
    (∀ n, (s.performAs (.account account) (ops.take n)).Confined account) ↔
      ∀ n op, ops[n]? = some op →
        ¬ (s.performAs (.account account) (ops.take n)).Strays account op := by
  constructor
  · intro throughout n op next
    have after := throughout (n + 1)
    rw [performAs_take_succ s _ next] at after
    exact (confined_perform_iff (throughout n) op).mp after
  · intro stays n
    induction n with
    | zero => exact confined
    | succ n ih =>
        cases next : ops[n]? with
        | none =>
            have short : ops.length ≤ n := List.getElem?_eq_none_iff.mp next
            rw [List.take_of_length_le (Nat.le_succ_of_le short)]
            rwa [List.take_of_length_le short] at ih
        | some op =>
            rw [performAs_take_succ s _ next]
            exact (confined_perform_iff ih op).mpr (stays n op next)

/-- A tenant with one probe, on its only host, and the host of another tenant. -/
def neighbours : Store Agent Transport :=
  (performAll .empty [
    (.account "acme", .addHost
      { id := "web", account := "acme", name := "web", transport := .thisMachine }),
    (.account "globex", .addHost
      { id := "db", account := "globex", name := "db", transport := .thisMachine }),
    (.account "acme", .addProbe
      { id := "p", account := "acme", hostId := "web", agent := .load none
        interval := .ofMillis 10000 })]).store

/-- The probe of the tenant, bound to the host `id` instead of its own. -/
def boundTo (id : String) : Probe Agent :=
  { id := "p", account := "acme", hostId := id, agent := .load none, interval := .ofMillis 10000 }

/-- A tenant can get a second host and bind its probe to that. -/
theorem confined_while_moving :
    neighbours.Confined "acme" ∧
      ∀ n, (neighbours.performAs (.account "acme") (List.take n [
        .addHost { id := "mail", account := "acme", name := "mail", transport := .thisMachine },
        .updateProbe (boundTo "mail"), .deleteHost "web"])).Confined "acme" := by
  refine ⟨by decide, (confined_throughout_iff (by decide) _).mpr ?_⟩
  rintro (_ | _ | _ | n) op ⟨⟩
  · exact id
  · exact fun strays => strays.2.2 (by decide)
  · exact id

/-- A tenant can bind its probe to the host of another tenant. -/
theorem update_leaves_confinement :
    neighbours.Confined "acme" ∧
      ¬ (neighbours.performAs (.account "acme") [.updateProbe (boundTo "db")]).Confined "acme" := by
  decide

end Hostwatch.Store
