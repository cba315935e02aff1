import Hostwatch.Proofs.Store.Confinement
import Mathlib.Data.List.Induction
import Mathlib.Data.List.Infix

/-!
# What a tenant cannot touch

An update brings a whole new host or probe, so it could take something of another account over, or
give something away. It does neither, because the account is looked at twice: that of what is stored
and that of what is to be stored. So whatever a tenant does, the hosts of others stay as they are,
and so do their probes, but for those on a host of the tenant: they go when the tenant deletes that
host, and only then.
-/

namespace Hostwatch

namespace Table

variable {α : Type _} {t : Table α} {account key id : String} {other : α}

/-- To file something of an account in the place of nothing, or of something of that account, leaves
all that others own as it is. -/
theorem get?_insert_of_owned (owner : α → String) {value : α} (own : owner value = account)
    (before : ∀ old, t.get? key = some old → owner old = account)
    (foreign : owner other ≠ account) :
    (t.insert key value).get? id = some other ↔ t.get? id = some other := by
  rw [get?_insert]
  split
  · next same =>
      subst same
      refine iff_of_false ?_ fun found => foreign (before other found)
      intro filed
      cases filed
      exact foreign own
  · exact Iff.rfl

theorem get?_erase_of_owned (owner : α → String)
    (before : ∀ old, t.get? key = some old → owner old = account)
    (foreign : owner other ≠ account) :
    (t.erase key).get? id = some other ↔ t.get? id = some other := by
  rw [get?_erase]
  split
  · next same =>
      subst same
      exact iff_of_false nofun fun found => foreign (before other found)
  · exact Iff.rfl

end Table

namespace Store

variable {α τ : Type} {s after : Store α τ} {account : String} {op : Operation α τ}

/-- An operation deletes a host of the account, and with it all probes that are bound to it. -/
def Clears (s : Store α τ) (account host : String) (op : Operation α τ) : Prop :=
  op = .deleteHost host ∧ s.HasHost account host

/-! ### One operation -/

/-- If the tenant may see what is found, all that is found there belongs to its account. -/
theorem owned_of_found {β : Type} (owner : β → String) {found : Option β} {old : β}
    (there : found = some old) (visible : (Actor.account account).canAccess (owner old) = true) :
    ∀ other, found = some other → owner other = account := by
  intro other same
  rw [there] at same
  cases same
  exact canAccess_account.mp visible

theorem Moves.foreign_host (move : s.Moves (.account account) op after) {id : String} {h : Host τ}
    (foreign : h.account ≠ account) : after.host? id = some h ↔ s.host? id = some h := by
  cases move with
  | addHost own fresh =>
      refine Table.get?_insert_of_owned Host.account (canAccess_account.mp own) ?_ foreign
      intro old found
      cases fresh.symm.trans found
  | updateHost own found visible =>
      exact Table.get?_insert_of_owned Host.account (canAccess_account.mp own)
        (owned_of_found Host.account found visible) foreign
  | deleteHost found visible =>
      exact Table.get?_erase_of_owned Host.account (owned_of_found Host.account found visible) foreign
  | _ => exact Iff.rfl

/-- A foreign probe stays, and none appears, as long as no host is deleted that it is bound to. -/
theorem Moves.foreign_probe (move : s.Moves (.account account) op after) {id : String}
    {p : Probe α} (foreign : p.account ≠ account) (stays : ¬ s.Clears account p.hostId op) :
    after.probe? id = some p ↔ s.probe? id = some p := by
  -- A run and a new time are written into the probe that was there, so its account stays.
  have refiled {key : String} {old new : Probe α} (found : s.probe? key = some old)
      (visible : (Actor.account account).canAccess old.account = true)
      (sameId : new.id = old.id) (sameAccount : new.account = old.account) :
      (s.setProbe new).probe? id = some p ↔ s.probe? id = some p := by
    have own : new.account = account := sameAccount.trans (canAccess_account.mp visible)
    refine Table.get?_insert_of_owned Probe.account own ?_ foreign
    rw [sameId, id_of_probe? found]
    exact owned_of_found Probe.account found visible
  cases move with
  | addProbe own bound visible fresh =>
      refine Table.get?_insert_of_owned Probe.account (canAccess_account.mp own) ?_ foreign
      intro old found
      cases fresh.symm.trans found
  | updateProbe own found visible =>
      exact Table.get?_insert_of_owned Probe.account (canAccess_account.mp own)
        (owned_of_found Probe.account found visible) foreign
  | deleteProbe found visible =>
      exact Table.get?_erase_of_owned Probe.account (owned_of_found Probe.account found visible)
        foreign
  | recordRun found visible => exact refiled found visible rfl rfl
  | recordBeyond found visible => exact refiled found visible rfl rfl
  | reschedule found visible => exact refiled found visible rfl rfl
  | deleteHost found visible =>
      rw [probe?_eraseHost, Option.filter_eq_some_iff, bne_iff_ne]
      refine and_iff_left_of_imp fun _ bound => stays ?_
      subst bound
      exact ⟨rfl, _, found, canAccess_account.mp visible⟩
  | _ => exact Iff.rfl

variable [Plugin α] [Plugin τ]

/-- The deletion of a host of one's own is granted. -/
theorem Clears.perform {host : String} (clears : s.Clears account host op) :
    (s.perform (.account account) op).store = s.eraseHost host := by
  obtain ⟨rfl, h, found, own⟩ := clears
  have granted := deleteHost_eq_ok_iff.mpr ⟨⟨h, found, canAccess_account.mpr own⟩, rfl⟩
  simp only [Store.perform, granted, Outcome.ofChange]

/-- A deleted host leaves neither itself behind nor a probe that is bound to it. -/
theorem Clears.gone {host : String} (clears : s.Clears account host op) :
    (s.perform (.account account) op).store.host? host = none ∧
      ∀ id p, (s.perform (.account account) op).store.probe? id = some p → p.hostId ≠ host := by
  rw [clears.perform]
  refine ⟨by simp, ?_⟩
  intro id p found
  rw [probe?_eraseHost, Option.filter_eq_some_iff, bne_iff_ne] at found
  exact found.2

theorem foreign_probe_perform_iff {id : String} {p : Probe α} (foreign : p.account ≠ account) :
    (s.perform (.account account) op).store.probe? id = some p ↔
      s.probe? id = some p ∧ ¬ s.Clears account p.hostId op := by
  by_cases clears : s.Clears account p.hostId op
  · refine iff_of_false ?_ fun kept => kept.2 clears
    intro found
    exact clears.gone.2 id p found rfl
  · have move := perform_moves s (.account account) op
    rw [move.foreign_probe foreign clears]
    exact (and_iff_left clears).symm

/-- A host that is there before an operation and after it belongs to the tenant both times or
neither time. -/
theorem host_keeps_owner {id : String} {h h' : Host τ} (before : s.host? id = some h)
    (found : (s.perform (.account account) op).store.host? id = some h') :
    h.account = account ↔ h'.account = account := by
  have move := perform_moves s (.account account) op
  by_cases own : h.account = account
  · refine iff_of_true own (Classical.byContradiction fun foreign => ?_)
    rw [move.foreign_host foreign, before] at found
    cases found
    exact foreign own
  · rw [← move.foreign_host own, found] at before
    cases before
    exact Iff.rfl

theorem probe_keeps_owner {id : String} {p p' : Probe α} (before : s.probe? id = some p)
    (found : (s.perform (.account account) op).store.probe? id = some p') :
    p.account = account ↔ p'.account = account := by
  by_cases own : p.account = account
  · refine iff_of_true own (Classical.byContradiction fun foreign => ?_)
    obtain ⟨stored, -⟩ := (foreign_probe_perform_iff foreign).mp found
    cases before.symm.trans stored
    exact foreign own
  · by_cases clears : s.Clears account p.hostId op
    · -- The probe goes with its host, and then there is nothing under its identifier.
      rw [clears.perform, probe?_eraseHost, before, Option.filter_some] at found
      simp at found
    · have kept := (foreign_probe_perform_iff own).mpr ⟨before, clears⟩
      cases kept.symm.trans found
      exact Iff.rfl

/-! ### Many operations -/

theorem performAs_concat (s : Store α τ) (actor : Actor) (ops : List (Operation α τ))
    (op : Operation α τ) :
    s.performAs actor (ops ++ [op]) = ((s.performAs actor ops).perform actor op).store := by
  unfold performAs performAll
  rw [List.map_append, List.foldl_append]
  rfl

theorem foreign_host_performAs_iff (ops : List (Operation α τ)) {id : String} {h : Host τ}
    (foreign : h.account ≠ account) :
    (s.performAs (.account account) ops).host? id = some h ↔ s.host? id = some h := by
  induction ops using List.reverseRecOn with
  | nil => exact Iff.rfl
  | append_singleton ops op ih =>
      rw [performAs_concat, (perform_moves _ _ op).foreign_host foreign]
      exact ih

theorem foreign_probe_performAs_iff (ops : List (Operation α τ)) {id : String} {p : Probe α}
    (foreign : p.account ≠ account) :
    (s.performAs (.account account) ops).probe? id = some p ↔
      s.probe? id = some p ∧ ∀ before op, before ++ [op] <+: ops →
        ¬ (s.performAs (.account account) before).Clears account p.hostId op := by
  induction ops using List.reverseRecOn with
  | nil => simp [performAs, performAll]
  | append_singleton ops op ih =>
      rw [performAs_concat, foreign_probe_perform_iff foreign, ih, and_assoc]
      refine and_congr_right fun _ => ?_
      simp only [List.prefix_concat_iff]
      constructor
      · rintro ⟨earlier, last⟩ before next (same | within)
        · obtain ⟨rfl, rfl⟩ := List.append_singleton_inj.mp same
          exact last
        · exact earlier before next within
      · intro never
        exact ⟨fun before next within => never before next (.inr within), never ops op (.inl rfl)⟩

/-- Whatever a tenant does, the hosts of others are stored afterwards exactly as they were, and no
new one appears. So are their probes, except that a probe goes together with the host that it is
bound to when that is a host of the tenant and the tenant deletes it. No operation on the way takes
a host or a probe into the account of the tenant or out of it. -/
theorem others_stay_as_they_are (s : Store α τ) (account : String) (ops : List (Operation α τ)) :
    (∀ id h, h.account ≠ account →
      ((s.performAs (.account account) ops).host? id = some h ↔ s.host? id = some h)) ∧
    (∀ id p, p.account ≠ account →
      ((s.performAs (.account account) ops).probe? id = some p ↔
        s.probe? id = some p ∧ ∀ before op, before ++ [op] <+: ops →
          ¬ (s.performAs (.account account) before).Clears account p.hostId op)) ∧
    ∀ before op, before ++ [op] <+: ops →
      let earlier := s.performAs (.account account) before
      let later := s.performAs (.account account) (before ++ [op])
      (∀ id h h', earlier.host? id = some h → later.host? id = some h' →
        (h.account = account ↔ h'.account = account)) ∧
      (∀ id p p', earlier.probe? id = some p → later.probe? id = some p' →
        (p.account = account ↔ p'.account = account)) ∧
      ∀ host, earlier.Clears account host op → later.host? host = none ∧
        ∀ id p, later.probe? id = some p → p.hostId ≠ host := by
  refine ⟨fun id h => foreign_host_performAs_iff ops, fun id p => foreign_probe_performAs_iff ops, ?_⟩
  intro before op _
  simp only [performAs_concat]
  exact ⟨fun id h h' => host_keeps_owner, fun id p p' => probe_keeps_owner, fun host => Clears.gone⟩

/-- The neighbours, after the tenant of the second host has got a probe on each of the two hosts. -/
def lodgers : Store Agent Transport :=
  let probe (id hostId : String) : Probe Agent :=
    { id, account := "globex", hostId, agent := .load none, interval := .ofMillis 10000 }
  (performAll neighbours
    [(.system, .addProbe (probe "there" "web")), (.account "globex", .addProbe (probe "home" "db"))]).store

/-- A tenant tries to take over what others have and then deletes its own host. The probe that
another one has on that host goes, and nothing else does. -/
theorem lodger_goes_with_the_host :
    let ops : List (Operation Agent Transport) :=
      [.updateHost { id := "db", account := "acme", name := "mine", transport := .thisMachine },
        .deleteProbe "home", .reschedule "there" ⟨0, 0⟩, .deleteHost "web"]
    let after := lodgers.performAs (.account "acme") ops
    (∀ id h, h.account ≠ "acme" → (after.host? id = some h ↔ lodgers.host? id = some h)) ∧
    ∀ id p, p.account ≠ "acme" →
      (after.probe? id = some p ↔ lodgers.probe? id = some p ∧ p.hostId ≠ "web") := by
  intro ops after
  obtain ⟨hosts, probes, -⟩ := others_stay_as_they_are lodgers "acme" ops
  refine ⟨hosts, fun id p foreign => (probes id p foreign).trans ?_⟩
  refine and_congr_right fun _ => ?_
  constructor
  · intro never bound
    refine never (ops.take 3) (.deleteHost "web") (List.prefix_refl ops) ⟨by rw [bound], ?_⟩
    rw [bound]
    decide
  · intro elsewhere before op within clears
    have deleted : op ∈ ops := within.subset (List.mem_append_right _ List.mem_cons_self)
    rw [clears.1] at deleted
    exact elsewhere (by simpa [ops] using deleted)

end Store

end Hostwatch
