import Hostwatch.Proofs.Store.Operations

/-!
# Listings and look-ups

There are two ways to what is stored. A look-up goes by an identifier and refuses what is not the
actor's business; a listing goes through everything and leaves out what is not. Whatever has been
done to a store, the two agree: a listing has exactly what its actor could look up one by one in the
scope, in the order of the identifiers. What carries this is that everything is filed under its own
identifier, so that what a listing comes across is found again by the identifier that it shows.
-/

namespace Hostwatch

namespace Table

variable {α : Type _} {t : Table α} {ident : α → String}

/-- What is listed is what is found by its own identifier. -/
theorem Filed.mem_values_iff (filed : t.Filed ident) {value : α} :
    value ∈ t.values ↔ t.get? (ident value) = some value :=
  ⟨filed.get?_of_mem_values, fun found => List.mem_map_of_mem (mem_of_get? found)⟩

end Table

namespace Scope

variable {α τ : Type} {scope : Scope}

theorem holdsProbe_iff {p : Probe α} :
    scope.holdsProbe p = true ↔
      scope = .all ∨ scope = .account p.account ∨ scope = .host p.hostId := by
  cases scope with
  | all => simp [holdsProbe]
  | account name => simpa [holdsProbe] using eq_comm
  | host id => simpa [holdsProbe] using eq_comm

theorem holdsHost_iff {h : Host τ} :
    scope.holdsHost h = true ↔ scope = .all ∨ scope = .account h.account ∨ scope = .host h.id := by
  cases scope with
  | all => simp [holdsHost]
  | account name => simpa [holdsHost] using eq_comm
  | host id => simpa [holdsHost] using eq_comm

end Scope

namespace Store

variable {α τ : Type} {s : Store α τ} {actor : Actor} {scope : Scope}

theorem mem_listProbes_iff {p : Probe α} :
    p ∈ s.listProbes actor scope ↔
      s.getProbe actor p.id = .ok p ∧
        (scope = .all ∨ scope = .account p.account ∨ scope = .host p.hostId) := by
  rw [listProbes, List.mem_filter, s.probes_filed.mem_values_iff, Bool.and_eq_true,
    Scope.holdsProbe_iff, getProbe_eq_ok_iff, and_assoc]
  rfl

theorem mem_listHosts_iff {h : Host τ} :
    h ∈ s.listHosts actor scope ↔
      s.getHost actor h.id = .ok h ∧
        (scope = .all ∨ scope = .account h.account ∨ scope = .host h.id) := by
  rw [listHosts, List.mem_filter, s.hosts_filed.mem_values_iff, Bool.and_eq_true,
    Scope.holdsHost_iff, getHost_eq_ok_iff, and_assoc]
  rfl

theorem listProbes_ascending (s : Store α τ) (actor : Actor) (scope : Scope) :
    (s.listProbes actor scope).Pairwise fun a b => a.id < b.id :=
  s.probes_filed.pairwise_values_lt.filter _

theorem listHosts_ascending (s : Store α τ) (actor : Actor) (scope : Scope) :
    (s.listHosts actor scope).Pairwise fun a b => a.id < b.id :=
  s.hosts_filed.pairwise_values_lt.filter _

variable [Plugin α] [Plugin τ]

theorem answer_getProbe_eq_ok_iff {id : String} {p : Probe α} :
    (s.perform actor (.getProbe id)).answer = .ok (.probe p) ↔ s.getProbe actor id = .ok p := by
  change (s.getProbe actor id).map Answer.probe = _ ↔ _
  rw [map_eq_ok_iff]
  simp only [Answer.probe.injEq, exists_eq_right]

theorem answer_getHost_eq_ok_iff {id : String} {h : Host τ} :
    (s.perform actor (.getHost id)).answer = .ok (.host h) ↔ s.getHost actor id = .ok h := by
  change (s.getHost actor id).map Answer.host = _ ↔ _
  rw [map_eq_ok_iff]
  simp only [Answer.host.injEq, exists_eq_right]

/-- After any operations on a store that was empty at first, whoever asks for a listing gets one. It
is in strictly ascending order of the identifiers, and so has nothing twice. What it has is exactly
what the same actor is handed out when looking it up by its identifier, as far as the scope goes: a
scope is everything, an account, or a host with the probes on it. Everything is stored under its own
identifier. -/
theorem listings_agree_with_lookups (ops : List (Actor × Operation α τ)) (actor : Actor)
    (scope : Scope) :
    let s := (empty.performAll ops).store
    (∃ ps, (s.perform actor (.listProbes scope)).answer = .ok (.probes ps) ∧
      (ps.Pairwise fun a b => a.id < b.id) ∧
      ∀ p, p ∈ ps ↔ (s.perform actor (.getProbe p.id)).answer = .ok (.probe p) ∧
        (scope = .all ∨ scope = .account p.account ∨ scope = .host p.hostId)) ∧
    (∃ hs, (s.perform actor (.listHosts scope)).answer = .ok (.hosts hs) ∧
      (hs.Pairwise fun a b => a.id < b.id) ∧
      ∀ h, h ∈ hs ↔ (s.perform actor (.getHost h.id)).answer = .ok (.host h) ∧
        (scope = .all ∨ scope = .account h.account ∨ scope = .host h.id)) ∧
    (∀ id p, s.probe? id = some p → p.id = id) ∧ ∀ id h, s.host? id = some h → h.id = id := by
  intro s
  refine ⟨⟨_, rfl, s.listProbes_ascending actor scope, fun p => ?_⟩,
    ⟨_, rfl, s.listHosts_ascending actor scope, fun h => ?_⟩,
    fun id p found => id_of_probe? found, fun id h found => id_of_host? found⟩
  · rw [mem_listProbes_iff, answer_getProbe_eq_ok_iff]
  · rw [mem_listHosts_iff, answer_getHost_eq_ok_iff]

end Store

end Hostwatch
