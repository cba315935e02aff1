import Hostwatch.Proofs.Store.Operations

/-!
# What an operation announces

Each operation announces what it does to the records and nothing else: one event for a change, none
if it only reads or is refused. When a host is deleted, the probes that were bound to it go first.
The one exception is the record of a run that falls apart because the next check lies beyond the
calendar: it changes the store and announces nothing.
-/

namespace Hostwatch

/-- Whether an operation only reads. -/
def Operation.reads {α τ : Type} : Operation α τ → Bool
  | .getProbe _ | .listProbes _ | .getHost _ | .listHosts _ => true
  | _ => false

namespace Store

variable {α τ : Type} {s : Store α τ}

/-- The probes that are bound to a host. -/
def boundProbes (s : Store α τ) (host : String) : List String :=
  (s.probes.filter fun entry => entry.2.hostId == host).map (·.1)

theorem mem_boundProbes {host id : String} :
    id ∈ s.boundProbes host ↔ ∃ p, s.probe? id = some p ∧ p.hostId = host := by
  simp only [boundProbes, List.mem_map, List.mem_filter, beq_iff_eq]
  constructor
  · rintro ⟨⟨key, p⟩, ⟨member, bound⟩, rfl⟩
    exact ⟨p, s.probes_filed.sorted.mem_iff.mp member, bound⟩
  · rintro ⟨p, found, bound⟩
    exact ⟨(id, p), ⟨Table.mem_of_get? found, bound⟩, rfl⟩

theorem boundProbes_nodup (s : Store α τ) (host : String) : (s.boundProbes host).Nodup := by
  refine List.pairwise_map.mpr ((s.probes_filed.sorted.filter _).imp ?_)
  intro a b less same
  exact Std.lt_irrefl (same ▸ less)

/-- What a granted operation announces: nothing if it only reads, a deleted host after the probes
that were deleted with it, and one event otherwise. -/
def Announces (s after : Store α τ) (events : List Event) : Operation α τ → Prop
  | .getProbe _ | .listProbes _ | .getHost _ | .listHosts _ => after = s ∧ events = []
  | .deleteHost id =>
    ∃ gone : List String, gone.Nodup ∧
      (∀ other, other ∈ gone ↔ (s.probe? other).isSome = true ∧ after.probe? other = none) ∧
      events = gone.map (.deleted .probe) ++ [.deleted .host id]
  | _ => ∃ e, events = [e]

theorem announces_of_reads {op : Operation α τ} (reads : op.reads = true) :
    s.Announces s [] op := by
  cases op with
  | getProbe | listProbes | getHost | listHosts => exact ⟨rfl, rfl⟩
  | _ => cases reads

theorem announces_one {op : Operation α τ} (changes : op.reads = false)
    (other : ∀ id, op ≠ .deleteHost id) (after : Store α τ) (e : Event) :
    s.Announces after [e] op := by
  cases op with
  | getProbe | listProbes | getHost | listHosts => cases changes
  | deleteHost id => exact absurd rfl (other id)
  | _ => exact ⟨e, rfl⟩

theorem announces_deletedHost (s : Store α τ) (id : String) :
    s.Announces (s.eraseHost id) ((s.boundProbes id).map (.deleted .probe) ++ [.deleted .host id])
      (.deleteHost id) := by
  refine ⟨s.boundProbes id, s.boundProbes_nodup id, fun other => ?_, rfl⟩
  rw [mem_boundProbes, probe?_eraseHost]
  cases s.probe? other with
  | none => simp
  | some p => simp [Option.filter_some]

/-- Whether the record of a run has fallen apart: the next check lies beyond the calendar. -/
def Outcome.fallsApart (o : Outcome α τ) : Bool :=
  match o.answer with
  | .error .beyondCalendar => true
  | _ => false

/-! ### All that can come of an operation -/

variable [Plugin α] [Plugin τ]

/-- What can come of an operation: its answer, what is stored after it and what it announces. -/
inductive Reports (s : Store α τ) : Operation α τ → Outcome α τ → Prop where
  | tells {op : Operation α τ} (answer : Answer α τ) :
    op.reads = true → Reports s op { answer := .ok answer, store := s }
  | refuses (op : Operation α τ) (e : StoreError) : Reports s op { answer := .error e, store := s }
  | filesProbe {op : Operation α τ} {change : Change} (p : Probe α) :
    op.reads = false → (∀ id, op ≠ .deleteHost id) → change ≠ .deleted →
    Reports s op { s.putProbe change p with answer := .ok .done }
  | filesHost {op : Operation α τ} {change : Change} (h : Host τ) :
    op.reads = false → (∀ id, op ≠ .deleteHost id) → change ≠ .deleted →
    Reports s op { s.putHost change h with answer := .ok .done }
  | deletesProbe (id : String) :
    Reports s (.deleteProbe id)
      { store := s.eraseProbe id, events := [.deleted .probe id], answer := .ok .done }
  | deletesHost (id : String) :
    Reports s (.deleteHost id)
      { store := s.eraseHost id
        events := (s.boundProbes id).map (.deleted .probe) ++ [.deleted .host id]
        answer := .ok .done }
  | fallsApart {op : Operation α τ} (p : Probe α) :
    Reports s op { store := s.setProbe p, answer := .error .beyondCalendar }

theorem reports_ofRead {op : Operation α τ} (reads : op.reads = true)
    {γ : Type} (x : Except StoreError γ) (f : γ → Answer α τ) : s.Reports op (.ofRead s x f) := by
  cases x with
  | ok c => exact .tells (f c) reads
  | error e => exact .refuses op e

theorem reports_ofChange {op : Operation α τ} {x : Except StoreError (Revision α τ)}
    (granted : ∀ r, x = .ok r → s.Reports op { r with answer := .ok .done }) :
    s.Reports op (.ofChange s x) := by
  cases x with
  | ok r => exact granted r rfl
  | error e => exact .refuses op e

theorem perform_reports (s : Store α τ) (actor : Actor) (op : Operation α τ) :
    s.Reports op (s.perform actor op) := by
  cases op with
  | getProbe | listProbes | getHost | listHosts => exact reports_ofRead rfl _ _
  | addProbe p =>
      refine reports_ofChange fun r granted => ?_
      obtain ⟨-, -, -, rfl⟩ := addProbe_eq_ok_iff.mp granted
      exact .filesProbe p rfl nofun nofun
  | updateProbe p =>
      refine reports_ofChange fun r granted => ?_
      obtain ⟨-, -, rfl⟩ := updateProbe_eq_ok_iff.mp granted
      exact .filesProbe p rfl nofun nofun
  | deleteProbe id =>
      refine reports_ofChange fun r granted => ?_
      obtain ⟨-, rfl⟩ := deleteProbe_eq_ok_iff.mp granted
      exact .deletesProbe id
  | recordRun id time points =>
      simp only [perform]
      cases read : s.getProbe actor id with
      | error e =>
          rw [recordRun_eq_error read]
          exact .refuses _ e
      | ok p =>
          obtain ⟨found, visible⟩ := getProbe_eq_ok_iff.mp read
          rw [recordRun_eq found visible]
          cases time.add? p.interval with
          | none => exact .fallsApart _
          | some next => exact .filesProbe _ rfl nofun nofun
  | reschedule id next =>
      refine reports_ofChange fun r granted => ?_
      obtain ⟨old, -, -, rfl⟩ := reschedule_eq_ok_iff.mp granted
      exact .filesProbe _ rfl nofun nofun
  | addHost h =>
      refine reports_ofChange fun r granted => ?_
      obtain ⟨-, -, rfl⟩ := addHost_eq_ok_iff.mp granted
      exact .filesHost h rfl nofun nofun
  | updateHost h =>
      refine reports_ofChange fun r granted => ?_
      obtain ⟨-, -, rfl⟩ := updateHost_eq_ok_iff.mp granted
      exact .filesHost h rfl nofun nofun
  | deleteHost id =>
      refine reports_ofChange fun r granted => ?_
      obtain ⟨-, rfl⟩ := deleteHost_eq_ok_iff.mp granted
      have same : (s.boundProbes id).map (Event.deleted .probe) =
          (s.probes.filter fun entry => entry.2.hostId == id).map
            fun entry => .deleted .probe entry.1 := List.map_map
      rw [← same]
      exact .deletesHost id

theorem Reports.announces {op : Operation α τ} {o : Outcome α τ} (reports : s.Reports op o)
    {answer : Answer α τ} (granted : o.answer = .ok answer) :
    s.Announces o.store o.events op := by
  cases reports with
  | tells answer reads => exact announces_of_reads reads
  | refuses e => cases granted
  | filesProbe p changes other => exact announces_one changes other _ _
  | filesHost h changes other => exact announces_one changes other _ _
  | deletesProbe id => exact announces_one rfl (fun other same => by cases same) _ _
  | deletesHost id => exact announces_deletedHost s id
  | fallsApart p => cases granted

theorem Reports.refused {op : Operation α τ} {o : Outcome α τ} (reports : s.Reports op o)
    {e : StoreError} (refused : o.answer = .error e) (whole : o.fallsApart = false) :
    o.store = s ∧ o.events = [] := by
  cases reports with
  | refuses e => exact ⟨rfl, rfl⟩
  | fallsApart p => cases whole
  | _ => cases refused

/-- All events but the last are of probes that are deleted with their host. -/
theorem Reports.deletions {op : Operation α τ} {o : Outcome α τ} (reports : s.Reports op o) :
    ∀ e ∈ o.events.dropLast, ∃ id, e = .deleted .probe id := by
  cases reports with
  | deletesHost id =>
      intro e member
      rw [List.dropLast_concat] at member
      obtain ⟨gone, -, rfl⟩ := List.mem_map.mp member
      exact ⟨gone, rfl⟩
  | _ => exact nofun

end Store

end Hostwatch
