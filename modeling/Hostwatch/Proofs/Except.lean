/-!
# Steps that can be refused

When a chain of steps is granted, and what becomes of a list of steps.
-/

namespace Hostwatch

/-- A chain of refusable steps is granted when every step is. -/
theorem bind_eq_ok_iff {ε β γ : Type} {x : Except ε β} {f : β → Except ε γ} {c : γ} :
    (x >>= f) = .ok c ↔ ∃ b, x = .ok b ∧ f b = .ok c := by
  cases x with
  | error e => simp [bind, Except.bind]
  | ok b => simp [bind, Except.bind]

theorem mapError_ok {ε ε' β : Type} (f : ε → ε') (b : β) : (Except.ok b).mapError f = .ok b := rfl

theorem mapError_eq_ok_iff {ε ε' β : Type} {x : Except ε β} {f : ε → ε'} {b : β} :
    x.mapError f = .ok b ↔ x = .ok b := by
  cases x with
  | error e => exact ⟨nofun, nofun⟩
  | ok b' => rw [mapError_ok, Except.ok.injEq, Except.ok.injEq]

theorem map_eq_ok_iff {ε β γ : Type} {x : Except ε β} {f : β → γ} {c : γ} :
    x.map f = .ok c ↔ ∃ b, x = .ok b ∧ f b = c := by
  cases x with
  | error e => simp [Except.map]
  | ok b => simp [Except.map]

theorem map_bind {ε β γ δ : Type} {x : Except ε β} {f : β → Except ε γ} {g : γ → δ} :
    (x >>= f).map g = x >>= fun b => (f b).map g := by
  cases x with
  | error e => rfl
  | ok b => rfl

/-- A list of steps that leave what they are given, or are refused for one and the same reason. -/
theorem mapM_ite {α ε : Type} {f : α → Except ε α} {good : α → Bool} {e : ε} {items : List α}
    (each : ∀ item ∈ items, f item = if good item then .ok item else .error e) :
    items.mapM f = if items.all good then .ok items else .error e := by
  induction items with
  | nil => rfl
  | cons item rest ih =>
      obtain ⟨first, later⟩ := List.forall_mem_cons.mp each
      rw [List.mapM_cons, first, ih later, List.all_cons]
      cases good item with
      | false => rfl
      | true =>
          cases rest.all good with
          | false => rfl
          | true => rfl

/-- What comes of a list of steps came of one of them. -/
theorem exists_of_mem_mapM {α β : Type} {f : α → Option β} {items : List α} {found : List β}
    (each : items.mapM f = some found) {b : β} (member : b ∈ found) : ∃ a ∈ items, f a = some b := by
  induction items generalizing found with
  | nil =>
      cases each
      cases member
  | cons a items ih =>
      rw [List.mapM_cons] at each
      obtain ⟨first, here, rest⟩ := Option.bind_eq_some_iff.mp each
      obtain ⟨later, others, whole⟩ := Option.bind_eq_some_iff.mp rest
      cases whole
      rcases List.mem_cons.mp member with rfl | member
      · exact ⟨a, List.mem_cons_self, here⟩
      · obtain ⟨a', among, granted⟩ := ih others member
        exact ⟨a', List.mem_cons_of_mem a among, granted⟩

end Hostwatch
