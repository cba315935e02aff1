/-!
# Requests in turn

Something that has a state is asked one thing after the other. Each request is answered and may
leave a state in which the next one is answered differently.
-/

namespace Hostwatch

universe u v w

variable {σ : Type u} {ρ : Type v} {α : Type w}

/-- The answers to requests that are made in turn, and the state that they leave. -/
def inTurn (answer : σ → ρ → α × σ) (s : σ) : List ρ → List α × σ
  | [] => ([], s)
  | r :: rest =>
    let (a, s) := answer s r
    let (answers, s) := inTurn answer s rest
    (a :: answers, s)

namespace inTurn

variable (answer : σ → ρ → α × σ) (s : σ)

@[simp] theorem nil : inTurn answer s [] = ([], s) := rfl

theorem cons (r : ρ) (rest : List ρ) :
    inTurn answer s (r :: rest) =
      ((answer s r).1 :: (inTurn answer (answer s r).2 rest).1,
        (inTurn answer (answer s r).2 rest).2) := rfl

/-- Every request is answered. -/
theorem length (requests : List ρ) : (inTurn answer s requests).1.length = requests.length := by
  induction requests generalizing s with
  | nil => rfl
  | cons r rest ih => rw [cons, List.length_cons, List.length_cons, ih]

/-- A request is answered in the state that those before it leave. -/
theorem getElem?_answers (requests : List ρ) (n : Nat) :
    (inTurn answer s requests).1[n]? =
      requests[n]?.map fun r => (answer (inTurn answer s (requests.take n)).2 r).1 := by
  induction requests generalizing s n with
  | nil => rfl
  | cons r rest ih =>
      cases n with
      | zero => rfl
      | succ n =>
          rw [cons, List.getElem?_cons_succ, List.getElem?_cons_succ, ih, List.take_succ_cons, cons]

/-- The last request decides what state is left, in the state that those before it leave. -/
theorem state_concat (before : List ρ) (r : ρ) :
    (inTurn answer s (before ++ [r])).2 = (answer (inTurn answer s before).2 r).2 := by
  induction before generalizing s with
  | nil => rfl
  | cons first rest ih => rw [List.cons_append, cons, cons, ih]

/-- What holds of a state and stays with each request holds in the end. -/
theorem induction {P : σ → Prop} (stays : ∀ s r, P s → P (answer s r).2) (start : P s)
    (requests : List ρ) : P (inTurn answer s requests).2 := by
  induction requests generalizing s with
  | nil => exact start
  | cons r rest ih => exact ih _ (stays s r start)

/-- A request that changes nothing might as well not have been made: the others are answered as
they would have been. -/
theorem insert_idle (before after : List ρ) {r : ρ}
    (idle : (answer (inTurn answer s before).2 r).2 = (inTurn answer s before).2) :
    inTurn answer s (before ++ r :: after) =
      ((inTurn answer s (before ++ after)).1.insertIdx before.length
          (answer (inTurn answer s before).2 r).1,
        (inTurn answer s (before ++ after)).2) := by
  induction before generalizing s with
  | nil =>
      rw [nil] at idle
      rw [List.nil_append, cons, idle]
      rfl
  | cons first rest ih =>
      rw [List.cons_append, cons, ih _ idle]
      rfl

end inTurn

end Hostwatch
