import Hostwatch.Agent.Course

/-!
# Streams and the reads that cut them

A connection yields its octets in pieces, and where they are cut is up to the network. All that a
read promises is that its piece comes next, that it is not longer than was asked for, and that it is
empty only when nothing is left. Reading up to a limit makes up for that: what comes of it follows
from the octets alone.
-/

namespace Hostwatch

namespace Dialogue

variable {σ α β : Type}

theorem bind_eq_bind (d : Dialogue α) (next : α → Dialogue β) : d >>= next = d.bind next := rfl

theorem run_ask (answer : σ → (q : Query) → q.Reply × σ) (q : Query) (next : q.Reply → Dialogue α)
    (s : σ) :
    (ask q next).run answer s = (next (answer s q).1).run answer (answer s q).2 := rfl

theorem transcript_ask (answer : σ → (q : Query) → q.Reply × σ) (q : Query)
    (next : q.Reply → Dialogue α) (s : σ) :
    (ask q next).transcript answer s =
      ⟨q, (answer s q).1⟩ :: (next (answer s q).1).transcript answer (answer s q).2 := rfl

theorem run_query_bind (answer : σ → (q : Query) → q.Reply × σ) (q : Query)
    (next : q.Reply → Dialogue β) (s : σ) :
    (query q >>= next).run answer s = (next (answer s q).1).run answer (answer s q).2 := rfl

theorem transcript_query_bind (answer : σ → (q : Query) → q.Reply × σ) (q : Query)
    (next : q.Reply → Dialogue β) (s : σ) :
    (query q >>= next).transcript answer s =
      ⟨q, (answer s q).1⟩ :: (next (answer s q).1).transcript answer (answer s q).2 := rfl

theorem transcript_bind (answer : σ → (q : Query) → q.Reply × σ) (d : Dialogue α)
    (next : α → Dialogue β) (s : σ) :
    (d.bind next).transcript answer s =
      d.transcript answer s ++ (next (d.run answer s).1).transcript answer (d.run answer s).2 := by
  induction d generalizing s with
  | done => rfl
  | ask q reply ih => exact congrArg (List.cons _) (ih _ _)

/-- A relation between the states of a host and the octets that its connection still yields, if
every read goes by it. -/
def GoesBy (answer : σ → (q : Query) → q.Reply × σ) (R : σ → Octets → Prop) : Prop :=
  ∀ s octets limit, R s octets → 0 < limit → ∃ piece rest,
    (answer s (.receive limit)).1 = .ok piece ∧ octets = piece ++ rest ∧ piece.length ≤ limit ∧
      (piece = [] → octets = []) ∧ R (answer s (.receive limit)).2 rest

/-- The connection that is open in a state still yields exactly these octets, however the reads cut
them. -/
def Yields (answer : σ → (q : Query) → q.Reply × σ) (s : σ) (octets : Octets) : Prop :=
  ∃ R, GoesBy answer R ∧ R s octets

variable {answer : σ → (q : Query) → q.Reply × σ} {s : σ} {octets : Octets} {limit : Nat}

theorem Yields.receive (yields : Yields answer s octets) (some_ : 0 < limit) :
    ∃ piece rest, (answer s (.receive limit)).1 = .ok piece ∧ octets = piece ++ rest ∧
      piece.length ≤ limit ∧ (piece = [] → octets = []) ∧
      Yields answer (answer s (.receive limit)).2 rest := by
  obtain ⟨R, goes, here⟩ := yields
  obtain ⟨piece, rest, read, whole, fits, ends, later⟩ := goes s octets limit here some_
  exact ⟨piece, rest, read, whole, fits, ends, R, goes, later⟩

/-- Reading up to a limit takes that many octets, or all. -/
theorem run_receiveUpTo (yields : Yields answer s octets) (limit : Nat) (got : List Octets) :
    ∃ s', (receiveUpTo limit got).run answer s =
        (.ok (got.reverse.flatten ++ octets.take limit), s') ∧
      Yields answer s' (octets.drop limit) := by
  induction limit using Nat.strongRecOn generalizing s octets got with
  | ind limit ih =>
      rw [receiveUpTo]
      split
      · next none_ =>
          subst none_
          exact ⟨s, by rw [List.take_zero, List.append_nil]; rfl, yields⟩
      · next some_ =>
          obtain ⟨piece, rest, read, rfl, fits, ends, later⟩ :=
            yields.receive (Nat.pos_of_ne_zero some_)
          rw [run_ask, read]
          cases piece with
          | nil =>
              cases ends rfl
              rw [List.nil_append, List.take_nil, List.drop_nil, List.append_nil]
              exact ⟨_, rfl, later⟩
          | cons b piece =>
              have taken : (b :: piece ++ rest).take limit =
                  b :: piece ++ rest.take (limit - (piece.length + 1)) := by
                rw [List.take_append, List.take_of_length_le fits, List.length_cons]
              have left : (b :: piece ++ rest).drop limit =
                  rest.drop (limit - (piece.length + 1)) := by
                rw [List.drop_append, List.drop_eq_nil_of_le fits, List.length_cons, List.nil_append]
              rw [taken, left]
              dsimp only
              split
              · next full =>
                  rw [Nat.sub_eq_zero_of_le full]
                  exact ⟨_, by simp, later⟩
              · next part =>
                  obtain ⟨s', read, left⟩ := ih (limit - (piece.length + 1)) (by omega) later
                    ((b :: piece) :: got)
                  rw [read]
                  exact ⟨s', by simp, left⟩

/-- Nothing is asked of the host but octets. -/
theorem transcript_receiveUpTo (answer : σ → (q : Query) → q.Reply × σ) (s : σ) (limit : Nat)
    (got : List Octets) :
    ∀ e ∈ (receiveUpTo limit got).transcript answer s, ∃ n, e.query = .receive n := by
  induction limit using Nat.strongRecOn generalizing s got with
  | ind limit ih =>
      rw [receiveUpTo]
      split
      · exact List.forall_mem_nil _
      · next some_ =>
          rw [transcript_ask]
          refine List.forall_mem_cons.mpr ⟨⟨limit, rfl⟩, ?_⟩
          split
          · exact List.forall_mem_nil _
          · exact List.forall_mem_nil _
          · split
            · exact List.forall_mem_nil _
            · exact ih _ (by omega) _ _

end Dialogue

end Hostwatch
