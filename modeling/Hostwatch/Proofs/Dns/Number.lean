import Hostwatch.Dns.Message

/-!
# The number of a message

The first two octets of a message are its number. They have no say in what else a message says: two
messages that differ at most there and can both be read hold the same number of answers and the same
result code. A name may point back to the number, but where reading goes on after the name does not
depend on what the pointer leads to.
-/

namespace Hostwatch.Dns

variable {α β γ δ : Type}

/-- Two messages that differ at most in their number. -/
structure SameBody (m m' : Array UInt8) : Prop where
  size : m.size = m'.size
  octet : ∀ i, 2 ≤ i → m[i]? = m'[i]?

/-- If both readers succeed from an index on, their results are related, and both go on at the same
place behind the number. -/
def Tied (m m' : Array UInt8) (i : Nat) (R : α → β → Prop) (r : Reader α) (r' : Reader β) : Prop :=
  ∀ a j a' j', (r.run m).run i = some (a, j) → (r'.run m').run i = some (a', j') →
    R a a' ∧ j = j' ∧ 2 ≤ j

/-- Behind the number a reader finds the same in both messages. -/
def Steady (m m' : Array UInt8) (r : Reader α) : Prop :=
  ∀ i, 2 ≤ i → Tied m m' i Eq r r

variable {m m' : Array UInt8} {i : Nat} {R : α → β → Prop} {S : γ → δ → Prop}

theorem Tied.bind {r : Reader α} {r' : Reader β} {next : α → Reader γ} {next' : β → Reader δ}
    (first : Tied m m' i R r r')
    (rest : ∀ a a' j, R a a' → 2 ≤ j → Tied m m' j S (next a) (next' a')) :
    Tied m m' i S (r >>= next) (r' >>= next') := by
  intro c k c' k' came came'
  obtain ⟨⟨a, j⟩, before, after⟩ := Option.bind_eq_some_iff.mp came
  obtain ⟨⟨a', j'⟩, before', after'⟩ := Option.bind_eq_some_iff.mp came'
  obtain ⟨related, rfl, behind⟩ := first a j a' j' before before'
  exact rest a a' j related behind c k c' k' after after'

theorem Tied.pure {a : α} {b : β} (related : R a b) (behind : 2 ≤ i) :
    Tied m m' i R (pure a) (pure b) := by
  rintro _ _ _ _ ⟨⟩ ⟨⟩
  exact ⟨related, rfl, behind⟩

theorem tied_failure : Tied m m' i R failure failure := by
  intro a j a' j' came
  cases came

/-- What a reader does may depend on the message that it reads. -/
theorem run_read_bind {next : Array UInt8 → Reader γ} :
    ((read >>= next).run m).run i = ((next m).run m).run i := rfl

theorem tied_read_bind {next : Array UInt8 → Reader γ} {next' : Array UInt8 → Reader δ}
    (rest : Tied m m' i S (next m) (next' m')) :
    Tied m m' i S (read >>= next) (read >>= next') :=
  rest

/-- What a reader does may depend on where it is. -/
theorem run_get_bind {next : Nat → Reader γ} :
    ((get >>= next).run m).run i = ((next i).run m).run i := rfl

theorem tied_get_bind {next : Nat → Reader γ} {next' : Nat → Reader δ}
    (rest : Tied m m' i S (next i) (next' i)) :
    Tied m m' i S (get >>= next) (get >>= next') :=
  rest

theorem Steady.bind {r : Reader α} {next : α → Reader γ} (first : Steady m m' r)
    (rest : ∀ a, Steady m m' (next a)) : Steady m m' (r >>= next) := by
  intro i behind
  apply (first i behind).bind
  rintro a _ j rfl behind
  exact rest a j behind

theorem steady_pure (a : α) : Steady m m' (pure a) :=
  fun _ behind => Tied.pure rfl behind

theorem steady_failure : Steady m m' (failure : Reader α) :=
  fun _ _ => tied_failure

theorem steady_ite {c : Prop} [Decidable c] {r r' : Reader α} (first : Steady m m' r)
    (second : Steady m m' r') : Steady m m' (if c then r else r') := by
  split
  · exact first
  · exact second

theorem Steady.discard {r : Reader α} (steady : Steady m m' r) : Steady m m' (discard r) := by
  show Steady m m' (r >>= fun _ => pure ())
  exact steady.bind fun _ => steady_pure ()

namespace Reader

variable (same : SameBody m m')
include same

theorem steady_octet : Steady m m' octet := by
  intro i behind
  apply tied_read_bind
  apply tied_get_bind
  rw [same.octet i behind]
  cases m'[i]? with
  | none => exact tied_failure
  | some b =>
      rintro _ _ _ _ ⟨⟩ ⟨⟩
      exact ⟨rfl, rfl, Nat.le_succ_of_le behind⟩

omit same in
theorem eq_of_octet {a j : Nat} (came : (octet.run m).run i = some (a, j)) : j = i + 1 := by
  rw [octet, run_read_bind, run_get_bind] at came
  split at came
  · cases came
    rfl
  · cases came

omit same in
theorem eq_of_word {a j : Nat} (came : (word.run m).run i = some (a, j)) : j = i + 2 := by
  obtain ⟨⟨high, k⟩, first, rest⟩ := Option.bind_eq_some_iff.mp came
  obtain ⟨⟨low, k'⟩, second, ⟨⟩⟩ := Option.bind_eq_some_iff.mp rest
  rw [eq_of_octet second, eq_of_octet first]

theorem steady_word : Steady m m' word :=
  (steady_octet same).bind fun _ => (steady_octet same).bind fun _ => steady_pure _

theorem steady_double : Steady m m' double :=
  (steady_word same).bind fun _ => (steady_word same).bind fun _ => steady_pure _

theorem steady_remaining : Steady m m' remaining := by
  intro i behind
  apply tied_read_bind
  apply tied_get_bind
  exact Tied.pure (by rw [same.size]) behind

theorem steady_skip (count : Nat) : Steady m m' (skip count) := by
  apply (steady_remaining same).bind
  intro left
  apply steady_ite
  · rintro i behind _ _ _ _ ⟨⟩ ⟨⟩
    exact ⟨rfl, rfl, Nat.le_add_right_of_le behind⟩
  · exact steady_failure

theorem extract_eq {index : Nat} (behind : 2 ≤ index) (stop : Nat) :
    m.extract index stop = m'.extract index stop := by
  apply Array.ext_getElem?
  intro k
  rw [Array.getElem?_extract, Array.getElem?_extract, same.size, same.octet (index + k) (by omega)]

theorem steady_take (count : Nat) : Steady m m' (take count) := by
  intro i behind
  apply tied_get_bind
  apply (steady_skip same count i behind).bind
  rintro _ _ j ⟨⟩ behind'
  apply tied_read_bind
  exact Tied.pure (by rw [extract_eq same behind]) behind'

omit same in
theorem steady_require (b : Bool) : Steady m m' (require b) :=
  steady_ite (steady_pure ()) steady_failure

theorem steady_text : Steady m m' text :=
  (steady_octet same).bind fun _ => steady_take same _

/-- Where reading goes on after a name. What a pointer leads to decides only whether it does. -/
theorem nameEnd_eq {fuel start labels octets n n' : Nat} {limit : Option Nat}
    (behind : 2 ≤ i) (came : nameEnd m fuel start i limit labels octets = some n)
    (came' : nameEnd m' fuel start i limit labels octets = some n') : n = n' ∧ 2 ≤ n := by
  induction fuel generalizing i labels octets with
  | zero => cases came
  | succ fuel ih =>
      simp only [nameEnd, same.octet i behind, same.octet (i + 1) (by omega), same.size]
        at came came'
      -- Both readings come to the same case, as they see the same octets.
      by_cases ended : ((limit.map fun n => decide (i ≥ n)).getD false) = true
      · rw [if_pos ended] at came
        cases came
      rw [if_neg ended] at came came'
      by_cases long : max labels 1 + octets + labels > Name.maxLength
      · rw [if_pos long] at came
        cases came
      rw [if_neg long] at came came'
      cases here : m'[i]? with
      | none =>
          rw [here] at came
          cases came
      | some b =>
          rw [here] at came came'
          dsimp only at came came'
          by_cases last : (b.toNat == 0) = true
          · rw [if_pos last] at came came'
            obtain ⟨-, ⟨⟩⟩ := Option.ite_none_left_eq_some.mp came
            obtain ⟨-, ⟨⟩⟩ := Option.ite_none_left_eq_some.mp came'
            exact ⟨rfl, by omega⟩
          rw [if_neg last] at came came'
          by_cases label : b.toNat < 64
          · rw [if_pos label] at came came'
            obtain ⟨-, came⟩ := Option.ite_none_left_eq_some.mp came
            obtain ⟨-, came'⟩ := Option.ite_none_left_eq_some.mp came'
            exact ih (by omega) came came'
          rw [if_neg label] at came came'
          by_cases reserved : b.toNat < 192
          · rw [if_pos reserved] at came
            cases came
          rw [if_neg reserved] at came came'
          cases next : m'[i + 1]? with
          | none =>
              rw [next] at came
              cases came
          | some low =>
              rw [next] at came came'
              obtain ⟨-, came⟩ := Option.ite_none_right_eq_some.mp came
              obtain ⟨-, came'⟩ := Option.ite_none_right_eq_some.mp came'
              obtain ⟨_, -, rfl⟩ := Option.map_eq_some_iff.mp came
              obtain ⟨_, -, rfl⟩ := Option.map_eq_some_iff.mp came'
              exact ⟨rfl, by omega⟩

theorem steady_name : Steady m m' name := by
  intro i behind
  apply tied_read_bind
  apply tied_get_bind
  cases came : nameEnd m (m.size + 300) i i none 0 0 with
  | none => exact fun _ _ _ _ failed => by cases failed
  | some n =>
      cases came' : nameEnd m' (m'.size + 300) i i none 0 0 with
      | none => exact fun _ _ _ _ _ failed => by cases failed
      | some n' =>
          rw [← same.size] at came'
          obtain ⟨rfl, further⟩ := nameEnd_eq same behind came came'
          rw [same.octet i behind]
          rintro _ _ _ _ ⟨⟩ ⟨⟩
          exact ⟨rfl, rfl, further⟩

omit same in
theorem steady_untilEnd {step : Reader Unit} (steady : Steady m m' step) (start length fuel : Nat) :
    Steady m m' (untilEnd start length step fuel) := by
  induction fuel with
  | zero => exact steady_pure ()
  | succ fuel ih =>
      intro i behind
      apply tied_get_bind
      exact steady_ite (steady.bind fun _ => ih) (steady_pure ()) i behind

end Reader

/-! ### Records -/

section Records

open Reader

theorem steady_option (code : Nat) (value : List UInt8) : Steady m m' (option code value) := by
  apply steady_ite (steady_pure ())
  split
  · exact steady_require _
  · exact steady_failure

variable (same : SameBody m m')
include same

theorem steady_options (start length fuel : Nat) : Steady m m' (options start length fuel) := by
  induction fuel with
  | zero => exact steady_pure ()
  | succ fuel ih =>
      intro i behind
      apply tied_get_bind
      refine steady_ite ?_ (steady_pure ()) i behind
      apply (steady_word same).bind
      intro code j behind
      apply tied_get_bind
      refine steady_ite ?_ (steady_pure ()) j behind
      apply (steady_word same).bind
      intro n
      apply (steady_require _).bind
      intro _ k behind
      apply tied_get_bind
      refine steady_ite ?_ (steady_skip same _) k behind
      apply (steady_take same n).bind
      intro value
      exact (steady_option code value).bind fun _ => ih

theorem steady_bindingParam (last : Option Nat) : Steady m m' (bindingParam last) := by
  apply (steady_word same).bind
  intro key
  apply (steady_word same).bind
  intro n
  apply (steady_take same n).bind
  intro value
  have ends (b : Bool) : Steady m m' (do require b; pure key) :=
    (steady_require b).bind fun _ => steady_pure key
  dsimp only
  split
  · exact (steady_require _).bind fun _ => ends _
  · exact (steady_require _).bind fun _ => ends _
  · exact (steady_require _).bind fun _ => ends _
  · exact (steady_require _).bind fun _ => ends _
  · exact (steady_require _).bind fun _ => ends _
  · exact (steady_require _).bind fun _ => ends _
  · exact ends _

theorem steady_bindingParams (start length fuel : Nat) (last : Option Nat) :
    Steady m m' (bindingParams start length fuel last) := by
  induction fuel generalizing last with
  | zero => exact steady_pure ()
  | succ fuel ih =>
      intro i behind
      apply tied_get_bind
      refine (steady_require _).bind (fun _ => ?_) i behind
      apply steady_ite
      · exact (steady_bindingParam same last).bind fun key => ih (some key)
      · exact steady_pure ()

theorem steady_recordData (recordType length : Nat) :
    Steady m m' (recordData recordType length) := by
  intro start behind
  apply tied_get_bind
  have ends : Steady m m' (do require ((← get) - start == length)) := by
    intro i behind
    apply tied_get_bind
    exact steady_require _ i behind
  have name := (steady_name same).discard
  have text := (steady_text same).discard
  refine (?_ : Steady m m' _) start behind
  split
  · exact (steady_skip same 4).bind fun _ => ends
  · exact (steady_skip same 16).bind fun _ => ends
  · exact name.bind fun _ => ends
  · exact name.bind fun _ => ends
  · exact name.bind fun _ => ends
  · exact name.bind fun _ => ends
  · exact name.bind fun _ => name.bind fun _ => (steady_skip same 20).bind fun _ => ends
  · exact text.bind fun _ => text.bind fun _ => ends
  · exact (steady_skip same 2).bind fun _ => name.bind fun _ => ends
  · exact (steady_untilEnd text _ _ _).bind fun _ => ends
  · exact (steady_skip same 6).bind fun _ => name.bind fun _ => ends
  · refine (steady_skip same 4).bind fun _ => (steady_text same).bind fun flags => ?_
    refine (steady_require _).bind fun _ => text.bind fun _ => text.bind fun _ => ?_
    exact name.bind fun _ => ends
  · exact (steady_require _).bind fun _ => (steady_skip same _).bind fun _ => ends
  · exact (steady_options same _ _ _).bind fun _ => ends
  · exact (steady_require _).bind fun _ => (steady_skip same _).bind fun _ => ends
  · exact (steady_require _).bind fun _ => (steady_skip same _).bind fun _ => ends
  · refine (steady_skip same 4).bind fun _ => (steady_word same).bind fun flags => ?_
    refine (steady_require _).bind fun _ => (steady_require _).bind fun _ => ?_
    exact (steady_take same _).bind fun types => (steady_require _).bind fun _ => ends
  · refine (steady_skip same 2).bind fun _ => name.bind fun _ => ?_
    exact (steady_bindingParams same _ _ _ _).bind fun _ => ends
  · refine (steady_skip same 2).bind fun _ => name.bind fun _ => ?_
    exact (steady_bindingParams same _ _ _ _).bind fun _ => ends
  · refine (steady_skip same 1).bind fun _ => (steady_text same).bind fun tag => ?_
    refine (steady_require _).bind fun _ => (steady_require _).bind fun _ => ?_
    exact (steady_skip same _).bind fun _ => ends
  · exact steady_failure.bind fun _ => ends
  · exact steady_failure.bind fun _ => ends
  · exact steady_failure.bind fun _ => ends
  · exact steady_failure.bind fun _ => ends
  · exact (steady_skip same _).bind fun _ => ends

theorem steady_record : Steady m m' record := by
  apply (steady_name same).bind
  intro isRoot
  apply (steady_word same).bind
  intro recordType
  apply (steady_require _).bind
  intro _
  apply (steady_skip same 2).bind
  intro _
  apply (steady_double same).bind
  intro ttl
  apply (steady_word same).bind
  intro length
  apply (steady_remaining same).bind
  intro left
  apply (steady_require _).bind
  intro _
  apply steady_ite
  · exact (steady_recordData same recordType length).bind fun _ => steady_pure (recordType, ttl)
  · exact steady_pure (recordType, ttl)

omit same in
theorem steady_repeatRead {r : Reader α} (steady : Steady m m' r) (count : Nat) :
    Steady m m' (repeatRead r count) := by
  induction count with
  | zero => exact steady_pure []
  | succ count ih =>
      exact steady.bind fun first => ih.bind fun rest => steady_pure (first :: rest)

theorem steady_question : Steady m m' question :=
  (steady_name same).discard.bind fun _ => steady_skip same 4

theorem steady_plainRecord : Steady m m' plainRecord :=
  (steady_record same).bind fun _ => steady_require _

/-- What a summary says, its number aside. -/
def Alike (s s' : Summary) : Prop :=
  s.answers = s'.answers ∧ s.code = s'.code

omit same in
/-- The number itself is read first. -/
theorem tied_number : Tied m m' 0 (fun _ _ => True) word word := by
  intro a j a' j' came came'
  rw [eq_of_word came, eq_of_word came']
  exact ⟨trivial, rfl, Nat.le_refl 2⟩

theorem tied_summary : Tied m m' 0 Alike summary summary := by
  apply tied_number.bind
  intro id id' i _ behind
  apply (steady_word same i behind).bind
  rintro flags _ i rfl behind
  apply (steady_word same i behind).bind
  rintro questions _ i rfl behind
  apply (steady_word same i behind).bind
  rintro answers _ i rfl behind
  apply (steady_word same i behind).bind
  rintro authorities _ i rfl behind
  apply (steady_word same i behind).bind
  rintro additionals _ i rfl behind
  apply ((steady_repeatRead (steady_question same) questions).discard i behind).bind
  rintro _ _ i - behind
  apply ((steady_repeatRead (steady_plainRecord same) answers).discard i behind).bind
  rintro _ _ i - behind
  apply ((steady_repeatRead (steady_plainRecord same) authorities).discard i behind).bind
  rintro _ _ i - behind
  apply (steady_repeatRead (steady_record same) additionals i behind).bind
  rintro records _ i rfl behind
  dsimp only
  split
  · exact Tied.pure ⟨rfl, rfl⟩ behind
  · exact Tied.pure ⟨rfl, rfl⟩ behind
  · exact tied_failure

omit same in
/-- Two messages that differ at most in their number and can both be read say the same but for it.
-/
theorem summary_alike {octets octets' : Octets} (length : octets.length = octets'.length)
    (body : octets.drop 2 = octets'.drop 2) {s s' : Summary}
    (read : Summary.read? octets = some s) (read' : Summary.read? octets' = some s') :
    Alike s s' := by
  have same : SameBody octets.toArray octets'.toArray := by
    refine ⟨by simpa using length, ?_⟩
    intro i behind
    obtain ⟨k, rfl⟩ := Nat.exists_eq_add_of_le behind
    rw [List.getElem?_toArray, List.getElem?_toArray, ← List.getElem?_drop, body,
      List.getElem?_drop]
  obtain ⟨⟨_, i⟩, came, rfl⟩ := Option.map_eq_some_iff.mp read
  obtain ⟨⟨_, i'⟩, came', rfl⟩ := Option.map_eq_some_iff.mp read'
  exact (tied_summary same _ i _ i' came came').1

end Records

end Hostwatch.Dns
