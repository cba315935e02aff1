import Hostwatch.Proofs.Transport.Streams
import Mathlib.Algebra.Group.Nat.Defs

/-!
# What comes over a connection

Two kinds of agents talk over connections of their own: those that fetch a page, and the one that
asks a name server. A page ends with the connection, or at a fixed size; a response of a name server
has its length in front. Neither notices how the network cuts the octets into pieces.
-/

namespace Hostwatch

/-! ### Connections -/

namespace Dialogue

variable {σ : Type}

/-- The open connection takes a request and then yields exactly these octets, however the reads cut
them. -/
structure Responds (answer : σ → (q : Query) → q.Reply × σ) (s : σ) (request octets : Octets) :
    Prop where
  taken : (answer s (.send request)).1 = .ok ()
  yields : Yields answer (answer s (.send request)).2 octets

/-- A connection to the address can be opened, and it responds. -/
structure Serves (answer : σ → (q : Query) → q.Reply × σ) (s : σ) (network address : String)
    (request octets : Octets) : Prop where
  opened : (answer s (.dial network address)).1 = .ok ()
  responds : Responds answer (answer s (.dial network address)).2 request octets

end Dialogue

namespace Surroundings

/-- Takes whatever is sent, and yields the pieces that are left one after the other. A read takes the
next piece, or as much of it as it asks for. -/
def pieceByPiece (left : List Octets) : (q : Query) → q.Reply × List Octets
  | .receive limit =>
    match left with
    | [] => (.ok [], [])
    | piece :: rest =>
      if piece.length ≤ limit then (.ok piece, rest)
      else (.ok (piece.take limit), piece.drop limit :: rest)
  | .dial .. | .close => (.ok (), left)
  | .send _ => (.ok (), left)
  | .readFile _ | .exec .. => (.error (.unsupported "read"), left)
  | .stat _ => (.error (.unsupported "stat"), left)
  | .random | .uptime => ((0 : Nat), left)
  | .now => (Timestamp.ofNanos 0, left)

/-- A host whose connection yields these pieces. -/
def inPieces (pieces : List Octets) : Surroundings where
  State := List Octets
  answer := pieceByPiece
  start := pieces

end Surroundings

namespace Dialogue

/-- Octets may be cut into any pieces that are not empty. -/
theorem yields_pieceByPiece (pieces : List Octets) (some_ : ∀ piece ∈ pieces, piece ≠ []) :
    Yields Surroundings.pieceByPiece pieces pieces.flatten := by
  refine ⟨fun left octets => (∀ piece ∈ left, piece ≠ []) ∧ octets = left.flatten, ?_, some_, rfl⟩
  rintro left _ limit ⟨some_, rfl⟩ positive
  cases left with
  | nil => exact ⟨[], [], rfl, rfl, Nat.zero_le _, fun _ => rfl, nofun, rfl⟩
  | cons piece rest =>
      obtain ⟨here, later⟩ := List.forall_mem_cons.mp some_
      by_cases fits : piece.length ≤ limit
      · have step : Surroundings.pieceByPiece (piece :: rest) (.receive limit) =
            (.ok piece, rest) := if_pos fits
        rw [step]
        exact ⟨piece, rest.flatten, rfl, List.flatten_cons, fits, fun none_ => absurd none_ here,
          later, rfl⟩
      · have step : Surroundings.pieceByPiece (piece :: rest) (.receive limit) =
            (.ok (piece.take limit), piece.drop limit :: rest) := if_neg fits
        rw [step]
        have start : piece.take limit ≠ [] :=
          fun none_ => (List.take_eq_nil_iff.mp none_).elim (Nat.ne_of_gt positive) here
        have end_ : piece.drop limit ≠ [] :=
          fun none_ => fits (List.drop_eq_nil_iff.mp none_)
        refine ⟨piece.take limit, piece.drop limit ++ rest.flatten, rfl, ?_, List.length_take_le _ _,
          fun none_ => absurd none_ start, List.forall_mem_cons.mpr ⟨end_, later⟩, rfl⟩
        rw [← List.append_assoc, List.take_append_drop, List.flatten_cons]

end Dialogue

/-! ### Pages -/

namespace Http

variable {σ : Type} {answer : σ → (q : Query) → q.Reply × σ} {s : σ}

/-- What is fetched is what the first octets of the answer say. -/
theorem run_get {u : Url} {octets : Octets}
    (serves : Dialogue.Serves answer s "tcp" u.address (Utf8.encode (request u)) octets) :
    ((get u).run answer s).1 = parse (octets.take maxResponse) := by
  obtain ⟨opened, taken, yields⟩ := serves
  obtain ⟨s', read, -⟩ := Dialogue.run_receiveUpTo yields maxResponse []
  unfold get
  rw [Dialogue.run_query_bind, opened]
  dsimp only
  rw [Dialogue.run_query_bind, taken]
  dsimp only
  rw [Dialogue.bind_eq_bind, Dialogue.run_bind, read]
  rfl

end Http

/-! ### Responses of name servers -/

namespace Resolver

variable {σ : Type} {answer : σ → (q : Query) → q.Reply × σ} {s : σ}

theorem run_receiveExactly {octets : Octets} (yields : Dialogue.Yields answer s octets)
    (count : Nat) :
    ∃ s', (receiveExactly count).run answer s =
        (if count ≤ octets.length then .ok (octets.take count) else .error shortRead, s') ∧
      Dialogue.Yields answer s' (octets.drop count) := by
  obtain ⟨s', read, left⟩ := Dialogue.run_receiveUpTo yields count []
  refine ⟨s', ?_, left⟩
  unfold receiveExactly
  rw [Dialogue.bind_eq_bind, Dialogue.run_bind, read]
  have full : (octets.take count).length = count ↔ count ≤ octets.length := by
    rw [List.length_take]
    omega
  simp only [List.reverse_nil, List.flatten_nil, List.nil_append, beq_iff_eq, full]
  rfl

theorem transcript_receiveExactly (answer : σ → (q : Query) → q.Reply × σ) (s : σ) (count : Nat) :
    ∀ e ∈ (receiveExactly count).transcript answer s, ∃ n, e.query = .receive n := by
  unfold receiveExactly
  rw [Dialogue.bind_eq_bind, Dialogue.transcript_bind]
  refine List.forall_mem_append.mpr ⟨Dialogue.transcript_receiveUpTo _ _ _ _, ?_⟩
  split
  · exact List.forall_mem_nil _
  · exact List.forall_mem_nil _

/-- The message that a stream begins with, if all of it is there. -/
def unframed : Octets → Except IoError Octets
  | high :: low :: rest =>
    let count := high.toNat * 256 + low.toNat
    if count ≤ rest.length then .ok (rest.take count) else .error shortRead
  | _ => .error shortRead

theorem unframed_eq_ok_iff (octets message : Octets) :
    unframed octets = .ok message ↔
      ∃ high low rest, octets = high :: low :: (message ++ rest) ∧
        message.length = high.toNat * 256 + low.toNat := by
  match octets with
  | [] | [_] => exact ⟨nofun, nofun⟩
  | high :: low :: rest =>
      unfold unframed
      dsimp only
      constructor
      · intro taken
        split at taken
        · next fits =>
            cases taken
            exact ⟨high, low, rest.drop _, by rw [List.take_append_drop], List.length_take_of_le fits⟩
        · cases taken
      · rintro ⟨high, low, later, ⟨⟩, length⟩
        rw [← length, if_pos (by simp), List.take_left]

theorem framed_length {message : Octets} (fits : message.length < Word.count16) :
    (UInt8.ofNat (message.length / 256)).toNat * 256 +
      (UInt8.ofNat (message.length % 256)).toNat = message.length := by
  have high : message.length / 256 < 256 := Nat.div_lt_of_lt_mul fits
  rw [UInt8.toNat_ofNat_of_lt' high, UInt8.toNat_ofNat_of_lt' (Nat.mod_lt _ (by decide)),
    Nat.div_add_mod']

theorem run_receiveFramed {octets : Octets} (yields : Dialogue.Yields answer s octets) :
    (receiveFramed.run answer s).1 = (unframed octets).mapError Failure.io := by
  obtain ⟨s', read, left⟩ := run_receiveExactly yields 2
  unfold receiveFramed
  rw [Dialogue.bind_eq_bind, Dialogue.run_bind, read]
  match octets, left with
  | [], _ | [_], _ => rfl
  | high :: low :: rest, left =>
      obtain ⟨s'', read, -⟩ := run_receiveExactly left (high.toNat * 256 + low.toNat)
      change (Dialogue.run answer (Dialogue.bind _ _) s').1 = _
      rw [Dialogue.run_bind, read]
      rfl

theorem transcript_receiveFramed (answer : σ → (q : Query) → q.Reply × σ) (s : σ) :
    ∀ e ∈ receiveFramed.transcript answer s, ∃ n, e.query = .receive n := by
  unfold receiveFramed
  rw [Dialogue.bind_eq_bind, Dialogue.transcript_bind]
  refine List.forall_mem_append.mpr ⟨transcript_receiveExactly _ _ _, ?_⟩
  split
  · rw [Dialogue.bind_eq_bind, Dialogue.transcript_bind]
    exact List.forall_mem_append.mpr ⟨transcript_receiveExactly _ _ _, List.forall_mem_nil _⟩
  · exact List.forall_mem_nil _
  · exact List.forall_mem_nil _

theorem exchange_of_lt {query : Octets} (fits : query.length < Word.count16) :
    exchange "tcp" query = Dialogue.query (.send (framed query)) >>= fun
      | .error e => pure (.error (.io e))
      | .ok () => receiveFramed := by
  unfold exchange
  rw [if_pos (beq_self_eq_true _), exchangeStream]
  exact if_neg (Nat.not_le.mpr fits)

/-- Over a stream, what comes back is the first message of the answer. -/
theorem run_exchange {query octets : Octets} (fits : query.length < Word.count16)
    (responds : Dialogue.Responds answer s (framed query) octets) :
    ((exchange "tcp" query).run answer s).1 = (unframed octets).mapError Failure.io := by
  obtain ⟨taken, yields⟩ := responds
  rw [exchange_of_lt fits, Dialogue.run_query_bind, taken]
  exact run_receiveFramed yields

theorem transcript_exchange (answer : σ → (q : Query) → q.Reply × σ) (s : σ) {query : Octets}
    (fits : query.length < Word.count16) :
    ∃ reply reads, (exchange "tcp" query).transcript answer s =
        ⟨.send (framed query), reply⟩ :: reads ∧
      ∀ e ∈ reads, ∃ n, e.query = .receive n := by
  rw [exchange_of_lt fits, Dialogue.transcript_query_bind]
  refine ⟨_, _, rfl, ?_⟩
  split
  · exact List.forall_mem_nil _
  · exact transcript_receiveFramed _ _

end Resolver

/-! ### How an answer is cut -/

/-- How the network cuts an answer does not matter. A page that is fetched is what the first
1048576 octets of the answer say. Over a stream, a query that is too long is not sent. Any other is
sent behind its length in two octets, of which the first weighs more, and then the host is only asked
for octets. If the answer holds as many octets behind its first two as these count, the response is
exactly those, whatever else follows, and otherwise there is none. -/
theorem cuts_do_not_show :
    (∀ (u : Url) (octets : Octets) (w w' : Surroundings),
      Dialogue.Serves w.answer w.start "tcp" u.address (Utf8.encode (Http.request u)) octets →
      Dialogue.Serves w'.answer w'.start "tcp" u.address (Utf8.encode (Http.request u)) octets →
        ((Http.get u).run w.answer w.start).1 = Http.parse (octets.take (2 ^ 20)) ∧
        ((Http.get u).run w'.answer w'.start).1 = ((Http.get u).run w.answer w.start).1) ∧
    (∀ query : Octets, 65535 < query.length → ∀ w : Surroundings,
      ((Resolver.exchange "tcp" query).run w.answer w.start).1 =
          .error { context := ["query too large"], cause := .integer .tooLarge } ∧
        (Resolver.exchange "tcp" query).transcript w.answer w.start = []) ∧
    (∀ query : Octets, query.length ≤ 65535 → ∃ high low : UInt8,
      high.toNat * 256 + low.toNat = query.length ∧
      (∀ w : Surroundings, ∃ reply reads,
        (Resolver.exchange "tcp" query).transcript w.answer w.start =
            ⟨.send (high :: low :: query), reply⟩ :: reads ∧
          ∀ e ∈ reads, ∃ n, e.query = .receive n) ∧
      (∀ (octets : Octets) (w w' : Surroundings),
        Dialogue.Responds w.answer w.start (high :: low :: query) octets →
        Dialogue.Responds w'.answer w'.start (high :: low :: query) octets →
          (∀ response, ((Resolver.exchange "tcp" query).run w.answer w.start).1 = .ok response ↔
            ∃ first second rest, octets = first :: second :: (response ++ rest) ∧
              response.length = first.toNat * 256 + second.toNat) ∧
          ((Resolver.exchange "tcp" query).run w'.answer w'.start).1 =
            ((Resolver.exchange "tcp" query).run w.answer w.start).1)) := by
  refine ⟨?_, ?_, ?_⟩
  · intro u octets w w' serves serves'
    have fetched := Http.run_get serves
    exact ⟨fetched, (Http.run_get serves').trans fetched.symm⟩
  · intro query large w
    unfold Resolver.exchange
    rw [if_pos (beq_self_eq_true _), Resolver.exchangeStream, if_pos (show _ ≤ _ from large)]
    exact ⟨rfl, rfl⟩
  · intro query fits
    have fits : query.length < Word.count16 := Nat.lt_succ_of_le fits
    refine ⟨_, _, Resolver.framed_length fits, ?_, ?_⟩
    · exact fun w => Resolver.transcript_exchange w.answer w.start fits
    · intro octets w w' responds responds'
      have came := Resolver.run_exchange fits responds
      refine ⟨fun response => ?_, (Resolver.run_exchange fits responds').trans came.symm⟩
      rw [came, ← Resolver.unframed_eq_ok_iff]
      cases Resolver.unframed octets with
      | ok message => exact ⟨fun same => by cases same; rfl, fun same => by cases same; rfl⟩
      | error e => exact ⟨nofun, nofun⟩

/-- A page that comes whole or octet by octet, and a response that comes in two pieces with something
behind it. -/
theorem small_answers_in_pieces :
    let site : Url := { host := "web", port := 80, path := "/" }
    let page := Utf8.encode "HTTP/1.0 200 OK\r\n\r\nup".toList
    ((Http.get site).run Surroundings.pieceByPiece (page.map fun b => [b])).1 =
        ((Http.get site).run Surroundings.pieceByPiece [page]).1 ∧
      ((Resolver.exchange "tcp" [5]).run Surroundings.pieceByPiece [[0], [1, 7, 9]]).1 =
        .ok [7] := by
  intro site page
  obtain ⟨fetched, -, exchanged⟩ := cuts_do_not_show
  have whole : Dialogue.Yields Surroundings.pieceByPiece [page] page :=
    Dialogue.yields_pieceByPiece [page] (by decide)
  have single : Dialogue.Yields Surroundings.pieceByPiece (page.map fun b => [b]) page :=
    Dialogue.yields_pieceByPiece (page.map fun b => [b]) (by decide)
  have response : Dialogue.Yields Surroundings.pieceByPiece [[0], [1, 7, 9]] [0, 1, 7, 9] :=
    Dialogue.yields_pieceByPiece [[0], [1, 7, 9]] (by decide)
  obtain ⟨high, low, -, -, took⟩ := exchanged [5] (by decide)
  constructor
  · exact (fetched site page (.inPieces [page]) (.inPieces (page.map fun b => [b]))
      ⟨rfl, rfl, whole⟩ ⟨rfl, rfl, single⟩).2
  · exact ((took [0, 1, 7, 9] (.inPieces [[0], [1, 7, 9]]) (.inPieces [[0], [1, 7, 9]])
      ⟨rfl, response⟩ ⟨rfl, response⟩).1 [7]).mpr ⟨0, 1, [9], rfl, rfl⟩

end Hostwatch
