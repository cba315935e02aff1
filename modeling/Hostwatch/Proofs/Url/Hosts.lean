import Hostwatch.Proofs.Url.DomainName
import Hostwatch.Url.Basic

/-!
# The hosts of URLs

Whatever was written for it, the host of a URL that was read is an IPv4 address, a domain name in
ASCII, or an IPv6 address in brackets. So it is not empty, and it holds colons and brackets only in
the last case, where they are told apart from what stands around them.
-/

namespace Hostwatch

namespace Url

/-- What a host names: itself, or the address that its brackets hold. A name is not empty. Colons
stand only between brackets, and brackets stand only around an address. -/
inductive Names : (host name : String) → Prop where
  | plain {name : String} : name ≠ "" → (∀ c ∈ name.toList, c ≠ ':' ∧ c ≠ '[' ∧ c ≠ ']') →
    Names name name
  | bracketed {name : String} : name ≠ "" → (∀ c ∈ name.toList, c ≠ '[' ∧ c ≠ ']') →
    Names ("[" ++ name ++ "]") name

/-! ### Addresses of hosts -/

namespace Ipv4

theorem isAllowed_of_mem_write (n : Nat) : ∀ c ∈ write n, DomainName.isAllowed c = true := by
  have octet (k : Nat) : ∀ c ∈ (Number.natText k).toList, DomainName.isAllowed c = true :=
    fun _ member => DomainName.isAllowed_of_isDigit (Number.isDigit_of_mem_natText member)
  have later (k : Nat) : ∀ c ∈ '.' :: (Number.natText k).toList, DomainName.isAllowed c = true :=
    List.forall_mem_cons.mpr ⟨by decide, octet k⟩
  simp only [write, List.forall_mem_append]
  exact ⟨⟨⟨octet _, later _⟩, later _⟩, later _⟩

theorem write_ne_nil (n : Nat) : write n ≠ [] := by
  simp [write]

end Ipv4

namespace Ipv6

/-- Neither a digit nor a colon is a bracket. -/
theorem bare_hexText (n : Nat) : ∀ c ∈ hexText n, c ≠ '[' ∧ c ≠ ']' := by
  have digit (d : Nat) : d.digitChar ≠ '[' ∧ d.digitChar ≠ ']' :=
    ⟨Nat.digitChar_ne '[' (by decide), Nat.digitChar_ne ']' (by decide)⟩
  induction n using Nat.strongRecOn with
  | ind n ih =>
      rw [hexText, Nat.toDigits_eq_if (by decide)]
      split
      · exact List.forall_mem_singleton.mpr (digit n)
      · next large =>
          refine List.forall_mem_append.mpr ⟨ih (n / 16) (by omega), ?_⟩
          exact List.forall_mem_singleton.mpr (digit (n % 16))

theorem bare_join (ps : List Nat) :
    ∀ c ∈ [':'].intercalate (ps.map hexText), c ≠ '[' ∧ c ≠ ']' := by
  intro c member
  rcases Text.mem_intercalate member with colon | ⟨text, among, member⟩
  · rw [List.mem_singleton.mp colon]
    decide
  · obtain ⟨piece, -, rfl⟩ := List.mem_map.mp among
    exact bare_hexText piece c member

theorem bare_write (pieces : List Nat) : ∀ c ∈ write pieces, c ≠ '[' ∧ c ≠ ']' := by
  simp only [write]
  split
  · exact bare_join pieces
  · simp only [List.forall_mem_append]
    exact ⟨⟨bare_join _, by simp⟩, bare_join _⟩

theorem join_ne_nil {ps : List Nat} (some_ : ps ≠ []) : [':'].intercalate (ps.map hexText) ≠ [] := by
  obtain ⟨p, rest, rfl⟩ := List.exists_cons_of_ne_nil some_
  cases rest with
  | nil =>
      rw [List.map_singleton, List.intercalate_singleton]
      exact Nat.toDigits_ne_nil
  | cons q rest =>
      rw [List.map_cons, List.map_cons, List.intercalate_cons_cons]
      simp

theorem write_ne_nil {pieces : List Nat} (some_ : pieces ≠ []) : write pieces ≠ [] := by
  simp only [write]
  split
  · exact join_ne_nil some_
  · simp

theorem length_complete? {written pieces : List Nat} {gap : Option Nat}
    (completed : complete? written gap = some pieces) : pieces.length = 8 := by
  rw [complete?.eq_def] at completed
  split at completed
  · split at completed
    · next eight =>
        cases completed
        exact eq_of_beq eight
    · cases completed
  · split at completed
    · cases completed
    · cases completed
      simp only [List.length_append, List.length_take, List.length_replicate, List.length_drop]
      omega

/-- An address has eight pieces. -/
theorem length_read? {cs : List Char} {pieces : List Nat} (read : read? cs = some pieces) :
    pieces.length = 8 := by
  rw [read?] at read
  obtain ⟨found, -, completed⟩ := Option.bind_eq_some_iff.mp read
  exact length_complete? completed

end Ipv6

/-! ### Hosts -/

theorem names_of_readIpv6 {inside host : List Char} (read : readIpv6 inside = .ok host) :
    ∃ name, Names (String.ofList host) name := by
  rw [readIpv6] at read
  split at read
  · next pieces found =>
      cases read
      have eight := Ipv6.length_read? found
      have some_ : Ipv6.write pieces ≠ [] := by
        refine Ipv6.write_ne_nil ?_
        rintro rfl
        cases eight
      have text : String.ofList ('[' :: Ipv6.write pieces ++ [']']) =
          "[" ++ String.ofList (Ipv6.write pieces) ++ "]" := by
        rw [← String.toList_inj]
        simp
      rw [text]
      refine ⟨_, .bracketed (by simpa using some_) ?_⟩
      rw [String.toList_ofList]
      exact Ipv6.bare_write pieces
  · cases read

/-- A host that was read names something. -/
theorem names_of_readHost {cs host : List Char} (read : readHost cs = .ok host) :
    ∃ name, Names (String.ofList host) name := by
  have plain {name : List Char} (some_ : name ≠ [])
      (allowed : ∀ c ∈ name, DomainName.isAllowed c = true) :
      Names (String.ofList name) (String.ofList name) := by
    refine .plain (by simpa using some_) ?_
    rw [String.toList_ofList]
    exact fun c member => DomainName.ne_of_isAllowed (allowed c member)
  rw [readHost] at read
  split at read
  · exact names_of_readIpv6 read
  · split at read
    · cases read
    · cases read
    · next name some_ found =>
        split at read
        · split at read
          · next n _ =>
              cases read
              exact ⟨_, plain (Ipv4.write_ne_nil n) (Ipv4.isAllowed_of_mem_write n)⟩
          · cases read
        · cases read
          exact ⟨_, plain some_ (DomainName.isAllowed_of_toAscii? found)⟩

/-! ### URLs -/

theorem lt_of_readPort {cs rest : List Char} {port? : Option Nat}
    (read : readPort cs = .ok (port?, rest)) : ∀ port ∈ port?, port < Word.count16 := by
  rw [readPort] at read
  split at read
  extract_lets n ends at read
  split at read
  · cases read
  · next inRange =>
      cases read
      intro port named
      split at named
      · cases named
      · cases named
        rw [Bool.or_eq_true, decide_eq_true_eq] at inRange
        omega

theorem lt_of_readPortBehind {host rest rest' : List Char} {port? : Option Nat}
    (read : readPortBehind host rest = .ok (port?, rest')) :
    ∀ port ∈ port?, port < Word.count16 := by
  rw [readPortBehind.eq_def] at read
  split at read
  · split at read
    · cases read
    · exact lt_of_readPort read
  · cases read
    exact nofun

/-- How the scheme, the host and the port of a URL come about. -/
theorem readAuthority_eq_ok {scheme : String} {kind : SchemeKind} {cs : List Char} {parts : Parts}
    (read : readAuthority scheme kind cs = .ok parts) :
    parts.scheme = scheme ∧ (∃ written, readHostOf kind written = .ok parts.host) ∧
      ∃ behind, readPortBehind parts.host behind = .ok (parts.port?, parts.rest) := by
  rw [readAuthority] at read
  obtain ⟨behindUser, -, read⟩ := bind_eq_ok_iff.mp read
  obtain ⟨host, hostRead, read⟩ := bind_eq_ok_iff.mp read
  obtain ⟨⟨port?, rest⟩, portRead, read⟩ := bind_eq_ok_iff.mp read
  dsimp only at read
  split at read
  · cases read
  · cases read
    exact ⟨rfl, ⟨_, hostRead⟩, _, portRead⟩

theorem scheme_of_readFile {cs : List Char} {parts : Parts} (read : readFile cs = .ok parts) :
    parts.scheme = "file" := by
  rw [readFile.eq_def] at read
  split at read
  · split at read
    · split at read
      split at read
      · cases read
        rfl
      · obtain ⟨host, -, read⟩ := bind_eq_ok_iff.mp read
        cases read
        rfl
    · cases read
      rfl
  · cases read
    rfl

/-- A URL with the scheme of pages has a host that was read as those of networks are. -/
theorem readParts_http_eq_ok {cs : List Char} {parts : Parts} (read : readParts cs = .ok parts)
    (http : parts.scheme = "http") :
    (∃ written, readHost written = .ok parts.host) ∧ ∀ port ∈ parts.port?, port < Word.count16 := by
  rw [readParts] at read
  split at read
  · cases read
  · next scheme rest _ =>
      cases kind : SchemeKind.ofName scheme with
      | file =>
          rw [kind] at read
          rw [scheme_of_readFile read] at http
          exact absurd http (by decide)
      | network =>
          rw [kind] at read
          obtain ⟨-, ⟨written, hostRead⟩, _, portRead⟩ := readAuthority_eq_ok read
          rw [readHostOf, if_pos (by rfl)] at hostRead
          split at hostRead
          · cases hostRead
          · exact ⟨⟨written, hostRead⟩, lt_of_readPortBehind portRead⟩
      | other =>
          have different : scheme ≠ "http" := by
            rintro rfl
            cases kind
          rw [kind] at read
          dsimp only at read
          split at read
          · exact absurd ((readAuthority_eq_ok read).1.symm.trans http) different
          · cases read
            exact absurd http different

/-- The host of a URL that was read names something, and its port is a number of 16 bits. -/
theorem names_of_parse {text : String} {u : Url} (parsed : parse text = .ok u) :
    (∃ name, Names u.host name) ∧ u.port < Word.count16 := by
  rw [parse] at parsed
  obtain ⟨parts, read, parsed⟩ := bind_eq_ok_iff.mp parsed
  extract_lets page at parsed
  split at parsed
  · cases parsed
  · next http =>
      obtain ⟨⟨written, hostRead⟩, inRange⟩ :=
        readParts_http_eq_ok (mapError_eq_ok_iff.mp read) (by simpa using http)
      dsimp only [page] at parsed
      cases parsed
      refine ⟨names_of_readHost hostRead, ?_⟩
      change parts.port?.getD 80 < Word.count16
      cases port : parts.port? with
      | none => decide
      | some n => exact inRange n port

end Url

end Hostwatch
