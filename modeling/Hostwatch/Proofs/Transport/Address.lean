import Hostwatch.Proofs.Text.Spacing
import Hostwatch.Proofs.Url.Hosts
import Hostwatch.Transport.Address

/-!
# Addresses are taken apart where they were put together

An address is cut at its last colon, and brackets are taken off what stands before it. A port holds
no colon, so however many of them a host holds, with or without brackets around it, the host and the
port come back. The hosts of URLs are such hosts.
-/

namespace Hostwatch

namespace Address

/-- A host that can be put in brackets: when brackets are taken off, it stays as it is. -/
structure IsHost (host : List Char) : Prop where
  some_ : host ≠ []
  first : ∀ c ∈ host.head?, c ≠ '['
  last : ∀ c ∈ host.getLast?, c ≠ ']'

variable {port : Nat}

/-! ### Ports -/

theorem not_mem_natText {c : Char} (other : c.isDigit = false) :
    c ∉ (Number.natText port).toList := by
  intro member
  rw [Number.isDigit_of_mem_natText member] at other
  cases other

/-- A port of 16 bits is read back from its digits. -/
theorem readPort?_natText (small : port < Word.count16) :
    readPort? (Number.natText port).toList = some port := by
  have digits : Number.readNat? (Number.natText port).toList = some port := by
    rw [Number.natText, String.toList_ofList, Number.readNat?_toDigits]
  rw [readPort?.eq_def]
  dsimp only
  split
  · next rest plus =>
      have signed : '+' ∈ (Number.natText port).toList := by
        rw [plus]
        exact List.mem_cons_self
      exact absurd signed (not_mem_natText (by decide))
  · rw [digits]
    exact if_pos small

/-! ### Hosts -/

theorem stripBrackets_append {opening host closing : List Char} (opens : ∀ c ∈ opening, c = '[')
    (isHost : IsHost host) (closes : ∀ c ∈ closing, c = ']') :
    stripBrackets (opening ++ (host ++ closing)) = host := by
  have front : ∀ c ∈ opening, (c == '[') = true :=
    fun c member => beq_iff_eq.mpr (opens c member)
  have first : ∀ c ∈ host.head?, (c == '[') = false :=
    fun c head => beq_eq_false_iff_ne.mpr (isHost.first c head)
  have last : ∀ c ∈ host.getLast?, (c == ']') = false :=
    fun c final => beq_eq_false_iff_ne.mpr (isHost.last c final)
  have back : ∀ c ∈ closing, (c == ']') = true :=
    fun c member => beq_iff_eq.mpr (closes c member)
  rw [stripBrackets, Text.dropWhile_front front isHost.some_ first]
  exact Text.dropWhile_behind last back

section Split

variable {opening host closing : String}

/-- Whatever brackets stand around a host, it comes back with the port. -/
theorem split?_join (opens : ∀ c ∈ opening.toList, c = '[') (isHost : IsHost host.toList)
    (closes : ∀ c ∈ closing.toList, c = ']') (small : port < Word.count16) :
    split? (opening ++ host ++ closing ++ ":" ++ Number.natText port) = some (host, port) := by
  have joined : (opening ++ host ++ closing ++ ":" ++ Number.natText port).toList =
      opening.toList ++ (host.toList ++ closing.toList) ++ ':' :: (Number.natText port).toList := by
    simp
  have noColon : ':' ∉ (Number.natText port).toList := not_mem_natText (by decide)
  have some_ : host.toList.isEmpty = false := List.isEmpty_eq_false_iff.mpr isHost.some_
  rw [split?, joined, Text.splitLast_append noColon]
  simp only [Option.bind_eq_bind, Option.bind_some, readPort?_natText small,
    stripBrackets_append opens isHost closes, some_, Bool.false_eq_true, if_false,
    String.ofList_toList]

theorem split?_plain (isHost : IsHost host.toList) (small : port < Word.count16) :
    split? (host ++ ":" ++ Number.natText port) = some (host, port) := by
  have back : split? ("" ++ host ++ "" ++ ":" ++ Number.natText port) = some (host, port) :=
    split?_join nofun isHost nofun small
  rwa [String.empty_append, String.append_empty] at back

theorem split?_bracketed (isHost : IsHost host.toList) (small : port < Word.count16) :
    split? ("[" ++ host ++ "]" ++ ":" ++ Number.natText port) = some (host, port) :=
  split?_join (List.forall_mem_singleton.mpr rfl) isHost (List.forall_mem_singleton.mpr rfl) small

end Split

end Address

namespace Url

theorem Names.isHost {host name : String} (names : Names host name) :
    Address.IsHost name.toList := by
  have of_bare (some_ : name ≠ "") (bare : ∀ c ∈ name.toList, c ≠ '[' ∧ c ≠ ']') :
      Address.IsHost name.toList :=
    { some_ := mt String.toList_eq_nil_iff.mp some_
      first := fun c head => (bare c (List.mem_of_head? head)).1
      last := fun c final => (bare c (List.mem_of_getLast? final)).2 }
  cases names with
  | plain some_ unmarked => exact of_bare some_ fun c member => (unmarked c member).2
  | bracketed some_ bare => exact of_bare some_ bare

theorem split?_address {u : Url} {name : String} (names : Names u.host name)
    (small : u.port < Word.count16) : Address.split? u.address = some (name, u.port) := by
  have isHost := names.isHost
  obtain ⟨host, port, path⟩ := u
  cases names with
  | plain => exact Address.split?_plain isHost small
  | bracketed => exact Address.split?_bracketed isHost small

end Url

/-- A page that was named can be dialed.

Every URL that is read has an address that is taken apart again, into the name of its host, without
the brackets of an IPv6 address, and its port. More generally, that holds of any URL with a host of
such a form, wherever it comes from. And whatever a host is, as long as it is not empty and neither
begins nor ends as brackets do, an address gives it back with its port, colons in it or not, be it in
brackets or not. -/
theorem addresses_are_taken_apart :
    (∀ text u, Url.parse text = .ok u →
      ∃ name, Url.Names u.host name ∧ Address.split? u.address = some (name, u.port)) ∧
    (∀ (u : Url) (name : String), Url.Names u.host name → u.port < Word.count16 →
      Address.split? u.address = some (name, u.port)) ∧
    ∀ (host : String) (port : Nat), host ≠ "" → host.toList.head? ≠ some '[' →
      host.toList.getLast? ≠ some ']' → port < Word.count16 →
      Address.split? (host ++ ":" ++ Number.natText port) = some (host, port) ∧
      Address.split? ("[" ++ host ++ "]" ++ ":" ++ Number.natText port) = some (host, port) := by
  refine ⟨fun text u parsed => ?_, fun u name => Url.split?_address, ?_⟩
  · obtain ⟨⟨name, names⟩, small⟩ := Url.names_of_parse parsed
    exact ⟨name, names, Url.split?_address names small⟩
  · intro host port some_ first last small
    have isHost : Address.IsHost host.toList :=
      { some_ := mt String.toList_eq_nil_iff.mp some_
        first := fun c head same => first (same ▸ head)
        last := fun c final same => last (same ▸ final) }
    exact ⟨Address.split?_plain isHost small, Address.split?_bracketed isHost small⟩

/-- A page of an IPv6 address is dialed without the brackets that its URL has, and a host with colons
and a bracket of its own comes back from between brackets. -/
theorem loopback_page_is_dialed :
    (Url.parse "http://[0:0::1]:81/status?full" = .ok ⟨"[::1]", 81, "/status?full"⟩ ∧
      ∃ name, Url.Names "[::1]" name ∧ Address.split? "[::1]:81" = some (name, 81)) ∧
    (Url.Names "[::1]" "::1" ∧ 81 < Word.count16 ∧ Address.split? "[::1]:81" = some ("::1", 81)) ∧
    ("fe80::[1" ≠ "" ∧ "fe80::[1".toList.head? ≠ some '[' ∧ "fe80::[1".toList.getLast? ≠ some ']' ∧
      53 < Word.count16 ∧ Address.split? "fe80::[1:53" = some ("fe80::[1", 53) ∧
      Address.split? "[fe80::[1]:53" = some ("fe80::[1", 53)) := by
  have parsed : Url.parse "http://[0:0::1]:81/status?full" =
      .ok ⟨"[::1]", 81, "/status?full"⟩ := by
    decide +kernel
  have names : Url.Names ("[" ++ "::1" ++ "]") "::1" := .bracketed (by decide) (by simp)
  have small : 81 < Word.count16 ∧ 53 < Word.count16 := by decide
  have host : "fe80::[1" ≠ "" ∧ "fe80::[1".toList.head? ≠ some '[' ∧
      "fe80::[1".toList.getLast? ≠ some ']' := by
    decide
  refine ⟨⟨parsed, addresses_are_taken_apart.1 _ _ parsed⟩, ⟨names, small.1, ?_⟩, ?_⟩
  · exact addresses_are_taken_apart.2.1 ⟨"[::1]", 81, "/status?full"⟩ "::1" names small.1
  · exact ⟨host.1, host.2.1, host.2.2, small.2,
      addresses_are_taken_apart.2.2 "fe80::[1" 53 host.1 host.2.1 host.2.2 small.2⟩

end Hostwatch
