import Hostwatch.Proofs.Json.Schema
import Hostwatch.Registry

/-!
# Parameters of transports

What a transport says its parameters are is what configuring it took them to be, so a transport that
was configured takes its own parameters.
-/

namespace Hostwatch

open Json Decoder

namespace Ssh.Params

/-- The port is a word of 16 bits. -/
def Valid (p : Params) : Prop :=
  p.port < Word.pow2 16

def members (p : Params) : List (String × Json) :=
  [("host", .str p.host), ("port", .int p.port), ("username", .str p.username)] ++
    Table.ifSome "private_key" .str p.privateKey ++ Table.ifSome "password" .str p.password

theorem nodup_members (p : Params) : (Table.keys p.members).Nodup := by
  have keys : (Table.keys p.members).Sublist
      (["host", "port", "username"] ++ ["private_key"] ++ ["password"]) := by
    simp only [members, Table.keys, List.map_append]
    exact ((List.Sublist.refl _).append (Table.keys_ifSome_sublist ..)).append
      (Table.keys_ifSome_sublist ..)
  exact keys.nodup (by decide)

theorem get?_members (p : Params) (key : String) :
    Table.get? p.members key =
      if key = "host" then some (.str p.host)
      else if key = "port" then some (.int p.port)
      else if key = "username" then some (.str p.username)
      else if key = "private_key" then p.privateKey.map .str
      else if key = "password" then p.password.map .str
      else none := by
  simp only [members, Table.get?_append, Table.get?_ifSome, Table.get?_cons, Table.get?_nil]
  grind

theorem read_toJson {p : Params} (valid : p.Valid) :
    shape.read p.toJson = .ok (Table.ofList p.members) := by
  have port : word16 (.int p.port) = .ok p.port := unsigned_int valid
  show shape.read (ofMembers p.members) = _
  refine Shape.read_ofMembers p.nodup_members ?_ ?_
  · intro entry member
    simp only [members, List.mem_append, Table.mem_ifSome, List.mem_cons, List.not_mem_nil,
      or_false] at member
    rcases member with ((rfl | rfl | rfl) | ⟨v, given, rfl⟩) | ⟨v, given, rfl⟩
    · exact ⟨_, rfl, rfl⟩
    · refine ⟨_, rfl, ?_⟩
      rw [check_optional, port]
      rfl
    all_goals exact ⟨_, rfl, rfl⟩
  · have always : ∀ f ∈ shape.fields, f.required = true →
        f.name ∈ ["host", "port", "username"] := by decide
    intro f member required
    simp only [members, Table.keys, List.map_append, List.append_assoc]
    exact List.mem_append_left _ (always f member required)

theorem ofJson_toJson {p : Params} (valid : p.Valid) : ofJson p.toJson = .ok p := by
  have text {key : String} {value : Option String}
      (there : Table.get? p.members key = value.map .str) :
      fieldD (Table.ofList p.members) key none (Decoder.optional string) = .ok value :=
    fieldD_ofList_ifSome p.nodup_members there fun _ _ => rfl
  have key := text (p.get?_members "private_key")
  have password := text (p.get?_members "password")
  have host : field (Table.ofList p.members) "host" string = .ok p.host :=
    field_ofList p.nodup_members (p.get?_members "host") rfl
  have username : field (Table.ofList p.members) "username" string = .ok p.username :=
    field_ofList p.nodup_members (p.get?_members "username") rfl
  have port : fieldD (Table.ofList p.members) "port" 22 word16 = .ok p.port :=
    fieldD_ofList p.nodup_members (p.get?_members "port") (unsigned_int valid)
  unfold ofJson
  simp only [read_toJson valid, bind, Except.bind, host, port, username, key, password]
  rfl

theorem valid_of_ofJson {j : Json} {p : Params} (read : ofJson j = .ok p) : p.Valid := by
  obtain ⟨fields, -, read⟩ := bind_eq_ok_iff.mp read
  obtain ⟨host, -, read⟩ := bind_eq_ok_iff.mp read
  obtain ⟨port, found, read⟩ := bind_eq_ok_iff.mp read
  obtain ⟨username, -, read⟩ := bind_eq_ok_iff.mp read
  obtain ⟨key, -, read⟩ := bind_eq_ok_iff.mp read
  obtain ⟨password, -, read⟩ := bind_eq_ok_iff.mp read
  cases read
  exact of_fieldD (· < Word.pow2 16) (fun _ _ => lt_of_unsigned) (by decide) found

end Ssh.Params

namespace Transport

/-- The parameters are such as configuring a transport leaves them. -/
def Configured : Transport → Prop
  | .thisMachine => True
  | .shell p => p.Valid

/-- The default parameters of a transport are among those that it takes. -/
theorem configured_of_mem_fresh : ∀ t ∈ fresh, t.Configured := by
  have port : ({} : Ssh.Params).port < Word.pow2 16 := by decide
  simp only [fresh, List.forall_mem_cons]
  exact ⟨trivial, port, nofun⟩

/-- A transport that was configured takes its own parameters, and so does any other of its kind. -/
theorem configure_params {t u : Transport} (configured : t.Configured) (same : u.name = t.name) :
    u.configure t.params = .ok t := by
  cases t with
  | thisMachine =>
      cases u with
      | thisMachine => rfl
      | shell p => exact absurd same (by simp [name])
  | shell p =>
      cases u with
      | thisMachine => exact absurd same (by simp [name])
      | shell q =>
          simp only [configure, params, Ssh.Params.ofJson_toJson configured]
          rfl

/-- What configuring a transport leaves. -/
theorem configured_of_configure {t u : Transport} {j : Json} (accepted : t.configure j = .ok u) :
    u.Configured ∧ u.name = t.name := by
  cases t with
  | thisMachine =>
      cases j with
      | null | obj =>
          cases accepted
          exact ⟨trivial, rfl⟩
      | _ => cases accepted
  | shell p =>
      obtain ⟨q, read, rfl⟩ := map_eq_ok_iff.mp (mapError_eq_ok_iff.mp accepted)
      exact ⟨Ssh.Params.valid_of_ofJson read, rfl⟩

end Transport

end Hostwatch
