import Hostwatch.Proofs.Agent.Memory
import Hostwatch.Proofs.Json.Schema

/-!
# Parameters and their records

What an agent says its parameters are is what configuring it took them to be. So an agent that was
configured takes its own parameters, and any other agent of its kind becomes like it with them.
-/

namespace Hostwatch

open Json Decoder

/-! ### Parameters are read back -/

theorem DiskUsage.Params.ofJson_toJson (p : Params) : ofJson p.toJson = .ok p := rfl

theorem Nginx.Params.ofJson_toJson (p : Params) : ofJson p.toJson = .ok p := rfl

theorem PhpFpm.Params.ofJson_toJson (p : Params) : ofJson p.toJson = .ok p := rfl

theorem TcpPort.Params.ofJson_toJson (p : Params) : ofJson p.toJson = .ok p := rfl

namespace Resolver.Params

def members (p : Params) : List (String × Json) :=
  [("server", .str p.server), ("query", .str p.query), ("record_type", .str p.recordType),
    ("network", .str p.network)]

theorem nodup_members (p : Params) : (Table.keys p.members).Nodup := by
  show ["server", "query", "record_type", "network"].Nodup
  decide

theorem ofJson_toJson (p : Params) : ofJson p.toJson = .ok p := by
  have read : shape.read (ofMembers p.members) = .ok (Table.ofList p.members) := by
    refine Shape.read_ofMembers_of_optional p.nodup_members ?_ (by decide)
    intro entry member
    simp only [members, List.mem_cons, List.not_mem_nil, or_false] at member
    rcases member with rfl | rfl | rfl | rfl
    all_goals exact ⟨_, rfl, rfl⟩
  have text {key default value : String} (there : Table.get? p.members key = some (.str value)) :
      fieldD (Table.ofList p.members) key default string = .ok value :=
    fieldD_ofList p.nodup_members there rfl
  have server := @text "server" "127.0.0.1:53" p.server rfl
  have query := @text "query" "example.com." p.query rfl
  have recordType := @text "record_type" "A" p.recordType rfl
  have network := @text "network" "udp" p.network rfl
  show (do let r ← shape.read (ofMembers p.members); _) = _
  simp only [read, bind, Except.bind, server, query, recordType, network]
  rfl

end Resolver.Params

namespace Mysql.Params

/-- A port is a word of 16 bits. -/
def Valid (p : Params) : Prop :=
  ∀ n ∈ p.port, n < Word.pow2 16

def members (p : Params) : List (String × Json) :=
  Table.ifSome "host" .str p.host ++ Table.ifSome "port" (fun n : Nat => .int n) p.port ++
    Table.ifSome "user" .str p.user ++ Table.ifSome "defaults_file" .str p.defaultsFile ++
    Table.ifSome "password" .str p.password

theorem nodup_members (p : Params) : (Table.keys p.members).Nodup := by
  have keys : (Table.keys p.members).Sublist
      (["host"] ++ ["port"] ++ ["user"] ++ ["defaults_file"] ++ ["password"]) := by
    simp only [members, Table.keys, List.map_append]
    exact ((((Table.keys_ifSome_sublist ..).append (Table.keys_ifSome_sublist ..)).append
      (Table.keys_ifSome_sublist ..)).append (Table.keys_ifSome_sublist ..)).append
      (Table.keys_ifSome_sublist ..)
  exact keys.nodup (by decide)

theorem get?_members (p : Params) (key : String) :
    Table.get? p.members key =
      if key = "host" then p.host.map .str
      else if key = "port" then p.port.map fun n : Nat => .int n
      else if key = "user" then p.user.map .str
      else if key = "defaults_file" then p.defaultsFile.map .str
      else if key = "password" then p.password.map .str
      else none := by
  simp only [members, Table.get?_append, Table.get?_ifSome]
  grind

theorem ofJson_toJson {p : Params} (valid : p.Valid) : ofJson p.toJson = .ok p := by
  have port (n : Nat) (given : n ∈ p.port) : word16 (.int n) = .ok n := unsigned_int (valid n given)
  have read : shape.read (ofMembers p.members) = .ok (Table.ofList p.members) := by
    refine Shape.read_ofMembers_of_optional p.nodup_members ?_ (by decide)
    intro entry member
    simp only [members, List.mem_append, Table.mem_ifSome] at member
    rcases member with (((⟨v, given, rfl⟩ | ⟨n, given, rfl⟩) | ⟨v, given, rfl⟩) |
      ⟨v, given, rfl⟩) | ⟨v, given, rfl⟩
    · exact ⟨_, rfl, rfl⟩
    · refine ⟨_, rfl, ?_⟩
      show ((word16 (.int n)).map some).map _ = _
      rw [port n given]
      rfl
    all_goals exact ⟨_, rfl, rfl⟩
  have text {key : String} {value : Option String}
      (there : Table.get? p.members key = value.map .str) :
      fieldD (Table.ofList p.members) key none (Decoder.optional string) = .ok value :=
    fieldD_ofList_ifSome p.nodup_members there fun _ _ => rfl
  have host := text (p.get?_members "host")
  have user := text (p.get?_members "user")
  have file := text (p.get?_members "defaults_file")
  have password := text (p.get?_members "password")
  have port' : fieldD (Table.ofList p.members) "port" none (Decoder.optional word16) =
      .ok p.port :=
    fieldD_ofList_ifSome p.nodup_members (p.get?_members "port")
      fun n given => congrArg (Except.map some) (port n given)
  show (do let r ← shape.read (ofMembers p.members); _) = _
  simp only [read, bind, Except.bind, host, port', user, file, password]
  rfl

theorem valid_of_ofJson {j : Json} {p : Params} (read : ofJson j = .ok p) : p.Valid := by
  cases j with
  | null =>
      cases read
      nofun
  | _ =>
      obtain ⟨fields, -, read⟩ := bind_eq_ok_iff.mp read
      obtain ⟨host, -, read⟩ := bind_eq_ok_iff.mp read
      obtain ⟨port, found, read⟩ := bind_eq_ok_iff.mp read
      obtain ⟨user, -, read⟩ := bind_eq_ok_iff.mp read
      obtain ⟨file, -, read⟩ := bind_eq_ok_iff.mp read
      obtain ⟨password, -, read⟩ := bind_eq_ok_iff.mp read
      cases read
      exact of_fieldD (∀ n ∈ ·, n < Word.pow2 16) (fun _ _ => of_optional fun _ _ => lt_of_unsigned)
        (by simp) found

end Mysql.Params

namespace Ping.Params

/-- The numbers are words of 32 bits. -/
def Valid (p : Params) : Prop :=
  p.count < Word.pow2 32 ∧ p.timeout < Word.pow2 32

def members (p : Params) : List (String × Json) :=
  [("target", .str p.target), ("count", .int p.count), ("timeout", .int p.timeout)]

theorem nodup_members (p : Params) : (Table.keys p.members).Nodup := by
  show ["target", "count", "timeout"].Nodup
  decide

theorem ofJson_toJson {p : Params} (valid : p.Valid) : ofJson p.toJson = .ok p := by
  have words : word32 (.int p.count) = .ok p.count ∧ word32 (.int p.timeout) = .ok p.timeout :=
    ⟨unsigned_int valid.1, unsigned_int valid.2⟩
  have read : shape.read (ofMembers p.members) = .ok (Table.ofList p.members) := by
    refine Shape.read_ofMembers p.nodup_members ?_ ?_
    · intro entry member
      simp only [members, List.mem_cons, List.not_mem_nil, or_false] at member
      rcases member with rfl | rfl | rfl
      · exact ⟨_, rfl, rfl⟩
      · refine ⟨_, rfl, ?_⟩
        rw [check_optional, words.1]
        rfl
      · refine ⟨_, rfl, ?_⟩
        rw [check_optional, words.2]
        rfl
    · show ∀ f ∈ shape.fields, f.required = true → f.name ∈ ["target", "count", "timeout"]
      decide
  have target : field (Table.ofList p.members) "target" string = .ok p.target :=
    field_ofList p.nodup_members rfl rfl
  have count : fieldD (Table.ofList p.members) "count" 3 word32 = .ok p.count :=
    fieldD_ofList p.nodup_members rfl words.1
  have timeout : fieldD (Table.ofList p.members) "timeout" 2 word32 = .ok p.timeout :=
    fieldD_ofList p.nodup_members rfl words.2
  show (do let r ← shape.read (ofMembers p.members); _) = _
  simp only [read, bind, Except.bind, target, count, timeout]
  rfl

theorem valid_of_ofJson {j : Json} {p : Params} (read : ofJson j = .ok p) : p.Valid := by
  obtain ⟨fields, -, read⟩ := bind_eq_ok_iff.mp read
  obtain ⟨target, -, read⟩ := bind_eq_ok_iff.mp read
  obtain ⟨count, counted, read⟩ := bind_eq_ok_iff.mp read
  obtain ⟨timeout, timed, read⟩ := bind_eq_ok_iff.mp read
  cases read
  exact ⟨of_fieldD (· < Word.pow2 32) (fun _ _ => lt_of_unsigned) (by decide) counted,
    of_fieldD (· < Word.pow2 32) (fun _ _ => lt_of_unsigned) (by decide) timed⟩

end Ping.Params

namespace Agent

/-- The parameters are such as configuring an agent leaves them. -/
def Configured : Agent → Prop
  | .dns p _ => ∃ question, p.check = .ok question
  | .mysql p _ => p.Valid
  | .nginx p _ => ∃ url, Url.read p.url = .ok url
  | .phpFpm p _ => ∃ url, Url.read p.url = .ok url
  | .ping p _ => p.Valid
  | _ => True

theorem name_latest (a : Agent) (n : Nat) : (a.latest n).name = a.name := by
  cases a <;> rfl

theorem params_latest (a : Agent) (n : Nat) : (a.latest n).params = a.params := by
  cases a <;> rfl

theorem configured_latest (a : Agent) (n : Nat) : (a.latest n).Configured ↔ a.Configured := by
  cases a <;> rfl

/-- An agent that was configured takes its own parameters, and nothing changes. -/
theorem configure_params {a : Agent} (configured : a.Configured) :
    a.configure a.params = .ok a := by
  cases a with
  | dns p last =>
      obtain ⟨question, checked⟩ := configured
      simp only [configure, params, Resolver.Params.ofJson_toJson, bind, Except.bind,
        mapError_ok, checked]
      rfl
  | mysql p h =>
      simp only [configure, params, Mysql.Params.ofJson_toJson configured]
      rfl
  | nginx p h | phpFpm p h =>
      obtain ⟨url, read⟩ := configured
      simp only [configure, params, Nginx.Params.ofJson_toJson, PhpFpm.Params.ofJson_toJson, bind,
        Except.bind, mapError_ok, withPage, read]
      rfl
  | ping p last =>
      simp only [configure, params, Ping.Params.ofJson_toJson configured]
      rfl
  | diskUsage _ _ | tcpPort _ _ => rfl
  | cpu _ | disk _ | load _ | memory _ | network _ | sockets _ => rfl

theorem eq_of_takeNone {a b : Agent} {j : Json} (accepted : a.takeNone j = .ok b) : b = a := by
  unfold takeNone at accepted
  split at accepted
  · cases accepted
    rfl
  · cases accepted
    rfl
  · cases accepted

theorem takeNone_latest (a : Agent) (j : Json) (n : Nat) :
    (a.latest n).takeNone j = (a.takeNone j).map (latest · n) := by
  unfold takeNone
  split
  · rfl
  · rfl
  · rw [name_latest]
    rfl

/-- Configuring an agent does not ask what it remembers. -/
theorem configure_latest (a : Agent) (j : Json) (n : Nat) :
    (a.latest n).configure j = (a.configure j).map (latest · n) := by
  cases a with
  | cpu _ | disk _ | load _ | memory _ | network _ | sockets _ => exact takeNone_latest _ j n
  | _ =>
      simp only [configure, latest, map_bind]
      rfl

/-- What configuring an agent leaves. -/
theorem configured_of_configure {a b : Agent} {j : Json} (accepted : a.configure j = .ok b) :
    b.Configured ∧ b.name = a.name := by
  cases a with
  | dns p last =>
      obtain ⟨q, read, accepted⟩ := bind_eq_ok_iff.mp accepted
      obtain ⟨question, checked, accepted⟩ := bind_eq_ok_iff.mp accepted
      cases accepted
      exact ⟨⟨question, checked⟩, rfl⟩
  | mysql p h =>
      obtain ⟨q, read, accepted⟩ := bind_eq_ok_iff.mp accepted
      cases accepted
      exact ⟨Mysql.Params.valid_of_ofJson (mapError_eq_ok_iff.mp read), rfl⟩
  | nginx p h | phpFpm p h =>
      obtain ⟨q, read, accepted⟩ := bind_eq_ok_iff.mp accepted
      obtain ⟨q', page, accepted⟩ := bind_eq_ok_iff.mp accepted
      cases accepted
      obtain ⟨url, named, rfl⟩ := map_eq_ok_iff.mp page
      exact ⟨⟨url, named⟩, rfl⟩
  | ping p last =>
      obtain ⟨q, read, accepted⟩ := bind_eq_ok_iff.mp accepted
      cases accepted
      exact ⟨Ping.Params.valid_of_ofJson (mapError_eq_ok_iff.mp read), rfl⟩
  | diskUsage p last | tcpPort p last =>
      obtain ⟨q, read, accepted⟩ := bind_eq_ok_iff.mp accepted
      cases accepted
      exact ⟨trivial, rfl⟩
  | cpu _ | disk _ | load _ | memory _ | network _ | sockets _ =>
      cases eq_of_takeNone accepted
      exact ⟨trivial, rfl⟩

/-- An agent without memory is configured as the fresh one of its name is. -/
theorem find?_fresh_configure (a : Agent) (j : Json) :
    (fresh.find? fun k => k.name == a.name).map (·.configure j) =
      some ((a.latest 0).configure j) := by
  cases a <;> rfl

/-- Agents of the same kind differ in nothing that configuring them does not replace. -/
theorem configure_of_name_eq {a b : Agent} (same : a.name = b.name) (j : Json) :
    (a.latest 0).configure j = (b.latest 0).configure j := by
  rw [← Option.some_inj, ← find?_fresh_configure, ← find?_fresh_configure, same]

/-- Any agent takes the parameters of one of its kind that was configured, and is then like it, all
but its memory. -/
theorem exists_configure_params {a b : Agent} (configured : a.Configured) (same : b.name = a.name) :
    ∃ c, b.configure a.params = .ok c ∧ c.latest 0 = a.latest 0 := by
  have blank : (b.latest 0).configure a.params = .ok (a.latest 0) := by
    rw [configure_of_name_eq same, ← a.params_latest 0]
    exact configure_params ((a.configured_latest 0).mpr configured)
  rw [configure_latest] at blank
  exact map_eq_ok_iff.mp blank

end Agent

end Hostwatch
