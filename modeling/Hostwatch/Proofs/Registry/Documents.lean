import Hostwatch.Proofs.Agent.Parameters
import Hostwatch.Proofs.Registry.Parameters

/-!
# Parameters and their descriptions

Operators go by the description of an agent or a transport, which is written apart from what reads
the parameters. Agents take no parameter that is not described. Transports take any, but nothing
comes of one that is not described: a misspelt password leaves a secure shell without one. Of both,
a described parameter that is left out has the default of the description.
-/

namespace Hostwatch

open Json Decoder

/-- A value in the words of a description: a text is itself, anything else is as it is written. -/
def Json.shown : Json → String
  | .str s => s
  | j => j.compact

namespace Doc

variable {doc : Doc} {given : List (String × Json)} {params : Json}

/-- The parameters that the description names. -/
def names (doc : Doc) : List String :=
  doc.params.map (·.name)

/-- The members of an object that the description names. -/
def named (doc : Doc) (given : List (String × Json)) : List (String × Json) :=
  given.filter fun entry => doc.names.contains entry.1

/-- Described parameters that are left out have their described defaults; those without a default
are not there. -/
def KeepsDefaults (doc : Doc) (given : List (String × Json)) (params : Json) : Prop :=
  ∀ p ∈ doc.params, p.name ∉ Table.keys given →
    (params.members.get? p.name).map Json.shown = p.default?

namespace KeepsDefaults

theorem nil {summary : String} : Doc.KeepsDefaults { summary } given params :=
  nofun

theorem param {name kind description : String} {default? : Option String}
    (before : doc.KeepsDefaults given params)
    (last : name ∉ Table.keys given → (params.members.get? name).map Json.shown = default?) :
    (doc.param name kind description default?).KeepsDefaults given params := by
  intro p member absent
  obtain old | new := List.mem_append.mp member
  · exact before p old absent
  · cases List.mem_singleton.mp new
    exact last absent

theorem metric {name description : String} (before : doc.KeepsDefaults given params) :
    (doc.metric name description).KeepsDefaults given params :=
  before

end KeepsDefaults

end Doc

/-! ### Fields that are left out -/

section LeftOut

variable {α : Type} {shape : Shape} {given : List (String × Json)} {found : Table Json}
variable {name : String} {d : Decoder α} (fits : shape.read (.obj given) = .ok found)
include fits

theorem mem_keys_of_field {value : α} (read : field found name d = .ok value) :
    name ∈ Table.keys given := by
  by_contra absent
  have present := isSome_of_field read
  rw [Shape.get?_eq_none_of_read fits absent] at present
  cases present

variable {entries : List (String × Json)} (once : (Table.keys entries).Nodup)
include once

theorem shown_of_default (write : α → Json) {default value : α}
    (read : fieldD found name default d = .ok value)
    (there : Table.get? entries name = some (write value)) (absent : name ∉ Table.keys given) :
    ((ofMembers entries).members.get? name).map Json.shown = some (write default).shown := by
  have same := eq_of_fieldD_of_none (Shape.get?_eq_none_of_read fits absent) read
  rw [ofMembers, Json.members, Table.get?_ofList once, there, same]
  rfl

theorem shown_of_optional {write : α → Json} {value : Option α}
    (read : fieldD found name none (Decoder.optional d) = .ok value)
    (there : Table.get? entries name = value.map write) (absent : name ∉ Table.keys given) :
    ((ofMembers entries).members.get? name).map Json.shown = none := by
  have same := eq_of_fieldD_of_none (Shape.get?_eq_none_of_read fits absent) read
  rw [ofMembers, Json.members, Table.get?_ofList once, there, same]
  rfl

end LeftOut

variable {given : List (String × Json)}

/-- An object that is read by a closed shape has no other members. -/
theorem mem_names_of_closed {α : Type} {shape : Shape} {take : Table Json → Except Mismatch α}
    {value : α} (closed : shape.closed = true)
    (read : (shape.read (.obj given) >>= take) = .ok value) {key : String}
    (member : key ∈ Table.keys given) : key ∈ shape.fields.map (·.name) := by
  obtain ⟨found, fits, -⟩ := bind_eq_ok_iff.mp read
  obtain ⟨entry, here, rfl⟩ := List.mem_map.mp member
  exact Shape.knows_iff.mp (Shape.knows_of_read closed fits here)

/-! ### Agents -/

/-- Parameters that are a single text. -/
theorem Doc.KeepsDefaults.only_text {P : Type} {p : P} {make : String → P} {toJson : P → Json}
    {shape : Shape} {doc : Doc} {name kind description default : String}
    (read : (shape.read (.obj given) >>= fun found =>
      fieldD found name default string >>= fun value => pure (make value)) = .ok p)
    (only : doc.params = [⟨name, kind, description, some default⟩])
    (written : ∀ value, toJson (make value) = ofMembers [(name, .str value)]) :
    doc.KeepsDefaults given (toJson p) := by
  obtain ⟨found, fits, read⟩ := bind_eq_ok_iff.mp read
  obtain ⟨value, placed, made⟩ := bind_eq_ok_iff.mp read
  cases made
  have once : (Table.keys [(name, Json.str value)]).Nodup := List.nodup_singleton name
  have there : Table.get? [(name, Json.str value)] name = some (.str value) := by
    rw [Table.get?_cons, if_pos rfl]
  intro param member absent
  rw [only, List.mem_singleton] at member
  subst member
  rw [written]
  exact shown_of_default fits once .str placed there absent

theorem DiskUsage.Params.keepsDefaults {p : Params} (read : ofJson (.obj given) = .ok p) :
    DiskUsage.doc.KeepsDefaults given p.toJson :=
  .only_text read rfl fun _ => rfl

theorem Nginx.Params.keepsDefaults {p : Params} (read : ofJson (.obj given) = .ok p) :
    Nginx.doc.KeepsDefaults given p.toJson :=
  .only_text read rfl fun _ => rfl

theorem PhpFpm.Params.keepsDefaults {p : Params} (read : ofJson (.obj given) = .ok p) :
    PhpFpm.doc.KeepsDefaults given p.toJson :=
  .only_text read rfl fun _ => rfl

theorem TcpPort.Params.keepsDefaults {p : Params} (read : ofJson (.obj given) = .ok p) :
    TcpPort.doc.KeepsDefaults given p.toJson :=
  .only_text read rfl fun _ => rfl

theorem Resolver.Params.keepsDefaults {p : Params}
    (read : ofJson (.obj given) = .ok p) : Resolver.doc.KeepsDefaults given p.toJson := by
  obtain ⟨found, fits, read⟩ := bind_eq_ok_iff.mp read
  obtain ⟨server, served, read⟩ := bind_eq_ok_iff.mp read
  obtain ⟨query, asked, read⟩ := bind_eq_ok_iff.mp read
  obtain ⟨recordType, typed, read⟩ := bind_eq_ok_iff.mp read
  obtain ⟨network, reached, read⟩ := bind_eq_ok_iff.mp read
  cases read
  have once := nodup_members { server, query, recordType, network }
  exact .metric (.param (.param (.param (.param .nil
    (shown_of_default fits once .str served rfl)) (shown_of_default fits once .str asked rfl))
    (shown_of_default fits once .str typed rfl)) (shown_of_default fits once .str reached rfl))

theorem Mysql.Params.keepsDefaults {p : Params} (read : ofJson (.obj given) = .ok p) :
    Mysql.doc.KeepsDefaults given p.toJson := by
  obtain ⟨found, fits, read⟩ := bind_eq_ok_iff.mp read
  obtain ⟨host, hosted, read⟩ := bind_eq_ok_iff.mp read
  obtain ⟨port, placed, read⟩ := bind_eq_ok_iff.mp read
  obtain ⟨user, named, read⟩ := bind_eq_ok_iff.mp read
  obtain ⟨defaultsFile, filed, read⟩ := bind_eq_ok_iff.mp read
  obtain ⟨password, secured, read⟩ := bind_eq_ok_iff.mp read
  cases read
  let p : Params := { host, port, user, defaultsFile, password }
  have once := p.nodup_members
  have host := shown_of_optional fits once hosted (p.get?_members "host")
  have port := shown_of_optional fits once placed (p.get?_members "port")
  have user := shown_of_optional fits once named (p.get?_members "user")
  have file := shown_of_optional fits once filed (p.get?_members "defaults_file")
  have password := shown_of_optional fits once secured (p.get?_members "password")
  exact .metric (.param (.param (.param (.param (.param .nil host) port) user) file) password)

theorem Ping.Params.keepsDefaults {p : Params} (read : ofJson (.obj given) = .ok p) :
    Ping.doc.KeepsDefaults given p.toJson := by
  obtain ⟨found, fits, read⟩ := bind_eq_ok_iff.mp read
  obtain ⟨target, aimed, read⟩ := bind_eq_ok_iff.mp read
  obtain ⟨count, counted, read⟩ := bind_eq_ok_iff.mp read
  obtain ⟨timeout, timed, read⟩ := bind_eq_ok_iff.mp read
  cases read
  have once := nodup_members { target, count, timeout }
  have count := shown_of_default fits once (fun n : Nat => .int n) counted rfl
  have timeout := shown_of_default fits once (fun n : Nat => .int n) timed rfl
  exact .metric (.param (.param (.param .nil
    fun absent => absurd (mem_keys_of_field fits aimed) absent) count) timeout)

namespace Agent

/-- An agent takes only parameters that it describes, and what is left out is as described. -/
theorem takes_described {a b : Agent} (accepted : a.configure (.obj given) = .ok b) :
    (∀ key ∈ Table.keys given, key ∈ a.doc.names) ∧ a.doc.KeepsDefaults given b.params := by
  cases a with
  | diskUsage p last =>
      obtain ⟨q, read, accepted⟩ := bind_eq_ok_iff.mp accepted
      cases accepted
      replace read := mapError_eq_ok_iff.mp read
      exact ⟨fun key => mem_names_of_closed rfl read, DiskUsage.Params.keepsDefaults read⟩
  | dns p last =>
      obtain ⟨q, read, accepted⟩ := bind_eq_ok_iff.mp accepted
      obtain ⟨question, -, accepted⟩ := bind_eq_ok_iff.mp accepted
      cases accepted
      replace read := mapError_eq_ok_iff.mp read
      exact ⟨fun key => mem_names_of_closed rfl read, Resolver.Params.keepsDefaults read⟩
  | mysql p h =>
      obtain ⟨q, read, accepted⟩ := bind_eq_ok_iff.mp accepted
      cases accepted
      replace read := mapError_eq_ok_iff.mp read
      exact ⟨fun key => mem_names_of_closed rfl read, Mysql.Params.keepsDefaults read⟩
  | nginx p h =>
      obtain ⟨q, read, accepted⟩ := bind_eq_ok_iff.mp accepted
      obtain ⟨q', page, accepted⟩ := bind_eq_ok_iff.mp accepted
      cases accepted
      obtain ⟨url, -, rfl⟩ := map_eq_ok_iff.mp page
      replace read := mapError_eq_ok_iff.mp read
      exact ⟨fun key => mem_names_of_closed rfl read, Nginx.Params.keepsDefaults read⟩
  | phpFpm p h =>
      obtain ⟨q, read, accepted⟩ := bind_eq_ok_iff.mp accepted
      obtain ⟨q', page, accepted⟩ := bind_eq_ok_iff.mp accepted
      cases accepted
      obtain ⟨url, -, rfl⟩ := map_eq_ok_iff.mp page
      replace read := mapError_eq_ok_iff.mp read
      exact ⟨fun key => mem_names_of_closed rfl read, PhpFpm.Params.keepsDefaults read⟩
  | ping p last =>
      obtain ⟨q, read, accepted⟩ := bind_eq_ok_iff.mp accepted
      cases accepted
      replace read := mapError_eq_ok_iff.mp read
      exact ⟨fun key => mem_names_of_closed rfl read, Ping.Params.keepsDefaults read⟩
  | tcpPort p last =>
      obtain ⟨q, read, accepted⟩ := bind_eq_ok_iff.mp accepted
      cases accepted
      replace read := mapError_eq_ok_iff.mp read
      exact ⟨fun key => mem_names_of_closed rfl read, TcpPort.Params.keepsDefaults read⟩
  | cpu _ | disk _ | load _ | memory _ | network _ | sockets _ =>
      cases given with
      | nil => exact ⟨nofun, nofun⟩
      | cons => cases accepted

end Agent

/-! ### Transports -/

theorem Ssh.Params.keepsDefaults {p : Params} (read : ofJson (.obj given) = .ok p) :
    (Transport.shell p).doc.KeepsDefaults given p.toJson := by
  obtain ⟨found, fits, read⟩ := bind_eq_ok_iff.mp read
  obtain ⟨host, hosted, read⟩ := bind_eq_ok_iff.mp read
  obtain ⟨port, placed, read⟩ := bind_eq_ok_iff.mp read
  obtain ⟨username, named, read⟩ := bind_eq_ok_iff.mp read
  obtain ⟨privateKey, keyed, read⟩ := bind_eq_ok_iff.mp read
  obtain ⟨password, secured, read⟩ := bind_eq_ok_iff.mp read
  cases read
  let p : Params := { host, port, username, privateKey, password }
  have once := p.nodup_members
  have port := shown_of_default fits once (fun n : Nat => .int n) placed (p.get?_members "port")
  have key := shown_of_optional fits once keyed (p.get?_members "private_key")
  have password := shown_of_optional fits once secured (p.get?_members "password")
  exact .param (.param (.param (.param (.param .nil
    fun absent => absurd (mem_keys_of_field fits hosted) absent) port)
    fun absent => absurd (mem_keys_of_field fits named) absent) key) password

namespace Transport

theorem keepsDefaults {t u : Transport} (accepted : t.configure (.obj given) = .ok u) :
    t.doc.KeepsDefaults given u.params := by
  cases t with
  | thisMachine => exact .nil
  | shell p =>
      obtain ⟨q, read, rfl⟩ := map_eq_ok_iff.mp (mapError_eq_ok_iff.mp accepted)
      exact Ssh.Params.keepsDefaults read

/-- A transport looks at no parameter that it does not describe. -/
theorem configure_named (t : Transport) (given : List (String × Json)) :
    t.configure (.obj (t.doc.named given)) = t.configure (.obj given) := by
  cases t with
  | thisMachine => rfl
  | shell p =>
      have known : (shell p).doc.named given = given.filter Ssh.Params.shape.knows := by
        refine List.filter_congr fun entry _ => ?_
        rw [Bool.eq_iff_iff, List.contains_iff_mem, Shape.knows_iff]
        exact Iff.rfl
      have blind : Ssh.Params.ofJson (.obj ((shell p).doc.named given)) =
          Ssh.Params.ofJson (.obj given) := by
        rw [known, Ssh.Params.ofJson, Shape.read_filter rfl]
        rfl
      simp only [configure, blind]

end Transport

/-! ### The registry -/

/-- Parameters go by their description, except that transports ignore what is not described.

If a registry makes an agent from an object, the agent's description names every member of the
object. What is described but left out has the default of the description, with agents and with
transports. Which transport is made depends only on the members that its description names. -/
theorem described_parameters (registry : Registry) (name : String) (given : List (String × Json)) :
    (∀ a, registry.decodeAgent name (.obj given) = .ok a →
      ∃ listed, registry.agent name = .ok listed ∧
        (∀ key ∈ Table.keys given, key ∈ listed.doc.names) ∧
        listed.doc.KeepsDefaults given a.params) ∧
    (∀ t, registry.decodeTransport name (.obj given) = .ok t →
      ∃ listed, registry.transport name = .ok listed ∧
        listed.doc.KeepsDefaults given t.params) ∧
    (∀ listed, registry.transport name = .ok listed →
      registry.decodeTransport name (.obj (listed.doc.named given)) =
        registry.decodeTransport name (.obj given)) := by
  refine ⟨?_, ?_, ?_⟩
  · intro a made
    obtain ⟨listed, found, accepted⟩ := Registry.decodeAgent_eq_ok_iff.mp made
    exact ⟨listed, Registry.agent_eq_ok_iff.mpr found, Agent.takes_described accepted⟩
  · intro t made
    obtain ⟨listed, found, accepted⟩ := Registry.decodeTransport_eq_ok_iff.mp made
    exact ⟨listed, Registry.transport_eq_ok_iff.mpr found, Transport.keepsDefaults accepted⟩
  · intro listed found
    simp only [Registry.decodeTransport, found, bind, Except.bind, Transport.configure_named]

open Registry (defaults) in
/-- A ping that is told only its target goes by the described count and timeout. -/
theorem ping_as_described :
    let given : List (String × Json) := [("target", .str "web")]
    let a : Agent := .ping { target := "web" } none
    defaults.decodeAgent "ping" (.obj given) = .ok a ∧
      (∃ listed, defaults.agent "ping" = .ok listed ∧
        (∀ key ∈ Table.keys given, key ∈ listed.doc.names) ∧
        listed.doc.KeepsDefaults given a.params) ∧
      defaults.transport "local" = .ok .thisMachine ∧
      defaults.decodeTransport "local" (.obj []) = defaults.decodeTransport "local" (.obj given) ∧
      ∃ listed, defaults.transport "local" = .ok listed ∧
        listed.doc.KeepsDefaults given (Transport.params .thisMachine) := by
  intro given a
  have made : defaults.decodeAgent "ping" (.obj given) = .ok a := rfl
  have reached : defaults.decodeTransport "local" (.obj given) = .ok .thisMachine := rfl
  have listed : defaults.transport "local" = .ok .thisMachine := rfl
  exact ⟨made, (described_parameters defaults "ping" given).1 a made, listed,
    (described_parameters defaults "local" given).2.2 .thisMachine listed,
    (described_parameters defaults "local" given).2.1 .thisMachine reached⟩

open Registry (defaults) in
/-- A secure shell takes a misspelt password and goes without, and this machine takes a path. -/
theorem misspelt_password_is_ignored :
    let misspelt : Json :=
      .obj [("host", .str "web"), ("pasword", .str "x"), ("username", .str "monitor")]
    (∃ listed, defaults.transport "ssh" = .ok listed ∧ "pasword" ∉ listed.doc.names) ∧
      defaults.decodeTransport "ssh" misspelt =
        .ok (.shell { host := "web", username := "monitor" }) ∧
      (∃ listed, defaults.transport "local" = .ok listed ∧ "path" ∉ listed.doc.names) ∧
      defaults.decodeTransport "local" (.obj [("path", .str "/")]) = .ok .thisMachine :=
  ⟨⟨.shell {}, rfl, by decide⟩, rfl, ⟨.thisMachine, rfl, nofun⟩, rfl⟩

end Hostwatch
