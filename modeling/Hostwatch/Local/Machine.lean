import Hostwatch.Table
import Hostwatch.Transport.Address
import Hostwatch.Transport.Error
import Hostwatch.Transport.FsUsage
import Hostwatch.Transport.Printed

/-!
# The machine itself

Probes of the machine that the server runs on ask its operating system directly. A `Machine` is what
such a probe sees of an operating system: files, commands, file systems and ports.
-/

namespace Hostwatch.Local

/-- Files by their paths, and directories. A directory of which a file is known need not be listed. -/
structure Tree where
  files : Table Octets := []
  directories : List String := []

/-- What a path leads to. -/
inductive Node where
  | file (content : Octets)
  | directory
  deriving Repr, DecidableEq

namespace Tree

/-- The names that a path goes through. -/
def steps (path : String) : List String :=
  (path.splitOn "/").foldl (fun done step =>
    if step == "" || step == "." then done
    else if step == ".." then done.dropLast
    else done ++ [step]) []

/-- The path of these names, from the root or from the working directory. -/
def join (absolute : Bool) (steps : List String) : String :=
  (if absolute then "/" else "") ++ "/".intercalate steps

def isDirectory (t : Tree) (path : String) : Bool :=
  path == "" || path == "/" || t.directories.contains path
    || t.files.keys.any (·.startsWith (path ++ "/"))

/-- Follows a path. -/
def find (t : Tree) (path : String) : Except IoError Node :=
  if path == "" then .error .noSuchFile
  else if path.toList.contains '\x00' then
    .error ⟨.invalidInput, "file name contained an unexpected NUL byte"⟩
  else
    let absolute := path.startsWith "/"
    let names := steps path
    let place := join absolute names
    if t.isDirectory place then .ok .directory
    else
      match t.files.get? place with
      | some content =>
        if path.endsWith "/" then .error .notADirectory else .ok (.file content)
      | none =>
        let above := (List.range names.length).map fun n => join absolute (names.take n)
        if above.any fun p => (t.files.get? p).isSome then .error .notADirectory
        else .error .noSuchFile

/-- Reads a file. -/
def read (t : Tree) (path : String) : Except IoError Octets :=
  match t.find path with
  | .ok (.file content) => .ok content
  | .ok .directory => .error .isADirectory
  | .error e => .error e

end Tree

/-- What becomes of a command once it is started. -/
structure Process where
  printed : Printed := {}
  /-- The status it ends with; none if a signal ends it. -/
  status? : Option Int := some 0
  /-- Nanoseconds until it ends. -/
  duration : Nat := 0
  deriving Repr, DecidableEq, Inhabited

/-- A machine as its probes see it. -/
structure Machine where
  tree : Tree := {}
  /-- Starts a command. -/
  start : (command : String) → (args : List String) → Except IoError Process :=
    fun _ _ => .error .noSuchFile
  /-- The space on its only file system. -/
  usage : FsUsage := .ofBlocks 4096 1000000 400000 300000 500000 400000
  /-- The ports on which nobody answers. -/
  closedPorts : List Nat := []

namespace Machine

/-- How long a command may run, in nanoseconds. -/
def execTimeout : Nat := 30 * 1000000000

/-- Runs a command. A command that has not ended in time is killed. -/
def exec (m : Machine) (timeout : Nat) (command : String) (args : List String) :
    Except TransportError Printed :=
  match m.start command args with
  | .error e => .error (.io e)
  | .ok p =>
    if timeout ≤ p.duration then .error (.timeout command timeout)
    else
      match p.status? with
      | some 0 => .ok p.printed
      | some code => .error (.exitStatus command code p.printed.complaint)
      | none => .error (.exitStatus command (-1) p.printed.complaint)

/-- Reads a file. -/
def readWhole (m : Machine) (path : String) : Except TransportError Octets :=
  (m.tree.read path).mapError .io

/-- Opens a file. A directory can be opened, and only reading from it fails. -/
def openFile (m : Machine) (path : String) : Except TransportError (Except IoError Octets) :=
  match m.tree.find path with
  | .ok (.file content) => .ok (.ok content)
  | .ok .directory => .ok (.error .isADirectory)
  | .error e => .error (.io e)

/-- Looks at the file system that a path lies on. -/
def stat (m : Machine) (path : String) : Except TransportError FsUsage :=
  match m.tree.find path with
  | .ok _ => .ok m.usage
  | .error e => .error (.io e)

/-- The networks with connections that are set up first. -/
def streamNetworks : List String := ["tcp", "tcp4", "tcp6"]

/-- The networks whose packets are sent to wherever they lead. -/
def packetNetworks : List String := ["udp", "udp4", "udp6"]

/-- Connects to an address. -/
def dial (m : Machine) (network address : String) : Except TransportError Unit :=
  if streamNetworks.contains network || packetNetworks.contains network then
    match Address.split? address with
    | none => .error (.invalidAddress address)
    | some (_, port) =>
      if streamNetworks.contains network && m.closedPorts.contains port then
        .error (.io .connectionRefused)
      else .ok ()
  else .error (.unsupportedNetwork network)

end Machine

end Hostwatch.Local
