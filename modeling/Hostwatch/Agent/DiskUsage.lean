import Hostwatch.Agent.Reading

/-!
# Space on a file system

How full the file system is that holds a path, the way administrators read it: as a share of what
users without privileges could fill.
-/

namespace Hostwatch.DiskUsage

structure Params where
  path : String := "/"
  deriving Repr, DecidableEq

namespace Params

open Json Decoder in
def shape : Shape :=
  { name := "DiskUsageParams", closed := true, fields := [.optional "path" string] }

open Json Decoder in
/-- Reads parameters; `null` stands for the defaults. -/
def ofJson : Decoder Params
  | .null => .ok {}
  | j => do
    let r ← shape.read j
    return { path := ← fieldD r "path" "/" string }

def toJson (p : Params) : Json :=
  Json.ofMembers [("path", .str p.path)]

end Params

def read (p : Params) : Dialogue (Except Failure (FsUsage × Timestamp)) := do
  match ← Dialogue.query (.stat p.path) with
  | .ok usage => Reading.timed (.ok usage)
  | .error e => return .error (.transport e)

/-- The space that counts as the whole: what is used and what is available. Adding them up breaks
off if the sum is no 64-bit word. -/
def usable (u : FsUsage) : Option Nat :=
  let sum := u.used + u.available
  if sum ≤ FsUsage.wordMax then some sum else none

/-- The used share of a whole in percent, zero if there is none. -/
def usedPercent (u : FsUsage) (whole : Nat) : Float :=
  if whole > 0 then Binary64.ofInt u.used / Binary64.ofInt whole * 100.0 else 0.0

/-- What is reported of a file system of which so much is usable. -/
def point (p : Params) (u : FsUsage) (whole : Nat) (time : Timestamp) : Point :=
  (({ name := "disk.usage", time } : Point).tag "mount" p.path)
    |>.number "total" (Binary64.ofInt u.total)
    |>.number "free" (Binary64.ofInt u.free)
    |>.number "available" (Binary64.ofInt u.available)
    |>.number "used" (Binary64.ofInt u.used)
    |>.number "used_percent" (usedPercent u whole)
    |>.number "inodes_total" (Binary64.ofInt u.files)
    |>.number "inodes_free" (Binary64.ofInt u.filesFree)
    |>.number "inodes_used" (Binary64.ofInt (u.files - u.filesFree : Nat))

/-- The point of the last reading, if there was one. Working it out breaks off if the sum does. -/
def points (p : Params) : Option (FsUsage × Timestamp) → Option (List Point)
  | none => some []
  | some (u, time) => (usable u).map fun whole => [point p u whole time]

def doc : Doc :=
  ({ summary := "Filesystem capacity and inode usage for one mount point." } : Doc)
    |>.param "path" "string" "Any path on the filesystem to inspect" (some "/")
    |>.metric "disk.usage" "total, free, available, used bytes, used_percent, inodes; tagged by mount"

end Hostwatch.DiskUsage
