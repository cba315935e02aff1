import Hostwatch.Number.Word
import Hostwatch.Text.Split
import Hostwatch.Number.Text

/-!
# The space on a file system

Hosts count space in blocks. Sizes in octets are products of two 64-bit numbers and stop at the
greatest such number.
-/

namespace Hostwatch

/-- Space in octets, and numbers of files. -/
structure FsUsage where
  total : Nat
  free : Nat
  /-- What users without privileges can still take. -/
  available : Nat
  files : Nat
  filesFree : Nat
  deriving Repr, DecidableEq, Inhabited

namespace FsUsage

/-- The greatest unsigned 64-bit number. -/
def wordMax : Nat := Word.count64 - 1

/-- A product that stops at the greatest 64-bit number. -/
def scale (blocks blockSize : Nat) : Nat :=
  min (blocks * blockSize) wordMax

def ofBlocks (blockSize blocks free available files filesFree : Nat) : FsUsage :=
  { total := scale blocks blockSize
    free := scale free blockSize
    available := scale available blockSize
    files, filesFree }

/-- The space that is taken; none if more is said to be free than there is. -/
def used (u : FsUsage) : Nat :=
  u.total - u.free

/-- A 64-bit number, possibly after a plus sign. -/
private def readWord? (cs : List Char) : Option Nat := do
  let digits := match cs with
    | '+' :: rest => rest
    | _ => cs
  let n ← Number.readNat? digits
  if n ≤ wordMax then some n else none

/-- Reads the six numbers that `stat` prints: block size, blocks, free, available, files, free
files. -/
def ofStat? (output : List Char) : Option FsUsage :=
  match (Text.words output).mapM readWord? with
  | some [blockSize, blocks, free, available, files, filesFree] =>
    some (ofBlocks blockSize blocks free available files filesFree)
  | _ => none

end FsUsage

end Hostwatch
