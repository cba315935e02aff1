import Hostwatch.Number.Word
import Hostwatch.Text.Split
import Hostwatch.Number.Text

/-!
# Addresses to dial

An address is a host and a port with a colon between them. The host of an IPv6 address stands in
brackets, which are not part of it.
-/

namespace Hostwatch.Address

/-- A 16-bit number, possibly after a plus sign. -/
def readPort? (cs : List Char) : Option Nat := do
  let digits := match cs with
    | '+' :: rest => rest
    | _ => cs
  let n ← Number.readNat? digits
  if n < Word.count16 then some n else none

/-- Takes the brackets off a host. -/
def stripBrackets (host : List Char) : List Char :=
  let opened := host.dropWhile (· == '[')
  (opened.reverse.dropWhile (· == ']')).reverse

/-- The host and the port of an address, if it has both. -/
def split? (address : String) : Option (String × Nat) := do
  let (host, port) ← Text.splitLast ':' address.toList
  let port ← readPort? port
  let host := stripBrackets host
  if host.isEmpty then none else some (String.ofList host, port)

end Hostwatch.Address
