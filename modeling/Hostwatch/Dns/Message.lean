import Hostwatch.Dns.Name

/-!
# Messages of the domain name system

A query asks one question. Of the response only three things matter: its number, how many answers
it holds and its result code. But it counts as a response only if all of it is well formed, every
record in every section, so `Summary.read?` goes through the whole message.
-/

namespace Hostwatch.Dns

/-- A number of 16 bits. -/
def encodeWord (n : Nat) : Octets :=
  [UInt8.ofNat (n / 256 % 256), UInt8.ofNat (n % 256)]

/-- A query with one question, for a server that is to find the answer itself. -/
def query (id : Nat) (name : Name) (recordType : Nat) : Octets :=
  [id, 0x0100, 1, 0, 0, 0].flatMap encodeWord ++ name.encode ++ encodeWord recordType
    ++ encodeWord 1

/-- A query, if its name fits in a message. -/
def query? (id : Nat) (name : Name) (recordType : Nat) : Option Octets :=
  if name.fits then some (query id name recordType) else none

/-! ## Reading -/

/-- Reads a message from an index on. -/
abbrev Reader := ReaderT (Array UInt8) (StateT Nat Option)

namespace Reader

def octet : Reader Nat := do
  let message ← read
  let index ← get
  match message[index]? with
  | some b => set (index + 1); return b.toNat
  | none => failure

def word : Reader Nat := do
  let high ← octet
  let low ← octet
  return high * 256 + low

def double : Reader Nat := do
  let high ← word
  let low ← word
  return high * 65536 + low

/-- The octets that are left. -/
def remaining : Reader Nat := do
  return (← read).size - (← get)

/-- Passes over some octets, which have to be there. -/
def skip (count : Nat) : Reader Unit := do
  if count ≤ (← remaining) then modify (· + count) else failure

/-- The next octets, which have to be there. -/
def take (count : Nat) : Reader (List UInt8) := do
  let index ← get
  skip count
  return ((← read).extract index (index + count)).toList

def require (b : Bool) : Reader Unit :=
  if b then pure () else failure

/-- A text with its length in front. -/
def text : Reader (List UInt8) := do
  take (← octet)

/-- Goes through a name that begins at `start` and yields where the reading goes on. `labels` and
`octets` count what the name holds so far. A pointer leads to an earlier place in the message, whose
labels may not reach the place where the pointing name begins. -/
def nameEnd (message : Array UInt8) (fuel start index : Nat) (limit : Option Nat)
    (labels octets : Nat) : Option Nat :=
  match fuel with
  | 0 => none
  | fuel + 1 =>
    let length := max labels 1 + octets
    if (limit.map fun n => decide (index ≥ n)).getD false then none
    else if length + labels > Name.maxLength then none
    else
      match message[index]? with
      | none => none
      | some b =>
        let n := b.toNat
        if n == 0 then if length ≥ Name.maxLength then none else some (index + 1)
        else if n < 64 then
          if index + 1 + n > message.size || labels + octets + n + 2 > Name.maxLength then none
          else nameEnd message fuel start (index + 1 + n) limit (labels + 1) (octets + n)
        else if n < 192 then none
        else
          match message[index + 1]? with
          | none => none
          | some low =>
            let target := (n - 192) * 256 + low.toNat
            if target < start then
              (nameEnd message fuel target target (some start) labels octets).map fun _ => index + 2
            else none

/-- Passes over a name; yields whether it is the root. -/
def name : Reader Bool := do
  let message ← read
  let index ← get
  match nameEnd message (message.size + 300) index index none 0 0 with
  | some next =>
    set next
    return message[index]? == some 0
  | none => failure

/-- Repeats a reader as long as fewer than `length` octets have been read since `start`. -/
def untilEnd (start length : Nat) (step : Reader Unit) : (fuel : Nat) → Reader Unit
  | 0 => pure ()
  | fuel + 1 => do
    if (← get) - start < length then
      step
      untilEnd start length step fuel

end Reader

open Reader

/-! ## The data of records -/

def isAlphanumeric (b : UInt8) : Bool :=
  (Char.ofNat b.toNat).isAlphanum && b < 128

/-- The parameters of a service binding, which are in the order of their numbers. Each kind has its
own form: lists that may not be empty, numbers, addresses. -/
def bindingParam (last : Option Nat) : Reader Nat := do
  let key ← word
  let value ← take (← word)
  let n := value.length
  match key with
  | 0 => require (n > 0 && n % 2 == 0)
  | 1 => require (n > 0 && (texts n value))
  | 2 => require (n == 0)
  | 3 => require (n ≥ 2)
  | 4 => require (n > 0 && n % 4 == 0)
  | 6 => require (n > 0 && n % 16 == 0)
  | _ => pure ()
  require (match last with | some k => k < key | none => true)
  return key
where
  /-- Whether octets are texts, each with its length in front. -/
  texts : Nat → List UInt8 → Bool
    | _, [] => true
    | 0, _ => false
    | fuel + 1, b :: rest => b.toNat ≤ rest.length && texts fuel (rest.drop b.toNat)

def bindingParams (start length : Nat) : (fuel : Nat) → Option Nat → Reader Unit
  | 0, _ => pure ()
  | fuel + 1, last => do
    let used := (← get) - start
    require (used ≤ length)
    if length - used ≥ 4 then
      let key ← bindingParam last
      bindingParams start length fuel (some key)

/-- A set of record types as windows of bits, which have to fill the octets. -/
def typeWindows : Nat → List UInt8 → Bool
  | _, [] => true
  | 0, _ => false
  | _ + 1, [_] => false
  | fuel + 1, _ :: n :: rest =>
    n.toNat ≤ rest.length && typeWindows fuel (rest.drop n.toNat)

/-- An option of the extension record. One that names a part of the network has to be complete. -/
def option (code : Nat) (value : List UInt8) : Reader Unit :=
  if code != 8 then pure ()
  else
    match value with
    | f :: g :: bits :: _ :: address =>
      let family := f.toNat * 256 + g.toNat
      let size := (bits.toNat + 7) / 8
      require ((family == 1 || family == 2) && size ≤ (if family == 1 then 4 else 16)
        && size ≤ address.length)
    | _ => failure

/-- The options of the extension record. A list that breaks off in the middle of one is let pass. -/
def options (start length : Nat) : (fuel : Nat) → Reader Unit
  | 0 => pure ()
  | fuel + 1 => do
    let used := (← get) - start
    if used < length then
      let code ← word
      if (← get) - start < length then
        let n ← word
        require (n ≤ length)
        let left := length - ((← get) - start)
        if n ≤ left then
          option code (← take n)
          options start length fuel
        else skip left

/-- Passes over the data of a record of the given type. -/
def recordData (recordType length : Nat) : Reader Unit := do
  let start ← get
  match recordType with
  | 1 => skip 4
  | 28 => skip 16
  | 2 | 5 | 12 | 65305 => discard name
  | 6 => discard name; discard name; skip 20
  | 13 => discard text; discard text
  | 15 => skip 2; discard name
  | 16 => untilEnd start length (discard text) (length + 1)
  | 33 => skip 6; discard name
  | 35 =>
    skip 4
    require ((← text).all isAlphanumeric)
    discard text; discard text; discard name
  | 37 => require (length > 5); skip length
  | 41 => options start length (length + 1)
  | 44 => require (length ≥ 2); skip length
  | 52 => require (length ≥ 3); skip length
  | 62 =>
    skip 4
    require ((← word) % 256 / 4 == 0)
    require (length ≥ 6)
    require (typeWindows length (← take (length - 6)))
  | 64 | 65 =>
    skip 2
    discard name
    bindingParams start length (length + 1) none
  | 257 =>
    skip 1
    let tag ← text
    require (0 < tag.length && tag.length ≤ 15 && tag.all isAlphanumeric)
    require (tag.length + 2 ≤ length)
    skip (length - tag.length - 2)
  | 0 | 251 | 252 | 255 => failure
  | _ => skip length
  require ((← get) - start == length)

/-- Passes over a record. Yields its type and the field that holds its time to live. -/
def record : Reader (Nat × Nat) := do
  let isRoot ← name
  let recordType ← word
  require (recordType != 41 || isRoot)
  skip 2
  let ttl ← double
  let length ← word
  require (length ≤ (← remaining))
  if length > 0 then recordData recordType length
  return (recordType, ttl)

/-- The types that belong into the last section only: options and signatures of the message. -/
def isMessageLevel (recordType : Nat) : Bool :=
  recordType == 41 || recordType == 24 || recordType == 250

def repeatRead {α : Type} (r : Reader α) : Nat → Reader (List α)
  | 0 => return []
  | n + 1 => do
    let first ← r
    return first :: (← repeatRead r n)

/-- What matters of a response. -/
structure Summary where
  id : Nat
  answers : Nat
  /-- The result code, of which the extension record holds the upper bits. -/
  code : Nat
  deriving Repr, DecidableEq

def question : Reader Unit := do
  discard name
  skip 4

def plainRecord : Reader Unit := do
  let (recordType, _) ← record
  require !(isMessageLevel recordType)

def summary : Reader Summary := do
  let id ← word
  let flags ← word
  let questions ← word
  let answers ← word
  let authorities ← word
  let additionals ← word
  discard (repeatRead question questions)
  discard (repeatRead plainRecord answers)
  discard (repeatRead plainRecord authorities)
  let extensions := (← repeatRead record additionals).filter fun (t, _) => t == 41
  let low := flags % 16
  match extensions with
  | [] => return ⟨id, answers, low⟩
  | [(_, ttl)] => return ⟨id, answers, ttl / 0x1000000 * 16 + low⟩
  | _ => failure

/-- What matters of a message, if it is well formed. What stands behind its records does not
count. -/
def Summary.read? (octets : Octets) : Option Summary :=
  (summary.run octets.toArray |>.run 0).map (·.1)

end Hostwatch.Dns
