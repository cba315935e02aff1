import Hostwatch.Number.Word
import Hostwatch.Url.Host

/-!
# URLs of status pages

Agents fetch pages over plain HTTP, so all that matters of a URL is the host, the port, and the path
with the query. Reading follows the common rules of browsers: blanks around the text and line breaks
inside it do not count, a backslash is a slash, any number of slashes may follow the scheme, dot
segments are resolved, and characters that may not stand in a path are percent-encoded.
-/

namespace Hostwatch

/-- The page to fetch. -/
structure Url where
  host : String
  port : Nat
  /-- The path and, after a question mark, the query. -/
  path : String
  deriving Repr, DecidableEq

namespace Url

/-- The address to dial. -/
def address (u : Url) : String :=
  u.host ++ ":" ++ Number.natText u.port

/-- How the rest of a URL is read. -/
inductive SchemeKind where
  | network
  | file
  | other
  deriving DecidableEq

def SchemeKind.ofName (name : String) : SchemeKind :=
  if name == "file" then .file
  else if ["http", "https", "ws", "wss", "ftp"].contains name then .network
  else .other

/-- Drops control characters and spaces around a text, and tabs and line breaks inside it. -/
def clean (cs : List Char) : List Char :=
  let isEdge (c : Char) : Bool := c.toNat ≤ 0x20
  let front := cs.dropWhile isEdge
  let both := (front.reverse.dropWhile isEdge).reverse
  both.filter fun c => c != '\t' && c != '\n' && c != '\r'

private def isSchemeChar (c : Char) : Bool :=
  c.isAlphanum || c == '+' || c == '-' || c == '.'

/-- The scheme in lower case, and what follows its colon. -/
def scheme? (cs : List Char) : Option (String × List Char) :=
  match cs.span isSchemeChar with
  | (c :: name, ':' :: rest) =>
    if c.isAlpha then some (String.ofList ((c :: name).map Char.toLower), rest) else none
  | _ => none

private def isSlash (kind : SchemeKind) (c : Char) : Bool :=
  c == '/' || (kind != .other && c == '\\')

/-- Whether the authority part ends before this character. -/
private def endsAuthority (kind : SchemeKind) (c : Char) : Bool :=
  isSlash kind c || c == '?' || c == '#'

/-- Drops the name and password in front of the host. -/
private def dropUserinfo (kind : SchemeKind) (cs : List Char) : Except ReadError (List Char) :=
  let authority := cs.takeWhile fun c => !endsAuthority kind c
  match Text.splitLast '@' authority with
  | none => .ok cs
  | some (user, _) =>
    let rest := cs.drop (user.length + 1)
    match user, rest with
    | [], c :: _ => if endsAuthority kind c then .error .emptyHost else .ok rest
    | _, _ => .ok rest

/-- The characters of the host and what follows it. A colon inside brackets belongs to the host. -/
private def takeHost (kind : SchemeKind) (cs : List Char) : List Char × List Char :=
  go cs false []
where
  /-- `host` is kept in reverse. -/
  go : List Char → Bool → List Char → List Char × List Char
    | [], _, host => (host.reverse, [])
    | c :: rest, inside, host =>
      if endsAuthority kind c || (c == ':' && !inside) then (host.reverse, c :: rest)
      else go rest (if c == '[' then true else if c == ']' then false else inside) (c :: host)

/-- The port after a colon, if digits follow, and what is left. -/
def readPort (cs : List Char) : Except ReadError (Option Nat × List Char) :=
  let (digits, rest) := cs.span Char.isDigit
  let n := Number.digitsValue digits
  let ends := match rest with
    | [] => true
    | c :: _ => c == '/' || c == '\\' || c == '?' || c == '#'
  if n ≥ Word.count16 || !ends then .error .invalidPort
  else .ok (if digits.isEmpty then none else some n, rest)

private def percent (b : UInt8) : List Char :=
  let hex (n : Nat) := (Nat.digitChar n).toUpper
  ['%', hex (b.toNat / 16), hex (b.toNat % 16)]

/-- Percent-encodes whatever is not printable ASCII, and the characters of a set. -/
def percentEncode (special : List Char) (cs : List Char) : List Char :=
  cs.flatMap fun c =>
    if 0x20 < c.toNat && c.toNat < 0x7F && !special.contains c then [c]
    else (Utf8.encodeChar c).flatMap percent

/-- What may not stand in a path, beside the space. -/
def pathSpecial : List Char := "\"<>\x60#?\x7b\x7d".toList

/-- What may not stand in a query, beside the space. -/
def querySpecial : List Char := "\"#<>'".toList

private def isDouble (segment : List Char) : Bool :=
  ["..", "%2e.", ".%2e", "%2e%2e"].contains (String.ofList (segment.map Char.toLower))

private def isSingle (segment : List Char) : Bool :=
  [".", "%2e"].contains (String.ofList (segment.map Char.toLower))

/-- Whether a segment names a drive, which no dot segment leaves. -/
private def isDrive (segment : List Char) : Bool :=
  match segment with
  | [c, ':'] | [c, '|'] => c.isAlpha
  | _ => false

/-- The segments of a path with its dot segments resolved. `done` holds the earlier ones in
reverse; a dot segment at the end leaves an empty one. -/
private def resolve : List (List Char) → List (List Char) → List (List Char)
  | [], done => done.reverse
  | segment :: rest, done =>
    if isDouble segment then
      let up := match done with
        | last :: before => if isDrive last then done else before
        | [] => []
      if rest.isEmpty then ([] :: up).reverse else resolve rest up
    else if isSingle segment then
      if rest.isEmpty then ([] :: done).reverse else resolve rest done
    else resolve rest (segment :: done)

/-- The path of a URL with a network scheme: it always begins with a slash. -/
def normalizePath (cs : List Char) : List Char :=
  let body := match cs with
    | c :: rest => if c == '/' || c == '\\' then rest else cs
    | [] => []
  let segments := (Text.splitBy (isSlash .network) body).map (percentEncode pathSpecial)
  '/' :: ['/'].intercalate (resolve segments [])

/-- A URL before its scheme is looked at. -/
structure Parts where
  scheme : String
  host : List Char
  port? : Option Nat
  rest : List Char

/-- Reads a host by the rules of its kind of scheme. -/
def readHostOf (kind : SchemeKind) (host : List Char) : Except ReadError (List Char) :=
  if kind == .network then
    if host.isEmpty then .error .emptyHost else readHost host
  else readOpaqueHost host

/-- Reads the port behind a host, if there is one. -/
def readPortBehind (host rest : List Char) : Except ReadError (Option Nat × List Char) :=
  match rest with
  | ':' :: digits => if host.isEmpty then .error .emptyHost else readPort digits
  | _ => .ok (none, rest)

/-- Reads the host and the port of a URL that has them. -/
def readAuthority (scheme : String) (kind : SchemeKind) (cs : List Char) :
    Except ReadError Parts := do
  let cs' ← dropUserinfo kind cs
  let hasUser := cs'.length < cs.length
  let (host, rest) := takeHost kind cs'
  let host ← readHostOf kind host
  let (port?, rest) ← readPortBehind host rest
  if host.isEmpty && hasUser then .error .emptyHost
  return ⟨scheme, host, port?, rest⟩

/-- Reads a URL of files, whose host may be missing and which has no port. -/
def readFile (cs : List Char) : Except ReadError Parts := do
  match cs with
  | a :: b :: rest =>
    if isSlash .file a && isSlash .file b then
      let (host, rest) := rest.span fun c => !endsAuthority .file c
      let host ← if host.isEmpty || isDrive host then pure [] else readHost host
      return ⟨"file", host, none, rest⟩
    else return ⟨"file", [], none, cs⟩
  | _ => return ⟨"file", [], none, cs⟩

/-- Reads a URL by the rules of its scheme. -/
def readParts (cs : List Char) : Except ReadError Parts :=
  match scheme? (clean cs) with
  | none => .error .noScheme
  | some (scheme, rest) =>
    match SchemeKind.ofName scheme with
    | .file => readFile rest
    | .network => readAuthority scheme .network (rest.dropWhile (isSlash .network))
    | .other =>
      match rest with
      | '/' :: '/' :: rest => readAuthority scheme .other rest
      | _ => .ok ⟨scheme, [], none, rest⟩

/-- Why a text does not name a page. -/
inductive Refusal where
  | invalid (e : ReadError)
  | unsupportedScheme
  deriving Repr, DecidableEq

/-- The page that a text names. -/
def parse (text : String) : Except Refusal Url := do
  let parts ← (readParts text.toList).mapError Refusal.invalid
  if parts.scheme != "http" then .error .unsupportedScheme
  let (path, rest) := parts.rest.span fun c => c != '?' && c != '#'
  let query := match rest with
    | '?' :: query => '?' :: percentEncode querySpecial (query.takeWhile (· != '#'))
    | _ => []
  return {
    host := String.ofList parts.host
    port := parts.port?.getD 80
    path := String.ofList (normalizePath path ++ query) }

end Url

end Hostwatch
