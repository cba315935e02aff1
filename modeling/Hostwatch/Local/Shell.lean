import Hostwatch.Local.Programs

/-!
# A small shell

The shell of a rehearsed machine. A line is a sequence of pipelines, each of which may depend on the
one before it; the parts of a pipeline are commands with words, which may be quoted, and with
redirections.
-/

namespace Hostwatch.Local.Shell

/-- A piece of a line. -/
inductive Token where
  | word (text : String)
  /-- A sign that is not part of a word. -/
  | sign (text : String)
  deriving Repr, DecidableEq

/-- The number by which the shell is known to the system, which two dollars stand for. -/
def processId : String := "4242"

/-- The quotation marks that are open. -/
inductive Quote where
  | none
  | single
  | double
  deriving DecidableEq

/-- The word that ends, if one has begun. Its characters are in reverse. -/
private def ended : Option (List Char) → List Token
  | some cs => [.word (String.ofList cs.reverse)]
  | none => []

/-- Cuts a line into pieces. `word` holds the word that has begun, in reverse. -/
def scan (quote : Quote) (word : Option (List Char)) : List Char → List Token
  | [] => ended word
  | c :: rest =>
    let begun := word.getD []
    let sign (text : String) (rest : List Token) := ended word ++ .sign text :: rest
    match quote, c, rest with
    | .single, '\'', rest => scan .none (some begun) rest
    | .single, c, rest => scan .single (some (c :: begun)) rest
    | .double, '"', rest => scan .none (some begun) rest
    | quote, '\\', d :: rest =>
      if quote == .double && !(['"', '\\', '$'].contains d) then
        scan quote (some (d :: '\\' :: begun)) rest
      else scan quote (some (d :: begun)) rest
    | quote, '$', '$' :: rest => scan quote (some (processId.toList.reverse ++ begun)) rest
    | .double, c, rest => scan .double (some (c :: begun)) rest
    | .none, '\'', rest => scan .single (some begun) rest
    | .none, '"', rest => scan .double (some begun) rest
    | .none, '&', '&' :: rest => sign "&&" (scan .none none rest)
    | .none, '|', '|' :: rest => sign "||" (scan .none none rest)
    | .none, '>', '&' :: '2' :: rest => sign ">&2" (scan .none none rest)
    | .none, '>', rest => sign ">" (scan .none none rest)
    | .none, '|', rest => sign "|" (scan .none none rest)
    | .none, ';', rest | .none, '\n', rest => sign ";" (scan .none none rest)
    | .none, '2', '>' :: '&' :: '1' :: rest =>
      if word.isNone then sign "2>&1" (scan .none none rest)
      else scan .none (some ('2' :: begun)) ('>' :: '&' :: '1' :: rest)
    | .none, c, rest =>
      if Text.isBlank c then ended word ++ scan .none none rest
      else scan .none (some (c :: begun)) rest

/-- Where something printed goes. -/
inductive Sink where
  | output
  | errors
  /-- It is lost. -/
  | nowhere
  deriving DecidableEq

/-- A command with its redirections. -/
structure Command where
  words : List String := []
  output : Sink := .output
  errors : Sink := .errors

/-- Reads a command. -/
def command (c : Command) : List Token → Command
  | [] => c
  | .sign ">&2" :: rest => command { c with output := .errors } rest
  | .sign "2>&1" :: rest => command { c with errors := c.output } rest
  | .sign ">" :: .word _ :: rest => command { c with output := .nowhere } rest
  | .sign _ :: rest => command c rest
  | .word w :: rest => command { c with words := c.words ++ [w] } rest

/-- What a shell has done so far. -/
structure Progress where
  process : Process := {}
  /-- Whether the shell has ended before the end of its line. -/
  finished : Bool := false

/-- The status of the last command; a shell that was killed has none. -/
def Progress.status (p : Progress) : Int :=
  p.process.status?.getD 137

/-- Sends what a command printed where it goes. -/
def redirect (c : Command) (p : Printed) : Printed :=
  let into (sink : Sink) :=
    (if c.output == sink then p.output else []) ++ (if c.errors == sink then p.errors else [])
  { output := into .output, errors := into .errors }

/-- Runs one command with an input. Some commands concern the shell itself. -/
def runCommand (t : Tree) (p : Progress) (input : Octets) (c : Command) : Process × Bool :=
  match c.words with
  | [] => ({}, false)
  | "exit" :: args =>
    let status := match args.head?.bind fun a => Number.readNat? a.toList with
      | some n => (n % 256 : Nat)
      | none => p.status
    ({ status? := some status }, true)
  | "kill" :: args =>
    if args.getLast? == some processId then ({ status? := none }, true)
    else (Programs.fails 1 "sh: 1: kill: No such process", false)
  | ":" :: _ => ({}, false)
  | "echo" :: args => (Programs.echo true args, false)
  | name :: args =>
    ((Programs.run? t name args input).getD
      (Programs.fails 127 ("sh: 1: " ++ name ++ ": not found")), false)

/-- Runs the commands of a pipeline, each with the output of the one before it as its input. -/
def runPipeline (t : Tree) (p : Progress) (commands : List Command) : Progress :=
  let alone := commands.length == 1
  let (last, output) := commands.foldl (fun ((p, input) : Progress × Octets) c =>
    let (process, finished) := runCommand t p input c
    let printed := redirect c process.printed
    ({ process := {
          printed := { p.process.printed with errors := p.process.printed.errors ++ printed.errors }
          status? := if finished && !alone then some 0 else process.status?
          duration := p.process.duration + process.duration }
       finished := finished && alone }, printed.output)) (p, [])
  { last with process.printed.output := p.process.printed.output ++ output }

/-- The pieces between signs of some kinds, each with the sign in front of it. -/
def cut (signs : List String) (mark : String) (piece : List Token) :
    List Token → List (String × List Token)
  | [] => [(mark, piece.reverse)]
  | .sign s :: rest =>
    if signs.contains s then (mark, piece.reverse) :: cut signs s [] rest
    else cut signs mark (.sign s :: piece) rest
  | token :: rest => cut signs mark (token :: piece) rest

/-- Runs a line. -/
def runLine (t : Tree) (line : String) : Process :=
  let pipelines := cut [";", "&&", "||"] ";" [] (scan .none none line.toList)
  let progress := pipelines.foldl (fun (p : Progress) (mark, tokens) =>
    if p.finished || tokens.isEmpty || (mark == "&&" && p.status != 0) || (mark == "||" && p.status == 0)
    then p
    else runPipeline t p ((cut ["|"] "|" [] tokens).map fun (_, part) => command {} part)) {}
  progress.process

/-- The name of a program without the directory that programs lie in. -/
def programName (command : String) : String :=
  match ["/bin/", "/usr/bin/"].find? (command.startsWith ·) with
  | some directory => String.ofList (command.toList.drop directory.length)
  | none => command

/-- How long a program takes to start, in nanoseconds. -/
def startTime : Nat := 1000000

/-- Starts a command on a machine with these files. Its input is empty. -/
def start (t : Tree) (name : String) (args : List String) : Except IoError Process :=
  if (name :: args).any (·.toList.contains '\x00') then
    .error ⟨.invalidInput, "nul byte found in provided data"⟩
  else
    let process := match programName name, args with
      | "sh", "-c" :: line :: _ => some (runLine t line)
      | "sh", _ => some {}
      | name, args => Programs.run? t name args []
    match process with
    | some p => .ok { p with duration := p.duration + startTime }
    | none =>
      if name.toList.contains '/' && (t.find name).toOption.isSome then .error .permissionDenied
      else .error .noSuchFile

/-- A machine with these files, this shell and its programs. -/
def machine (tree : Tree) : Machine :=
  { tree, start := start tree }

end Hostwatch.Local.Shell
