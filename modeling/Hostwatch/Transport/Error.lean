import Hostwatch.Json.Schema

/-!
# Failures of a transport

What can go wrong on the way to a host. The most important distinction is between a failure that
concerns one request and one that shows the session to the host itself to be broken.
-/

namespace Hostwatch

/-- Kinds of input and output errors. -/
inductive IoKind where
  | notFound
  | permissionDenied
  | connectionRefused
  | connectionReset
  | connectionAborted
  | notConnected
  | brokenPipe
  | isADirectory
  | notADirectory
  | invalidInput
  | invalidData
  | timedOut
  | interrupted
  | unexpectedEof
  | other
  deriving Repr, DecidableEq, Inhabited

namespace IoKind

def all : List IoKind :=
  [.notFound, .permissionDenied, .connectionRefused, .connectionReset, .connectionAborted,
    .notConnected, .brokenPipe, .isADirectory, .notADirectory, .invalidInput, .invalidData,
    .timedOut, .interrupted, .unexpectedEof, .other]

def name : IoKind → String
  | .notFound => "NotFound"
  | .permissionDenied => "PermissionDenied"
  | .connectionRefused => "ConnectionRefused"
  | .connectionReset => "ConnectionReset"
  | .connectionAborted => "ConnectionAborted"
  | .notConnected => "NotConnected"
  | .brokenPipe => "BrokenPipe"
  | .isADirectory => "IsADirectory"
  | .notADirectory => "NotADirectory"
  | .invalidInput => "InvalidInput"
  | .invalidData => "InvalidData"
  | .timedOut => "TimedOut"
  | .interrupted => "Interrupted"
  | .unexpectedEof => "UnexpectedEof"
  | .other => "Other"

/-- The kind of that name; an unknown name is some other kind. -/
def ofName (name : String) : IoKind :=
  (all.find? (·.name == name)).getD .other

end IoKind

/-- An error of reading or writing. -/
structure IoError where
  kind : IoKind
  text : String
  deriving Repr, DecidableEq, Inhabited

namespace IoError

/-- The path leads nowhere. -/
def noSuchFile : IoError :=
  ⟨.notFound, "No such file or directory (os error 2)"⟩

def permissionDenied : IoError :=
  ⟨.permissionDenied, "Permission denied (os error 13)"⟩

/-- The path goes on below a file. -/
def notADirectory : IoError :=
  ⟨.notADirectory, "Not a directory (os error 20)"⟩

def isADirectory : IoError :=
  ⟨.isADirectory, "Is a directory (os error 21)"⟩

/-- Nobody answers on the port. -/
def connectionRefused : IoError :=
  ⟨.connectionRefused, "Connection refused (os error 111)"⟩

/-- The octets were to be a text. -/
def notText : IoError :=
  ⟨.invalidData, "stream did not contain valid UTF-8"⟩

end IoError

/-- The layer of a secure shell that reports an error code. -/
inductive ShellLayer where
  | session
  | fileTransfer
  deriving Repr, DecidableEq

/-- An error of the secure shell protocol. -/
structure ShellError where
  layer : ShellLayer
  code : Int
  text : String
  deriving Repr, DecidableEq

namespace ShellError

def message (e : ShellError) : String :=
  let layer := match e.layer with
    | .session => "Session"
    | .fileTransfer => "SFTP"
  "[" ++ layer ++ "(" ++ Number.intText e.code ++ ")] " ++ e.text

/-- The code for a channel that the remote side refused. -/
def channelFailure : Int := -21

/-- The code for a request on a channel that the remote side denied. -/
def requestDenied : Int := -22

/-- Whether only a single channel was refused, on a session that is otherwise well. -/
def refusesChannelOnly (e : ShellError) : Bool :=
  e.layer == .session && (e.code == channelFailure || e.code == requestDenied)

end ShellError

/-- A failure of a transport. -/
inductive TransportError where
  | io (e : IoError)
  | unsupportedNetwork (network : String)
  | invalidAddress (address : String)
  /-- A command ended with a status other than zero. -/
  | exitStatus (command : String) (code : Int) (stderr : String)
  /-- A command was still running after that many nanoseconds. -/
  | timeout (command : String) (after : Nat)
  | unexpectedOutput (command detail : String)
  | shell (e : ShellError)
  | authFailed (username host : String)
  | invalidParams (reason : Json.Mismatch)
  | unsupported (operation : String)
  deriving Repr, DecidableEq

namespace TransportError

def message : TransportError → String
  | .io e => "Transport: I/O error: " ++ e.text
  | .unsupportedNetwork n => "Transport: unsupported network '" ++ n ++ "'"
  | .invalidAddress a => "Transport: invalid address '" ++ a ++ "'"
  | .exitStatus c code stderr =>
    "Transport: '" ++ c ++ "' exited with status " ++ Number.intText code ++ ": " ++ stderr
  | .timeout c after => "Transport: '" ++ c ++ "' timed out after " ++ Span.unsignedText after
  | .unexpectedOutput c detail => "Transport: unexpected output from '" ++ c ++ "': " ++ detail
  | .shell e => "Transport: SSH error: " ++ e.message
  | .authFailed u h => "Transport: SSH authentication failed for " ++ u ++ "@" ++ h
  | .invalidParams m => "Transport: invalid parameters: " ++ m.message
  | .unsupported op => "Transport: " ++ op ++ " is not supported on this platform"

/-- The text of the error that this one was made of, if there is one. -/
def source? : TransportError → Option String
  | .io e => some e.text
  | .shell e => some e.message
  | .invalidParams m => some m.message
  | _ => none

/-- The texts of the error and of the one it was made of. -/
def chain (e : TransportError) : List String :=
  e.message :: e.source?.toList

/-- The word by which reports classify the error. -/
def kind : TransportError → String
  | .io _ => "Io"
  | .unsupportedNetwork _ => "UnsupportedNetwork"
  | .invalidAddress _ => "InvalidAddress"
  | .exitStatus .. => "ExitStatus"
  | .timeout .. => "Timeout"
  | .unexpectedOutput .. => "UnexpectedOutput"
  | .shell _ => "Ssh"
  | .authFailed .. => "AuthFailed"
  | .invalidParams _ => "InvalidParams"
  | .unsupported _ => "Unsupported"

/-- Whether the session to the host is broken, and not only this one request. -/
def isSessionFailure : TransportError → Bool
  | .authFailed .. => true
  | .shell e => !e.refusesChannelOnly
  | _ => false

end TransportError

end Hostwatch
