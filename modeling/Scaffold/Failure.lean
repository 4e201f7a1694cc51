import Scaffold.Disk.Path
import Scaffold.Disk.Fault

/-!
Why a command cannot do what it was asked for. A failure is one cause under a list of contexts, each
naming the larger task that the cause got in the way of. Contexts never hide the cause, and the
three renderings below differ only in how much of the list they show.
-/

namespace Scaffold

/-- The first reason of a failure. -/
inductive Cause where
  /-- The settings or the module file are missing or cannot be used. -/
  | configuration (detail : String)
  | fileMissing (path : Path)
  | fileExists (path : Path)
  /-- A text that should hold a function has no closing brace. -/
  | noClosingBrace
  | noMarker (marker : Text)
  | template (detail : String)
  | file (fault : Fault)
  /-- A temporary file could not be made at the path. -/
  | temporary (fault : Fault) (path : Path)
  /-- Some of several independent operations failed. -/
  | operationsFailed (failed attempted : Nat)
  deriving DecidableEq, Inhabited

/-- The wording of a cause. -/
def Cause.message : Cause → String
  | configuration detail => s!"Configuration error: {detail}"
  | fileMissing path =>
    s!"File '{path}' does not exist; create it first with `solidgo route new`."
  | fileExists path => s!"File '{path}' already exists. Use --force to overwrite it."
  | noClosingBrace => "No closing brace found in the file"
  | noMarker marker => s!"Marker '{marker.str}' not found in the file"
  | template detail => s!"Template rendering error: {detail}"
  | file fault => fault.message
  | temporary fault path => s!"{fault.message} at path {path.quoted}"
  | operationsFailed failed attempted => s!"{failed} of {attempted} file operations failed"

/-- A cause and the contexts in which it arose, outermost first. -/
structure Failure where
  contexts : List String
  cause : Cause
  deriving DecidableEq, Inhabited

namespace Failure

/-- The failure that is its cause alone. -/
def ofCause (cause : Cause) : Failure :=
  ⟨[], cause⟩

/-- The failure seen from a larger task. -/
def within (context : String) (f : Failure) : Failure :=
  { f with contexts := context :: f.contexts }

/-- All messages from the outermost context down to the cause. -/
def chain (f : Failure) : List String :=
  f.contexts ++ [f.cause.message]

/-- The outermost message. -/
def headline (f : Failure) : String :=
  f.chain.headD ""

/-- All messages on one line. -/
def summary (f : Failure) : String :=
  ": ".intercalate f.chain

/-- The message with `first` before its first line and `others` before each further line. -/
def indented (first others message : String) : String :=
  first ++ ("\n" ++ others).intercalate (message.splitOn "\n")

/-- The number right-aligned in five columns, with a colon. -/
def ordinal (n : Nat) : String :=
  let digits := toString n
  String.ofList (List.replicate (5 - digits.length) ' ') ++ digits ++ ": "

/-- The outermost message and below it, if there are any, the messages that led to it: a single one
indented, several numbered from zero. -/
def report (f : Failure) : String :=
  match f.chain with
  | [] => ""
  | [message] => message
  | [message, reason] => message ++ "\n\nCaused by:\n" ++ indented "    " "    " reason
  | message :: reasons =>
    message ++ "\n\nCaused by:\n" ++
      "\n".intercalate (reasons.zipIdx.map fun (reason, n) => indented (ordinal n) "       " reason)

@[simp] theorem cause_within (context : String) (f : Failure) : (f.within context).cause = f.cause :=
  rfl

end Failure

end Scaffold
