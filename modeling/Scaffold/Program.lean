import Scaffold.CommandLine.Invocation
import Scaffold.Component
import Scaffold.LogFilter
import Scaffold.Route.Commands

/-!
The whole program: from the words of a command line and the surroundings in which it is run to a plan
with an exit code, and from the messages of that plan to what is printed.
-/

namespace Scaffold

namespace Message

/-- The name of the urgency in a log line. -/
def label : Severity → String
  | .error => "ERROR"
  | .warning => "WARN"
  | .info => "INFO"

/-- A character of a log line as it is printed. Those with which a command to a terminal can begin are
written by their numbers. -/
def logChar (c : Char) : Text :=
  if c ∈ ['\x07', '\x08', '\x0c', '\x1b', '\x7f'] then
    ['\\', 'x', Nat.digitChar (c.toNat / 16), Nat.digitChar (c.toNat % 16)]
  else if 0x80 ≤ c.toNat ∧ c.toNat ≤ 0x9f then Text.codePointEscape c
  else [c]

/-- A log line as it is printed. -/
def logLine (severity : Severity) (text : String) : String :=
  s!"{label severity} {Text.str (text.toList.flatMap logChar)}\n"

/-- What the message adds to the standard output. -/
def onOutput : Message → String
  | result text => text ++ "\n"
  | _ => ""

/-- What the message adds to the standard error output. -/
def onError (filter : LogFilter) : Message → String
  | result _ => ""
  | complaint text => text ++ "\n"
  | log origin severity text =>
    if filter.prints origin severity then logLine severity text else ""

example : "\x1b[31m\x7f\u009b\n".toList.flatMap logChar = "\\x1b[31m\\x7f\\u\x7b9b\x7d\n".toList := by
  decide

end Message

namespace World

/-- All that was printed on the standard output. -/
def output (w : World) : String :=
  String.join (w.messages.map Message.onOutput)

/-- All that was printed on the standard error output. -/
def errors (w : World) (filter : LogFilter) : String :=
  String.join (w.messages.map (Message.onError filter))

end World

namespace Program

/-- What the program finds around it when it is started. -/
structure Environment where
  workingDirectory : Path
  /-- The place of the user's settings file. -/
  userSettings : Path
  /-- The settings file that the environment names. -/
  namedSettings : Option Text := none
  /-- The text of the filter for the log that the environment names. -/
  namedThreshold : Option Text := none

/-- What there is to do for a command line. -/
inductive Answer where
  | usageError
  | help
  | version (text : String)
  /-- A plan with its exit code, and the filter for the log lines that it writes. -/
  | execute (filter : LogFilter) (plan : Plan Nat)

/-- The job of an invocation. -/
def job (around : Environment) (invocation : Invocation) : Job Unit := do
  let project ← Project.load around.userSettings around.workingDirectory invocation.settings
  match invocation.command with
  | .createRoute request force noRegister => Route.create project request force noRegister
  | .addRoute request => Route.add project request
  | .registerRoute resource => Route.register project resource
  | .createComponent path name noStyle force => Component.create project path name noStyle force

/-- The job with its failure reported, and the exit code. -/
def conclude (job : Job Unit) : Plan Nat := do
  match ← job.run with
  | .ok () => return 0
  | .error f =>
    Plan.log .program .error s!"Command execution failed: {f.report}"
    Plan.complain s!"Error: {f.headline}"
    return 1

/-- The filter for the log. What the environment names is passed over if it is no filter. -/
def filterFor (around : Environment) (verbosity : Nat) : LogFilter :=
  (around.namedThreshold.bind LogFilter.read?).getD (.ofVerbosity verbosity)

/-- What there is to do for the words of a command line. -/
def answer (around : Environment) (words : List Text) : Answer :=
  match Invocation.read words around.namedSettings with
  | .error .usageError => .usageError
  | .error .help => .help
  | .error (.version names) =>
    let name := "-".intercalate names
    .version s!"{name} {Invocation.version}"
  | .ok invocation =>
    .execute (filterFor around invocation.verbosity) (conclude (job around invocation))

end Program

end Scaffold
