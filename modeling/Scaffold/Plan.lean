import Scaffold.Disk.FileTree
import Scaffold.Failure

/-!
A plan says what a command does: it asks for one file operation or prints one message, and goes on
as the answer says. Plans are run in two ways. `Plan.run` answers every request from a file tree, so
that a command is a function on file trees; the program's outer layer puts the same requests to
the real disk.
-/

namespace Scaffold

/-- What a path names. -/
inductive Kind where
  | file
  | directory
  deriving DecidableEq

/-- How urgent a log line is. Lines that are finer than these are left out: they show values from
inside the program as its developers would write them. -/
inductive Severity where
  | error
  | warning
  | info
  deriving DecidableEq

/-- The part of the program that a log line comes from. -/
inductive Origin where
  | program
  | files
  | settings
  | routes
  | newRoute
  | addRoute
  | addition
  | canonicalForm
  | component
  deriving DecidableEq

/-- Something that the user gets to read. -/
inductive Message where
  /-- A result, on the standard output. -/
  | result (text : String)
  /-- An error message, on the standard error output. -/
  | complaint (text : String)
  /-- A line of the log, on the standard error output as well. -/
  | log (origin : Origin) (severity : Severity) (text : String)
  deriving DecidableEq

/-- The two ways in which the replacement of a file can fail. -/
inductive ReplaceFault where
  /-- The temporary file at the path could not be made. -/
  | staging (fault : Fault) (temporary : Path)
  /-- The temporary file could not be moved over the file. -/
  | moving (fault : Fault)

/-- A question that a plan puts to its surroundings, with the type of the answer. -/
inductive Request : Type → Type where
  | kind (path : Path) : Request (Option Kind)
  | read (path : Path) : Request (Except Fault Text)
  /-- The directory at the path, with those that it needs. -/
  | makeDirectories (path : Path) : Request (Except Fault Unit)
  | write (path : Path) (text : Text) : Request (Except Fault Unit)
  /-- A new content for the file at once: nobody sees it half written. -/
  | replace (path : Path) (text : Text) : Request (Except ReplaceFault Unit)
  | tell (message : Message) : Request Unit

/-- Requests one after the other, each chosen from the answers before it. -/
inductive Plan (α : Type) : Type 1 where
  | done (value : α)
  | ask {β : Type} (request : Request β) (next : β → Plan α)

/-- The state that plans act on: the disk, and what was said so far. -/
structure World where
  disk : FileTree
  messages : List Message
  deriving Inhabited

namespace FileTree

/-- The kind of the entry that the path names. -/
def kind? (t : FileTree) (p : Path) : Option Kind :=
  (t.at? p).map fun
    | .directory => .directory
    | .file _ => .file

/-- The name of a temporary file, up to the letters chosen at random. -/
def temporaryName : Text := ".tmpXXXXXX".toList

/-- The directory in which the replacement of a file is made ready. -/
def stagingDirectory (p : Path) : Path :=
  match p.parent? with
  | some above => if above.text = [] then ⟨Path.stay⟩ else above
  | none => ⟨Path.stay⟩

/-- The tree with the given text at the path, after a temporary file beside it was moved there. -/
def replace (t : FileTree) (p : Path) (text : Text) : Except ReplaceFault FileTree :=
  let temporary := (stagingDirectory p).join temporaryName
  match t.slot temporary with
  | .error fault => .error (.staging fault temporary)
  | .ok _ => (t.moveTo p text).mapError fun fault => .moving fault.ofMove

end FileTree

/-- What the world answers to a request, and the world afterwards. -/
def Request.answer {β : Type} : Request β → World → β × World
  | kind path, w => (w.disk.kind? path, w)
  | read path, w => (w.disk.read path, w)
  | makeDirectories path, w =>
    let (disk, outcome) := w.disk.makeDirectories path.ancestors
    (outcome, { w with disk })
  | write path text, w =>
    match w.disk.write path text with
    | .ok disk => (.ok (), { w with disk })
    | .error fault => (.error fault, w)
  | replace path text, w =>
    match w.disk.replace path text with
    | .ok disk => (.ok (), { w with disk })
    | .error fault => (.error fault, w)
  | tell message, w => ((), { w with messages := w.messages ++ [message] })

namespace Plan

/-- The first plan, and then the plan chosen from its value. -/
def andThen {α β : Type} : Plan α → (α → Plan β) → Plan β
  | done value, f => f value
  | ask request next, f => ask request fun answer => (next answer).andThen f

instance : Monad Plan where
  pure := done
  bind := andThen

/-- The plan of one request. -/
def request {β : Type} (r : Request β) : Plan β :=
  ask r done

/-- Prints a result. -/
def say (text : String) : Plan Unit :=
  request (.tell (.result text))

/-- Prints an error message. -/
def complain (text : String) : Plan Unit :=
  request (.tell (.complaint text))

/-- Writes a line of the log. -/
def log (origin : Origin) (severity : Severity) (text : String) : Plan Unit :=
  request (.tell (.log origin severity text))

/-- The value of the plan and the world after it, when the world answers its requests. -/
def run {α : Type} : Plan α → World → α × World
  | done value, w => (value, w)
  | ask r next, w =>
    let (answer, w) := r.answer w
    (next answer).run w

@[simp] theorem run_pure {α : Type} (a : α) (w : World) : (pure a : Plan α).run w = (a, w) :=
  rfl

@[simp] theorem run_request {β : Type} (r : Request β) (w : World) : (request r).run w = r.answer w :=
  rfl

@[simp] theorem run_bind {α β : Type} (p : Plan α) (f : α → Plan β) (w : World) :
    (p >>= f).run w = (f (p.run w).1).run (p.run w).2 := by
  induction p generalizing w with
  | done value => rfl
  | ask r next ih => exact ih _ _

end Plan

/-- A plan that may end in a failure. -/
abbrev Job (α : Type) := ExceptT Failure Plan α

namespace Job

/-- Ends the job with the cause alone. -/
def fail {α : Type} (cause : Cause) : Job α :=
  throw (Failure.ofCause cause)

/-- The job, with the context added to its failure. -/
def within {α : Type} (context : String) (job : Job α) : Job α :=
  ExceptT.mk (do return (← job.run).mapError (Failure.within context))

/-- The value of an outcome, or the failure that a wrong outcome stands for. -/
def ofExcept {ε α : Type} (failure : ε → Failure) : Except ε α → Job α
  | .ok value => pure value
  | .error e => throw (failure e)

/-- The value of the answer to a request, or the failure that a wrong answer stands for. -/
def require {ε α : Type} (failure : ε → Failure) (r : Request (Except ε α)) : Job α := do
  ofExcept failure (← (Plan.request r : Plan _))

end Job

end Scaffold
