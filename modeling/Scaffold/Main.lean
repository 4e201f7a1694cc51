import Scaffold.Program

/-!
The program as it is started. Requests of a plan are put to the real disk and its messages are printed
as they come; what to ask and what to print is decided elsewhere.
-/

namespace Scaffold.Main

/-- The fault behind the number of a system error. Some numbers come with the sign turned. -/
def faultOf (code : UInt32) (words : String) : Fault :=
  match if code < 0x80000000 then code else 0 - code with
  | 2 => .notFound
  | 16 => .busy
  | 17 => .exists
  | 20 => .notDirectory
  | 21 => .isDirectory
  | 22 => .invalidArgument
  | 36 => .nameTooLong
  | number => .other s!"{words} (os error {number})"

/-- The fault behind an error of a file operation. -/
def fault : IO.Error → Fault
  | .alreadyExists _ code words | .invalidArgument _ code words | .permissionDenied _ code words
  | .resourceExhausted _ code words | .inappropriateType _ code words | .noSuchThing _ code words
  | .interrupted _ code words | .noFileOrDirectory _ code words
  | .otherError code words | .resourceBusy code words | .resourceVanished code words
  | .unsupportedOperation code words | .hardwareFault code words
  | .unsatisfiedConstraints code words | .illegalOperation code words
  | .protocolError code words | .timeExpired code words => faultOf code words
  | e => .other (toString e)

/-- The outcome of an operation on the path, which is refused at once if no disk can serve it. -/
def attempt {α : Type} (p : Path) (action : String → IO α) : IO (Except Fault α) := do
  match FileTree.admissible p with
  | .error refused => return .error refused
  | .ok () => return (← (action p.text.str).toBaseIO).mapError fault

/-- The kind of the entry that the path names. -/
def kindOf (p : Path) : IO (Option Kind) := do
  let known ← attempt p fun place => do
    let found ← IO.FS.realPath place
    return if ← found.isDir then Kind.directory else Kind.file
  return known.toOption

/-- The text of the file at the path. -/
def readText (p : Path) : IO (Except Fault Text) := do
  let outcome ← attempt p fun place => IO.FS.readBinFile place
  return outcome.bind fun bytes =>
    match String.fromUTF8? bytes with
    | some text => .ok text.toList
    | none => .error .notText

/-- Makes the first of the directories, and before it those of its ancestors that it needs. -/
def makeDirectories : List Path → IO (Except Fault Unit)
  | [] => return .error (.other "failed to create whole tree")
  | p :: above => do
    match ← attempt p fun place => IO.FS.createDir place with
    | .ok () => return .ok ()
    | .error .notFound =>
      match ← makeDirectories above with
      | .error refused => return .error refused
      | .ok () => settle p (← attempt p fun place => IO.FS.createDir place)
    | outcome => settle p outcome
where
  /-- A directory that is already there is as good as a new one. -/
  settle (p : Path) : Except Fault Unit → IO (Except Fault Unit)
    | .ok () => return .ok ()
    | .error refused => return if (← kindOf p) = some .directory then .ok () else .error refused

/-- Writes the text to the file at the path. -/
def writeText (p : Path) (text : Text) : IO (Except Fault Unit) :=
  attempt p fun place => IO.FS.writeFile place text.str

/-- A name for a temporary file, with letters chosen at random. -/
def temporaryName : IO Text := do
  let letters ← FileTree.temporaryName.mapM fun c =>
    if c = 'X' then return Char.ofNat ('a'.toNat + (← IO.rand 0 25)) else return c
  return letters

/-- Moves a new file with the text over the file at the path. If the move fails the new file is
taken away again. -/
def replaceText (p : Path) (text : Text) : IO (Except ReplaceFault Unit) := do
  let temporary := (FileTree.stagingDirectory p).join (← temporaryName)
  let staged ← attempt temporary fun place => do
    let handle ← IO.FS.Handle.mk place .writeNew
    handle.putStr text.str
    handle.flush
  match staged with
  | .error refused => return .error (.staging refused temporary)
  | .ok () =>
    let moved ← attempt p fun place => IO.FS.rename temporary.text.str place
    if let .error _ := moved then
      let _ ← attempt temporary fun place => IO.FS.removeFile place
    return moved.mapError fun refused => .moving refused.ofMove

/-- Prints the message. -/
def tell (filter : LogFilter) (message : Message) : IO Unit := do
  (← IO.getStdout).putStr message.onOutput
  (← IO.getStderr).putStr (message.onError filter)

/-- What the disk answers to a request. -/
def answer (filter : LogFilter) {β : Type} : Request β → IO β
  | .kind path => kindOf path
  | .read path => readText path
  | .makeDirectories path => makeDirectories path.ancestors
  | .write path text => writeText path text
  | .replace path text => replaceText path text
  | .tell message => tell filter message

/-- Carries out the plan. -/
def perform (filter : LogFilter) {α : Type} : Plan α → IO α
  | .done value => return value
  | .ask request next => do perform filter (next (← answer filter request))

/-- The place of the user's settings file. The empty path names no file. -/
def userSettings : IO Path := do
  let below (home : Path) := (home.join "solidgo".toList).join "config.toml".toList
  let own := ((← IO.getEnv "XDG_CONFIG_HOME").map Path.ofString).filter Path.isAbsolute
  let usual := (← IO.getEnv "HOME").map fun home => (Path.ofString home).join ".config".toList
  return ((own.or usual).map below).getD ⟨[]⟩

/-- What the program finds around it. -/
def environment : IO Program.Environment :=
  return {
    workingDirectory := .ofString (← IO.currentDir).toString
    userSettings := ← userSettings
    namedSettings := (← IO.getEnv "SOLIDGO_CONFIG").map String.toList
    namedThreshold := (← IO.getEnv "RUST_LOG").map String.toList }

end Scaffold.Main

open Scaffold in
/-- Does what the command line asks for. -/
def main (args : List String) : IO UInt32 := do
  match Program.answer (← Main.environment) (args.map String.toList) with
  | .usageError =>
    IO.eprintln Invocation.usage
    return 2
  | .help =>
    IO.println Invocation.usage
    return 0
  | .version text =>
    IO.println text
    return 0
  | .execute filter plan =>
    return UInt32.ofNat (← Main.perform filter plan)
