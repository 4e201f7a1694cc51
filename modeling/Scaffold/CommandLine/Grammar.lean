import Scaffold.Text.Basic

/-!
The grammar of command lines. A command has options, operands and subcommands, and the words of a
command line are read from left to right, one level for each command that is named. A value in a word of its
own is taken up only with the next word of its level, so a request for help further inside
comes before the refusal of such a value.
-/

namespace Scaffold.CommandLine

/-- The options of all commands. -/
inductive OptionKey where
  | verbose
  | config
  | method
  | function
  | path
  | force
  | noRegister
  | noModule
  deriving DecidableEq

/-- How an option is used. -/
inductive Arity where
  /-- It is given at most once, without a value. -/
  | once
  /-- Its occurrences are counted. -/
  | counted
  /-- It is given at most once, with a value that may be empty or not. -/
  | valued (mayBeEmpty : Bool)
  deriving DecidableEq

/-- The names and the use of one option. -/
structure OptionRule where
  key : OptionKey
  short : Option Char := none
  long : List String
  arity : Arity

/-- The names of one command and what may follow them. -/
structure CommandRule where
  name : String
  aliases : List String := []
  options : List OptionRule
  /-- How many operands the command takes, all of them required. -/
  operands : Nat := 0
  /-- The commands of which one has to follow, if there are any. -/
  subcommands : List CommandRule := []

/-- Why a command line names no command to carry out. -/
inductive Stop where
  | usageError
  | help
  /-- The version is asked for at the command with the given names. -/
  | version (names : List String)
  deriving DecidableEq

/-- What was read at the level of one command. -/
structure Level where
  /-- The command. -/
  name : String
  /-- The options with their values, last one first. -/
  given : List (OptionKey × Text) := []
  /-- The operands, first one first. -/
  operands : List Text := []
  /-- The option whose value is the next word. -/
  awaiting : Option OptionRule := none
  /-- The value that was a word of its own and is not taken up yet. -/
  held : Option (OptionRule × Text) := none
  /-- All further words are operands. -/
  operandsOnly : Bool := false

namespace CommandRule

/-- The subcommand with the given name or alias. -/
def subcommand? (rule : CommandRule) (word : Text) : Option CommandRule :=
  rule.subcommands.find? fun sub => (sub.name :: sub.aliases).any (·.toList == word)

/-- Whether the words after the word for help name a command below this one. -/
def explains : CommandRule → List Text → Bool
  | _, [] => true
  | rule, word :: rest =>
    match rule.subcommand? word with
    | some sub => sub.explains rest
    | none => word == "help".toList && !rule.subcommands.isEmpty && rest.isEmpty

/-- The option with the given long name. -/
def long? (rule : CommandRule) (name : Text) : Option OptionRule :=
  rule.options.find? fun o => o.long.any (·.toList == name)

/-- The option with the given letter. -/
def short? (rule : CommandRule) (letter : Char) : Option OptionRule :=
  rule.options.find? fun o => o.short == some letter

end CommandRule

namespace Level

/-- Whether the option was given. -/
def has (level : Level) (key : OptionKey) : Bool :=
  (level.given.lookup key).isSome

/-- How often the option was given. -/
def count (level : Level) (key : OptionKey) : Nat :=
  (level.given.filter (·.1 == key)).length

/-- Whether the text is a value that the option takes. -/
def admits (rule : OptionRule) (value : Text) : Bool :=
  match rule.arity with
  | .valued mayBeEmpty => mayBeEmpty || !value.isEmpty
  | _ => true

/-- The level with one more option. -/
def take (level : Level) (rule : OptionRule) (value : Text) : Except Stop Level :=
  if (rule.arity ≠ .counted && level.has rule.key) || !admits rule value then .error .usageError
  else .ok { level with given := (rule.key, value) :: level.given }

/-- The level after the held value is taken up. -/
def settle (level : Level) : Except Stop Level :=
  match level.held with
  | some (rule, value) => { level with held := none }.take rule value
  | none => .ok level

/-- The level with one more operand. -/
def addOperand (level : Level) (rule : CommandRule) (word : Text) : Except Stop Level := do
  let level ← level.settle
  if level.operands.length < rule.operands then
    return { level with operands := level.operands ++ [word] }
  else
    throw .usageError

/-- The level after an option, with the value that stands in the same word. -/
def addOption (level : Level) (option : OptionRule) (value : Option Text) : Except Stop Level := do
  let level ← level.settle
  match option.arity, value with
  | .valued _, some text => level.take option text
  | .valued _, none => return { level with awaiting := some option }
  | _, some _ => throw .usageError
  | _, none => level.take option []

/-- The level after the given end of the reading, for which held values count as well. -/
def stop (level : Level) (reason : Stop) : Except Stop Level := do
  let _ ← level.settle
  throw reason

/-- The level after a word that begins with two hyphens, which are left out here. -/
def addLong (level : Level) (rule : CommandRule) (names : List String) (word : Text) :
    Except Stop Level :=
  let (name, value) :=
    match word.cutAtFirst ['='] with
    | some (name, rest) => (name, some (rest.drop 1))
    | none => (word, none)
  if word = "help".toList then level.stop .help
  else if word = "version".toList then level.stop (.version names)
  else
    match rule.long? name with
    | some option => level.addOption option value
    | none => .error .usageError

/-- The level after the letters behind one hyphen. -/
def addShort (level : Level) (rule : CommandRule) (names : List String) :
    List Char → Except Stop Level
  | [] => .ok level
  | letter :: rest =>
    if letter = 'h' then level.stop .help
    else if letter = 'V' then level.stop (.version names)
    else
      match rule.short? letter with
      | none => .error .usageError
      | some option =>
        match option.arity, rest with
        | .valued _, [] => level.addOption option none
        | .valued _, '=' :: value => level.addOption option (some value)
        | .valued _, value => level.addOption option (some value)
        | _, _ => do (← level.addOption option none).addShort rule names rest

/-- The level after a word that names no subcommand. -/
def addWord (level : Level) (rule : CommandRule) (names : List String) (word : Text) :
    Except Stop Level :=
  if level.operandsOnly then level.addOperand rule word
  else
    match level.awaiting, word with
    | some _, '-' :: _ :: _ => .error .usageError
    | some option, value => .ok { level with awaiting := none, held := some (option, value) }
    | none, ['-', '-'] => .ok { level with operandsOnly := true }
    | none, '-' :: '-' :: long => level.addLong rule names long
    | none, '-' :: letter :: letters => level.addShort rule names (letter :: letters)
    | none, operand => level.addOperand rule operand

/-- Whether the next word may name a subcommand. -/
def expectsCommand (level : Level) : Bool :=
  !level.operandsOnly && level.awaiting.isNone

/-- The level at its end. An option that was not given may have a value in the environment, which
has to be one that the option takes. -/
def finish (level : Level) (rule : CommandRule) (environment : OptionKey → Option Text) :
    Except Stop Level := do
  if level.awaiting.isSome then
    throw .usageError
  let level ← level.settle
  if rule.options.any fun o => !level.has o.key && (environment o.key).any (!admits o ·) then
    throw .usageError
  if level.operands.length ≠ rule.operands then
    throw .usageError
  return level

end Level

/-- The levels of the command line that goes on with the given words at the given level. -/
def readFrom (environment : OptionKey → Option Text) (rule : CommandRule) (names : List String)
    (level : Level) : List Text → Except Stop (List Level)
  | [] => do
    let level ← level.finish rule environment
    if rule.subcommands.isEmpty then
      return [level]
    else
      throw .usageError
  | word :: rest =>
    match level.expectsCommand, rule.subcommand? word with
    | true, some sub => do
      let inner ← readFrom environment sub (names ++ [sub.name]) { name := sub.name } rest
      return (← level.finish rule environment) :: inner
    | expectsCommand, _ =>
      if expectsCommand && word == "help".toList && !rule.subcommands.isEmpty then
        .error (if rule.explains rest then .help else .usageError)
      else do
        readFrom environment rule names (← level.addWord rule names word) rest

/-- The levels that the words make up, from the whole program inwards. -/
def read (environment : OptionKey → Option Text) (program : CommandRule) (words : List Text) :
    Except Stop (List Level) :=
  readFrom environment program [program.name] { name := program.name } words

end Scaffold.CommandLine
