namespace Scaffold

/-- The reason why a file operation failed. -/
inductive Fault where
  | notFound
  | busy
  | exists
  | notDirectory
  | isDirectory
  | invalidArgument
  | nameTooLong
  /-- The name holds a character that no name can hold. -/
  | nulInName
  /-- The bytes of the file are not the UTF-8 form of a text. -/
  | notText
  /-- Any other answer, in the system's words. -/
  | other (message : String)
  deriving DecidableEq, Inhabited

namespace Fault

/-- The system's words for the fault. -/
def message : Fault → String
  | notFound => "No such file or directory (os error 2)"
  | busy => "Device or resource busy (os error 16)"
  | .exists => "File exists (os error 17)"
  | notDirectory => "Not a directory (os error 20)"
  | isDirectory => "Is a directory (os error 21)"
  | invalidArgument => "Invalid argument (os error 22)"
  | nameTooLong => "File name too long (os error 36)"
  | nulInName => "file name contained an unexpected NUL byte"
  | notText => "stream did not contain valid UTF-8"
  | other message => message

/-- The fault of a move where another operation has the given one. A move hands over its names
unseen, so the system is the one to refuse a name that cannot be. -/
def ofMove : Fault → Fault
  | nulInName => invalidArgument
  | fault => fault

end Fault

end Scaffold
