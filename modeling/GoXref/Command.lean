import GoXref.Document
import GoXref.Listing

/-!
# `GoXref.Command`: what the command line can ask for

Two commands: one finds the references of the identifier under a cursor, the
other prints the offset that the search tool would be given. Arguments that
ask for neither are refused, and a request for help counts as a refusal that
is no error.
-/

set_option autoImplicit false

namespace GoXref

/-- A cursor in a file. -/
structure Target where
  /-- The file, as named on the command line. -/
  file : Text
  /-- The place of the cursor. -/
  position : Position
  /-- The unit of the offset. -/
  unit : OffsetUnit
deriving DecidableEq, Repr

/-- What else can be said about a search for references. -/
structure FindOptions where
  /-- The root of the workspace, the current directory if there is none. -/
  root? : Option Text
  /-- The toolchain root, taken from the environment if there is none. -/
  gopath? : Option Text
  /-- How strictly the tool's listing is read. -/
  policy : Policy
  /-- Whether the declaration is wanted too. -/
  includeDeclaration : Bool
  /-- Whether the answer is JSON. -/
  json : Bool
deriving DecidableEq, Repr

/-- What is to be done. -/
inductive Command where
  /-- Find references. -/
  | find (target : Target) (options : FindOptions)
  /-- Print the offset. -/
  | offset (target : Target)
deriving DecidableEq, Repr

/-- A command, and whether records are shown. -/
structure Invocation where
  /-- Whether records are shown. -/
  verbose : Bool
  /-- What is to be done. -/
  command : Command
deriving DecidableEq, Repr

/-- The parts of the program that arguments can belong to. -/
inductive Scope where
  /-- In front of the command's name. -/
  | top
  /-- Behind the name of the search command. -/
  | find
  /-- Behind the name of the offset command. -/
  | offset
  /-- Behind the name of the help command. -/
  | help
deriving DecidableEq, Repr

/-- Why arguments lead to no command. -/
inductive Refusal where
  /-- The help text is asked for. -/
  | help (scope : Scope)
  /-- The version is asked for. -/
  | version
  /-- There are no arguments. -/
  | noArguments
  /-- There are arguments, but no command. -/
  | noCommand
  /-- There is no such command. -/
  | unknownCommand (name : Text)
  /-- There is no such argument. -/
  | unknownArgument (argument : Text)
  /-- An argument that a command needs is missing. -/
  | missingArgument (name : Text)
  /-- An argument is given twice. -/
  | repeatedArgument (name : Text)
  /-- An argument lacks its value. -/
  | missingValue (name : Text)
  /-- An argument has a value but takes none. -/
  | unwantedValue (name : Text)
  /-- A value is not of the form it should have. -/
  | malformedValue (name value : Text)
deriving DecidableEq, Repr

namespace Refusal

/-- Whether the refusal only answers a question. -/
def isAnswer : Refusal → Bool
  | help _ => true
  | version => true
  | _ => false

/-- The exit status of a program that refuses its arguments. -/
def exitStatus (r : Refusal) : UInt8 := if r.isAnswer then 0 else 2

/-- The message for the user. -/
def message : Refusal → Text
  | help _ => "help is asked for".toList
  | version => "the version is asked for".toList
  | noArguments => "no arguments are given".toList
  | noCommand => "no command is given".toList
  | unknownCommand name => "there is no command '".toList ++ name ++ ['\'']
  | unknownArgument argument => "unexpected argument '".toList ++ argument ++ ['\'']
  | missingArgument name => "the argument '--".toList ++ name ++ "' is missing".toList
  | repeatedArgument name => "the argument '--".toList ++ name ++ "' is given twice".toList
  | missingValue name => "the argument '--".toList ++ name ++ "' has no value".toList
  | unwantedValue name => "the argument '--".toList ++ name ++ "' takes no value".toList
  | malformedValue name value =>
    "the value '".toList ++ value ++ "' of '--".toList ++ name ++ "' is out of range".toList

end Refusal

end GoXref
