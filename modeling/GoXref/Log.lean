import GoXref.Text.Basic

/-!
# `GoXref.Log`: what a lookup reports on its way

A record has a level, the part of the program that made it, and a message.
Records are values: an operation returns those it made, in order. They have
no time; whoever shows them may add it.
-/

set_option autoImplicit false

namespace GoXref

/-- How grave a record is. -/
inductive LogLevel where
  | error
  | warn
  | info
  | debug
  | trace
deriving DecidableEq, Repr

namespace LogLevel

/-- The rank of a level: the graver, the lower. -/
def rank : LogLevel → Nat
  | error => 1
  | warn => 2
  | info => 3
  | debug => 4
  | trace => 5

/-- The level's name in capitals. -/
def name : LogLevel → String
  | error => "ERROR"
  | warn => "WARN"
  | info => "INFO"
  | debug => "DEBUG"
  | trace => "TRACE"

end LogLevel

/-- The part of the program a record comes from. -/
inductive LogSource where
  /-- The command line. -/
  | program
  /-- The search tool's runner. -/
  | tool
  /-- The reader of the tool's listing. -/
  | listing
  /-- The finder. -/
  | finder
  /-- The editor's services. -/
  | workspace
deriving DecidableEq, Repr

/-- The source's name, by which filters select it. -/
def LogSource.name : LogSource → String
  | program => "go_references"
  | tool => "go_references::tool"
  | listing => "go_references::tool::decode"
  | finder => "go_references::references"
  | workspace => "go_references::workspace"

/-- One report on the way. -/
structure LogRecord where
  /-- How grave it is. -/
  level : LogLevel
  /-- The part of the program it comes from. -/
  source : LogSource
  /-- What it says. -/
  message : Text
deriving DecidableEq, Repr

/-- The width of the column for levels. -/
def levelWidth : Nat := 5

/-- The record as it is shown, without the time. The message's further lines
are moved right. -/
def LogRecord.toText (r : LogRecord) : Text :=
  '[' :: r.level.name.toList.rightpad levelWidth ' ' ++ ' ' :: r.source.name.toList ++ ']' :: ' '
    :: Text.indent 4 r.message

end GoXref
