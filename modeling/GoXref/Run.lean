import GoXref.Text.Basic

/-!
# `GoXref.Run`: what a finished program leaves behind

A program that has run leaves the octets it printed on its two streams, and
the way it ended.

* `Ending.toText`: the ending in words, with the name of a deadly signal.
-/

set_option autoImplicit false

namespace GoXref

/-- How a program ended. -/
inductive Ending where
  /-- It stopped by itself, with this status. -/
  | exited (status : UInt8)
  /-- It was stopped by this signal. -/
  | killed (signal : Nat)
deriving DecidableEq, Repr

namespace Ending

/-- Whether the program ended as if all was well. -/
def isSuccess (e : Ending) : Bool := e = exited 0

/-- The name of a signal. -/
def signalName? : Nat → Option String
  | 1 => some "SIGHUP"
  | 2 => some "SIGINT"
  | 3 => some "SIGQUIT"
  | 4 => some "SIGILL"
  | 5 => some "SIGTRAP"
  | 6 => some "SIGABRT"
  | 7 => some "SIGBUS"
  | 8 => some "SIGFPE"
  | 9 => some "SIGKILL"
  | 10 => some "SIGUSR1"
  | 11 => some "SIGSEGV"
  | 12 => some "SIGUSR2"
  | 13 => some "SIGPIPE"
  | 14 => some "SIGALRM"
  | 15 => some "SIGTERM"
  | 16 => some "SIGSTKFLT"
  | 17 => some "SIGCHLD"
  | 18 => some "SIGCONT"
  | 19 => some "SIGSTOP"
  | 20 => some "SIGTSTP"
  | 21 => some "SIGTTIN"
  | 22 => some "SIGTTOU"
  | 23 => some "SIGURG"
  | 24 => some "SIGXCPU"
  | 25 => some "SIGXFSZ"
  | 26 => some "SIGVTALRM"
  | 27 => some "SIGPROF"
  | 28 => some "SIGWINCH"
  | 29 => some "SIGIO"
  | 30 => some "SIGPWR"
  | 31 => some "SIGSYS"
  | _ => none

/-- The ending in words. -/
def toText : Ending → Text
  | exited status => "exit status: ".toList ++ Text.decimal status.toNat
  | killed signal =>
    "signal: ".toList ++ Text.decimal signal ++
      match signalName? signal with
      | some name => " (".toList ++ name.toList ++ [')']
      | none => []

end Ending

/-- What a finished program leaves behind. -/
structure Run where
  /-- What it printed on its standard output. -/
  stdout : Bytes
  /-- What it printed on its standard error. -/
  stderr : Bytes
  /-- How it ended. -/
  ending : Ending
deriving DecidableEq, Repr

end GoXref
