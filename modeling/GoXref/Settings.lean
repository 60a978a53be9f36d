import GoXref.Host
import GoXref.Listing

/-!
# `GoXref.Settings`: which tool to run, and how

The search tool lives in the `bin` directory of a toolchain root. The root
is named outright or taken from a list of directories, of which the first
that is not empty counts.

* `Settings.ofRoot`, `Settings.ofGopath`: settings for a root, or for the
  value of `GOPATH`.
* `Settings.executable`: the program to run.
-/

set_option autoImplicit false

namespace GoXref

/-- The version of the program. -/
def version : Text := "0.1.0".toList

/-- The name of the search tool. -/
def toolName : Text := "go-find-references".toList

/-- What the user is told if the search tool is missing. -/
def installNotice : Text :=
  ("The 'go-find-references' command is not available.  "
    ++ "Use 'go get -v github.com/lukehoban/go-find-references' to install.").toList

/-- The environment variable that lists toolchain roots. -/
def rootVariable : String := "GOPATH"

/-- How lookups are made. -/
structure Settings where
  /-- The directory whose `bin` holds the search tool. -/
  root? : Option Text
  /-- The unit of the offset that is handed to the tool. -/
  unit : OffsetUnit := .characters
  /-- How strictly the tool's listing is read. -/
  policy : Policy := .strict
deriving DecidableEq, Repr

namespace Settings

/-- The settings for a toolchain root. -/
def ofRoot (root : Text) : Settings where
  root? := some root

/-- The settings for a list of toolchain roots, or for none. -/
def ofGopath (value? : Option Text) : Settings where
  root? := value?.bind fun value => (Host.entries value).find? fun entry => entry ≠ []

/-- The path of the search tool below a toolchain root. -/
def toolBelow (root : Text) : Text := Path.join (Path.join root "bin".toList) toolName

/-- The program to run: the tool below the root, or else the one that `PATH`
has, or else just the tool's name. -/
def executable (h : Host) (s : Settings) : Text :=
  match s.root? with
  | some root => toolBelow root
  | none => (h.findProgram? toolName).getD toolName

end Settings

end GoXref
