import GoXref.Program

/-!
# `GoXref.Main`: the program on the machine it is started on

The file that the arguments name, the current directory and the environment
are read first. They make up the host on which the program then runs, and
its outcome is printed. No other program is started from here, so the search
tool counts as missing.
-/

set_option autoImplicit false

namespace GoXref.Machine

/-- The code of the failure to read a directory as a file. -/
def isADirectoryCode : UInt32 := 21

/-- The directories that a path leads through. -/
def directories (path : Text) : List (List Text) :=
  let parts := (Path.ofText path).parts
  (List.range parts.length).map fun count => (Path.fold ⟨true, parts.take count⟩).parts

/-- What the machine has at an absolute path, as leaves of a tree. -/
def leaves (path : Text) : IO (List (List Text × Node)) := do
  let place := (Path.ofText path).fold.parts
  let above := (directories path).map fun directory => (directory, Node.directory)
  match ← (IO.FS.readBinFile (String.ofList path)).toBaseIO with
  | .ok content => pure ((place, .file content.toList) :: above)
  | .error (.inappropriateType _ code _) =>
    if code = isADirectoryCode then pure ((place, .directory) :: above)
    else pure ((place.dropLast, .file []) :: above)
  | .error _ => pure above

/-- The names for a current directory that is gone. No directory has such a name. -/
def gone : List Text := [['.']]

/-- The current directory by its names, and as a leaf of a tree if it is there. -/
def currentDirectory : IO (List Text × List (List Text × Node)) := do
  match ← IO.currentDir.toBaseIO with
  | .ok path =>
    let names := (Path.ofText path.toString.toList).parts
    pure (names, [(names, .directory)])
  | .error _ => pure (gone, [])

/-- The variables of the environment that the program looks at. -/
def environment : IO (List (Text × Text)) := do
  let names := [rootVariable, "PATH", "HOME", Program.filterVariable]
  names.filterMapM fun name => do
    pure ((← IO.getEnv name).map fun value => (name.toList, value.toList))

/-- The file that a command is about. -/
def file : Command → Text
  | .find target _ => target.file
  | .offset target => target.file

/-- The machine as the program sees it. -/
def host (arguments : List Text) : IO Host := do
  let (directory, current) ← currentDirectory
  let found ← match Invocation.ofArguments arguments with
    | .ok invocation => leaves (Path.join (Path.toText ⟨true, directory⟩) (file invocation.command))
    | .error _ => pure []
  let environment ← environment
  pure { tree := ⟨found ++ current⟩, directory, environment }

end GoXref.Machine

/-- Runs the program and prints its outcome. -/
def main (arguments : List String) : IO UInt32 := do
  let arguments := arguments.map String.toList
  let outcome := GoXref.Program.run (← GoXref.Machine.host arguments) arguments
  (← IO.getStdout).putStr (String.ofList outcome.stdout)
  (← IO.getStderr).putStr (String.ofList outcome.stderr)
  pure outcome.exit.toUInt32
