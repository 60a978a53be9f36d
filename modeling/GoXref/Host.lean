import GoXref.Document
import GoXref.Fault
import GoXref.Host.FileTree

/-!
# `GoXref.Host`: the machine a lookup runs on

The library asks four things of the machine: which directory is the current
one, to read a file, to find a program by its name, and to run one. The answers
follow from the file tree, the current directory and the environment.

The tree has directories, files and programs only. It has no links, every file
can be read, every directory can be entered, and every name is a text. So a call
fails because something is missing, is of the wrong sort or is too long, and not
because it is not allowed or because a name is no UTF-8.

* `Host.current`: the path of the current directory, which may be gone.
* `Host.find`: what lies at a path.
* `Host.openDocument`: a file as a document.
* `Host.findProgram?`: the first directory of `PATH` that has a program.
* `Host.run`: what a program leaves behind, or why it did not start.
-/

set_option autoImplicit false

namespace GoXref

/-- The machine a lookup runs on. It has no links and no files that may not be
read, and all its names are texts. -/
structure Host where
  /-- The files. -/
  tree : FileTree
  /-- The current directory, by the names that lead to it from the root. It need
  not be there any more. -/
  directory : List Text
  /-- The environment: names and values. -/
  environment : List (Text × Text)
  /-- The home directory on record for the user, by default the superuser's. -/
  homeRecord : Text := "/root".toList
deriving DecidableEq, Repr

namespace Host

/-- The path of the current directory, by the names that led to it. -/
def currentPath (h : Host) : Text := Path.toText ⟨true, h.directory⟩

/-- The path of the current directory, as long as it is there. -/
def current (h : Host) : Except SystemError Text :=
  if h.tree.node? h.directory = some .directory then .ok h.currentPath else .error .noSuchFile

/-- The value of an environment variable. -/
def environmentValue? (h : Host) (name : String) : Option Text := h.environment.lookup name.toList

/-! ### Files -/

/-- The octets a path must stay below in number. -/
def pathLimit : Nat := 4096

/-- The place from which a path is walked. -/
def origin (h : Host) (path : Text) : List Text :=
  if Path.isAbsolute path then [] else h.directory

/-- What lies at a path. -/
def find (h : Host) (path : Text) : Except SystemError Node :=
  if path = [] then .error .noSuchFile
  else if pathLimit ≤ Utf8.size path then .error .nameTooLong
  else
    match h.tree.walk (h.origin path) (path.splitOn '/') with
    | .error e => .error e
    | .ok place =>
      match h.tree.node? place with
      | some node => .ok node
      | none => .error .noSuchFile

/-- Why a path with a NUL character cannot name a file. -/
def nulInPath : SystemError := .custom "file name contained an unexpected NUL byte".toList

/-- The content of the file at a path. -/
def read (h : Host) (path : Text) : Except SystemError Bytes :=
  if path.contains '\x00' then .error nulInPath
  else
    match h.find path with
    | .error e => .error e
    | .ok .directory => .error .isADirectory
    | .ok (.file content) => .ok content
    | .ok (.program content _) => .ok content

/-- The file at a path as a document. -/
def openDocument (h : Host) (path : Text) : Except Fault Document :=
  match h.read path with
  | .error cause => .error (.io path cause)
  | .ok content =>
    match Utf8.decode content with
    | .error e => .error (.notText e)
    | .ok text => .ok ⟨path, text⟩

/-! ### Programs -/

/-- The entries of a list of directories, with colons between them. -/
def entries (value : Text) : List Text := value.splitOn ':'

/-- The home directory of the user: the variable `HOME` if it has a value, and
the one on record otherwise. -/
def home (h : Host) : Text :=
  match h.environmentValue? "HOME" with
  | some (c :: rest) => c :: rest
  | _ => h.homeRecord

/-- The directory that an entry names. A `~` in front is the home directory. -/
def directoryOf (h : Host) (entry : Text) : Text :=
  if (entry.splitOn '/').head? = some ['~'] then
    (Path.ofText entry).parts.tail.foldl Path.join h.home
  else entry

/-- Whether a program lies at a path. -/
def isProgram (h : Host) (path : Text) : Bool :=
  match h.find path with
  | .ok (.program ..) => true
  | _ => false

/-- The path of a program in the first directory of `PATH` that has it. -/
def findProgram? (h : Host) (name : Text) : Option Text :=
  (h.environmentValue? "PATH").bind fun value =>
    ((entries value).map fun entry => Path.join (h.directoryOf entry) name).find? h.isProgram

/-- Starts the file at a path. -/
def start (h : Host) (path : Text) : Except SystemError Run :=
  match h.find path with
  | .error e => .error e
  | .ok (.program _ run) => .ok run
  | .ok _ => .error .permissionDenied

/-- The directories searched if there is no `PATH`. -/
def defaultPath : Text := "/bin:/usr/bin".toList

/-- The entries that the system goes through to start a program. One too long
for a path counts as the current directory, or not at all if it is the
last. -/
def passable : List Text → List Text
  | [] => []
  | [entry] => if pathLimit ≤ Utf8.size entry then [] else [entry]
  | entry :: rest => (if pathLimit ≤ Utf8.size entry then [] else entry) :: passable rest

/-- The file that a bare program name stands for in a directory. -/
def candidate (name entry : Text) : Text := if entry = [] then name else entry ++ '/' :: name

/-- Starts the first of the candidates that can be started. One that may not
be run is passed over like one that is missing, but then the search as a
whole fails for lack of permission. `last` is the failure so far, or what to
report if there is no candidate. -/
def startFirst (h : Host) (last : SystemError) : List Text → Except SystemError Run
  | [] => .error last
  | path :: rest =>
    match h.start path with
    | .ok run => .ok run
    | .error e =>
      if e = .permissionDenied then h.startFirst e rest
      else if e = .noSuchFile || e = .notADirectory then
        h.startFirst (if last = .permissionDenied then last else e) rest
      else .error e

/-- The octets an argument must stay below in number. -/
def argumentLimit : Nat := 131072

/-- Why a NUL character cannot be handed to a program. -/
def nulInArgument : SystemError := .custom "nul byte found in provided data".toList

/-- Starts a program. A name without a slash is looked for in the
directories of `PATH`, where a `~` has no meaning. -/
def launch (h : Host) (program : Text) : Except SystemError Run :=
  if program = [] || program.contains '/' then h.start program
  else
    h.startFirst .nameTooLong
      ((passable (entries ((h.environmentValue? "PATH").getD defaultPath))).map
        (candidate program))

/-- Runs a program to its end. -/
def run (h : Host) (program : Text) (arguments : List Text) : Except SystemError Run :=
  if (program :: arguments).any fun t => t.contains '\x00' then .error nulInArgument
  else
    match h.launch program with
    | .error e => .error e
    | .ok run =>
      if (program :: arguments).any fun t => argumentLimit ≤ Utf8.size t then
        .error .argumentsTooLong
      else .ok run

end Host

end GoXref
