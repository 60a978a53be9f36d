import GoXref.Text.Basic

/-!
# `GoXref.Path`: file paths, by their text alone

A path starts at the root or not, and names components between slashes.
Repeated slashes, `.` components and a slash at the end add nothing. No file
system is consulted: `..` takes back the name before it.

* `Path.ofText`, `Path.toText`: a text's components, and their text.
* `Path.join`: the text of one path below another.
* `Path.fold`: `.` and `..` worked off as far as the text tells.
* `Path.resolve`: a path seen from a base directory, folded.
* `Path.forwardSlashes`: a drive path with its backslashes turned.
-/

set_option autoImplicit false

namespace GoXref

/-- A path by its components, with no empty component and no `.`. -/
structure Path where
  /-- Whether the path starts at the root. -/
  absolute : Bool
  /-- The components, `..` among them. -/
  parts : List Text
deriving DecidableEq, Repr

namespace Path

/-- The component for the directory above. -/
def up : Text := ['.', '.']

/-- Whether a text is an absolute path. -/
def isAbsolute (t : Text) : Bool := t.head? = some '/'

/-- Whether a piece between slashes counts as a component. -/
def isPart (piece : Text) : Bool := piece ≠ [] && piece ≠ ['.']

/-- The components of a text. -/
def ofText (t : Text) : Path := ⟨isAbsolute t, (t.splitOn '/').filter isPart⟩

/-- The text of a path: its components with one slash between them, behind
a slash if it starts at the root. -/
def toText (p : Path) : Text :=
  if p.absolute then '/' :: ['/'].intercalate p.parts else ['/'].intercalate p.parts

/-- The text of `file` below `base`. An absolute `file` stands for itself,
and no slash is added to an empty base or behind a slash. -/
def join (base file : Text) : Text :=
  if isAbsolute file then file
  else if base = [] || base.getLast? = some '/' then base ++ file
  else base ++ '/' :: file

/-- Adds a component to folded ones, given in reverse. What `..` does
depends on the component before it: a name is taken back, the root stays
where it is, and a relative path keeps the `..` in front. -/
def push (absolute : Bool) (folded : List Text) (part : Text) : List Text :=
  if part = up then
    match folded with
    | [] => if absolute then [] else [up]
    | last :: above => if last = up then up :: last :: above else above
  else part :: folded

/-- The path with every `..` worked off that can be. -/
def fold (p : Path) : Path := ⟨p.absolute, (p.parts.foldl (push p.absolute) []).reverse⟩

/-- The text of `file` seen from `base`, folded. -/
def resolve (base file : Text) : Text := (ofText (join base file)).fold.toText

/-- The text of the directory that holds a path: the path without its last
component, empty if it has none. -/
def parent (t : Text) : Text :=
  match (ofText t).parts with
  | [] => []
  | parts => toText ⟨isAbsolute t, parts.dropLast⟩

/-- Whether a path starts with an ASCII letter, a colon and a backslash. -/
def hasDrive : Text → Bool
  | letter :: ':' :: '\\' :: _ => letter.isAlpha
  | _ => false

/-- A drive path with every backslash turned into a slash. Any other path
stands for itself. -/
def forwardSlashes (t : Text) : Text :=
  if hasDrive t then t.map fun c => if c = '\\' then '/' else c else t

end Path

end GoXref
