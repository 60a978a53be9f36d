import GoXref.Fault.System
import GoXref.Path
import GoXref.Run
import GoXref.Text.Utf8

/-!
# `GoXref.Host.FileTree`: files, programs and directories

A tree without links. It is given by its leaves, each under the names that
lead to it from the root; whatever lies above a leaf is a directory.

* `FileTree.node?`: what lies at a place.
* `FileTree.step`: the effect of one piece of a path, between two slashes.
  Only a directory can be left in this way, even by an empty piece.
* `FileTree.walk`: the place that a path leads to.
-/

set_option autoImplicit false

namespace GoXref

/-- What can lie at a place. -/
inductive Node where
  /-- A directory. -/
  | directory
  /-- A file that cannot be run. -/
  | file (content : Bytes)
  /-- A file that can be run, and what a run of it leaves behind. -/
  | program (content : Bytes) (run : Run)
deriving DecidableEq, Repr

/-- A tree by its leaves. A directory is listed only if it is empty. -/
structure FileTree where
  /-- The leaves, under the names that lead to them from the root. -/
  leaves : List (List Text × Node)
deriving DecidableEq, Repr

namespace FileTree

/-- What lies at a place, given by the names that lead to it. -/
def node? (t : FileTree) (place : List Text) : Option Node :=
  match t.leaves.find? fun leaf => leaf.1 = place with
  | some leaf => some leaf.2
  | none =>
    if place = [] || t.leaves.any fun leaf => place.isPrefixOf leaf.1 then some .directory
    else none

/-- The most octets a name may have. -/
def maxName : Nat := 255

/-- The place that one piece of a path leads to. An empty piece and `.` stay
where they are, and `..` leads up, from the root to itself. -/
def step (t : FileTree) (place : List Text) (piece : Text) : Except SystemError (List Text) :=
  match t.node? place with
  | none => .error .noSuchFile
  | some .directory =>
    if !Path.isPart piece then .ok place
    else if piece = Path.up then .ok place.dropLast
    else if maxName < Utf8.size piece then .error .nameTooLong
    else if (t.node? (place ++ [piece])).isSome then .ok (place ++ [piece])
    else .error .noSuchFile
  | some _ => .error .notADirectory

/-- The place that the pieces of a path lead to. -/
def walk (t : FileTree) (place : List Text) (pieces : List Text) :
    Except SystemError (List Text) :=
  pieces.foldlM (step t) place

end FileTree

end GoXref
