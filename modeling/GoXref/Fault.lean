import GoXref.Fault.System
import GoXref.Position
import GoXref.Text.Quoted
import GoXref.Text.Utf8

/-!
# `GoXref.Fault`: why a lookup failed

A missing search tool is no fault: it is an outcome of the search. All else
that can go wrong is a `Fault`, with its message, the file it concerns, and
a hint on what to do about it.
-/

set_option autoImplicit false

namespace GoXref

/-- Why a lookup failed. -/
inductive Fault where
  /-- A file could not be read. -/
  | io (path : Text) (cause : SystemError)
  /-- The document has no such line. -/
  | invalidPosition (file : Text) (position : Position) (lineCount : Nat)
  /-- The search tool is there but could not be run. -/
  | toolFailed (program : Text) (cause : SystemError)
  /-- The tool's listing does not come in pairs of lines. -/
  | malformedListing (number : Nat) (line reason : Text)
  /-- Documents with unsaved edits could not be saved. -/
  | saveFailed (reason : Text)
  /-- A file's content is no text. -/
  | notText (error : Utf8.DecodeError)
  /-- Anything else, in its own words. -/
  | other (message : Text)
deriving DecidableEq, Repr

namespace Fault

/-- The message for the user. -/
def message : Fault → Text
  | io path cause => "I/O error for path ".toList ++ path ++ ": ".toList ++ cause.message
  | invalidPosition file position lineCount =>
    "Invalid position ".toList ++ Text.decimal position.line.toNat
      ++ ':' :: Text.decimal position.column.toNat ++ " in ".toList ++ file
      ++ ": document has ".toList ++ Text.decimal lineCount ++ " lines".toList
  | toolFailed program cause => "Failed to run ".toList ++ program ++ ": ".toList ++ cause.message
  | malformedListing number line reason =>
    "Malformed tool output at line ".toList ++ Text.decimal number ++ " (".toList
      ++ Text.quoted line ++ "): ".toList ++ reason
  | saveFailed reason => "Failed to save workspace: ".toList ++ reason
  | notText error => "UTF-8 error: ".toList ++ error.message
  | other message => message

/-- The name of the sort of fault, as machine-readable answers give it. -/
def kind : Fault → Text
  | io .. => "Io".toList
  | invalidPosition .. => "InvalidPosition".toList
  | toolFailed .. => "ToolFailed".toList
  | malformedListing .. => "MalformedOutput".toList
  | saveFailed _ => "SaveFailed".toList
  | notText _ => "Utf8".toList
  | other _ => "Other".toList

/-- The file the fault concerns. -/
def file? : Fault → Option Text
  | io path _ => some path
  | invalidPosition file _ _ => some file
  | toolFailed program _ => some program
  | _ => none

/-- What the user can do about it. -/
def hint? : Fault → Option Text
  | invalidPosition .. => some "Lines and columns are zero-based".toList
  | toolFailed .. => some "Check that go-find-references is executable".toList
  | malformedListing .. =>
    some "Retry with --lenient to skip unrecognised output lines".toList
  | _ => none

/-- The path shown for a failed call that names no file. -/
def unknownPath : Text := "<unknown>".toList

/-- The fault of a failed call that names no file. -/
def ofSystemError (cause : SystemError) : Fault := .io unknownPath cause

end Fault

end GoXref
