import GoXref.Location
import GoXref.Path.Uri
import GoXref.Position

/-!
# `GoXref.Occurrence`: one use of the symbol under the cursor

An occurrence is a file and a span in it. It is made from a location of the
tool's listing: the file is seen from the directory of the document, the
numbers are taken over as they are, and the span is as wide as the word
under the cursor.
-/

set_option autoImplicit false

namespace GoXref

/-- One use of a symbol. -/
structure Occurrence where
  /-- The file. -/
  path : Text
  /-- The place in the file. -/
  span : Span
deriving DecidableEq, Repr

namespace Occurrence

/-- The occurrence at a location, for a document in `directory` and a word
of `width` columns. -/
def ofLocation (directory : Text) (width : UInt32) (l : Location) : Occurrence where
  path := Path.resolve directory l.file
  span := Span.onLine ⟨l.line, l.column⟩ width

/-- The `file:` URI of the file. -/
def uri? (o : Occurrence) : Option Text := Path.uri? o.path

/-- The occurrence on a line of its own: a location, a dash, and the column
where the span stops. -/
def toText (o : Occurrence) : Text :=
  Location.toText ⟨o.path, o.span.start.line, o.span.start.column⟩
    ++ '-' :: Text.decimal o.span.stop.column.toNat

end Occurrence

end GoXref
