import GoXref.Position
import GoXref.Text.Line
import GoXref.Text.Utf8
import GoXref.Unicode.Alphanumeric

/-!
# `GoXref.Document`: offsets and words in a document

* `Document.offset?`: how far a position lies from the start of the text,
  in characters or in octets. A column past the end of its line counts as
  the end of the line's content. A line that does not exist has no offset.
* `Document.wordAt?`: the run of word characters that touches a position,
  on either side.
-/

set_option autoImplicit false

namespace GoXref

/-- The unit in which an offset is counted. -/
inductive OffsetUnit where
  /-- Unicode characters. -/
  | characters
  /-- Octets of UTF-8. -/
  | octets
deriving DecidableEq, Repr

/-- A file's path and its text, edits not yet saved included. -/
structure Document where
  /-- The path of the file. -/
  path : Text
  /-- The text. -/
  text : Text
deriving DecidableEq, Repr

namespace Document

/-- Whether the character can be part of an identifier. -/
def isWordChar (c : Char) : Bool := c = '_' || Unicode.isAlphanumeric c

/-- The lines of the document. -/
def lines (d : Document) : List Text := Text.lines d.text

/-- The content of a line, without its break. -/
def lineContent? (d : Document) (line : Nat) : Option Text := d.lines[line]?.map Text.content

/-- The number of characters before a line. -/
def lineStart (d : Document) (line : Nat) : Nat := (d.lines.take line).flatten.length

/-- The number of characters before a position. -/
def charIndex? (d : Document) (p : Position) : Option Nat :=
  (d.lineContent? p.line.toNat).map fun content =>
    d.lineStart p.line.toNat + min p.column.toNat content.length

/-- The distance of a position from the start of the text. -/
def offset? (d : Document) (unit : OffsetUnit) (p : Position) : Option Nat :=
  (d.charIndex? p).map fun index =>
    match unit with
    | .characters => index
    | .octets => Utf8.size (d.text.take index)

/-- The columns of the word that touches a column of a line's content,
empty if neither neighbour is a word character. -/
def wordColumns (content : Text) (column : Nat) : Nat × Nat :=
  (column - ((content.take column).reverse.takeWhile isWordChar).length,
    column + ((content.drop column).takeWhile isWordChar).length)

/-- The word that touches a position. Columns are narrowed to 32 bits only
after the word is known not to be empty. -/
def wordAt? (d : Document) (p : Position) : Option Span :=
  match d.lineContent? p.line.toNat with
  | none => none
  | some content =>
    let (start, stop) := wordColumns content (min p.column.toNat content.length)
    if start = stop then none
    else some ⟨⟨p.line, UInt32.ofNat start⟩, ⟨p.line, UInt32.ofNat stop⟩⟩

end Document

end GoXref
