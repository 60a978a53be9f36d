import GoXref.Text.Basic
import GoXref.Unicode.Blank
import GoXref.Unicode.DecimalDigit

/-!
# `GoXref.Location`: `file:line:column` in a line of text

A location is a file name, a colon, digits, a colon and digits, with
whatever follows left unread. File names may hold colons and digits
themselves, so several readings of one line are possible: the reading with
the longest file name counts, and no other is tried. The digits may be of
any script while the reading is chosen, but only ASCII digits have a value.

* `Location.split?`: the reading with the longest file name.
* `Location.parse?`: its value, if both numbers fit 32 bits.
* `Location.isBare`: whether a line is a location and nothing else, with no
  white space in the file name.
-/

set_option autoImplicit false

namespace GoXref

/-- A line that reports a place: a file as printed, and two numbers. -/
structure Location where
  /-- The file, possibly relative. -/
  file : Text
  /-- The line number as printed. -/
  line : UInt32
  /-- The column number as printed. -/
  column : UInt32
deriving DecidableEq, Repr

/-- A line cut at the two colons in front of its numbers. -/
structure LocationParts where
  /-- The text in front of the first colon. -/
  file : Text
  /-- The digits between the colons. -/
  line : Text
  /-- The digits behind the second colon. -/
  column : Text
  /-- What follows the digits. -/
  rest : Text
deriving DecidableEq, Repr

namespace Location

/-- Reads a colon and the digits behind it: the digits, at least one, and
what follows them. -/
def field? : Text → Option (Text × Text)
  | ':' :: t =>
    match t.takeWhile Unicode.isDecimalDigit with
    | [] => none
    | digits => some (digits, t.dropWhile Unicode.isDecimalDigit)
  | _ => none

/-- Reads two fields: both runs of digits, and what follows them. -/
def fields? (t : Text) : Option (Text × Text × Text) :=
  match field? t with
  | none => none
  | some (line, t) =>
    match field? t with
    | none => none
    | some (column, rest) => some (line, column, rest)

/-- Cuts a text into a file name and two fields. The file name is not
empty, holds no line feed, and is as long as it can be. -/
def split? : Text → Option LocationParts
  | [] => none
  | c :: t =>
    if c = '\n' then none
    else match split? t with
      | some parts => some { parts with file := c :: parts.file }
      | none => (fields? t).map fun (line, column, rest) => ⟨[c], line, column, rest⟩

/-- The value of a run of ASCII digits, if it fits 32 bits. -/
def value? (digits : Text) : Option UInt32 :=
  let n := Nat.ofDigitChars 10 digits 0
  if digits.all Char.isDigit && n < UInt32.size then some (UInt32.ofNat n) else none

/-- The location at the front of a line. -/
def parse? (t : Text) : Option Location :=
  match split? t with
  | none => none
  | some parts =>
    match value? parts.line, value? parts.column with
    | some line, some column => some ⟨parts.file, line, column⟩
    | _, _ => none

/-- Whether a text is two fields and nothing more. -/
def isFields (t : Text) : Bool :=
  match fields? t with
  | some (_, _, []) => true
  | _ => false

/-- Whether a line is nothing but a location without white space in its
file name. -/
def isBare : Text → Bool
  | [] => false
  | c :: t => !Unicode.isBlank c && (isFields t || isBare t)

/-- The written form of a location. -/
def toText (l : Location) : Text :=
  l.file ++ ':' :: Text.decimal l.line.toNat ++ ':' :: Text.decimal l.column.toNat

end Location

end GoXref
