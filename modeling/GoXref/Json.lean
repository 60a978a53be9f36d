import GoXref.Text.Basic

/-!
# `GoXref.Json`: machine-readable answers

JSON values with the members of an object in a fixed order, and one printer
with two layouts: all on one line, or one item a line with an indent of two
spaces per level. An empty list or object stays on its line.
-/

set_option autoImplicit false

namespace GoXref

/-- A JSON value without fractions. -/
inductive Json where
  /-- Nothing. -/
  | null
  /-- A natural number. -/
  | number (n : Nat)
  /-- A text. -/
  | string (t : Text)
  /-- Values in order. -/
  | array (items : List Json)
  /-- Named values in order. -/
  | object (members : List (Text × Json))
deriving Repr

namespace Json

/-- How values are set out. -/
structure Layout where
  /-- What stands in front of an item so many levels down, and in front of
  the bracket that closes that level. -/
  newline : Nat → Text
  /-- What stands between a name and its value. -/
  colon : Text

/-- Everything on one line, without blanks. -/
def Layout.compact : Layout := ⟨fun _ => [], [':']⟩

/-- An item a line, two spaces deeper on each level. -/
def Layout.pretty : Layout := ⟨fun depth => '\n' :: List.replicate (2 * depth) ' ', [':', ' ']⟩

/-- The four hexadecimal digits of a small code point. -/
def hexDigits4 (n : Nat) : Text :=
  let digits := Nat.toDigits 16 n
  List.replicate (4 - digits.length) '0' ++ digits

/-- The written form of a character inside a string. -/
def escapeChar (c : Char) : Text :=
  if c = '"' then ['\\', '"']
  else if c = '\\' then ['\\', '\\']
  else if c = '\x08' then ['\\', 'b']
  else if c = '\x0c' then ['\\', 'f']
  else if c = '\n' then ['\\', 'n']
  else if c = '\r' then ['\\', 'r']
  else if c = '\t' then ['\\', 't']
  else if c.toNat < 0x20 then '\\' :: 'u' :: hexDigits4 c.toNat
  else [c]

/-- The written form of a string. -/
def writeString (t : Text) : Text := '"' :: (t.flatMap escapeChar ++ ['"'])

mutual

/-- The written form of a value that stands `depth` levels down. -/
def write (layout : Layout) (depth : Nat) : Json → Text
  | null => ['n', 'u', 'l', 'l']
  | number n => Text.decimal n
  | string t => writeString t
  | array [] => ['[', ']']
  | array (item :: items) =>
    '[' :: (writeItems layout (depth + 1) (item :: items) ++ layout.newline depth ++ [']'])
  | object [] => ['\x7b', '\x7d']
  | object (member :: members) =>
    '\x7b' :: (writeMembers layout (depth + 1) (member :: members) ++ layout.newline depth
      ++ ['\x7d'])

/-- The written forms of values, with commas between them. -/
def writeItems (layout : Layout) (depth : Nat) : List Json → Text
  | [] => []
  | [item] => layout.newline depth ++ write layout depth item
  | item :: items =>
    layout.newline depth ++ write layout depth item ++ ',' :: writeItems layout depth items

/-- The written forms of named values, with commas between them. -/
def writeMembers (layout : Layout) (depth : Nat) : List (Text × Json) → Text
  | [] => []
  | [(name, value)] =>
    layout.newline depth ++ writeString name ++ layout.colon ++ write layout depth value
  | (name, value) :: members =>
    layout.newline depth ++ writeString name ++ layout.colon ++ write layout depth value
      ++ ',' :: writeMembers layout depth members

end

/-- The value on one line. -/
def compact (value : Json) : Text := write .compact 0 value

/-- The value with an item a line. -/
def pretty (value : Json) : Text := write .pretty 0 value

end Json

end GoXref
