import GoXref.Unicode.Blank

/-!
# `GoXref.Text.Basic`: text as a list of characters

Everything the library reads and writes is a list of Unicode characters, so
its functions recurse on the text itself. Strings appear at the edges only.

* `Text.decimal`: a number in plain decimal.
* `Text.trim`: a text without the white space around it.
* `Text.indent`: the continuation lines of a message, moved right.
-/

set_option autoImplicit false

namespace GoXref

/-- A text is a list of characters. -/
abbrev Text := List Char

/-- Raw content, as a list of octets. -/
abbrev Bytes := List UInt8

namespace Text

/-- A number in decimal, without leading zeros. -/
def decimal (n : Nat) : Text := Nat.toDigits 10 n

/-- The text without the white space in front. -/
def trimStart (t : Text) : Text := t.dropWhile Unicode.isBlank

/-- The text without the white space at its end. -/
def trimEnd (t : Text) : Text := (t.reverse.dropWhile Unicode.isBlank).reverse

/-- The text without the white space at either end. -/
def trim (t : Text) : Text := trimEnd (trimStart t)

/-- The texts in order, with line feeds between them. -/
def joinLines (ts : List Text) : Text := ['\n'].intercalate ts

/-- The text with `n` spaces after each line feed. -/
def indent (n : Nat) (t : Text) : Text :=
  t.flatMap fun c => if c = '\n' then c :: List.replicate n ' ' else [c]

end Text

end GoXref
