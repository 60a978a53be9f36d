import GoXref.Text.Basic
import GoXref.Unicode.GraphemeExtend
import GoXref.Unicode.Unprintable

/-!
# `GoXref.Text.Quoted`: a text between quotes, on one line

Messages show foreign text between double quotes in a form that stays on one
line whatever the text holds. The quote, the backslash and four controls
have a letter of their own behind a backslash. What attaches to the
character before it, or has no printed form, is written by its code point
in hexadecimal. Everything else stands for itself.
-/

set_option autoImplicit false

namespace GoXref.Text

/-- A character by its code point, as `\u` with braces around the digits. -/
def codePointEscape (c : Char) : Text :=
  ['\\', 'u', '\x7b'] ++ Nat.toDigits 16 c.toNat ++ ['\x7d']

/-- The written form of one character between quotes. -/
def escapeChar (c : Char) : Text :=
  if c = '\x00' then ['\\', '0']
  else if c = '\t' then ['\\', 't']
  else if c = '\r' then ['\\', 'r']
  else if c = '\n' then ['\\', 'n']
  else if c = '\\' then ['\\', '\\']
  else if c = '"' then ['\\', '"']
  else if Unicode.isGraphemeExtend c || Unicode.isUnprintable c then codePointEscape c
  else [c]

/-- The text between double quotes, with its special characters escaped. -/
def quoted (t : Text) : Text := '"' :: (t.flatMap escapeChar ++ ['"'])

end GoXref.Text
