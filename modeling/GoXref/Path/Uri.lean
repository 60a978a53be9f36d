import GoXref.Path
import GoXref.Text.Utf8

/-!
# `GoXref.Path.Uri`: the `file:` URI of a path

Only an absolute path has one. The URI is `file://` and then a slash and the
written form of each component; the root alone is a single slash. A
component is written octet by octet: an octet that stands for a plain
character stands for itself, every other one is a percent sign and two
hexadecimal digits in capitals.
-/

set_option autoImplicit false

namespace GoXref.Path

/-- Whether an octet stands for itself in a URI's path. Controls, the
space, octets past ASCII, and the characters that delimit parts of a URI do
not. -/
def isPlainOctet (b : UInt8) : Bool :=
  0x20 < b && b < 0x7F && !("\"#%/<>?\\`\x7b\x7d".toList.any fun c => c.toNat = b.toNat)

/-- A hexadecimal digit in capitals. -/
def hexDigit (n : Nat) : Char :=
  if n < 10 then Char.ofNat ('0'.toNat + n) else Char.ofNat ('A'.toNat + (n - 10))

/-- The written form of an octet. -/
def encodeOctet (b : UInt8) : Text :=
  if isPlainOctet b then [Char.ofNat b.toNat]
  else ['%', hexDigit (b.toNat / 16), hexDigit (b.toNat % 16)]

/-- The written form of a component. -/
def encodePart (part : Text) : Text := (Utf8.encode part).flatMap encodeOctet

/-- The `file:` URI of a path, `none` unless the path is absolute. -/
def uri? (t : Text) : Option Text :=
  if isAbsolute t then
    some ("file://".toList ++
      match (ofText t).parts with
      | [] => ['/']
      | parts => parts.flatMap fun part => '/' :: encodePart part)
  else none

end GoXref.Path
