import GoXref.Pattern.Cursor
import GoXref.Pattern.Tree

/-!
# `GoXref.Pattern.Escape`: what stands behind a backslash

A backslash gives a letter a meaning of its own or takes the meaning of a
sign away. Letters and digits without a meaning are refused, so that they
stay free to get one.

* `Escape.read`: the escape at a cursor, and the cursor behind it.
-/

set_option autoImplicit false

namespace GoXref.Pattern

/-- The smallest part of a pattern, inside a class or outside. -/
inductive Atom where
  /-- One character. -/
  | char (l : Literal)
  /-- A condition, which no class can hold. -/
  | assertion (place : Stretch) (a : Assertion)
  /-- A class. -/
  | set (c : ClassTree)

namespace Escape

/-- Whether a character is a hexadecimal digit. -/
def isHex (c : Char) : Bool :=
  c.isDigit || ('a' ≤ c && c ≤ 'f') || ('A' ≤ c && c ≤ 'F')

/-- The value of a hexadecimal digit. -/
def hexValue (c : Char) : Nat :=
  if c.isDigit then c.toNat - '0'.toNat else c.toLower.toNat - 'a'.toNat + 10

/-- The character whose code point has so many hexadecimal digits. -/
def hexChar? (digits : Text) : Option Char :=
  let n := digits.foldl (fun n d => 16 * n + hexValue d) 0
  if n.isValidChar then some (Char.ofNat n) else none

/-- Reads `n` hexadecimal digits. -/
def hexDigits : Nat → Cursor → Except Fault (Text × Cursor)
  | 0, c => .ok ([], c)
  | n + 1, c =>
    match c.rest with
    | [] => fail .escapeUnfinished c.here
    | d :: _ =>
      if isHex d then do
        let (digits, behind) ← hexDigits n c.advance
        .ok (d :: digits, behind)
      else fail .hexDigit c.sign

/-- The number of hexadecimal digits that a letter asks for. -/
def hexLength (letter : Char) : Nat := if letter = 'x' then 2 else if letter = 'u' then 4 else 8

/-- Reads a code point behind its letter. -/
def hexFixed (start : Nat) (letter : Char) (c : Cursor) : Except Fault (Atom × Cursor) := do
  let (digits, behind) ← hexDigits (hexLength letter) c
  match hexChar? digits with
  | none => fail .hexInvalid (behind.since c.offset)
  | some d => .ok (.char ⟨behind.since start, d, letter = 'x'⟩, behind)

/-- Reads a code point in braces. -/
def hexBraced (start : Nat) (c : Cursor) : Except Fault (Atom × Cursor) :=
  let (digits, stop) := c.advance.takeSigns isHex
  match stop.rest with
  | [] => fail .escapeUnfinished (stop.since c.offset)
  | '\x7D' :: _ =>
    let behind := stop.advance
    if digits = [] then fail .hexEmpty (behind.since c.offset)
    else
      match hexChar? digits with
      | none => fail .hexInvalid ⟨c.offset + 1, stop.offset⟩
      | some d => .ok (.char ⟨behind.since start, d, false⟩, behind)
  | _ => fail .hexDigit stop.sign

/-- Reads what follows a letter for code points. -/
def hex (start : Nat) (letter : Char) (c : Cursor) : Except Fault (Atom × Cursor) :=
  match c.rest with
  | [] => fail .escapeUnfinished c.here
  | '\x7B' :: _ => hexBraced start c
  | _ => hexFixed start letter c

/-- Cuts a text in two at the first place where a mark stands. -/
def cutAt? (mark : Text) : Text → Option (Text × Text)
  | [] => none
  | c :: rest =>
    if mark.isPrefixOf (c :: rest) then some ([], (c :: rest).drop mark.length)
    else (cutAt? mark rest).map fun (front, behind) => (c :: front, behind)

/-- The name of a property, as it stands between braces, and whether it is
negated there. -/
def propertyName (text : Text) : PropertyName × Bool :=
  match cutAt? ['!', '='] text with
  | some (name, value) => (.valued name value, true)
  | none =>
    match (cutAt? [':'] text).or (cutAt? ['='] text) with
    | some (name, value) => (.valued name value, false)
    | none => (.plain text, false)

/-- Reads the name of a property. -/
def property (start : Nat) (negated : Bool) (c : Cursor) : Except Fault (Atom × Cursor) :=
  match c.rest with
  | [] => fail .escapeUnfinished c.here
  | '\x7B' :: _ =>
    let (text, stop) := c.advance.takeSigns (· ≠ '\x7D')
    if stop.rest = [] then fail .escapeUnfinished stop.here
    else
      let (name, flipped) := propertyName text
      .ok (.set (.property (stop.next.since start) name (negated ^^ flipped)), stop.next)
  | '\\' :: _ => fail .propertyForm c.sign
  | d :: _ => .ok (.set (.property (c.advance.since start) (.plain [d]) negated), c.advance)

/-- The kinds of word boundary with a name. -/
def boundaryNames : List (String × Assertion) :=
  [("start", .wordStart), ("end", .wordEnd), ("start-half", .wordStartHalf),
    ("end-half", .wordEndHalf)]

/-- Reads the name of a word boundary behind the letter for one. Braces that
hold no name are left for a count. -/
def boundary (start : Nat) (c : Cursor) : Except Fault (Atom × Cursor) :=
  let plain : Atom × Cursor := (.assertion (c.since start) .boundary, c)
  match c.rest with
  | '\x7B' :: _ =>
    let isNameChar : Char → Bool := fun d => d.isAlpha || d = '-'
    let (name, stop) := c.advance.takeSigns isNameChar
    if c.advance.rest = [] then fail .boundaryUnfinished (c.advance.since start)
    else if name = [] then .ok plain
    else if stop.rest.head? ≠ some '\x7D' then fail .boundaryUnclosed (stop.since c.offset)
    else
      match boundaryNames.lookup (String.ofList name) with
      | some a => .ok (.assertion (stop.next.since start) a, stop.next)
      | none => fail .boundaryUnknown ⟨c.advance.offset, stop.offset⟩
  | _ => .ok plain

/-- The classes with a letter of their own. -/
def shorthands : List (Char × Shorthand × Bool) :=
  [('d', .digit, false), ('D', .digit, true), ('s', .blank, false), ('S', .blank, true),
    ('w', .word, false), ('W', .word, true)]

/-- The controls with a letter of their own. -/
def controls : List (Char × Char) :=
  [('a', '\x07'), ('f', '\x0C'), ('t', '\t'), ('n', '\n'), ('r', '\r'), ('v', '\x0B')]

/-- The conditions with a sign of their own. -/
def assertions : List (Char × Assertion) :=
  [('A', .textStart), ('z', .textEnd), ('B', .noBoundary), ('<', .wordStart), ('>', .wordEnd)]

/-- Whether a backslash in front makes a character stand for itself. -/
def isPlain (c : Char) : Bool :=
  c.toNat < 0x80 && !c.isAlphanum && c ≠ '<' && c ≠ '>'

/-- Reads the escape at a cursor. -/
def read (c : Cursor) : Except Fault (Atom × Cursor) :=
  let start := c.offset
  let c := c.next
  match c.rest with
  | [] => fail .escapeUnfinished (c.since start)
  | d :: _ =>
    let behind := c.next
    let place := behind.since start
    if d.isDigit then fail .backreference place
    else if d = 'x' || d = 'u' || d = 'U' then hex start d c.advance
    else if d = 'p' || d = 'P' then property start (d = 'P') c.advance
    else if d = 'b' then boundary start behind
    else
      match shorthands.lookup d with
      | some (kind, negated) => .ok (.set (.shorthand place kind negated), behind)
      | none =>
        match controls.lookup d, assertions.lookup d with
        | some control, _ => .ok (.char ⟨place, control, false⟩, behind)
        | _, some a => .ok (.assertion place a, behind)
        | _, _ =>
          if isPlain d then .ok (.char ⟨place, d, false⟩, behind) else fail .escapeUnknown place

end Escape

end GoXref.Pattern
