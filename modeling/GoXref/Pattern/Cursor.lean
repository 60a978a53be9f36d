import GoXref.Pattern.Fault

/-!
# `GoXref.Pattern.Cursor`: a place in a pattern that is being read

A cursor holds what is not read yet. Under the flag for it, white space and
comments are passed over wherever the next sign of the pattern is looked for.
A comment runs from `#` to the end of its line.

* `Cursor.next`, `Cursor.advance`: behind the next character, and at the next
  sign behind it.
* `Cursor.takeSigns`: the longest run of signs of one kind.
* `Cursor.advance_lt`: an advance gets on.
-/

set_option autoImplicit false

namespace GoXref.Pattern

/-- What follows white space and comments at the front of a text. `comment`
tells that the text starts in a comment. -/
def dropSpace (comment : Bool) : Text → Text
  | [] => []
  | c :: rest =>
    if comment then dropSpace (c ≠ '\n') rest
    else if Unicode.isBlank c then dropSpace false rest
    else if c = '#' then dropSpace true rest
    else c :: rest

/-- Passing over white space adds nothing. -/
theorem length_dropSpace_le (comment : Bool) (t : Text) :
    (dropSpace comment t).length ≤ t.length := by
  fun_induction dropSpace comment t <;> simp_all <;> omega

/-- A place in a pattern. -/
structure Cursor where
  /-- The number of characters in the pattern. -/
  size : Nat
  /-- What is not read yet. -/
  rest : Text
  /-- Whether white space and comments count for nothing. -/
  spaced : Bool := false
deriving DecidableEq, Repr

namespace Cursor

/-- The start of a pattern. -/
def ofText (pattern : Text) : Cursor := { size := pattern.length, rest := pattern }

/-- The number of characters read. -/
def offset (c : Cursor) : Nat := c.size - c.rest.length

/-- The empty stretch at the cursor. -/
def here (c : Cursor) : Stretch := ⟨c.offset, c.offset⟩

/-- The stretch of the next character. -/
def sign (c : Cursor) : Stretch := ⟨c.offset, c.offset + 1⟩

/-- The stretch from an earlier offset to the cursor. -/
def since (c : Cursor) (start : Nat) : Stretch := ⟨start, c.offset⟩

/-- Behind the next character. -/
def next (c : Cursor) : Cursor := { c with rest := c.rest.tail }

/-- Behind the next `n` characters. -/
def skip (c : Cursor) (n : Nat) : Cursor := { c with rest := c.rest.drop n }

/-- At the next sign. -/
def skipSpace (c : Cursor) : Cursor :=
  if c.spaced then { c with rest := dropSpace false c.rest } else c

/-- At the sign behind the next character. -/
def advance (c : Cursor) : Cursor := c.next.skipSpace

/-- Whether the pattern goes on with a text. -/
def startsWith (c : Cursor) (t : String) : Bool := t.toList.isPrefixOf c.rest

/-- The sign behind the next character, as a class looks ahead for it. A comment
is not passed over there, only its mark. -/
def peekSign? (c : Cursor) : Option Char :=
  if c.spaced then
    let behind := c.rest.tail
    let ahead := behind.dropWhile Unicode.isBlank
    let ahead :=
      match ahead with
      | '#' :: more => more.dropWhile Unicode.isBlank
      | _ => ahead
    if ahead = [] then behind.head? else ahead.head?
  else c.rest.tail.head?

/-- An advance gets on. -/
theorem advance_lt (c : Cursor) (h : c.rest ≠ []) : c.advance.rest.length < c.rest.length := by
  have htail : c.rest.tail.length < c.rest.length := by
    cases hrest : c.rest with
    | nil => exact absurd hrest h
    | cons d rest => simp
  unfold advance skipSpace next
  split
  · exact Nat.lt_of_le_of_lt (length_dropSpace_le false c.rest.tail) htail
  · exact htail

/-- The longest run of signs that satisfy a condition, and the cursor behind
it. -/
def takeSigns (keep : Char → Bool) (c : Cursor) : Text × Cursor :=
  if h : c.rest = [] then ([], c)
  else if keep (c.rest.head h) then
    let (taken, behind) := takeSigns keep c.advance
    (c.rest.head h :: taken, behind)
  else ([], c)
termination_by c.rest.length
decreasing_by exact advance_lt c h

end Cursor

end GoXref.Pattern
