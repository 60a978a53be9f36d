import GoXref.Pattern.Fault
import GoXref.Unicode.Property

/-!
# `GoXref.Pattern.Tree`: a pattern as it is written

The tree of a pattern keeps what was written where. What a flag changes is
not worked in yet, for a flag speaks for all that follows it up to the end of
its group.

* `ClassTree`: what stands between square brackets, or for such a class.
* `Tree`: a whole pattern.
* `Tree.deep?`: the first part that is nested too deeply.
-/

set_option autoImplicit false

namespace GoXref.Pattern

/-- What a flag switches on or off. -/
inductive Flag where
  /-- Letters match in either case. -/
  | ignoreCase
  /-- `^` and `$` match at line breaks too. -/
  | multiLine
  /-- `.` matches line breaks too. -/
  | dotAll
  /-- Repetitions are lazy unless marked otherwise. -/
  | swapGreed
  /-- Classes are those of Unicode. -/
  | unicode
  /-- A carriage return breaks lines too. -/
  | carriageReturn
  /-- White space and comments in the pattern count for nothing. -/
  | spaced
deriving DecidableEq, Repr

/-- Flags to set, each to be on or off. -/
abbrev FlagChanges := List (Flag × Bool)

/-- One character as it is written. -/
structure Literal where
  /-- Where it stands. -/
  place : Stretch
  /-- The character it stands for. -/
  char : Char
  /-- Whether it is written as two hexadecimal digits, which can mean an
  octet. -/
  octet : Bool := false
deriving DecidableEq, Repr

/-- A class with a letter of its own behind a backslash. -/
inductive Shorthand where
  | digit
  | blank
  | word
deriving DecidableEq, Repr

/-- A class of ASCII characters with a name between colons. -/
inductive AsciiClass where
  | alnum
  | alpha
  | ascii
  | blank
  | cntrl
  | digit
  | graph
  | lower
  | print
  | punct
  | space
  | upper
  | word
  | xdigit
deriving DecidableEq, Repr

/-- How two classes are combined. -/
inductive ClassOperation where
  | intersection
  | difference
  | symmetricDifference
deriving DecidableEq, Repr

/-- The name of a property, perhaps with a value. -/
inductive PropertyName where
  | plain (name : Text)
  | valued (name value : Text)
deriving DecidableEq, Repr

/-- A class of characters as it is written. -/
inductive ClassTree where
  /-- One character. -/
  | char (l : Literal)
  /-- The characters from one to another. -/
  | range (place : Stretch) (lo hi : Literal)
  /-- A class behind a backslash. -/
  | shorthand (place : Stretch) (kind : Shorthand) (negated : Bool)
  /-- A named class of ASCII characters. -/
  | ascii (place : Stretch) (kind : AsciiClass) (negated : Bool)
  /-- The characters with a property. -/
  | property (place : Stretch) (name : PropertyName) (negated : Bool)
  /-- A class in square brackets. -/
  | bracket (place : Stretch) (negated : Bool) (body : ClassTree)
  /-- Classes side by side. -/
  | union (place : Stretch) (items : List ClassTree)
  /-- Two classes with an operator between them. -/
  | combination (place : Stretch) (operation : ClassOperation) (left right : ClassTree)
deriving Repr

/-- A condition on the place between two characters. -/
inductive Assertion where
  /-- The start of the text, or of a line under the flag for it. -/
  | lineStart
  /-- The end of the text, or of a line under the flag for it. -/
  | lineEnd
  /-- The start of the text. -/
  | textStart
  /-- The end of the text. -/
  | textEnd
  /-- The start or the end of a word. -/
  | boundary
  /-- Neither the start nor the end of a word. -/
  | noBoundary
  /-- The start of a word. -/
  | wordStart
  /-- The end of a word. -/
  | wordEnd
  /-- No word in front. -/
  | wordStartHalf
  /-- No word behind. -/
  | wordEndHalf
deriving DecidableEq, Repr

/-- A pattern as it is written. -/
inductive Tree where
  /-- Nothing. -/
  | empty (place : Stretch)
  /-- Flags for what follows. -/
  | flags (place : Stretch) (changes : FlagChanges)
  /-- One character. -/
  | char (l : Literal)
  /-- Any character, written as a dot. -/
  | dot (place : Stretch)
  /-- A condition. -/
  | assertion (place : Stretch) (a : Assertion)
  /-- A character of a class. -/
  | oneOf (c : ClassTree)
  /-- A part again and again, at least and perhaps at most so many times. -/
  | repetition (place : Stretch) (body : Tree) (least : Nat) (most? : Option Nat)
  /-- A part in parentheses, with flags of its own. -/
  | group (place : Stretch) (changes : FlagChanges) (body : Tree)
  /-- One of several parts. -/
  | alternation (place : Stretch) (branches : List Tree)
  /-- Parts one after the other. -/
  | sequence (place : Stretch) (parts : List Tree)
deriving Repr

namespace ClassTree

/-- Where a class stands. -/
def place : ClassTree → Stretch
  | char l => l.place
  | range place .. => place
  | shorthand place .. => place
  | ascii place .. => place
  | property place .. => place
  | bracket place .. => place
  | union place _ => place
  | combination place .. => place

mutual

/-- The first part of a class that is nested too deeply, seen from `depth`
levels further out. -/
def deep? (depth : Nat) : ClassTree → Option Stretch
  | bracket place _ body =>
    if nestingLimit ≤ depth then some place else body.deep? (depth + 1)
  | union place items =>
    if nestingLimit ≤ depth then some place else deepIn? (depth + 1) items
  | combination place _ left right =>
    if nestingLimit ≤ depth then some place
    else (left.deep? (depth + 1)).or (right.deep? (depth + 1))
  | _ => none

/-- The first part of some classes that is nested too deeply. -/
def deepIn? (depth : Nat) : List ClassTree → Option Stretch
  | [] => none
  | c :: rest => (c.deep? depth).or (deepIn? depth rest)

end

end ClassTree

namespace Tree

/-- Where a part of a pattern stands. -/
def place : Tree → Stretch
  | empty place => place
  | flags place _ => place
  | char l => l.place
  | dot place => place
  | assertion place _ => place
  | oneOf c => c.place
  | repetition place .. => place
  | group place .. => place
  | alternation place _ => place
  | sequence place _ => place

mutual

/-- The first part of a pattern that is nested too deeply, seen from `depth`
levels further out. -/
def deep? (depth : Nat) : Tree → Option Stretch
  | repetition place body _ _ =>
    if nestingLimit ≤ depth then some place else body.deep? (depth + 1)
  | group place _ body => if nestingLimit ≤ depth then some place else body.deep? (depth + 1)
  | alternation place branches =>
    if nestingLimit ≤ depth then some place else deepIn? (depth + 1) branches
  | sequence place parts =>
    if nestingLimit ≤ depth then some place else deepIn? (depth + 1) parts
  | oneOf c => c.deep? depth
  | _ => none

/-- The first part of some patterns that is nested too deeply. -/
def deepIn? (depth : Nat) : List Tree → Option Stretch
  | [] => none
  | t :: rest => (t.deep? depth).or (deepIn? depth rest)

end

end Tree

end GoXref.Pattern
