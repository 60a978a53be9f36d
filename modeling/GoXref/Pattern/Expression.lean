import GoXref.Pattern.CharSet

/-!
# `GoXref.Pattern.Expression`: what a pattern matches

An expression matches stretches of a text. It may look at the characters
right around a place, so whether it matches nothing at all depends on the
place. A text is searched from left to right, with all that may still follow
kept beside the places where a match may start.

* `Expression.accepts`: whether nothing is a match at a place.
* `Expression.after`: what may follow once a character is read.
* `Expression.foundIn`: whether a text holds a match.
-/

set_option autoImplicit false

namespace GoXref.Pattern

/-- A place in a text by the characters around it. -/
structure Place where
  /-- The character in front, `none` at the start. -/
  before? : Option Char
  /-- The character behind, `none` at the end. -/
  behind? : Option Char
deriving DecidableEq, Repr

/-- How a place lies to the words around it. -/
inductive WordEdge where
  /-- At the start or the end of a word. -/
  | boundary
  /-- Inside a word or outside all words. -/
  | noBoundary
  /-- At the start of a word. -/
  | start
  /-- At the end of a word. -/
  | stop
  /-- Not behind a word's character. -/
  | startHalf
  /-- Not in front of a word's character. -/
  | stopHalf
deriving DecidableEq, Repr

/-- Whether a place lies so, if the characters in front and behind are of a
word or not. -/
def WordEdge.holds (edge : WordEdge) (before behind : Bool) : Bool :=
  match edge with
  | boundary => before != behind
  | noBoundary => before == behind
  | start => !before && behind
  | stop => before && !behind
  | startHalf => !before
  | stopHalf => !behind

/-- A condition on a place. -/
inductive Condition where
  /-- The start of the text. -/
  | textStart
  /-- The end of the text. -/
  | textEnd
  /-- The start of a line. -/
  | lineStart
  /-- The end of a line. -/
  | lineEnd
  /-- The start of a line, where a carriage return breaks lines too. -/
  | breakStart
  /-- The end of a line, where a carriage return breaks lines too. -/
  | breakEnd
  /-- A place at the edge of words that consist of these characters. -/
  | word (edge : WordEdge) (letters : CharSet)
deriving DecidableEq, Repr

/-- Whether a condition holds at a place. A carriage return and the line feed
right behind it are one break. -/
def Condition.holds (place : Place) : Condition → Bool
  | textStart => place.before?.isNone
  | textEnd => place.behind?.isNone
  | lineStart => place.before?.isNone || place.before? == some '\n'
  | lineEnd => place.behind?.isNone || place.behind? == some '\n'
  | breakStart =>
    place.before?.isNone || place.before? == some '\n'
      || (place.before? == some '\r' && place.behind? != some '\n')
  | breakEnd =>
    place.behind?.isNone || place.behind? == some '\r'
      || (place.behind? == some '\n' && place.before? != some '\r')
  | word edge letters => edge.holds (place.before?.any letters.contains)
      (place.behind?.any letters.contains)

/-- What a pattern matches. -/
inductive Expression where
  /-- Nothing at all. -/
  | empty
  /-- One character of a set. -/
  | one (s : CharSet)
  /-- Nothing at all, at a place that meets a condition. -/
  | condition (c : Condition)
  /-- A match of one and then of the other. -/
  | sequence (a b : Expression)
  /-- A match of one or of the other. -/
  | either (a b : Expression)
  /-- Matches of one, at least and perhaps at most so many. -/
  | repetition (body : Expression) (least : Nat) (most? : Option Nat)
deriving DecidableEq, Repr

namespace Expression

/-- Whether nothing at all is a match at a place. -/
def accepts (place : Place) : Expression → Bool
  | empty => true
  | one _ => false
  | condition c => c.holds place
  | sequence a b => a.accepts place && b.accepts place
  | either a b => a.accepts place || b.accepts place
  | repetition body least _ => least == 0 || body.accepts place

/-- A match of one and then of the other. -/
def followedBy (a b : Expression) : Expression := if a = empty then b else sequence a b

/-- What may follow once the character behind a place is read. Where a
repeated part can match nothing, the repetitions still owed can all be made
at that place. -/
def after (place : Place) (c : Char) : Expression → List Expression
  | empty => []
  | one s => if s.contains c then [empty] else []
  | condition _ => []
  | sequence a b =>
    (a.after place c).map (·.followedBy b) ++ if a.accepts place then b.after place c else []
  | either a b => a.after place c ++ b.after place c
  | repetition body least most? =>
    if most? = some 0 then []
    else
      let owed := if body.accepts place then 0 else least - 1
      (body.after place c).map (·.followedBy (repetition body owed (most?.map (· - 1))))

/-- Whether a match ends in the rest of a text, either one that starts there or
one that was begun before and has `pending` still to come. -/
def foundFrom (e : Expression) (before? : Option Char) (pending : List Expression) : Text → Bool
  | [] => (e :: pending).any fun p => p.accepts ⟨before?, none⟩
  | c :: rest =>
    let place : Place := ⟨before?, some c⟩
    (e :: pending).any (fun p => p.accepts place)
      || foundFrom e (some c) ((e :: pending).flatMap fun p => p.after place c).eraseDups rest

/-- Whether a text holds a match. -/
def foundIn (e : Expression) (t : Text) : Bool := foundFrom e none [] t

/-! ### The size of an expression -/

/-- Whether an expression matches nothing but the empty stretch. -/
def isWidthless : Expression → Bool
  | empty => true
  | one _ => false
  | condition _ => true
  | sequence a b => a.isWidthless && b.isWidthless
  | either a b => a.isWidthless && b.isWidthless
  | repetition body _ most? => body.isWidthless || most? == some 0

/-- The octets that a state of a matcher takes. -/
def stateSize : Nat := 32

/-- The octets that a branch of a matcher takes. -/
def branchSize : Nat := 4

/-- The octets that a matcher with every repetition written out takes. A part
without a width is repeated once at most. -/
def size : Expression → Nat
  | empty => stateSize
  | one s => s.size
  | condition _ => stateSize
  | sequence a b => a.size + b.size
  | either a b => a.size + b.size + stateSize + branchSize
  | repetition body least most? =>
    let least := if body.isWidthless then min least 1 else least
    let loop := stateSize + 2 * branchSize
    match if body.isWidthless then some (min (most?.getD 1) 1) else most? with
    | none => max least 1 * body.size + loop
    | some most => least * body.size + (most - least) * (body.size + loop) + stateSize

end Expression

end GoXref.Pattern
