import GoXref.Pattern.Expression
import GoXref.Pattern.Tree

/-!
# `GoXref.Pattern.Meaning`: the expression of a tree

Flags are worked in from left to right. A flag speaks for all that follows it
in its group, alternatives included. Without the flag for Unicode, classes
are sets of octets, so one that is negated could match a part of a character
and is refused.

* `ClassTree.meaning?`: the set of a class.
* `Tree.meaning?`: the expression of a pattern, and the flags behind it.
-/

set_option autoImplicit false

namespace GoXref.Pattern

/-- The flags in force at a place of a pattern. -/
structure Flags where
  /-- Letters match in either case. -/
  ignoreCase : Bool := false
  /-- `^` and `$` match at line breaks too. -/
  multiLine : Bool := false
  /-- `.` matches line breaks too. -/
  dotAll : Bool := false
  /-- Classes are those of Unicode. -/
  unicode : Bool := true
  /-- A carriage return breaks lines too. -/
  carriageReturn : Bool := false
deriving DecidableEq, Repr

namespace Flags

/-- The flags with one of them changed. What is read or repeated otherwise has
no meaning of its own. -/
def change (f : Flags) : Flag × Bool → Flags
  | (.ignoreCase, on) => { f with ignoreCase := on }
  | (.multiLine, on) => { f with multiLine := on }
  | (.dotAll, on) => { f with dotAll := on }
  | (.unicode, on) => { f with unicode := on }
  | (.carriageReturn, on) => { f with carriageReturn := on }
  | (.swapGreed, _) => f
  | (.spaced, _) => f

/-- The flags with some of them changed. -/
def apply (f : Flags) (changes : FlagChanges) : Flags := changes.foldl change f

/-- A set in either case, if case does not matter. -/
def fold (f : Flags) (s : CharSet) : CharSet :=
  if !f.ignoreCase then s else if f.unicode then .anyCase s else .anyAsciiCase s

/-- A set or what is not in it. -/
def negate? (f : Flags) (place : Stretch) (negated : Bool) (s : CharSet) : Except Fault CharSet :=
  if !negated then .ok s else if f.unicode then .ok (.complement s) else fail .notText place

/-- The character of a literal. An octet outside ASCII is no character where
classes are sets of octets. -/
def charOf? (f : Flags) (l : Literal) : Except Fault Char :=
  if !f.unicode && l.octet && 0x80 ≤ l.char.toNat then fail .notText l.place else .ok l.char

/-- The character of a literal in a class. -/
def memberOf? (f : Flags) (l : Literal) : Except Fault Char := do
  let c ← f.charOf? l
  if !f.unicode && 0x80 ≤ c.toNat then fail .unicodeOff l.place else .ok c

/-- The set of a class behind a backslash. -/
def shorthand (f : Flags) : Shorthand → CharSet
  | .digit => if f.unicode then .digit else .asciiDigit
  | .blank => if f.unicode then .property .blank else .asciiBlank
  | .word => if f.unicode then .property .word else .asciiWord

/-- What words consist of. -/
def wordLetters (f : Flags) : CharSet := f.shorthand .word

/-- The set that a dot stands for. -/
def dot? (f : Flags) (place : Stretch) : Except Fault CharSet :=
  if !f.unicode then fail .notText place
  else if f.dotAll then .ok .all
  else if f.carriageReturn then .ok (.complement (.union (.single '\r') (.single '\n')))
  else .ok (.complement (.single '\n'))

/-- The condition that an assertion stands for. -/
def condition (f : Flags) : Assertion → Condition
  | .lineStart =>
    if !f.multiLine then .textStart else if f.carriageReturn then .breakStart else .lineStart
  | .lineEnd =>
    if !f.multiLine then .textEnd else if f.carriageReturn then .breakEnd else .lineEnd
  | .textStart => .textStart
  | .textEnd => .textEnd
  | .boundary => .word .boundary f.wordLetters
  | .noBoundary => .word .noBoundary f.wordLetters
  | .wordStart => .word .start f.wordLetters
  | .wordEnd => .word .stop f.wordLetters
  | .wordStartHalf => .word .startHalf f.wordLetters
  | .wordEndHalf => .word .stopHalf f.wordLetters

/-- The set of a property. -/
def property? (f : Flags) (place : Stretch) (name : PropertyName) : Except Fault CharSet :=
  if !f.unicode then fail .unicodeOff place
  else
    match name with
    | .plain name =>
      match Unicode.Property.ofName? name with
      | some p => .ok (.property p)
      | none => fail .propertyUnknown place
    | .valued name value =>
      match Unicode.Property.ofValue? name value with
      | .ok p => .ok (.property p)
      | .error .name => fail .propertyUnknown place
      | .error .value => fail .propertyValueUnknown place

end Flags

/-- The set of a named class of ASCII characters. -/
def AsciiClass.set : AsciiClass → CharSet
  | alnum => .union .asciiDigit .asciiLetter
  | alpha => .asciiLetter
  | ascii => .span '\x00' '\x7F'
  | blank => .union (.single '\t') (.single ' ')
  | cntrl => .union (.span '\x00' '\x1F') (.single '\x7F')
  | digit => .asciiDigit
  | graph => .span '!' '~'
  | lower => .asciiLower
  | print => .span ' ' '~'
  | punct => .asciiPunctuation
  | space => .asciiBlank
  | upper => .asciiUpper
  | word => .asciiWord
  | xdigit => .unionAll [.asciiDigit, .span 'A' 'F', .span 'a' 'f']

/-- The combination of two sets. -/
def ClassOperation.combine : ClassOperation → CharSet → CharSet → CharSet
  | intersection => .intersection
  | difference => .difference
  | symmetricDifference => .symmetricDifference

namespace ClassTree

mutual

/-- The set of a class. -/
def meaning? (f : Flags) : ClassTree → Except Fault CharSet
  | char l => do .ok (.single (← f.memberOf? l))
  | range _ lo hi => do
    let lo ← f.memberOf? lo
    .ok (.span lo (← f.memberOf? hi))
  | shorthand place kind negated => f.negate? place negated (f.shorthand kind)
  | ascii place kind negated => f.negate? place negated (f.fold kind.set)
  | property place name negated => do f.negate? place negated (f.fold (← f.property? place name))
  | bracket place negated body => do f.negate? place negated (f.fold (← body.meaning? f))
  | union _ items => do .ok (.unionAll (← meanings? f items))
  | combination _ operation left right => do
    let left ← left.meaning? f
    let right ← right.meaning? f
    .ok (operation.combine (f.fold left) (f.fold right))

/-- The sets of some classes. -/
def meanings? (f : Flags) : List ClassTree → Except Fault (List CharSet)
  | [] => .ok []
  | c :: rest => do
    let s ← c.meaning? f
    .ok (s :: (← meanings? f rest))

end

end ClassTree

namespace Expression

/-- A match of all, one after the other. -/
def inSequence : List Expression → Expression
  | [] => empty
  | [e] => e
  | e :: rest => sequence e (inSequence rest)

/-- A match of one of several. -/
def oneOf : List Expression → Expression
  | [] => one .none
  | [e] => e
  | e :: rest => either e (oneOf rest)

end Expression

namespace Tree

mutual

/-- The expression of a pattern under some flags, and the flags behind it. -/
def meaning? (f : Flags) : Tree → Except Fault (Expression × Flags)
  | empty _ => .ok (.empty, f)
  | flags _ changes => .ok (.empty, f.apply changes)
  | char l => do .ok (.one (f.fold (.single (← f.charOf? l))), f)
  | dot place => do .ok (.one (← f.dot? place), f)
  | assertion _ a => .ok (.condition (f.condition a), f)
  | oneOf c => do .ok (.one (← c.meaning? f), f)
  | repetition _ body least most? => do
    let (e, f) ← body.meaning? f
    .ok (.repetition e least most?, f)
  | group _ changes body => do
    let (e, _) ← body.meaning? (f.apply changes)
    .ok (e, f)
  | alternation _ branches => do
    let (es, f) ← meanings? f branches
    .ok (.oneOf es, f)
  | sequence _ parts => do
    let (es, f) ← meanings? f parts
    .ok (.inSequence es, f)

/-- The expressions of patterns in order, each under the flags that the one
before it leaves. -/
def meanings? (f : Flags) : List Tree → Except Fault (List Expression × Flags)
  | [] => .ok ([], f)
  | t :: rest => do
    let (e, f) ← t.meaning? f
    let (es, f) ← meanings? f rest
    .ok (e :: es, f)

end

end Tree

end GoXref.Pattern
