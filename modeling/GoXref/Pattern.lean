import GoXref.Pattern.Meaning
import GoXref.Pattern.Reader

/-!
# `GoXref.Pattern`: patterns for text

A pattern describes texts: letters stand for themselves, other signs for
sets, repetitions, alternatives and conditions. It is looked for anywhere in
a text.

* `Pattern.ofText`: the pattern that a text writes, or what is wrong with it.
* `Pattern.isIn`: whether a text holds a match.
-/

set_option autoImplicit false

namespace GoXref

/-- A pattern for text. -/
structure Pattern where
  /-- What it matches. -/
  expression : Pattern.Expression
deriving DecidableEq, Repr

/-- Why a text is no pattern. -/
inductive PatternError where
  /-- A fault in the text. -/
  | faulty (pattern : Text) (fault : Pattern.Fault)
  /-- A pattern with too many repetitions to write out. -/
  | tooLarge
deriving DecidableEq, Repr

namespace Pattern

/-- The octets that a pattern may take with its repetitions written out. -/
def sizeLimit : Nat := 10485760

/-- The octets that every pattern takes. -/
def baseSize : Nat := 200

/-- The pattern that a text writes. -/
def ofText (text : Text) : Except PatternError Pattern :=
  match Tree.ofText text with
  | .error fault => .error (.faulty text fault)
  | .ok tree =>
    match tree.meaning? {} with
    | .error fault => .error (.faulty text fault)
    | .ok (expression, _) =>
      if sizeLimit < expression.size + baseSize then .error .tooLarge else .ok ⟨expression⟩

/-- Whether a text holds a match. -/
def isIn (p : Pattern) (t : Text) : Bool := p.expression.foundIn t

end Pattern

/-- What is wrong, in words. -/
def PatternError.message : PatternError → Text
  | faulty pattern fault => fault.report pattern
  | tooLarge =>
    "Compiled regex exceeds size limit of ".toList ++ Text.decimal Pattern.sizeLimit
      ++ " bytes.".toList

end GoXref
