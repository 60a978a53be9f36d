import GoXref.Unicode.Category.Letter
import GoXref.Unicode.Category.Mark
import GoXref.Unicode.Category.Number
import GoXref.Unicode.Category.Punctuation
import GoXref.Unicode.Category.Symbol
import GoXref.Unicode.DecimalDigit

/-!
# `GoXref.Unicode.Category`: the general categories

Unicode 16.0 gives each code point one general category, known by two
letters. The tables beside this file hold the code points of most of them;
the short ones stand here.

* `Category.contains`: whether a code point has a category.
* `Category.ofName?`: the categories behind a name or a short name.
-/

set_option autoImplicit false

namespace GoXref.Unicode

/-- The general categories, by their short names. -/
inductive Category where
  | lu
  | ll
  | lt
  | lm
  | lo
  | mn
  | mc
  | me
  | nd
  | nl
  | no
  | pc
  | pd
  | ps
  | pe
  | pi
  | pf
  | po
  | sm
  | sc
  | sk
  | so
  | zs
  | zl
  | zp
  | cc
  | cf
  | co
  | cn
deriving DecidableEq, Repr

/-- Spaces, category Zs. -/
def spaceRanges : Ranges :=
  [(0x20, 0x20), (0xA0, 0xA0), (0x1680, 0x1680), (0x2000, 0x200A), (0x202F, 0x202F),
   (0x205F, 0x205F), (0x3000, 0x3000)]

/-- Controls, category Cc. -/
def controlRanges : Ranges := [(0x0, 0x1F), (0x7F, 0x9F)]

/-- Format controls, category Cf. -/
def formatRanges : Ranges :=
  [(0xAD, 0xAD), (0x600, 0x605), (0x61C, 0x61C), (0x6DD, 0x6DD), (0x70F, 0x70F), (0x890, 0x891),
   (0x8E2, 0x8E2), (0x180E, 0x180E), (0x200B, 0x200F), (0x202A, 0x202E), (0x2060, 0x2064),
   (0x2066, 0x206F), (0xFEFF, 0xFEFF), (0xFFF9, 0xFFFB), (0x110BD, 0x110BD), (0x110CD, 0x110CD),
   (0x13430, 0x1343F), (0x1BCA0, 0x1BCA3), (0x1D173, 0x1D17A), (0xE0001, 0xE0001),
   (0xE0020, 0xE007F)]

/-- Code points for private use, category Co. -/
def privateUseRanges : Ranges := [(0xE000, 0xF8FF), (0xF0000, 0xFFFFD), (0x100000, 0x10FFFD)]

example : formatRanges.isAscending := by decide +kernel

/-- Whether a code point stands in a stretch of letter pairs, at an even or an
odd distance from its start. -/
def isPaired (parity n : Nat) : Bool :=
  letterPairRanges.any fun r => decide (r.1 ≤ n ∧ n ≤ r.2) && (n - r.1) % 2 == parity

namespace Category

/-- The categories that code points are assigned to. -/
def assigned : List Category :=
  [lu, ll, lt, lm, lo, mn, mc, me, nd, nl, no, pc, pd, ps, pe, pi, pf, po, sm, sc, sk, so, zs, zl,
    zp, cc, cf, co]

/-- Whether a code point has a category, other than that of the unassigned. -/
def lists (category : Category) (n : Nat) : Bool :=
  match category with
  | lu => uppercaseLetterRanges.contains n || isPaired 0 n
  | ll => lowercaseLetterRanges.contains n || isPaired 1 n
  | lt => titlecaseLetterRanges.contains n
  | lm => modifierLetterRanges.contains n
  | lo => otherLetterRanges.contains n
  | mn => nonspacingMarkRanges.contains n
  | mc => spacingMarkRanges.contains n
  | me => enclosingMarkRanges.contains n
  | nd => decimalDigitRanges.contains n
  | nl => letterNumberRanges.contains n
  | no => otherNumberRanges.contains n
  | pc => connectorRanges.contains n
  | pd => dashRanges.contains n
  | ps => openingRanges.contains n
  | pe => closingRanges.contains n
  | pi => initialQuoteRanges.contains n
  | pf => finalQuoteRanges.contains n
  | po => otherPunctuationRanges.contains n
  | sm => mathSymbolRanges.contains n
  | sc => currencySymbolRanges.contains n
  | sk => modifierSymbolRanges.contains n
  | so => otherSymbolRanges.contains n
  | zs => spaceRanges.contains n
  | zl => n == 0x2028
  | zp => n == 0x2029
  | cc => controlRanges.contains n
  | cf => formatRanges.contains n
  | co => privateUseRanges.contains n
  | cn => false

/-- Whether a code point has a category. -/
def contains (category : Category) (n : Nat) : Bool :=
  match category with
  | cn => assigned.all fun other => !other.lists n
  | _ => category.lists n

/-- The letters, category L. -/
def letters : List Category := [lu, ll, lt, lm, lo]

/-- The marks, category M. -/
def marks : List Category := [mn, mc, me]

/-- The names of categories and groups of them, in lowercase and without
separators. -/
def names : List (List String × List Category) :=
  [(["l", "letter"], letters),
   (["lc", "casedletter"], [lu, ll, lt]),
   (["lu", "uppercaseletter"], [lu]),
   (["ll", "lowercaseletter"], [ll]),
   (["lt", "titlecaseletter"], [lt]),
   (["lm", "modifierletter"], [lm]),
   (["lo", "otherletter"], [lo]),
   (["m", "mark", "combiningmark"], marks),
   (["mn", "nonspacingmark"], [mn]),
   (["mc", "spacingmark"], [mc]),
   (["me", "enclosingmark"], [me]),
   (["n", "number"], [nd, nl, no]),
   (["nd", "decimalnumber", "digit"], [nd]),
   (["nl", "letternumber"], [nl]),
   (["no", "othernumber"], [no]),
   (["p", "punctuation", "punct"], [pc, pd, ps, pe, pi, pf, po]),
   (["pc", "connectorpunctuation"], [pc]),
   (["pd", "dashpunctuation"], [pd]),
   (["ps", "openpunctuation"], [ps]),
   (["pe", "closepunctuation"], [pe]),
   (["pi", "initialpunctuation"], [pi]),
   (["pf", "finalpunctuation"], [pf]),
   (["po", "otherpunctuation"], [po]),
   (["s", "symbol"], [sm, sc, sk, so]),
   (["sm", "mathsymbol"], [sm]),
   (["sc", "currencysymbol"], [sc]),
   (["sk", "modifiersymbol"], [sk]),
   (["so", "othersymbol"], [so]),
   (["z", "separator"], [zs, zl, zp]),
   (["zs", "spaceseparator"], [zs]),
   (["zl", "lineseparator"], [zl]),
   (["zp", "paragraphseparator"], [zp]),
   (["c", "other"], [cc, cf, co, cn]),
   (["cc", "control", "cntrl"], [cc]),
   (["cf", "format"], [cf]),
   (["co", "privateuse"], [co]),
   (["cn", "unassigned"], [cn])]

/-- The categories behind a name. -/
def ofName? (name : String) : Option (List Category) :=
  (names.find? fun entry => entry.1.contains name).map Prod.snd

end Category

end GoXref.Unicode
