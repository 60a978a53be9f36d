import GoXref.Text.Basic
import GoXref.Unicode.Alphanumeric
import GoXref.Unicode.Category
import GoXref.Unicode.Script

/-!
# `GoXref.Unicode.Property`: properties of characters, by name

The properties of Unicode 16.0 that a pattern can ask for. Names are matched
loosely: case, spaces, underscores, hyphens and an `is` in front do not
matter.

* `Property.contains`: whether a character has a property.
* `Property.ofName?`, `Property.ofValue?`: the property behind a name, and
  behind a name and a value.
-/

set_option autoImplicit false
set_option maxRecDepth 8000

namespace GoXref.Unicode

/-- Uppercase characters that are no uppercase letters. -/
def otherUppercaseRanges : Ranges :=
  [(0x2160, 0x216F), (0x24B6, 0x24CF), (0x1F130, 0x1F149), (0x1F150, 0x1F169), (0x1F170, 0x1F189)]

/-- Lowercase characters that are no lowercase letters. -/
def otherLowercaseRanges : Ranges :=
  [(0xAA, 0xAA), (0xBA, 0xBA), (0x2B0, 0x2B8), (0x2C0, 0x2C1), (0x2E0, 0x2E4), (0x345, 0x345),
   (0x37A, 0x37A), (0x10FC, 0x10FC), (0x1D2C, 0x1D6A), (0x1D78, 0x1D78), (0x1D9B, 0x1DBF),
   (0x2071, 0x2071), (0x207F, 0x207F), (0x2090, 0x209C), (0x2170, 0x217F), (0x24D0, 0x24E9),
   (0x2C7C, 0x2C7D), (0xA69C, 0xA69D), (0xA770, 0xA770), (0xA7F2, 0xA7F4), (0xA7F8, 0xA7F9),
   (0xAB5C, 0xAB5F), (0xAB69, 0xAB69), (0x10780, 0x10780), (0x10783, 0x10785),
   (0x10787, 0x107B0), (0x107B2, 0x107BA), (0x1E030, 0x1E06D)]

example : otherLowercaseRanges.isAscending := by decide +kernel

/-- The two joiners, which hold words together. -/
def joinerRanges : Ranges := [(0x200C, 0x200D)]

/-- A property of characters. -/
inductive Property where
  /-- Every character has it. -/
  | any
  /-- The characters of ASCII. -/
  | ascii
  /-- The characters that have a meaning. -/
  | assigned
  /-- Letters, and marks that count as letters. -/
  | alphabetic
  | uppercase
  | lowercase
  /-- White space. -/
  | blank
  /-- What words consist of. -/
  | word
  /-- The characters of some general categories. -/
  | categories (list : List Category)
  /-- The characters of a script. -/
  | script (members : Ranges)
deriving DecidableEq, Repr

namespace Property

/-- Whether a code point belongs to one of some categories. -/
def isOf (list : List Category) (n : Nat) : Bool := list.any fun category => category.contains n

/-- Whether a code point is a letter, or a mark that counts as one. -/
def isAlphabetic (n : Nat) : Bool :=
  alphanumericRanges.contains n && !isOf [.nd, .no, .cn] n

/-- Whether a code point can stand in a word. -/
def isWord (n : Nat) : Bool :=
  isAlphabetic n || isOf (.nd :: .pc :: Category.marks) n || joinerRanges.contains n

/-- Whether a character has a property. -/
def contains (property : Property) (c : Char) : Bool :=
  match property with
  | any => true
  | ascii => c.toNat < 0x80
  | assigned => !Category.cn.contains c.toNat
  | alphabetic => isAlphabetic c.toNat
  | uppercase => Category.lu.contains c.toNat || otherUppercaseRanges.contains c.toNat
  | lowercase => Category.ll.contains c.toNat || otherLowercaseRanges.contains c.toNat
  | blank => isBlank c
  | word => isWord c.toNat
  | categories list => isOf list c.toNat
  | script members => members.contains c.toNat

/-! ### Names -/

/-- Whether a name has `is` in front, in capitals or not. -/
def hasIs (name : Text) : Bool := ((name.take 2).map Char.toLower) == ['i', 's']

/-- Whether a character counts in a name. -/
def counts (c : Char) : Bool := c.toNat < 0x80 && c ≠ ' ' && c ≠ '_' && c ≠ '-'

/-- A name without what does not matter in it. The name `isc` keeps its `is`,
for it is no name of the category `c`. -/
def looseName (name : Text) : String :=
  let bare := ((if hasIs name then name.drop 2 else name).filter counts).map Char.toLower
  if hasIs name && bare == ['c'] then "isc" else String.ofList bare

/-- The properties with a name of their own. -/
def names : List (List String × Property) :=
  [(["alphabetic", "alpha"], alphabetic),
   (["uppercase", "upper"], uppercase),
   (["lowercase", "lower"], lowercase),
   (["whitespace", "wspace", "space"], blank)]

/-- The property behind the name of a general category. -/
def ofCategoryName? (name : String) : Option Property :=
  if name = "any" then some any
  else if name = "assigned" then some assigned
  else if name = "ascii" then some ascii
  else (Category.ofName? name).map categories

/-- The property behind the name of a script. -/
def ofScriptName? (name : String) : Option Property := (scriptRanges? name).map script

/-- The property behind a name: a property of that name, or a general category,
or a script. -/
def ofName? (name : Text) : Option Property :=
  match names.find? fun entry => entry.1.contains (looseName name) with
  | some entry => some entry.2
  | none => (ofCategoryName? (looseName name)).or (ofScriptName? (looseName name))

/-- Why a name and a value stand for no property. -/
inductive Unknown where
  | name
  | value
deriving DecidableEq, Repr

/-- The property behind a name and a value. -/
def ofValue? (name value : Text) : Except Unknown Property :=
  let behind (property? : Option Property) : Except Unknown Property :=
    match property? with
    | some property => .ok property
    | none => .error .value
  if ["gc", "generalcategory"].contains (looseName name) then
    behind (ofCategoryName? (looseName value))
  else if ["sc", "script"].contains (looseName name) then
    behind (ofScriptName? (looseName value))
  else .error .name

end Property

end GoXref.Unicode
