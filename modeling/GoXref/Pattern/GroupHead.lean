import GoXref.Pattern.Cursor
import GoXref.Pattern.Tree

/-!
# `GoXref.Pattern.GroupHead`: what an opening parenthesis begins

A parenthesis opens a group, which may have a name or flags of its own, or it
holds nothing but flags for what follows. Looking around the place reached
without reading it is refused.

* `GroupHead.read`: the head at a cursor, and the cursor behind it.
-/

set_option autoImplicit false

namespace GoXref.Pattern

/-- The names of groups met so far, and where they stand. -/
abbrev GroupNames := List (Text × Stretch)

/-- What an opening parenthesis begins. -/
inductive GroupHead where
  /-- A group with flags of its own. -/
  | group (changes : FlagChanges)
  /-- A group with a name. -/
  | named (name : Text) (place : Stretch)
  /-- Flags for what follows, closed by a parenthesis of their own. -/
  | flags (place : Stretch) (changes : FlagChanges)

namespace GroupHead

/-- The letters of the flags. -/
def letters : List (Char × Flag) :=
  [('i', .ignoreCase), ('m', .multiLine), ('s', .dotAll), ('U', .swapGreed), ('u', .unicode),
    ('R', .carriageReturn), ('x', .spaced)]

/-- The flags read so far. -/
structure FlagsRead where
  /-- The flags, each with the place of its letter, the last one first. -/
  flags : List (Flag × Bool × Stretch) := []
  /-- Where the sign stands that switches the flags behind it off. -/
  negation? : Option Stretch := none
  /-- Whether that sign is the last one read. -/
  dangling : Bool := false

/-- Reads one sign among flags. -/
def readFlag (read : FlagsRead) (sign : Char) (place : Stretch) : Except Fault FlagsRead :=
  if sign = '-' then
    match read.negation? with
    | some earlier => .error ⟨.negationRepeated, place, some earlier⟩
    | none => .ok { read with negation? := some place, dangling := true }
  else
    match letters.lookup sign with
    | none => fail .flagUnknown place
    | some flag =>
      match read.flags.find? fun earlier => earlier.1 = flag with
      | some earlier => .error ⟨.flagRepeated, place, some earlier.2.2⟩
      | none =>
        .ok { read with
          flags := (flag, read.negation?.isNone, place) :: read.flags, dangling := false }

/-- Reads flags up to a colon or a closing parenthesis, where the cursor is
left. -/
def readFlags : Nat → FlagsRead → Cursor → Except Fault (FlagChanges × Cursor)
  | 0, _, c => fail .flagUnfinished c.here
  | n + 1, read, c =>
    match c.rest with
    | [] => fail .flagUnfinished c.here
    | sign :: _ =>
      if sign = ':' || sign = ')' then
        match read.dangling, read.negation? with
        | true, some place => fail .flagDangling place
        | _, _ => .ok (read.flags.reverse.map fun (flag, on, _) => (flag, on), c)
      else
        match readFlag read sign c.sign with
        | .error f => .error f
        | .ok read => readFlags n read c.next

/-- Whether a character can stand in the name of a group. -/
def isNameChar (first : Bool) (c : Char) : Bool :=
  c = '_' ||
    if first then Unicode.Property.alphabetic.contains c
    else c = '.' || c = '[' || c = ']' || Unicode.alphanumericRanges.contains c.toNat

/-- Reads the characters of a name up to the angle bracket that closes it. -/
def readNameChars (first : Bool) : Nat → Cursor → Except Fault (Text × Cursor)
  | 0, c => fail .nameUnfinished c.here
  | n + 1, c =>
    match c.rest with
    | [] => fail .nameUnfinished c.here
    | '>' :: _ => .ok ([], c)
    | d :: _ =>
      if isNameChar first d then do
        let (name, stop) ← readNameChars false n c.next
        .ok (d :: name, stop)
      else fail .nameInvalid c.sign

/-- Reads the name of a group. -/
def readName (names : GroupNames) (c : Cursor) : Except Fault (GroupHead × Cursor) := do
  let (name, stop) ← readNameChars true (c.rest.length + 1) c
  let place := stop.since c.offset
  if name = [] then fail .nameEmpty c.here
  match names.lookup name with
  | some earlier => .error ⟨.nameRepeated, place, some earlier⟩
  | none => .ok (.named name place, stop.next)

/-- The signs that would look around. -/
def lookArounds : List String := ["?=", "?!", "?<=", "?<!"]

/-- Reads the head at a cursor, which stands at the parenthesis. -/
def read (names : GroupNames) (c : Cursor) : Except Fault (GroupHead × Cursor) :=
  let opening := c.sign
  let c := c.advance
  match lookArounds.find? c.startsWith with
  | some sign => fail .lookAround ⟨opening.start, c.offset + sign.length⟩
  | none =>
    if c.startsWith "?P<" then readName names (c.skip 3)
    else if c.startsWith "?<" then readName names (c.skip 2)
    else if c.startsWith "?" then
      if c.next.rest = [] then fail .groupUnclosed opening
      else
        match readFlags (c.rest.length + 1) {} c.next with
        | .error f => .error f
        | .ok (changes, stop) =>
          if stop.startsWith ":" then .ok (.group changes, stop.next)
          else if changes = [] then fail .nothingRepeated c.here
          else .ok (.flags ⟨opening.start, stop.offset + 1⟩ changes, stop.next)
    else .ok (.group [], c)

end GroupHead

end GoXref.Pattern
