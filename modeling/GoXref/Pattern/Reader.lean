import GoXref.Pattern.ClassReader
import GoXref.Pattern.GroupHead

/-!
# `GoXref.Pattern.Reader`: the tree of a pattern

Parts of a pattern stand one after the other, bars separate alternatives,
parentheses hold groups, and a sign behind a part repeats it. The groups that
are still open are kept on a stack, so a pattern is read in one pass, and the
first fault ends the reading.

* `Tree.ofText`: the tree of a pattern, or its first fault.
-/

set_option autoImplicit false

namespace GoXref.Pattern

namespace Reader

/-- Alternatives that are being read. -/
structure Branches where
  /-- Where the first one starts. -/
  start : Nat
  /-- The finished alternatives, the last one first. -/
  finished : List Tree := []
  /-- Where the current one starts. -/
  current : Nat
  /-- The parts of the current one, the last one first. -/
  parts : List Tree := []

namespace Branches

/-- Nothing read yet. -/
def ofCursor (c : Cursor) : Branches := { start := c.offset, current := c.offset }

/-- Adds a part to the current alternative. -/
def push (b : Branches) (t : Tree) : Branches := { b with parts := t :: b.parts }

/-- The current alternative, which ends at the cursor. -/
def branch (b : Branches) (c : Cursor) : Tree :=
  match b.parts with
  | [] => .empty (c.since b.current)
  | [t] => t
  | _ => .sequence (c.since b.current) b.parts.reverse

/-- Ends the current alternative at a bar. -/
def bar (b : Branches) (c : Cursor) : Branches :=
  { start := b.start, finished := b.branch c :: b.finished, current := c.next.offset }

/-- All alternatives, which end at the cursor. -/
def toTree (b : Branches) (c : Cursor) : Tree :=
  match b.finished with
  | [] => b.branch c
  | _ => .alternation (c.since b.start) (b.finished.reverse ++ [b.branch c])

end Branches

/-- A group that is open. -/
structure OpenGroup where
  /-- Its opening parenthesis. -/
  opening : Stretch
  /-- Its own flags. -/
  changes : FlagChanges
  /-- Whether white space counts for nothing around it. -/
  spaced : Bool
  /-- What stands around it. -/
  around : Branches

/-- A pattern that is being read. -/
structure State where
  /-- The open groups, from the inside. -/
  groups : List OpenGroup := []
  /-- The alternatives of the innermost one. -/
  branches : Branches
  /-- The names of groups. -/
  names : GroupNames := []
  /-- The place reached. -/
  cursor : Cursor

namespace State

/-- Adds a part that ends at a cursor. -/
def push (s : State) (t : Tree) (behind : Cursor) : State :=
  { s with branches := s.branches.push t, cursor := behind }

/-- Opens a group. -/
def openGroup (s : State) (changes : FlagChanges) (names : GroupNames) (behind : Cursor) : State :=
  let spaced := (changes.lookup .spaced).getD s.cursor.spaced
  { groups := ⟨s.cursor.sign, changes, s.cursor.spaced, s.branches⟩ :: s.groups,
    branches := .ofCursor behind,
    names := names,
    cursor := { behind with spaced } }

/-- Closes the innermost group. -/
def closeGroup (s : State) : Except Fault State :=
  match s.groups with
  | [] => fail .groupUnopened s.cursor.sign
  | g :: groups =>
    let behind := { s.cursor.next with spaced := g.spaced }
    let group := .group (behind.since g.opening.start) g.changes (s.branches.toTree s.cursor)
    .ok { s with groups := groups, branches := g.around.push group, cursor := behind }

end State

/-- Reads the head of a group, or flags. -/
def parenthesis (s : State) : Except Fault State := do
  let (head, behind) ← GroupHead.read s.names s.cursor
  match head with
  | .group changes => .ok (s.openGroup changes s.names behind)
  | .named name place => .ok (s.openGroup [] ((name, place) :: s.names) behind)
  | .flags place changes =>
    let spaced := (changes.lookup .spaced).getD s.cursor.spaced
    .ok (s.push (.flags place changes) { behind with spaced })

/-- Takes the part that a repetition is about. -/
def repeated (s : State) : Except Fault (Tree × Branches) :=
  match s.branches.parts with
  | [] => fail .nothingRepeated s.cursor.here
  | .flags .. :: _ => fail .nothingRepeated s.cursor.here
  | t :: parts => .ok (t, { s.branches with parts })

/-- Puts a repeated part in place of the part. A question mark behind a
repetition makes it lazy, which does not change what it matches. -/
def repeatPart (s : State) (t : Tree) (rest : Branches) (least : Nat) (most? : Option Nat)
    (c : Cursor) : State :=
  let behind := if c.rest.head? = some '?' then c.next else c
  let tree := .repetition (behind.since t.place.start) t least most?
  { s with branches := rest.push tree, cursor := behind }

/-- The greatest count that a repetition can have. -/
def maxCount : Nat := 4294967295

/-- Reads a count, with white space around it passed over. `none` if there are
no digits. -/
def count? (c : Cursor) : Except Fault (Option Nat × Stretch × Cursor) :=
  let c := { c with rest := c.rest.dropWhile Unicode.isBlank }
  let (digits, stop) := c.takeSigns Char.isDigit
  let place := stop.since c.offset
  let (_, behind) := stop.takeSigns Unicode.isBlank
  let n := Nat.ofDigitChars 10 digits 0
  if digits = [] then .ok (none, place, behind)
  else if n ≤ maxCount then .ok (some n, place, behind)
  else fail .numberInvalid place

/-- Reads a repetition with counts in braces. A first count that cannot be
read is reported when it is needed. -/
def counted (s : State) : Except Fault State := do
  let start := s.cursor.offset
  let (t, rest) ← repeated s
  let c := s.cursor.advance
  if c.rest = [] then fail .countUnclosed (c.since start)
  let first := count? c
  let c := countEnd c
  if c.rest = [] then fail .countUnclosed (c.since start)
  let (least, most?, c) ←
    if c.startsWith "," then do
      let c := c.advance
      if c.rest = [] then fail .countUnclosed (c.since start)
      let least ← needed first
      if c.startsWith "\x7D" then pure (least, none, c)
      else do
        let second := count? c
        pure (least, some (← needed second), countEnd c)
    else do
      let least ← needed first
      pure (least, some least, c)
  if c.rest.head? ≠ some '\x7D' then fail .countUnclosed (c.since start)
  let s := repeatPart s t rest least most? c.advance
  if most?.any (· < least) then fail .countOrder (s.cursor.since start)
  .ok s
where
  /-- The cursor behind a count. -/
  countEnd (c : Cursor) : Cursor :=
    let c := { c with rest := c.rest.dropWhile Unicode.isBlank }
    ((c.takeSigns Char.isDigit).2.takeSigns Unicode.isBlank).2
  /-- The value of a count that must be there. -/
  needed (count : Except Fault (Option Nat × Stretch × Cursor)) : Except Fault Nat :=
    match count with
    | .error f => .error f
    | .ok (some n, _, _) => .ok n
    | .ok (none, place, _) => fail .countEmpty place

/-- Reads one part. -/
def part (s : State) : Except Fault State :=
  let c := s.cursor
  let single (t : Tree) : Except Fault State := .ok (s.push t c.next)
  match c.rest with
  | [] => .ok s
  | '.' :: _ => single (.dot c.sign)
  | '^' :: _ => single (.assertion c.sign .lineStart)
  | '$' :: _ => single (.assertion c.sign .lineEnd)
  | '\\' :: _ => do
    match ← Escape.read c with
    | (.char l, behind) => .ok (s.push (.char l) behind)
    | (.assertion place a, behind) => .ok (s.push (.assertion place a) behind)
    | (.set tree, behind) => .ok (s.push (.oneOf tree) behind)
  | '[' :: _ => do
    let (tree, behind) ← ClassReader.read c
    .ok (s.push (.oneOf tree) behind)
  | d :: _ => single (.char ⟨c.sign, d, false⟩)

/-- Reads one part, one repetition, one bar, or one parenthesis. -/
def step (s : State) : Except Fault State := do
  match s.cursor.rest with
  | '(' :: _ => parenthesis s
  | ')' :: _ => s.closeGroup
  | '|' :: _ => .ok { s with branches := s.branches.bar s.cursor, cursor := s.cursor.next }
  | '?' :: _ => simple 0 (some 1)
  | '*' :: _ => simple 0 none
  | '+' :: _ => simple 1 none
  | '\x7B' :: _ => counted s
  | _ => part s
where
  /-- Reads a repetition of one sign. -/
  simple (least : Nat) (most? : Option Nat) : Except Fault State := do
    let (t, rest) ← repeated s
    .ok (repeatPart s t rest least most? s.cursor.next)

/-- The tree of a pattern that is read to its end. -/
def finish (s : State) : Except Fault Tree :=
  match s.groups with
  | g :: _ => fail .groupUnclosed g.opening
  | [] => .ok (s.branches.toTree s.cursor)

/-- Takes steps up to the end of the pattern. Every step reads a character at
least, so as many steps suffice as there are characters. -/
def steps : Nat → State → Except Fault Tree
  | 0, s => finish s
  | n + 1, s =>
    let s := { s with cursor := s.cursor.skipSpace }
    if s.cursor.rest = [] then finish s
    else
      match step s with
      | .error f => .error f
      | .ok s => steps n s

end Reader

/-- The tree of a pattern, or its first fault. -/
def Tree.ofText (pattern : Text) : Except Fault Tree := do
  let c := Cursor.ofText pattern
  let tree ← Reader.steps (pattern.length + 1) { branches := .ofCursor c, cursor := c }
  match tree.deep? 0 with
  | some place => fail .nesting place
  | none => .ok tree

end GoXref.Pattern
