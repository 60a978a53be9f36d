import GoXref.Pattern.Escape

/-!
# `GoXref.Pattern.ClassReader`: classes in square brackets

Inside the brackets stand characters, stretches of characters, named classes
and further brackets. The operators `&&`, `--` and `~~` combine what stands
on their two sides, from left to right. The brackets that are still open are
kept on a stack, so a class is read in one pass.

* `ClassReader.read`: the class at a cursor, and the cursor behind it.
-/

set_option autoImplicit false

namespace GoXref.Pattern

/-- Classes side by side, as far as they are read. -/
structure ClassItems where
  /-- Where they stand. -/
  place : Stretch
  /-- The classes, the last one first. -/
  items : List ClassTree := []

namespace ClassItems

/-- Adds a class. -/
def push (u : ClassItems) (c : ClassTree) : ClassItems where
  place := ⟨if u.items = [] then c.place.start else u.place.start, c.place.stop⟩
  items := c :: u.items

/-- The classes as one. -/
def toTree (u : ClassItems) : ClassTree :=
  match u.items with
  | [c] => c
  | _ => .union u.place u.items.reverse

end ClassItems

/-- An operator that waits for its right side. -/
structure PendingOperation where
  /-- The operator. -/
  operation : ClassOperation
  /-- The left side. -/
  left : ClassTree

/-- A bracket that is open. -/
structure OpenBracket where
  /-- Where it was opened, with the signs that belong to the opening. -/
  place : Stretch
  /-- Whether the class is negated. -/
  negated : Bool
  /-- The operator that waits in it. -/
  pending? : Option PendingOperation := none
  /-- What stands beside the bracket in the class around it. -/
  around : ClassItems

namespace OpenBracket

/-- What the bracket holds once `right` is read. -/
def combine (b : OpenBracket) (right : ClassTree) : ClassTree :=
  match b.pending? with
  | none => right
  | some p => .combination ⟨p.left.place.start, right.place.stop⟩ p.operation p.left right

end OpenBracket

namespace ClassReader

/-- A class that is being read. -/
structure State where
  /-- The innermost open bracket. -/
  inner : OpenBracket
  /-- The brackets around it, from the inside. -/
  outer : List OpenBracket
  /-- What is read behind the bracket or its last operator. -/
  items : ClassItems
  /-- The place reached. -/
  cursor : Cursor

/-- What comes of one step. -/
inductive Progress where
  /-- More is to be read. -/
  | more (s : State)
  /-- The outermost bracket is closed. -/
  | done (c : ClassTree) (behind : Cursor)

/-- The hyphens that stand right behind an opening, which are no operators. -/
def hyphens (start : Nat) : Nat → ClassItems → Cursor → Except Fault (ClassItems × Cursor)
  | 0, items, c => .ok (items, c)
  | n + 1, items, c =>
    match c.rest with
    | '-' :: _ =>
      if c.advance.rest = [] then fail .classUnclosed ⟨start, start⟩
      else hyphens start n (items.push (.char ⟨c.sign, '-', false⟩)) c.advance
    | _ => .ok (items, c)

/-- Opens a bracket inside `around`. A closing bracket right behind the opening
stands for itself. -/
def openBracket (around : ClassItems) (c : Cursor) :
    Except Fault (OpenBracket × ClassItems × Cursor) := do
  let start := c.offset
  let c := c.advance
  if c.rest = [] then fail .classUnclosed (c.since start)
  let negated := c.rest.head? = some '^'
  let c := if negated then c.advance else c
  if c.rest = [] then fail .classUnclosed (c.since start)
  let (items, c) ← hyphens start c.rest.length ⟨c.here, []⟩ c
  if items.items.isEmpty && c.rest.head? = some ']' then
    let items := items.push (.char ⟨c.sign, ']', false⟩)
    if c.advance.rest = [] then fail .classUnclosed (c.advance.since start)
    .ok (⟨c.advance.since start, negated, none, around⟩, items, c.advance)
  else .ok (⟨c.since start, negated, none, around⟩, items, c)

/-- The named classes of ASCII characters. -/
def asciiNames : List (String × AsciiClass) :=
  [("alnum", .alnum), ("alpha", .alpha), ("ascii", .ascii), ("blank", .blank), ("cntrl", .cntrl),
    ("digit", .digit), ("graph", .graph), ("lower", .lower), ("print", .print), ("punct", .punct),
    ("space", .space), ("upper", .upper), ("word", .word), ("xdigit", .xdigit)]

/-- The named class at a cursor, if one stands there. -/
def ascii? (c : Cursor) : Option (ClassTree × Cursor) :=
  if c.startsWith "[:" then
    let inside := c.skip 2
    let negated := inside.rest.head? = some '^'
    let inside := if negated then inside.next else inside
    let name := inside.rest.takeWhile (· ≠ ':')
    let stop := inside.skip name.length
    if stop.startsWith ":]" then
      let behind := stop.skip 2
      (asciiNames.lookup (String.ofList name)).map fun kind =>
        (.ascii (behind.since c.offset) kind negated, behind)
    else none
  else none

/-- Reads one character or one class. -/
def atom (c : Cursor) : Except Fault (Atom × Cursor) :=
  match c.rest with
  | [] => fail .classUnclosed c.here
  | '\\' :: _ => Escape.read c
  | d :: _ => .ok (.char ⟨c.sign, d, false⟩, c.next)

/-- The class that an atom stands for by itself. -/
def itemOf : Atom → Except Fault ClassTree
  | .char l => .ok (.char l)
  | .set t => .ok t
  | .assertion place _ => fail .classEscape place

/-- The character that an atom stands for as the end of a stretch. -/
def boundOf : Atom → Except Fault Literal
  | .char l => .ok l
  | .set t => fail .classBound t.place
  | .assertion place _ => fail .classBound place

/-- Where an atom ends. -/
def stopOf : Atom → Nat
  | .char l => l.place.stop
  | .set t => t.place.stop
  | .assertion place _ => place.stop

/-- Where an atom starts. -/
def startOf : Atom → Nat
  | .char l => l.place.start
  | .set t => t.place.start
  | .assertion place _ => place.start

/-- Reads one item: a character, a class, or a stretch of characters. -/
def item (unclosed : Stretch) (c : Cursor) : Except Fault (ClassTree × Cursor) := do
  let (first, c) ← atom c
  let c := c.skipSpace
  if c.rest = [] then fail .classUnclosed unclosed
  if c.rest.head? ≠ some '-' || c.peekSign? = some ']' || c.peekSign? = some '-' then
    .ok (← itemOf first, c)
  else
    let c := c.advance
    if c.rest = [] then fail .classUnclosed unclosed
    let (last, c) ← atom c
    let place : Stretch := ⟨startOf first, stopOf last⟩
    let lo ← boundOf first
    let hi ← boundOf last
    if lo.char ≤ hi.char then .ok (.range place lo hi, c) else fail .classOrder place

/-- Notes an operator of two characters. -/
def operate (operation : ClassOperation) (s : State) : State :=
  let left := s.inner.combine s.items.toTree
  let behind := s.cursor.skip 2
  { s with
    inner := { s.inner with pending? := some ⟨operation, left⟩ },
    items := ⟨behind.here, []⟩,
    cursor := behind }

/-- Closes the innermost bracket. -/
def close (s : State) : Progress :=
  let behind := s.cursor.next
  let tree := .bracket (behind.since s.inner.place.start) s.inner.negated
    (s.inner.combine s.items.toTree)
  match s.outer with
  | [] => .done tree behind
  | inner :: outer => .more ⟨inner, outer, s.inner.around.push tree, behind⟩

/-- Reads one item, one operator, or one bracket. -/
def step (s : State) : Except Fault Progress := do
  let c := s.cursor.skipSpace
  let s := { s with cursor := c }
  if c.rest = [] then fail .classUnclosed s.inner.place
  else if c.startsWith "[" then
    match ascii? c with
    | some (tree, behind) =>
      .ok (.more { s with items := s.items.push tree, cursor := behind })
    | none =>
      let (inner, items, behind) ← openBracket s.items c
      .ok (.more ⟨inner, s.inner :: s.outer, items, behind⟩)
  else if c.startsWith "]" then .ok (close s)
  else if c.startsWith "&&" then .ok (.more (operate .intersection s))
  else if c.startsWith "--" then .ok (.more (operate .difference s))
  else if c.startsWith "~~" then .ok (.more (operate .symmetricDifference s))
  else
    let (tree, behind) ← item s.inner.place c
    .ok (.more { s with items := s.items.push tree, cursor := behind })

/-- Takes steps up to the end of the class. Every step reads a character at
least, so as many steps suffice as there are characters, and one more finds
the pattern at its end. -/
def steps : Nat → State → Except Fault (ClassTree × Cursor)
  | 0, s => fail .classUnclosed s.inner.place
  | n + 1, s =>
    match step s with
    | .error f => .error f
    | .ok (.done c behind) => .ok (c, behind)
    | .ok (.more s) => steps n s

/-- Reads the class at a cursor. -/
def read (c : Cursor) : Except Fault (ClassTree × Cursor) := do
  let (inner, items, behind) ← openBracket ⟨c.here, []⟩ c
  steps (behind.rest.length + 1) ⟨inner, [], items, behind⟩

end ClassReader

end GoXref.Pattern
