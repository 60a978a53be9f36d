import GoXref.Text.Basic

/-!
# `GoXref.Pattern.Fault`: what is wrong with a pattern

A fault names its cause and the stretch of the pattern that shows it, and
sometimes an earlier stretch that it conflicts with. The report repeats the
pattern with a row of carets under each stretch. A pattern of several lines
is repeated with line numbers.

* `Problem.message`: the cause in words.
* `Fault.report`: the whole report.
-/

set_option autoImplicit false

namespace GoXref.Pattern

/-- A stretch of a pattern. -/
structure Stretch where
  /-- The number of characters in front of it. -/
  start : Nat
  /-- The number of characters up to its end. -/
  stop : Nat
deriving DecidableEq, Repr

/-- The deepest nesting that a pattern may have. -/
def nestingLimit : Nat := 250

/-- What can be wrong with a pattern. -/
inductive Problem where
  | classEscape
  | classOrder
  | classBound
  | classUnclosed
  | numberInvalid
  | hexEmpty
  | hexInvalid
  | hexDigit
  | escapeUnfinished
  | escapeUnknown
  | flagDangling
  | flagRepeated
  | negationRepeated
  | flagUnfinished
  | flagUnknown
  | nameRepeated
  | nameEmpty
  | nameInvalid
  | nameUnfinished
  | groupUnclosed
  | groupUnopened
  | nesting
  | countOrder
  | countEmpty
  | countUnclosed
  | nothingRepeated
  | boundaryUnclosed
  | boundaryUnknown
  | boundaryUnfinished
  | propertyForm
  | backreference
  | lookAround
  | unicodeOff
  | notText
  | propertyUnknown
  | propertyValueUnknown
deriving DecidableEq, Repr

/-- The problem in words. -/
def Problem.message : Problem → String
  | classEscape => "invalid escape sequence found in character class"
  | classOrder => "invalid character class range, the start must be <= the end"
  | classBound => "invalid range boundary, must be a literal"
  | classUnclosed => "unclosed character class"
  | numberInvalid => "decimal literal invalid"
  | hexEmpty => "hexadecimal literal empty"
  | hexInvalid => "hexadecimal literal is not a Unicode scalar value"
  | hexDigit => "invalid hexadecimal digit"
  | escapeUnfinished => "incomplete escape sequence, reached end of pattern prematurely"
  | escapeUnknown => "unrecognized escape sequence"
  | flagDangling => "dangling flag negation operator"
  | flagRepeated => "duplicate flag"
  | negationRepeated => "flag negation operator repeated"
  | flagUnfinished => "expected flag but got end of regex"
  | flagUnknown => "unrecognized flag"
  | nameRepeated => "duplicate capture group name"
  | nameEmpty => "empty capture group name"
  | nameInvalid => "invalid capture group character"
  | nameUnfinished => "unclosed capture group name"
  | groupUnclosed => "unclosed group"
  | groupUnopened => "unopened group"
  | nesting => "exceed the maximum number of nested parentheses/brackets (250)"
  | countOrder => "invalid repetition count range, the start must be <= the end"
  | countEmpty => "repetition quantifier expects a valid decimal"
  | countUnclosed => "unclosed counted repetition"
  | nothingRepeated => "repetition operator missing expression"
  | boundaryUnclosed =>
    "special word boundary assertion is either unclosed or contains an invalid character"
  | boundaryUnknown =>
    "unrecognized special word boundary assertion, "
      ++ "valid choices are: start, end, start-half or end-half"
  | boundaryUnfinished =>
    "found either the beginning of a special word boundary or a bounded repetition "
      ++ "on a \\b with an opening brace, but no closing brace"
  | propertyForm => "invalid Unicode character class"
  | backreference => "backreferences are not supported"
  | lookAround => "look-around, including look-ahead and look-behind, is not supported"
  | unicodeOff => "Unicode not allowed here"
  | notText => "pattern can match invalid UTF-8"
  | propertyUnknown => "Unicode property not found"
  | propertyValueUnknown => "Unicode property value not found"

/-- A fault of a pattern. -/
structure Fault where
  /-- What is wrong. -/
  problem : Problem
  /-- Where it shows. -/
  place : Stretch
  /-- What it conflicts with, if that stands in front. -/
  earlier? : Option Stretch := none
deriving DecidableEq, Repr

/-- Reports a problem at a stretch. -/
def fail {α : Type} (problem : Problem) (place : Stretch) : Except Fault α :=
  .error ⟨problem, place, none⟩

/-! ### The report -/

/-- A place in a pattern by its line and its column, both from one. -/
structure Coordinate where
  /-- The line. -/
  line : Nat
  /-- The column. -/
  column : Nat
deriving DecidableEq, Repr

/-- The coordinate behind so many characters. -/
def coordinate (pattern : Text) (offset : Nat) : Coordinate :=
  (pattern.take offset).foldl
    (fun place c => if c = '\n' then ⟨place.line + 1, 1⟩ else ⟨place.line, place.column + 1⟩) ⟨1, 1⟩

/-- The lines of a pattern, without the line feed or the carriage return and
line feed at their ends. A line feed at the end of the pattern begins no
line. -/
def patternLines (pattern : Text) : List Text :=
  let cut := pattern.splitOn '\n'
  let whole := if cut.getLast? = some [] then cut.dropLast else cut
  whole.mapIdx fun i line =>
    if i + 1 < cut.length && line.getLast? = some '\r' then line.dropLast else line

/-- So many copies of a character. -/
def row (n : Nat) (c : Char) : Text := List.replicate n c

/-- A row of carets under stretches of one line, each by its first column and
its number of characters, in order. A stretch without characters has a caret
too. -/
def carets (done : Nat) : List (Nat × Nat) → Text
  | [] => []
  | (column, length) :: rest =>
    row (column - 1 - done) ' ' ++ row (max 1 length) '^'
      ++ carets (max done (column - 1) + max 1 length) rest

namespace Fault

/-- The stretches that a report points at, in order. -/
def stretches (f : Fault) : List Stretch :=
  match f.earlier? with
  | none => [f.place]
  | some earlier =>
    if earlier.start < f.place.start ∨ (earlier.start = f.place.start ∧ earlier.stop < f.place.stop)
    then [earlier, f.place]
    else [f.place, earlier]

/-- The stretches that lie within a line, by column and length. -/
def marks (f : Fault) (pattern : Text) (line : Nat) : List (Nat × Nat) :=
  f.stretches.filterMap fun s =>
    let start := coordinate pattern s.start
    let stop := coordinate pattern s.stop
    if start.line = line ∧ stop.line = line then some (start.column, stop.column - start.column)
    else none

/-- What is said of a stretch that reaches over several lines. -/
def note? (pattern : Text) (s : Stretch) : Option Text :=
  let start := coordinate pattern s.start
  let stop := coordinate pattern s.stop
  if start.line = stop.line then none
  else some ("on line ".toList ++ Text.decimal start.line ++ " (column ".toList
    ++ Text.decimal start.column ++ ") through line ".toList ++ Text.decimal stop.line
    ++ " (column ".toList ++ Text.decimal (stop.column - 1) ++ [')'])

/-- What stands in front of a line: four spaces, or its number if the pattern
has `count` lines. -/
def margin (count line : Nat) : Text :=
  if count ≤ 1 then row 4 ' '
  else (Text.decimal line).leftpad (Text.decimal count).length ' ' ++ [':', ' ']

/-- The lines of the pattern with carets under them. -/
def notated (f : Fault) (pattern : Text) : List Text :=
  let count := (pattern.splitOn '\n').length
  (patternLines pattern).zipIdx.flatMap fun (text, i) =>
    let margin := margin count (i + 1)
    match f.marks pattern (i + 1) with
    | [] => [margin ++ text]
    | marks => [margin ++ text, row margin.length ' ' ++ carets 0 marks]

/-- The rule above and below a pattern of several lines. -/
def rule : Text := row 79 '~'

/-- The report on a fault of a pattern. -/
def report (f : Fault) (pattern : Text) : Text :=
  let shown := f.notated pattern
  let notes := f.stretches.filterMap (note? pattern)
  let body :=
    if pattern.contains '\n' then
      rule :: shown ++ rule :: (if notes = [] then [] else [['\n'].intercalate notes])
    else shown
  Text.joinLines
    ("regex parse error:".toList :: body ++ ["error: ".toList ++ f.problem.message.toList])

end Fault

end GoXref.Pattern
