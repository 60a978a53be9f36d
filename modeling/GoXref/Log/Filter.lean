import GoXref.Log
import GoXref.Pattern
import GoXref.Text.Utf8

/-!
# `GoXref.Log.Filter`: which records are shown

A filter holds directives. Each says down to which level records are shown,
for the sources whose name starts with the directive's name. A directive
without a name speaks for all sources. Of the directives that speak for a
source the one with the longest name counts, and of equally long ones the
last.

A specification lists directives between commas, such as
`warn,go_references::tool=debug`. Behind a slash it may give a pattern that
the message of a record must hold to be shown.

* `LogFilter.ofSpecification`: a specification added to the plain filter.
* `LogFilter.shows`: whether a record is shown.
-/

set_option autoImplicit false

namespace GoXref

/-- A level to show records up to, `none` to show none at all. -/
abbrev LogThreshold := Option LogLevel

/-- The word for each threshold. -/
def thresholdWords : List (String × LogThreshold) :=
  [("off", none), ("error", some .error), ("warn", some .warn), ("info", some .info),
    ("debug", some .debug), ("trace", some .trace)]

/-- The threshold a word stands for, in capitals or not. -/
def LogThreshold.ofText? (t : Text) : Option LogThreshold :=
  thresholdWords.lookup (String.ofList (t.map Char.toLower))

/-- The threshold for some of the sources. -/
structure Directive where
  /-- What the names of the sources start with, `none` for all sources. -/
  name? : Option Text
  /-- The level to show. -/
  threshold : LogThreshold
deriving DecidableEq, Repr

/-- What is wrong with a specification, or with one part of it. -/
inductive SpecificationError where
  /-- A text that is no directive. -/
  | malformed (part : Text)
  /-- A specification with more than one slash. -/
  | slashes (specification : Text)
  /-- A text behind the slash that is no pattern. -/
  | pattern (e : PatternError)
deriving DecidableEq, Repr

/-- The complaint about a specification. -/
def SpecificationError.message : SpecificationError → Text
  | malformed part => "invalid logging spec '".toList ++ part ++ ['\'']
  | slashes specification =>
    "invalid logging spec '".toList ++ specification ++ "' (too many '/'s)".toList
  | pattern e => "invalid regex filter - ".toList ++ e.message

namespace Directive

/-- The directive in one part of a specification. -/
def ofText (part : Text) : Except SpecificationError Directive :=
  match part.splitOn '=' with
  | [name] =>
    match LogThreshold.ofText? name with
    | some threshold => .ok ⟨none, threshold⟩
    | none => .ok ⟨some name, some .trace⟩
  | [name, value] =>
    if Text.trim value = [] then .ok ⟨some name, some .trace⟩
    else
      match LogThreshold.ofText? (Text.trim value) with
      | some threshold => .ok ⟨some name, threshold⟩
      | none => .error (.malformed (Text.trim value))
  | _ => .error (.malformed part)

/-- The octets in the directive's name. -/
def nameSize (d : Directive) : Nat := ((d.name?.map Utf8.size).getD 0)

/-- Whether the directive speaks for a source. -/
def covers (d : Directive) (source : Text) : Bool :=
  match d.name? with
  | none => true
  | some name => name.isPrefixOf source

end Directive

/-- Which records are shown. -/
structure LogFilter where
  /-- The directives, each with a name of its own. -/
  directives : List Directive
  /-- A pattern that the message of a shown record holds. -/
  pattern? : Option Pattern := none
deriving DecidableEq, Repr

namespace LogFilter

/-- The filter that shows records of every source down to debugging. -/
def plain : LogFilter where
  directives := [⟨none, some .debug⟩]

/-- Adds a directive, in place of one with the same name. -/
def insert (f : LogFilter) (d : Directive) : LogFilter :=
  if f.directives.any fun e => e.name? = d.name? then
    { f with directives := f.directives.map fun e => if e.name? = d.name? then d else e }
  else { f with directives := f.directives ++ [d] }

/-- The parts of a list with commas, without blanks around them. -/
def parts (list : Text) : List Text := ((list.splitOn ',').map Text.trim).filter fun t => t ≠ []

/-- Adds the directives of a list with commas, as far as they are sound. -/
def insertAll (f : LogFilter) (list : Text) : LogFilter :=
  (parts list).foldl
    (fun f part =>
      match Directive.ofText part with
      | .ok d => f.insert d
      | .error _ => f)
    f

/-- The plain filter with a specification added to it. What is wrong in it is
left out. -/
def ofSpecification (specification : Text) : LogFilter :=
  match specification.splitOn '/' with
  | [list] => plain.insertAll list
  | [list, pattern] => { plain.insertAll list with pattern? := (Pattern.ofText pattern).toOption }
  | _ => plain

/-- What is wrong with the directives of a list with commas. -/
def malformed (list : Text) : List SpecificationError :=
  (parts list).filterMap fun part =>
    match Directive.ofText part with
    | .ok _ => none
    | .error e => some e

/-- What is wrong with a specification. -/
def complaints (specification : Text) : List SpecificationError :=
  match specification.splitOn '/' with
  | [list] => malformed list
  | [list, pattern] =>
    match Pattern.ofText pattern with
    | .ok _ => malformed list
    | .error e => malformed list ++ [.pattern e]
  | _ => [.slashes specification]

/-- The better of two directives that speak for one source. -/
def prefer (best? : Option Directive) (d : Directive) : Option Directive :=
  match best? with
  | none => some d
  | some best => if best.nameSize ≤ d.nameSize then some d else some best

/-- The threshold for a source. -/
def threshold (f : LogFilter) (source : Text) : LogThreshold :=
  ((f.directives.filter fun d => d.covers source).foldl prefer none).bind Directive.threshold

/-- Whether a record is shown. -/
def shows (f : LogFilter) (r : LogRecord) : Bool :=
  match f.threshold r.source.name.toList with
  | none => false
  | some level =>
    decide (r.level.rank ≤ level.rank) &&
      match f.pattern? with
      | none => true
      | some pattern => pattern.isIn r.message

end LogFilter

end GoXref
