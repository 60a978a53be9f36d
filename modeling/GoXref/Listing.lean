import GoXref.Fault
import GoXref.Location
import GoXref.Log

/-!
# `GoXref.Listing`: the search tool's line pairs

The tool prints two lines for every match: a location, and a companion line
that is not interpreted. Pairs are formed by place alone. A first line that
is no location is skipped together with its companion.

* `Listing.pairs`: the pairs of a listing, each with the first line of the
  pair behind it.
* `Pair.fault?`: what a strict reader objects to. A location needs a
  companion; and a companion that is a bare location, with no location in
  the next first line, shows that a line was lost.
* `Listing.read`: the locations, or the first objection.
* `Listing.skips`: the records made on the way.
-/

set_option autoImplicit false

namespace GoXref

/-- How strictly companion lines are checked. -/
inductive Policy where
  /-- Reject a listing whose pairs are out of step. -/
  | strict
  /-- Ignore companion lines. -/
  | lenient
deriving DecidableEq, Repr

/-- Two lines of a listing that belong together. -/
structure Pair where
  /-- The number of the first line, counted from one. -/
  number : Nat
  /-- The first line, a location if the pair reports a match. -/
  primary : Text
  /-- The second line, `none` where the listing ends before it. -/
  companion? : Option Text
  /-- The first line of the next pair. -/
  next? : Option Text
deriving DecidableEq, Repr

namespace Pair

/-- The location the pair reports. -/
def location? (p : Pair) : Option Location := Location.parse? p.primary

/-- What is wrong with a pair that lacks its second line. -/
def noCompanion : Text := "location has no companion line".toList

/-- What is wrong with a pair whose second line starts a pair of its own. -/
def outOfStep : Text :=
  "companion line is a bare location; output pairs are out of step".toList

/-- What a strict reader objects to in a pair. -/
def fault? (p : Pair) : Option Fault :=
  match p.location? with
  | none => none
  | some _ =>
    match p.companion? with
    | none => some (.malformedListing p.number p.primary noCompanion)
    | some companion =>
      if Location.isBare companion && (p.next?.bind Location.parse?).isNone then
        some (.malformedListing (p.number + 1) companion outOfStep)
      else none

/-- The record of a pair that is skipped, unless its first line is blank. -/
def skip? (p : Pair) : Option LogRecord :=
  match p.location? with
  | some _ => none
  | none =>
    if (Text.trim p.primary).isEmpty then none
    else some ⟨.debug, .listing,
      "Skipping unrecognised output line ".toList ++ Text.decimal p.number ++ ": ".toList
        ++ Text.quoted p.primary⟩

end Pair

namespace Listing

/-- A line without the carriage return at its end, of which it may have
one or none. -/
def stripReturn (line : Text) : Text :=
  match line.getLast? with
  | some '\r' => line.dropLast
  | _ => line

/-- The lines of a listing. -/
def rows (listing : Text) : List Text := (listing.splitOn '\n').map stripReturn

/-- The pairs of the lines from line number `number` on. -/
def pairsFrom (number : Nat) : List Text → List Pair
  | [] => []
  | [primary] => [⟨number, primary, none, none⟩]
  | primary :: companion :: rest =>
    ⟨number, primary, some companion, rest.head?⟩ :: pairsFrom (number + 2) rest

/-- The pairs of a listing. -/
def pairs (listing : Text) : List Pair := pairsFrom 1 (rows listing)

/-- The first objection to a listing. -/
def fault? (policy : Policy) (listing : Text) : Option Fault :=
  match policy with
  | .strict => (pairs listing).findSome? Pair.fault?
  | .lenient => none

/-- The locations of a listing, or the first objection to it. -/
def read (policy : Policy) (listing : Text) : Except Fault (List Location) :=
  match fault? policy listing with
  | some fault => .error fault
  | none => .ok ((pairs listing).filterMap Pair.location?)

/-- The records of the lines skipped, up to the first objection. -/
def skips (policy : Policy) (listing : Text) : List LogRecord :=
  let seen := match policy with
    | .strict => (pairs listing).takeWhile fun p : Pair => p.fault?.isNone
    | .lenient => pairs listing
  seen.filterMap Pair.skip?

end Listing

end GoXref
