/-!
# `GoXref.Position`: places and spans in a document

Lines and columns count from zero and fit 32 bits, as editors send them.

* `Position`: a line and a column, ordered by line first.
* `Span`: the columns from one position up to another.
* `Span.onLine`: a span of a given width; its end stops at the last column.
-/

set_option autoImplicit false

namespace GoXref

/-- A place in a document. -/
structure Position where
  /-- The line, counted from zero. -/
  line : UInt32
  /-- The column, counted from zero in characters. -/
  column : UInt32
deriving DecidableEq, Repr

namespace Position

/-- One position lies before another if its line does, or its column on
the same line. -/
instance : LT Position where
  lt p q := p.line < q.line ∨ (p.line = q.line ∧ p.column < q.column)

instance : LE Position where
  le p q := p < q ∨ p = q

instance (p q : Position) : Decidable (p < q) :=
  inferInstanceAs (Decidable (p.line < q.line ∨ (p.line = q.line ∧ p.column < q.column)))

instance (p q : Position) : Decidable (p ≤ q) :=
  inferInstanceAs (Decidable (p < q ∨ p = q))

instance : Ord Position where
  compare p q := if p < q then .lt else if p = q then .eq else .gt

end Position

/-- The stretch of a document between two positions. -/
structure Span where
  /-- The first position covered. -/
  start : Position
  /-- The position just past the last one covered. -/
  stop : Position
deriving DecidableEq, Repr

namespace Span

/-- The span of `width` columns from `start` on, cut at the last column
that 32 bits can name. -/
def onLine (start : Position) (width : UInt32) : Span where
  start := start
  stop := ⟨start.line, UInt32.ofNat (min (start.column.toNat + width.toNat) (UInt32.size - 1))⟩

/-- The number of columns from the start column to the stop column, zero
if they stand the other way round. -/
def width (s : Span) : UInt32 := UInt32.ofNat (s.stop.column.toNat - s.start.column.toNat)

/-- The width of a span is how far its stop column lies behind its start column. -/
theorem toNat_width (s : Span) :
    s.width.toNat = s.stop.column.toNat - s.start.column.toNat :=
  UInt32.toNat_ofNat_of_lt' (Nat.lt_of_le_of_lt (Nat.sub_le _ _) s.stop.column.toNat_lt_size)

end Span

end GoXref
