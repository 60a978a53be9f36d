import GoXref.Proofs.Host
import GoXref.Proofs.Text.Lines

/-!
# `GoXref.Proofs.Document.Before`: the text before a position

`Document.offset?` adds up lengths and clamps a column. What it measures is a
text: the lines in front of the position's line, and as much of that line's
body as the column says.

* `before?`: this text, without any number but the position's own.
* `before?_isPrefix`: it is the front of the document.
* `offset?_eq_measure`: the offset of a position is the length of the text
  before it, in characters or in octets.
* `offset?_measures_before`: all of this, down to the octets of the file that
  the document was opened from.
-/

set_option autoImplicit false

namespace GoXref

/-- The length of a text in a unit. -/
def OffsetUnit.measure : OffsetUnit → Text → Nat
  | characters, t => t.length
  | octets, t => Utf8.size t

namespace Document

/-- The text before a position, if its line is there: all the lines in front,
and the first characters of the line's body, as many as the column says. -/
def before? (d : Document) (p : Position) : Option Text :=
  d.lines[p.line.toNat]?.map fun line =>
    (d.lines.take p.line.toNat).flatten ++ (Text.body line).take p.column.toNat

variable {d : Document} {p : Position}

/-- There is a text before a position exactly if its line is there. -/
theorem isSome_before?_iff : (d.before? p).isSome ↔ p.line.toNat < d.lines.length := by
  rw [before?, Option.isSome_map, isSome_getElem?]

/-- A document is what stands in front of a line, the line, and what stands
behind it. -/
theorem text_eq_append {i : Nat} {line : Text} (hi : d.lines[i]? = some line) :
    d.text = (d.lines.take i).flatten ++ (line ++ (d.lines.drop (i + 1)).flatten) := by
  obtain ⟨hlt, rfl⟩ := List.getElem?_eq_some_iff.mp hi
  calc d.text = d.lines.flatten := (Text.flatten_lines d.text).symm
    _ = (d.lines.take i ++ d.lines.drop i).flatten := by rw [List.take_append_drop]
    _ = _ := by rw [List.drop_eq_getElem_cons hlt, List.flatten_append, List.flatten_cons]

/-- The text before a position is the front of the document. -/
theorem before?_isPrefix {before : Text} (h : d.before? p = some before) : before <+: d.text := by
  obtain ⟨line, hline, rfl⟩ := Option.map_eq_some_iff.mp h
  rw [text_eq_append hline, List.prefix_append_right_inj]
  exact (List.take_prefix _ _).trans ((List.takeWhile_prefix _).trans (List.prefix_append _ _))

/-- A position has as many characters before it as its line's start and its
column together, or the line's content if that is shorter. -/
theorem charIndex?_eq_length (d : Document) (p : Position) :
    d.charIndex? p = (d.before? p).map List.length := by
  rw [charIndex?, lineContent?, before?, Option.map_map, Option.map_map]
  cases hline : d.lines[p.line.toNat]? with
  | none => rfl
  | some line =>
      simp only [Option.map_some, Function.comp_apply, List.length_append, List.length_take,
        lineStart, Text.content_eq_body (List.mem_of_getElem? hline)]

/-- The offset of a position is the length of the text before it. -/
theorem offset?_eq_measure (d : Document) (unit : OffsetUnit) (p : Position) :
    d.offset? unit p = (d.before? p).map unit.measure := by
  rw [offset?, charIndex?_eq_length]
  cases hbefore : d.before? p with
  | none => rfl
  | some before =>
      cases unit with
      | characters => rfl
      | octets =>
          -- As many characters from the front as are before the position are these.
          have htake : d.text.take before.length = before :=
            (List.prefix_iff_eq_take.mp (before?_isPrefix hbefore)).symm
          simp only [Option.map_some, htake]
          rfl

end Document

/-! ### Down to the file -/

/-- Octets of a text are those of any front of it, and those of the rest. -/
theorem Utf8.take_size_encode {front t : Text} (h : front <+: t) :
    (encode t).take (size front) = encode front ∧
      (encode t).drop (size front) = encode (t.drop front.length) := by
  obtain ⟨rest, rfl⟩ := h
  rw [encode_append, List.drop_left]
  exact ⟨List.take_left, List.drop_left⟩

/-- The offset of a position whose line is there is the length of the text
before it: the lines in front, and of its own line's body as much as the column
says. This text is the front of the document, and it has as many octets as
characters exactly if it is ASCII.

A file is opened exactly if its octets are those of a text, and then an offset
in octets parts the octets of the text before the position from those of the
text behind it. So no character is ever cut. -/
theorem offset?_measures_before :
    (∀ (d : Document) (p : Position), p.line.toNat < d.lines.length →
      ∃ before, d.before? p = some before ∧ before <+: d.text ∧
        d.offset? .characters p = some before.length ∧
        d.offset? .octets p = some (Utf8.size before) ∧
        before.length ≤ Utf8.size before ∧
        (Utf8.size before = before.length ↔ ∀ c ∈ before, c.toNat < 0x80)) ∧
    ∀ (h : Host) (path : Text) (content : Bytes), h.read path = .ok content →
      ((∃ d, h.openDocument path = .ok d) ↔ ∃ t, Utf8.encode t = content) ∧
      ∀ d, h.openDocument path = .ok d → Utf8.encode d.text = content ∧
        ∀ p offset, d.offset? .octets p = some offset →
          ∃ before, d.before? p = some before ∧ content.take offset = Utf8.encode before ∧
            content.drop offset = Utf8.encode (d.text.drop before.length) := by
  constructor
  · intro d p hline
    obtain ⟨before, hbefore⟩ := Option.isSome_iff_exists.mp (Document.isSome_before?_iff.mpr hline)
    have hoffset : ∀ unit : OffsetUnit, d.offset? unit p = some (unit.measure before) := by
      intro unit
      rw [Document.offset?_eq_measure, hbefore, Option.map_some]
    exact ⟨before, hbefore, Document.before?_isPrefix hbefore, hoffset .characters, hoffset .octets,
      Utf8.length_le_size before, Utf8.size_eq_length_iff before⟩
  · intro h path content hread
    refine ⟨Host.exists_openDocument_iff hread, ?_⟩
    intro d hopen
    obtain ⟨-, rfl⟩ := (Host.openDocument_eq_ok_iff hread).mp hopen
    refine ⟨rfl, ?_⟩
    intro p offset hoffset
    rw [Document.offset?_eq_measure] at hoffset
    obtain ⟨before, hbefore, rfl⟩ := Option.map_eq_some_iff.mp hoffset
    exact ⟨before, hbefore, Utf8.take_size_encode (Document.before?_isPrefix hbefore)⟩

/-- A machine with one file, whose two lines are `é` and `x€`. -/
def accented : Host where
  tree := ⟨[(["a.go".toList], .file [0xC3, 0xA9, 0x0D, 0x0A, 0x78, 0xE2, 0x82, 0xAC])]⟩
  directory := []
  environment := []

/-- `offset?_measures_before` for that file. Past the end of the second line
there are five characters and eight octets, and an offset between the two lines'
letters parts `é` from what follows it. -/
theorem offset?_measures_before_accented :
    accented.read "a.go".toList = .ok [0xC3, 0xA9, 0x0D, 0x0A, 0x78, 0xE2, 0x82, 0xAC] ∧
    ∃ d : Document, accented.openDocument "a.go".toList = .ok d ∧ 1 < d.lines.length ∧
      d.before? ⟨1, 9⟩ = some "é\r\nx€".toList ∧ "é\r\nx€".toList <+: d.text ∧
      d.offset? .characters ⟨1, 9⟩ = some 5 ∧ d.offset? .octets ⟨1, 9⟩ = some 8 ∧
      d.offset? .octets ⟨0, 1⟩ = some 2 ∧
      ([0xC3, 0xA9, 0x0D, 0x0A, 0x78, 0xE2, 0x82, 0xAC] : Bytes).take 2
        = Utf8.encode "é".toList := by
  have hread : accented.read "a.go".toList
      = .ok [0xC3, 0xA9, 0x0D, 0x0A, 0x78, 0xE2, 0x82, 0xAC] := rfl
  have hopen : accented.openDocument "a.go".toList
      = .ok ⟨"a.go".toList, "é\r\nx€".toList⟩ :=
    (Host.openDocument_eq_ok_iff hread).mpr ⟨rfl, by decide⟩
  have hline : 1 < (⟨"a.go".toList, "é\r\nx€".toList⟩ : Document).lines.length := by
    decide +kernel
  obtain ⟨before, hbefore, hfront, hcharacters, hoctets, -⟩ :=
    offset?_measures_before.1 ⟨"a.go".toList, "é\r\nx€".toList⟩ ⟨1, 9⟩ hline
  obtain rfl : "é\r\nx€".toList = before := Option.some.inj hbefore
  have hsecond : (⟨"a.go".toList, "é\r\nx€".toList⟩ : Document).offset? .octets ⟨0, 1⟩
      = some 2 := by decide
  obtain ⟨first, hfirst, htake, -⟩ :=
    ((offset?_measures_before.2 accented _ _ hread).2 _ hopen).2 ⟨0, 1⟩ 2 hsecond
  have hé : (⟨"a.go".toList, "é\r\nx€".toList⟩ : Document).before? ⟨0, 1⟩ = some "é".toList := rfl
  obtain rfl : "é".toList = first := Option.some.inj (hé.symm.trans hfirst)
  exact ⟨hread, _, hopen, hline, hbefore, hfront, hcharacters, hoctets, hsecond, htake⟩

end GoXref
