import GoXref.Proofs.Document.WithinWord
import GoXref.Proofs.Finder.Found

/-!
# `GoXref.Proofs.Finder.WithinWord`: requests from within one word

Where in a word the cursor stands makes no difference to the references found. Two
requests from one word ask the tool for the same file in the same workspace, at offsets
that are as far apart as their columns. If the tool says the same to both, so does the
finder, because the occurrences are as wide as the word.

* `Finder.answer_find_congr`: what an answer depends on.
* `Finder.exists_queries_of_touches`: the queries of two requests from one word.
* `find_within_word`: the word, its offsets, the words beside it, and the two
  requests.
-/

set_option autoImplicit false

namespace GoXref

open Document (Touches IsWordSpan isWordChar)

namespace Finder

variable {f : Finder} {d : Document} {r r' : Request} {q q' : Query}

/-- Two requests are answered in the same way if the words at their cursors are as
wide, and the tool says the same to both of their queries. -/
theorem answer_find_congr (hquery : f.query? d r = some q) (hquery' : f.query? d r' = some q')
    (hwidth : width d r.position = width d r'.position)
    (htool : (f.tool q).outcome = (f.tool q').outcome) :
    (f.find d r).answer = (f.find d r').answer := by
  rw [answer_find, answer_find, outcome?, outcome?, hquery, hquery', Option.map_some,
    Option.map_some, htool, hwidth]
  -- Only a request without a query is answered with its position.
  cases (f.tool q').outcome with
  | error fault => rfl
  | ok answer => cases answer <;> rfl

/-- A request puts the query of its offset to the tool, if it has one. -/
theorem queries_find_of_offset? {offset : Nat}
    (hoffset : d.offset? f.settings.unit r.position = some offset) :
    f.query? d r = some ⟨Path.forwardSlashes d.path, offset, f.editor.root⟩ ∧
      (f.find d r).calls.filterMap Call.query?
        = [⟨Path.forwardSlashes d.path, offset, f.editor.root⟩] := by
  have hquery : f.query? d r = some ⟨Path.forwardSlashes d.path, offset, f.editor.root⟩ := by
    rw [query?, hoffset, Option.map_some]
  refine ⟨hquery, ?_⟩
  rw [queries_find, hquery, Option.toList_some]

/-- Two requests from one word are the same to the tool but for the offset. In
characters, the offsets are as far apart as the columns. -/
theorem exists_queries_of_touches {p : Position} {s : Span} {line : Text}
    (hline : d.lines[p.line.toNat]? = some line) (hspan : IsWordSpan (Text.body line) p s)
    (hr : Touches s r.position) (hr' : Touches s r'.position) :
    ∃ q q', f.query? d r = some q ∧ f.query? d r' = some q' ∧
      (f.find d r).calls.filterMap Call.query? = [q] ∧
      (f.find d r').calls.filterMap Call.query? = [q'] ∧ q' = { q with offset := q'.offset } ∧
      (f.settings.unit = .characters → (q'.offset : Int) - q.offset
        = (r'.position.column.toNat : Int) - r.position.column.toNat) := by
  have hoffset : ∀ t : Position, Touches s t → ∃ n, d.offset? f.settings.unit t = some n := by
    intro t ht
    rw [← Option.isSome_iff_exists, Document.isSome_offset?_iff, ht.1, hspan.start_line]
    exact (List.getElem?_eq_some_iff.mp hline).1
  obtain ⟨n, hn⟩ := hoffset r.position hr
  obtain ⟨n', hn'⟩ := hoffset r'.position hr'
  obtain ⟨hquery, hqueries⟩ := queries_find_of_offset? hn
  obtain ⟨hquery', hqueries'⟩ := queries_find_of_offset? hn'
  refine ⟨_, _, hquery, hquery', hqueries, hqueries', rfl, ?_⟩
  intro hunit
  -- Both offsets count the same characters in front of the line.
  rw [hunit, Document.offset?_of_touches hline hspan hr] at hn
  rw [hunit, Document.offset?_of_touches hline hspan hr'] at hn'
  obtain rfl := Option.some.inj hn
  obtain rfl := Option.some.inj hn'
  dsimp only
  omega

end Finder

/-- Where in a word the cursor stands makes no difference, if the line has less than
`2 ^ 32` characters in front of its break.

The same word is found from every column from its start to its stop. Its offsets in
characters differ by its width, and the word is what stands between them in the text. Any
other word of the line is at least one character away. Two requests from within the word
put one query each to the tool, and these differ in their offsets only, in characters by as
much as the columns do. If the tool says the same to both, they are answered in the same
way. -/
theorem find_within_word {d : Document} {p : Position} {s : Span}
    (hlength : ∀ line, d.lines[p.line.toNat]? = some line →
      (Text.body line).length < UInt32.size)
    (hword : d.wordAt? p = some s) :
    (s.start.line = p.line ∧ s.stop.line = p.line ∧ ∀ q, Touches s q → d.wordAt? q = some s) ∧
    (∃ i j before word after, d.offset? .characters s.start = some i ∧
      d.offset? .characters s.stop = some j ∧ j = i + s.width.toNat ∧
      (d.text.drop i).take (j - i) = word ∧
      d.lines[p.line.toNat]? = some (before ++ word ++ after) ∧
      before.length = s.start.column.toNat ∧ word.length = s.width.toNat ∧
      ∀ c ∈ word, isWordChar c = true) ∧
    (∀ q s', q.line = p.line → d.wordAt? q = some s' → s' ≠ s →
      s.stop.column < s'.start.column ∨ s'.stop.column < s.start.column) ∧
    ∀ (f : Finder) (r r' : Request), Touches s r.position → Touches s r'.position →
      ∃ q q', (f.find d r).calls.filterMap Call.query? = [q] ∧
        (f.find d r').calls.filterMap Call.query? = [q'] ∧
        q' = { q with offset := q'.offset } ∧
        (f.settings.unit = .characters → (q'.offset : Int) - q.offset
          = (r'.position.column.toNat : Int) - r.position.column.toNat) ∧
        ((f.tool q).outcome = (f.tool q').outcome →
          (f.find d r).answer = (f.find d r').answer) := by
  obtain ⟨line, hline⟩ := Document.exists_line_of_wordAt? hword
  have hlength := hlength line hline
  have hspan := (Document.wordAt?_eq_some_iff_of_line hline hlength).mp hword
  have hwithin : ∀ q, Touches s q → d.wordAt? q = some s :=
    fun q hq => Document.wordAt?_of_touches hline hlength hspan hq
  refine ⟨⟨hspan.start_line, hspan.stop_line, hwithin⟩, ?_, ?_, ?_⟩
  · obtain ⟨i, j, before, word, after, hi, hj, hij, hslice, rfl, hcut⟩ :=
      Document.exists_slice hline hspan
    exact ⟨i, j, before, word, after, hi, hj, hij, hslice, hline, hcut⟩
  · intro q s' hq hword' hne
    have hspan' := (Document.wordAt?_eq_some_iff_of_line (hq ▸ hline) hlength).mp hword'
    exact hspan.apart hspan' hq hne
  · intro f r r' hr hr'
    obtain ⟨q, q', hquery, hquery', hqueries, hqueries', hfile, hoffset⟩ :=
      Finder.exists_queries_of_touches (f := f) hline hspan hr hr'
    refine ⟨q, q', hqueries, hqueries', hfile, hoffset, ?_⟩
    apply Finder.answer_find_congr hquery hquery'
    rw [Finder.width, Finder.width, hwithin _ hr, hwithin _ hr']

/-- A document with two words in its third line, behind breaks of one octet and of
three. -/
def twoWords : Document where
  path := "/ws/a.go".toList
  text := "é\r\u2028größe + x\n".toList

/-- A finder whose tool always prints one location. -/
def pointer : Finder where
  editor := .ofDirectory "/ws".toList
  tool := fun _ => ⟨.ok (.listing "b.go:7:2\n-\n".toList), [], none⟩
  settings := .ofRoot "/go".toList

/-- `find_within_word` for the first of the two words. -/
theorem find_within_word_ends :
    (∀ line, twoWords.lines[(⟨2, 3⟩ : Position).line.toNat]? = some line →
      (Text.body line).length < UInt32.size) ∧
    twoWords.wordAt? ⟨2, 3⟩ = some ⟨⟨2, 0⟩, ⟨2, 5⟩⟩ ∧
    twoWords.wordAt? ⟨2, 8⟩ = some ⟨⟨2, 8⟩, ⟨2, 9⟩⟩ ∧
    Touches ⟨⟨2, 0⟩, ⟨2, 5⟩⟩ ⟨2, 0⟩ ∧ Touches ⟨⟨2, 0⟩, ⟨2, 5⟩⟩ ⟨2, 5⟩ ∧
    twoWords.wordAt? ⟨2, 5⟩ = some ⟨⟨2, 0⟩, ⟨2, 5⟩⟩ ∧
    ((5 : UInt32) < 8 ∨ (9 : UInt32) < 0) ∧
    ∃ q q', (pointer.find twoWords ⟨⟨2, 0⟩, true⟩).calls.filterMap Call.query? = [q] ∧
      (pointer.find twoWords ⟨⟨2, 5⟩, false⟩).calls.filterMap Call.query? = [q'] ∧
      (q'.offset : Int) - q.offset = 5 ∧
      (pointer.find twoWords ⟨⟨2, 0⟩, true⟩).answer
        = (pointer.find twoWords ⟨⟨2, 5⟩, false⟩).answer := by
  have hline : twoWords.lines[(⟨2, 3⟩ : Position).line.toNat]? = some "größe + x\n".toList := by
    decide +kernel
  have hlength : ∀ line, twoWords.lines[(⟨2, 3⟩ : Position).line.toNat]? = some line →
      (Text.body line).length < UInt32.size := by
    intro line h
    obtain rfl := Option.some.inj (hline.symm.trans h)
    decide
  have hword : twoWords.wordAt? ⟨2, 3⟩ = some ⟨⟨2, 0⟩, ⟨2, 5⟩⟩ := by decide +kernel
  have hother : twoWords.wordAt? ⟨2, 8⟩ = some ⟨⟨2, 8⟩, ⟨2, 9⟩⟩ := by decide +kernel
  have hstart : Touches ⟨⟨2, 0⟩, ⟨2, 5⟩⟩ ⟨2, 0⟩ := by decide
  have hstop : Touches ⟨⟨2, 0⟩, ⟨2, 5⟩⟩ ⟨2, 5⟩ := by decide
  obtain ⟨⟨-, -, hwithin⟩, -, happart, hfind⟩ := find_within_word hlength hword
  obtain ⟨q, q', hquery, hquery', -, hoffset, hanswer⟩ :=
    hfind pointer ⟨⟨2, 0⟩, true⟩ ⟨⟨2, 5⟩, false⟩ hstart hstop
  exact ⟨hlength, hword, hother, hstart, hstop, hwithin _ hstop,
    happart ⟨2, 8⟩ _ rfl hother (by decide), q, q', hquery, hquery', hoffset rfl, hanswer rfl⟩

end GoXref
