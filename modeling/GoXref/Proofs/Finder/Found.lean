import GoXref.Proofs.Document.Word
import GoXref.Proofs.Finder.Calls

/-!
# `GoXref.Proofs.Finder.Found`: what a request finds

A request whose line is there, put to a tool that prints a listing, from end
to end: the query that the tool gets, and the occurrences that are made of
its listing.

* `toNat_stop_column_onLine`: a span stops at the last column that 32 bits
  can name.
* `toNat_width`: the width of the occurrences is that of the run of word
  characters at the cursor.
* `find_listing`: the whole request.
-/

set_option autoImplicit false

namespace GoXref

/-! ### Spans -/

/-- A span stops `width` columns behind its start, or at the last column that
32 bits can name. -/
theorem toNat_stop_column_onLine (start : Position) (width : UInt32) :
    (Span.onLine start width).stop.column.toNat
      = min (start.column.toNat + width.toNat) (UInt32.size - 1) := by
  have hlt : min (start.column.toNat + width.toNat) (UInt32.size - 1) < UInt32.size :=
    Nat.lt_of_le_of_lt (Nat.min_le_right _ _) (by decide)
  show (UInt32.ofNat (min (start.column.toNat + width.toNat) (UInt32.size - 1))).toNat = _
  rw [UInt32.toNat_ofNat_of_lt' hlt]

/-- The occurrences of a request are as wide as the run of word characters at
its cursor, if the line is not too long for its columns to be named. -/
theorem Finder.toNat_width {d : Document} {p : Position} {content : Text} {start stop : Nat}
    (hcontent : d.lineContent? p.line.toNat = some content)
    (hlength : content.length < UInt32.size)
    (hrun : Document.WordRun content (min p.column.toNat content.length) start stop) :
    (Finder.width d p).toNat = stop - start := by
  have hstop := hrun.stop_le
  have hle : start ≤ stop := Nat.le_trans hrun.start_le hrun.le_stop
  rw [Finder.width, Document.wordAt?_of_wordRun hcontent hrun]
  by_cases heq : start = stop
  · rw [if_pos heq, heq, Nat.sub_self]
    rfl
  · -- Both columns lie in the line, so 32 bits hold them.
    rw [if_neg heq]
    have hstart' : (UInt32.ofNat start).toNat = start := UInt32.toNat_ofNat_of_lt' (by omega)
    have hstop' : (UInt32.ofNat stop).toNat = stop := UInt32.toNat_ofNat_of_lt' (by omega)
    dsimp only
    rw [Span.toNat_width, hstart', hstop']

/-! ### Queries -/

/-- The query that a call puts to the search tool, if it does. -/
def Call.query? : Call → Option Query
  | .search q => some q
  | _ => none

/-- The queries of a request: the one for its position, if the line is
there. -/
theorem queries_find (f : Finder) (d : Document) (r : Request) :
    (f.find d r).calls.filterMap Call.query? = (f.query? d r).toList := by
  have hsaving : (Finder.savingCalls f.editor).filterMap Call.query? = [] :=
    Finder.filterMap_savingCalls rfl rfl f.editor
  have hnotice : (Finder.notice (f.outcome? d r)).filterMap Call.query? = [] := by
    unfold Finder.notice
    split <;> rfl
  rw [Finder.calls_find, Finder.protocol, List.filterMap_append, List.filterMap_append, hsaving,
    hnotice, List.nil_append, List.append_nil]
  cases f.query? d r <;> rfl

/-! ### The whole request -/

/-- A request whose line is there, put to a tool that prints `stdout` at its
query. The tool is asked once: about the file with forward slashes, at the offset
of the position, in the root of the workspace. If its listing is refused, so is the
request. Otherwise there is an occurrence for every location, in the same
order: its file is seen from the directory of the document, its span starts
where the location says, and it is as wide as the run of word characters that
touches the cursor, cut at the last column. -/
theorem find_listing {f : Finder} {d : Document} {r : Request} {line stdout : Text}
    (hline : d.lines[r.position.line.toNat]? = some line)
    (hlength : (Text.content line).length < UInt32.size)
    (houtcome : f.outcome? d r = some (.ok (.listing stdout))) :
    ∃ offset start stop,
      d.offset? f.settings.unit r.position = some offset ∧
      Document.WordRun (Text.content line)
        (min r.position.column.toNat (Text.content line).length) start stop ∧
      (f.find d r).calls.filterMap Call.query?
        = [⟨Path.forwardSlashes d.path, offset, f.editor.root⟩] ∧
      match Listing.read f.settings.policy stdout with
      | .error fault => (f.find d r).answer = .error fault
      | .ok locations => ∃ found : List Occurrence,
        (f.find d r).answer = .ok (some found) ∧ found.length = locations.length ∧
        ∀ (i : Nat) (o : Occurrence) (l : Location),
          found[i]? = some o → locations[i]? = some l →
          o.path = Path.resolve (Path.parent (Path.forwardSlashes d.path)) l.file ∧
          o.span.start = ⟨l.line, l.column⟩ ∧
          o.span.stop.line = l.line ∧
          o.span.stop.column.toNat = min (l.column.toNat + (stop - start)) (UInt32.size - 1) := by
  -- The line is there, so the position has an offset and the tool is asked.
  have hcontent : d.lineContent? r.position.line.toNat = some (Text.content line) := by
    rw [Document.lineContent?, hline, Option.map_some]
  have hisSome : (d.offset? f.settings.unit r.position).isSome :=
    (d.isSome_offset?_iff _ _).mpr (List.getElem?_eq_some_iff.mp hline).1
  obtain ⟨offset, hoffset⟩ := Option.isSome_iff_exists.mp hisSome
  have hrun := Document.wordRun_wordColumns
    (Nat.min_le_right r.position.column.toNat (Text.content line).length)
  have hwidth := Finder.toNat_width hcontent hlength hrun
  have hquery : f.query? d r = some ⟨Path.forwardSlashes d.path, offset, f.editor.root⟩ := by
    rw [Finder.query?, hoffset, Option.map_some]
  refine ⟨offset, _, _, hoffset, hrun, ?_, ?_⟩
  · rw [queries_find, hquery, Option.toList_some]
  · rw [Finder.answer_find, houtcome]
    cases hread : Listing.read f.settings.policy stdout with
    | error fault => simp only [hread]
    | ok locations =>
        refine ⟨locations.map (Occurrence.ofLocation
          (Path.parent (Path.forwardSlashes d.path)) (Finder.width d r.position)),
          by simp only [hread], List.length_map _, ?_⟩
        intro i o l ho hl
        rw [List.getElem?_map, hl, Option.map_some] at ho
        obtain rfl := Option.some.inj ho
        refine ⟨rfl, rfl, rfl, ?_⟩
        rw [← hwidth]
        exact toNat_stop_column_onLine ⟨l.line, l.column⟩ _

/-- A document with a drive path, whose second line is `\tgreet(1)`. -/
def greeting : Document where
  path := "C:\\ws\\pkg\\main.go".toList
  text := "package main\n\tgreet(1)\n".toList

/-- A finder whose tool prints one location, in the last column but one. -/
def greeter : Finder where
  editor := ⟨"C:\\ws".toList, true, .error (.saveFailed "read-only".toList)⟩
  tool := fun _ => ⟨.ok (.listing "../a.go:3:4294967294\n-\n".toList), [], none⟩
  settings := Settings.ofRoot "/go".toList

/-- `find_listing` at the last letter of `greet`, after a save that failed. -/
theorem find_listing_greeting :
    greeting.lines[1]? = some "\tgreet(1)\n".toList ∧
    (Text.content "\tgreet(1)\n".toList).length < UInt32.size ∧
    greeter.outcome? greeting ⟨⟨1, 6⟩, true⟩
      = some (.ok (.listing "../a.go:3:4294967294\n-\n".toList)) ∧
    (greeter.find greeting ⟨⟨1, 6⟩, true⟩).calls.filterMap Call.query?
      = [⟨"C:/ws/pkg/main.go".toList, 19, "C:\\ws".toList⟩] ∧
    ∃ o : Occurrence, (greeter.find greeting ⟨⟨1, 6⟩, true⟩).answer = .ok (some [o]) ∧
      o.path = "C:/ws/a.go".toList ∧ o.span.start = ⟨3, 4294967294⟩ ∧
      o.span.stop.column.toNat = 4294967295 := by
  have hline : greeting.lines[1]? = some "\tgreet(1)\n".toList := by decide
  have hlength : (Text.content "\tgreet(1)\n".toList).length < UInt32.size := by decide
  have houtcome : greeter.outcome? greeting ⟨⟨1, 6⟩, true⟩
      = some (.ok (.listing "../a.go:3:4294967294\n-\n".toList)) := rfl
  refine ⟨hline, hlength, houtcome, ?_⟩
  obtain ⟨offset, start, stop, hoffset, hrun, hquery, hfound⟩ :=
    find_listing (f := greeter) (d := greeting) (r := ⟨⟨1, 6⟩, true⟩) hline hlength houtcome
  obtain rfl : 19 = offset := Option.some.inj hoffset
  obtain ⟨hstart, hstop⟩ := hrun.unique (Document.wordRun_wordColumns (by decide))
  refine ⟨hquery, ?_⟩
  -- The listing has one location, so one occurrence is found.
  obtain ⟨found, hanswer, hcount, hall⟩ := hfound
  obtain ⟨o, rfl⟩ := List.length_eq_one_iff.mp hcount
  obtain ⟨hpath, hfrom, -, hto⟩ := hall 0 o _ rfl rfl
  refine ⟨o, hanswer, hpath, hfrom, ?_⟩
  rw [hto, hstart, hstop]
  decide

end GoXref
