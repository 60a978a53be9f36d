import GoXref.Proofs.Location
import GoXref.Proofs.Path.Drive
import GoXref.Proofs.Program.Run

/-!
# `GoXref.Proofs.Program.ReadBack`: the output of a search is read back

A search prints a line for every occurrence: a location, a dash and a column.
The tool prints locations too, and the reader of its listing reads these lines
as well, if their paths are not empty and run over no end of a line.

A path that is found is never empty, unless the document is at the root. The root has
no directory, so a path that names nothing stays empty when it is resolved.

* `Occurrence.split?_toText`: one line is cut where it was put together.
* `Occurrence.parse?_toText_of_nil`: a line without a path is not read.
* `readsBack_rendering`: the lines of several occurrences are told apart.
* `Finder.find_paths`: the occurrences that a request finds.
* `find_output_reads_back`: the output of a search, and of any request.
* `find_output_reads_back_root`: a document at the root, and a line that is not read.
-/

set_option autoImplicit false

namespace GoXref

/-! ### One occurrence -/

namespace Occurrence

/-- The location at which an occurrence starts. -/
def start (o : Occurrence) : Location := ⟨o.path, o.span.start.line, o.span.start.column⟩

/-- What is written of an occurrence behind its location: a dash, and the
column where it stops. -/
def ending (o : Occurrence) : Text := '-' :: Text.decimal o.span.stop.column.toNat

/-- An occurrence is written as its location and its ending. -/
theorem toText_eq (o : Occurrence) : o.toText = o.start.toText ++ o.ending := rfl

/-- An ending has none of the characters that are neither dash nor digit. -/
theorem notMem_ending {c : Char} (hdash : c ≠ '-') (hdigit : c.isDigit = false) (o : Occurrence) :
    c ∉ o.ending := by
  refine List.not_mem_cons_of_ne_of_not_mem hdash fun h => ?_
  rw [Location.isDigit_of_mem_decimal h] at hdigit
  exact nomatch hdigit

/-- An occurrence is written on one line, if its path runs over none. -/
theorem lf_notMem_toText {o : Occurrence} (hlf : '\n' ∉ o.path) : '\n' ∉ o.toText := by
  rw [toText_eq, List.mem_append, not_or]
  exact ⟨Location.lf_notMem_toText hlf, notMem_ending (by decide) (by decide) o⟩

/-- A written occurrence is cut at the colons in front of its numbers, whatever
colons, dashes and digits its path holds. Its ending is left unread. -/
theorem split?_toText {o : Occurrence} (hne : o.path ≠ []) (hlf : '\n' ∉ o.path) :
    Location.split? o.toText = some ⟨o.path, Text.decimal o.span.start.line.toNat,
      Text.decimal o.span.start.column.toNat, o.ending⟩ := by
  have hends : Location.EndsDigits o.ending := by
    intro c hc
    obtain rfl : '-' = c := Option.some.inj hc
    rfl
  exact Location.split?_toText_append (l := o.start) hne hlf
    (notMem_ending (by decide) (by decide) o) hends

/-- A written occurrence is read as its location. -/
theorem parse?_toText {o : Occurrence} (hne : o.path ≠ []) (hlf : '\n' ∉ o.path) :
    Location.parse? o.toText = some o.start := by
  rw [Location.parse?, split?_toText hne hlf]
  simp only [Location.value?_decimal]
  rfl

/-- Without a path nothing stands in front of the numbers, so nothing is read. -/
theorem parse?_toText_of_nil {o : Occurrence} (hnil : o.path = []) :
    Location.parse? o.toText = none := by
  have htext : o.toText = ':' :: (Text.decimal o.span.start.line.toNat ++
      ':' :: (Text.decimal o.span.start.column.toNat ++ o.ending)) := by
    simp [toText_eq, start, Location.toText, hnil]
  have hcolon : ':' ∉ o.ending := notMem_ending (by decide) (by decide) o
  rw [Location.parse?, htext, Location.split?_fields_eq_none (Location.areDigits_decimal _)
    (Location.areDigits_decimal _) hcolon]

end Occurrence

/-! ### Several occurrences -/

/-- An output is read back as some occurrences: cut at its line feeds, it has a
line for each, in order. The line is read as the location of the occurrence,
and what is left unread of it is a dash and the column where it stops. -/
structure ReadsBack (output : Text) (found : List Occurrence) : Prop where
  /-- The locations that are read. -/
  locations : (output.splitOn '\n').map Location.parse? = found.map fun o => some o.start
  /-- What is left unread. -/
  endings : (output.splitOn '\n').map (fun line => (Location.split? line).map LocationParts.rest)
    = found.map fun o => some o.ending

/-- The output for some occurrences has a line for each, if none of their paths runs
over the end of a line. -/
theorem splitOn_rendering {found : List Occurrence} (hfound : found ≠ [])
    (hlf : ∀ o ∈ found, '\n' ∉ o.path) :
    (Program.rendering false (some found)).splitOn '\n' = found.map Occurrence.toText := by
  refine List.splitOn_intercalate '\n' ?_ (by simpa using hfound)
  intro line hline
  obtain ⟨o, ho, rfl⟩ := List.mem_map.mp hline
  exact Occurrence.lf_notMem_toText (hlf o ho)

/-- It is read back, if no path is empty. -/
theorem readsBack_rendering {found : List Occurrence} (hfound : found ≠ [])
    (hpaths : ∀ o ∈ found, o.path ≠ [] ∧ '\n' ∉ o.path) :
    ReadsBack (Program.rendering false (some found)) found := by
  have hlines := splitOn_rendering hfound fun o ho => (hpaths o ho).2
  constructor
  · rw [hlines, List.map_map]
    exact List.map_congr_left fun o ho => Occurrence.parse?_toText (hpaths o ho).1 (hpaths o ho).2
  · rw [hlines, List.map_map]
    refine List.map_congr_left fun o ho => ?_
    rw [Function.comp_apply, Occurrence.split?_toText (hpaths o ho).1 (hpaths o ho).2,
      Option.map_some]

/-- An output that is read back as any occurrence is not empty. -/
theorem ReadsBack.ne_nil {output : Text} {found : List Occurrence} (h : ReadsBack output found) :
    output ≠ [] := by
  rintro rfl
  -- An empty output has one line, which is not read.
  have hread := h.locations
  cases found with
  | nil => exact nomatch hread
  | cons o found => exact nomatch (List.cons.inj hread).1

/-! ### A request -/

/-- The file names of a listing hold no line feed. -/
theorem Listing.lf_notMem_of_read {policy : Policy} {listing : Text} {locations : List Location}
    (hread : read policy listing = .ok locations) : ∀ l ∈ locations, '\n' ∉ l.file := by
  unfold read at hread
  split at hread
  · exact nomatch hread
  · obtain rfl := Except.ok.inj hread
    intro l hl
    obtain ⟨pair, -, hlocation⟩ := List.mem_filterMap.mp hl
    exact Location.lf_notMem_of_parse? hlocation

/-- A request for a document at an absolute path, put to a tool whose listing has a location,
is answered with an occurrence for each location. No path of these runs over the end of a
line, and one is empty only if the document is at the root. -/
theorem Finder.find_paths {f : Finder} {d : Document} {r : Request} {stdout : Text}
    {locations : List Location} (habsolute : Path.isAbsolute d.path = true) (hlf : '\n' ∉ d.path)
    (houtcome : f.outcome? d r = some (.ok (.listing stdout)))
    (hread : Listing.read f.settings.policy stdout = .ok locations) (hne : locations ≠ []) :
    ∃ found, (f.find d r).answer = .ok (some found) ∧ found.length = locations.length ∧
      found ≠ [] ∧
      ∀ o ∈ found, '\n' ∉ o.path ∧ (o.path = [] → (Path.ofText d.path).parts = []) := by
  refine ⟨locations.map (Occurrence.ofLocation
    (Path.parent (Path.forwardSlashes d.path)) (width d r.position)), ?_, List.length_map _,
    mt List.map_eq_nil_iff.mp hne, ?_⟩
  · rw [answer_find, houtcome]
    simp only [hread]
  · intro o ho
    obtain ⟨l, hl, rfl⟩ := List.mem_map.mp ho
    rw [Path.forwardSlashes_of_isAbsolute habsolute]
    refine ⟨Path.notMem_resolve (by decide) (Path.notMem_parent (by decide) hlf)
      (Listing.lf_notMem_of_read hread l hl), fun hnil => ?_⟩
    -- Below the root there is an absolute directory, and whatever is seen from it is
    -- absolute, too.
    refine Classical.byContradiction fun hparts => ?_
    have hdirectory : Path.isAbsolute (Path.parent d.path) = true :=
      Path.isAbsolute_parent habsolute hparts
    exact Path.ne_nil_of_isAbsolute (Path.isAbsolute_resolve hdirectory l.file) hnil

/-! ### The program -/

/-- A search whose output is plain text prints the output of its request. -/
theorem Program.run_find {h : Host} {arguments : List Text} {verbose : Bool} {t : Target}
    {o : FindOptions} {output : Text} (hne : output ≠ [])
    (harguments : Invocation.ofArguments arguments = .ok ⟨verbose, .find t o⟩)
    (hanswer : (find h t o).answer = .ok output) :
    (run h arguments).exit = 0 ∧ (run h arguments).stdout = line output := by
  have hexecute : (execute h (.find t o)).answer = .ok output := hanswer
  rw [run_eq harguments, hexecute]
  exact ⟨rfl, if_neg hne⟩

/-- The output of a search is read back, whatever the tool's file names hold.

A search opens its document at a full path. If this holds no line feed, and the
tool's listing has a location, then the search finds an occurrence for each
location, and its output, cut at the line feeds, has one line for each of them.
The line is read as the location at which the occurrence starts, up to a dash
and the column where it stops. This output is what the program prints, with a
line feed behind it.

The same holds of a request that is not made by the program, if its document
lies below the root. If the document is at the root, the path of an occurrence can
be empty. Then its line is not read, and the others still are. -/
theorem find_output_reads_back :
    (∀ (h : Host) (t : Target) (o : FindOptions) (d : Document) (root stdout : Text)
      (locations : List Location),
      h.tree.node? [] = some .directory → o.json = false →
      Program.subject h t o = .ok (d, root) → '\n' ∉ d.path →
      (Program.finder h t o root).outcome? d ⟨t.position, o.includeDeclaration⟩
        = some (.ok (.listing stdout)) →
      Listing.read o.policy stdout = .ok locations → locations ≠ [] →
      ∃ found output,
        ((Program.finder h t o root).find d ⟨t.position, o.includeDeclaration⟩).answer
          = .ok (some found) ∧
        found.length = locations.length ∧
        (Program.find h t o).answer = .ok output ∧ ReadsBack output found ∧
        ∀ arguments verbose, Invocation.ofArguments arguments = .ok ⟨verbose, .find t o⟩ →
          (Program.run h arguments).exit = 0 ∧
          (Program.run h arguments).stdout = Program.line output) ∧
    ∀ (f : Finder) (d : Document) (r : Request) (stdout : Text) (locations : List Location),
      Path.isAbsolute d.path = true → '\n' ∉ d.path →
      f.outcome? d r = some (.ok (.listing stdout)) →
      Listing.read f.settings.policy stdout = .ok locations → locations ≠ [] →
      ∃ found, (f.find d r).answer = .ok (some found) ∧ found.length = locations.length ∧
        ((Path.ofText d.path).parts ≠ [] →
          ReadsBack (Text.joinLines (found.map Occurrence.toText)) found) ∧
        (Text.joinLines (found.map Occurrence.toText)).splitOn '\n'
          = found.map Occurrence.toText ∧
        ∀ o ∈ found,
          (o.path ≠ [] → Location.parse? o.toText = some o.start ∧
            (Location.split? o.toText).map LocationParts.rest = some o.ending) ∧
          (o.path = [] → (Path.ofText d.path).parts = [] ∧ Location.parse? o.toText = none) := by
  constructor
  · intro h t o d root stdout locations hroot hjson hsubject hlf houtcome hread hne
    obtain ⟨path, habsolute, hopen⟩ := Program.exists_of_subject hsubject
    obtain rfl : d.path = path := (Host.exists_read_of_openDocument hopen).1
    have hparts : (Path.ofText d.path).parts ≠ [] :=
      Host.parts_ne_nil_of_openDocument hroot habsolute hopen
    obtain ⟨found, hanswer, hlength, hfound, hpaths⟩ :=
      Finder.find_paths habsolute hlf houtcome hread hne
    have hback := readsBack_rendering hfound fun o ho =>
      ⟨mt (hpaths o ho).2 hparts, (hpaths o ho).1⟩
    have houtput : (Program.find h t o).answer = .ok (Program.rendering false (some found)) := by
      rw [(Program.find_of_subject hsubject).1, hanswer, hjson]
      rfl
    exact ⟨found, _, hanswer, hlength, houtput, hback,
      fun arguments verbose harguments =>
        Program.run_find hback.ne_nil harguments houtput⟩
  · intro f d r stdout locations habsolute hlf houtcome hread hne
    obtain ⟨found, hanswer, hlength, hfound, hpaths⟩ :=
      Finder.find_paths habsolute hlf houtcome hread hne
    have hlines := splitOn_rendering hfound fun o ho => (hpaths o ho).1
    refine ⟨found, hanswer, hlength, fun hparts => ?_, hlines,
      fun o ho => ⟨fun hpath => ?_, fun hnil => ?_⟩⟩
    · exact readsBack_rendering hfound fun o ho => ⟨mt (hpaths o ho).2 hparts, (hpaths o ho).1⟩
    · rw [Occurrence.split?_toText hpath (hpaths o ho).1]
      exact ⟨Occurrence.parse?_toText hpath (hpaths o ho).1, rfl⟩
    · exact ⟨(hpaths o ho).2 hnil, Occurrence.parse?_toText_of_nil hnil⟩

/-- A listing whose one file name holds colons, digits, a carriage return and a
dash. -/
def crooked : Text := "../b:7:8\r-9.go:3:4\n-\n".toList

/-- A machine with one file, and a tool that prints this listing. -/
def crookedHost : Host where
  tree := ⟨[(["w 1:2".toList, "a.go".toList], .file [0x66]),
    (["bin".toList, toolName], .program [] ⟨Utf8.encode crooked, [], .exited 0⟩)]⟩
  directory := ["w 1:2".toList]
  environment := []

/-- The one letter of the file. -/
def crookedTarget : Target := ⟨"a.go".toList, ⟨0, 0⟩, .characters⟩

/-- The options of a search with plain output. -/
def plainOptions : FindOptions := ⟨none, some "/".toList, .strict, false, false⟩

/-- The file as a document. -/
def crookedDocument : Document := ⟨"/w 1:2/a.go".toList, ['f']⟩

/-- A finder whose tool prints the listing, too. -/
def crookedFinder : Finder :=
  ⟨Editor.ofDirectory [], fun _ => ⟨.ok (.listing crooked), [], none⟩, Settings.ofRoot []⟩

/-- The occurrence that the listing stands for. -/
def crookedOccurrence : Occurrence := ⟨"/b:7:8\r-9.go".toList, ⟨⟨3, 4⟩, ⟨3, 5⟩⟩⟩

/-- `find_output_reads_back` for that machine and that finder. -/
theorem find_output_reads_back_crooked :
    crookedHost.tree.node? [] = some .directory ∧ plainOptions.json = false ∧
    Program.subject crookedHost crookedTarget plainOptions
      = .ok (crookedDocument, "/w 1:2".toList) ∧
    Path.isAbsolute crookedDocument.path = true ∧
    (Path.ofText crookedDocument.path).parts ≠ [] ∧ '\n' ∉ crookedDocument.path ∧
    (Program.finder crookedHost crookedTarget plainOptions "/w 1:2".toList).outcome?
      crookedDocument ⟨⟨0, 0⟩, false⟩ = some (.ok (.listing crooked)) ∧
    crookedFinder.outcome? crookedDocument ⟨⟨0, 0⟩, false⟩ = some (.ok (.listing crooked)) ∧
    Listing.read .strict crooked = .ok [⟨"../b:7:8\r-9.go".toList, 3, 4⟩] ∧
    (∃ output, (Program.find crookedHost crookedTarget plainOptions).answer = .ok output ∧
      ReadsBack output [crookedOccurrence] ∧
      (Program.run crookedHost ["find".toList, "--file".toList, "a.go".toList, "--line".toList,
        "0".toList, "--column".toList, "0".toList, "--gopath".toList, "/".toList]).stdout
        = Program.line output) ∧
    ReadsBack "/b:7:8\r-9.go:3:4-5".toList [crookedOccurrence] := by
  have hsubject : Program.subject crookedHost crookedTarget plainOptions
      = .ok (crookedDocument, "/w 1:2".toList) := rfl
  have hparts : (Path.ofText crookedDocument.path).parts ≠ [] := by decide
  have hlf : '\n' ∉ crookedDocument.path := by decide
  have hrun : (Program.finder crookedHost crookedTarget plainOptions "/w 1:2".toList).outcome?
      crookedDocument ⟨⟨0, 0⟩, false⟩ = some (.ok (.listing crooked)) := rfl
  have hfinder : crookedFinder.outcome? crookedDocument ⟨⟨0, 0⟩, false⟩
      = some (.ok (.listing crooked)) := rfl
  have hread : Listing.read .strict crooked = .ok [⟨"../b:7:8\r-9.go".toList, 3, 4⟩] := rfl
  obtain ⟨found, output, hanswer, -, houtput, hback, hprint⟩ :=
    find_output_reads_back.1 crookedHost crookedTarget plainOptions crookedDocument _ crooked _
      rfl rfl hsubject hlf hrun hread (List.cons_ne_nil _ _)
  obtain rfl : [crookedOccurrence] = found := Option.some.inj (Except.ok.inj hanswer)
  obtain ⟨found', hanswer', -, hback', -⟩ :=
    find_output_reads_back.2 crookedFinder crookedDocument ⟨⟨0, 0⟩, false⟩ crooked _
      rfl hlf hfinder hread (List.cons_ne_nil _ _)
  obtain rfl : [crookedOccurrence] = found' := Option.some.inj (Except.ok.inj hanswer')
  exact ⟨rfl, rfl, hsubject, rfl, hparts, hlf, hrun, hfinder, hread,
    ⟨output, houtput, hback, (hprint _ false rfl).2⟩, hback' hparts⟩

/-- A document at the root. -/
def rootDocument : Document := ⟨"/".toList, "x".toList⟩

/-- A listing whose file is the directory itself. -/
def dotListing : Text := ".:1:2\n-\n".toList

/-- A finder whose tool prints this listing. -/
def dotFinder : Finder :=
  ⟨Editor.ofDirectory "/".toList, fun _ => ⟨.ok (.listing dotListing), [], none⟩,
    Settings.ofRoot "/go".toList⟩

/-- The root has no directory to resolve a path against. So a document there can have an
occurrence without a path, whose line is not read back. -/
theorem find_output_reads_back_root :
    Path.isAbsolute rootDocument.path = true ∧ '\n' ∉ rootDocument.path ∧
    dotFinder.outcome? rootDocument ⟨⟨0, 0⟩, true⟩ = some (.ok (.listing dotListing)) ∧
    Listing.read .strict dotListing = .ok [⟨".".toList, 1, 2⟩] ∧
    ∃ found, (dotFinder.find rootDocument ⟨⟨0, 0⟩, true⟩).answer = .ok (some found) ∧
      Text.joinLines (found.map Occurrence.toText) = ":1:2-3".toList ∧
      Location.parse? ":1:2-3".toList = none ∧
      ¬ ReadsBack ":1:2-3".toList found := by
  have hanswer : (dotFinder.find rootDocument ⟨⟨0, 0⟩, true⟩).answer
      = .ok (some [⟨[], ⟨⟨1, 2⟩, ⟨1, 3⟩⟩⟩]) := rfl
  have hparse : Location.parse? ":1:2-3".toList = none := rfl
  refine ⟨rfl, by decide, rfl, rfl, _, hanswer, rfl, hparse, fun hback => ?_⟩
  -- The one line of the output is the one that is not read.
  exact nomatch (List.cons.inj hback.locations).1

end GoXref
