import GoXref.Proofs.Finder.Calls
import GoXref.Proofs.Path.Uri

/-!
# `GoXref.Proofs.Finder.Uri`: the URIs of the references found

A reference's path is resolved, so it is already what a URI gives back: no `.`, no
slash that adds nothing, no `..` behind a name. On such paths the URI leaves nothing out.

Whether there is a URI depends on the directory that paths are resolved against. That
of an absolute document is absolute, except at the root: the root has no directory, and
what is resolved against none stays relative.

* `exists_file_of_isFound`: every path found is resolved.
* `found_uri`: which references have a URI, and what the URI says.
* `found_uri_of_root`: a document at the root, and a reference without a URI.
-/

set_option autoImplicit false

namespace GoXref

open GoXref.Path (isAbsolute ofText forwardSlashes percentDecode isSome_uri?_iff uri?_of_isAbsolute
  uri?_eq_iff)

/-- `o` is one of the references that some request for the document is answered with,
whatever the editor, the tool and the settings. -/
def IsFound (d : Document) (o : Occurrence) : Prop :=
  ∃ (f : Finder) (r : Request) (found : List Occurrence),
    (f.find d r).answer = .ok (some found) ∧ o ∈ found

/-- The path of a reference is one that is seen from the directory of the document. -/
theorem exists_file_of_isFound {d : Document} {o : Occurrence} (h : IsFound d o) :
    ∃ file, o.path = Path.resolve (Path.parent (forwardSlashes d.path)) file := by
  obtain ⟨f, r, found, hanswer, ho⟩ := h
  rw [Finder.answer_find] at hanswer
  -- Only a listing that is read gives any references.
  split at hanswer
  · exact nomatch hanswer
  · exact nomatch hanswer
  · exact nomatch hanswer
  · split at hanswer
    · exact nomatch hanswer
    · obtain rfl := Option.some.inj (Except.ok.inj hanswer)
      obtain ⟨l, -, rfl⟩ := List.mem_map.mp ho
      exact ⟨l.file, rfl⟩

/-- So it is written from its components. -/
theorem toText_of_isFound {d : Document} {o : Occurrence} (h : IsFound d o) :
    (ofText o.path).toText = o.path := by
  obtain ⟨file, hpath⟩ := exists_file_of_isFound h
  rw [hpath]
  exact congrArg Path.toText (Path.ofText_resolve _ file)

/-- The URIs of references. A document whose canonical path is absolute and names something
below the root has references with URIs only. Whatever the document, the URI of a reference
is `file://` and printable ASCII behind it, and that part is read back as the octets of the
reference's path. So two references have the same URI exactly if they have the same path. A
reference has none exactly if its path is relative. -/
theorem found_uri :
    (∀ d o, IsFound d o → isAbsolute (forwardSlashes d.path) = true →
      (ofText (forwardSlashes d.path)).parts ≠ [] → o.uri?.isSome = true) ∧
    (∀ d o uri, IsFound d o → o.uri? = some uri →
      ∃ tail, uri = "file://".toList ++ tail ∧
        (∀ c ∈ tail, 0x20 < c.toNat ∧ c.toNat < 0x7F) ∧
        percentDecode tail = Utf8.encode o.path) ∧
    (∀ d d' o o' uri uri', IsFound d o → IsFound d' o' →
      o.uri? = some uri → o'.uri? = some uri' → (uri = uri' ↔ o.path = o'.path)) ∧
    ∀ o : Occurrence, o.uri? = none ↔ isAbsolute o.path = false := by
  have hsome (o : Occurrence) : o.uri?.isSome ↔ isAbsolute o.path := isSome_uri?_iff o.path
  have habsolute {o : Occurrence} {uri : Text} (huri : o.uri? = some uri) :
      isAbsolute o.path = true := by
    rw [← hsome, huri, Option.isSome_some]
  refine ⟨?_, ?_, ?_, ?_⟩
  · intro d o hfound hdocument hparts
    -- The directory is absolute, and so is whatever is seen from it.
    obtain ⟨file, hpath⟩ := exists_file_of_isFound hfound
    have hdirectory := Path.isAbsolute_parent hdocument hparts
    rw [hsome, hpath]
    exact Path.isAbsolute_resolve hdirectory file
  · intro d o uri hfound huri
    obtain ⟨tail, htail, hprintable, hread⟩ := uri?_of_isAbsolute (habsolute huri)
    refine ⟨tail, Option.some.inj (huri.symm.trans htail), hprintable, ?_⟩
    rw [hread, toText_of_isFound hfound]
  · intro d d' o o' uri uri' hfound hfound' huri huri'
    -- Equal URIs are those of the same components, and these are written in one way.
    have hiff := uri?_eq_iff (habsolute huri) (habsolute huri')
    change o.uri? = o'.uri? ↔ _ at hiff
    rw [huri, huri', Option.some.injEq] at hiff
    rw [hiff]
    constructor
    · intro hpath
      rw [← toText_of_isFound hfound, hpath, toText_of_isFound hfound']
    · intro hpath
      rw [hpath]
  · intro o
    rw [← Option.not_isSome_iff_eq_none, hsome, Bool.not_eq_true]

/-- A document in a directory whose name has to be written in octets. -/
def percents : Document where
  path := "/ws/50% é/a.go".toList
  text := "x".toList

/-- A finder whose tool prints one file in two ways. -/
def spellings : Finder where
  editor := .ofDirectory "/ws".toList
  tool := fun _ => ⟨.ok (.listing "./b#.go:1:1\n-\n../50% é//b#.go:2:1\n-\n".toList), [], none⟩
  settings := .ofRoot "/go".toList

/-- `found_uri` for the two references. They have one path, and so one URI. -/
theorem found_uri_spellings :
    isAbsolute (forwardSlashes percents.path) = true ∧
    (ofText (forwardSlashes percents.path)).parts ≠ [] ∧
    ∃ o o' uri, IsFound percents o ∧ IsFound percents o' ∧
      o.uri? = some uri ∧ o'.uri? = some uri ∧ o.path = o'.path ∧
      ∃ tail, uri = "file://".toList ++ tail ∧
        percentDecode tail = Utf8.encode "/ws/50% é/b#.go".toList := by
  obtain ⟨hsome, hread, hsame, -⟩ := found_uri
  have hanswer : (spellings.find percents ⟨⟨0, 0⟩, true⟩).answer
      = .ok (some [⟨"/ws/50% é/b#.go".toList, ⟨⟨1, 1⟩, ⟨1, 2⟩⟩⟩,
        ⟨"/ws/50% é/b#.go".toList, ⟨⟨2, 1⟩, ⟨2, 2⟩⟩⟩]) := rfl
  have hfound : IsFound percents ⟨"/ws/50% é/b#.go".toList, ⟨⟨1, 1⟩, ⟨1, 2⟩⟩⟩ :=
    ⟨_, _, _, hanswer, by simp⟩
  have hfound' : IsFound percents ⟨"/ws/50% é/b#.go".toList, ⟨⟨2, 1⟩, ⟨2, 2⟩⟩⟩ :=
    ⟨_, _, _, hanswer, by simp⟩
  have hdocument : isAbsolute (forwardSlashes percents.path) = true := by decide
  have hparts : (ofText (forwardSlashes percents.path)).parts ≠ [] := by decide
  obtain ⟨uri, huri⟩ := Option.isSome_iff_exists.mp (hsome _ _ hfound hdocument hparts)
  obtain ⟨uri', huri'⟩ := Option.isSome_iff_exists.mp (hsome _ _ hfound' hdocument hparts)
  obtain rfl := (hsame _ _ _ _ _ _ hfound hfound' huri huri').mpr rfl
  obtain ⟨tail, htail, -, hoctets⟩ := hread _ _ _ hfound huri
  exact ⟨hdocument, hparts, _, _, _, hfound, hfound', huri, huri', rfl, tail, htail, hoctets⟩

/-- A document at the root. -/
def rootFile : Document where
  path := "/".toList
  text := "x".toList

/-- A finder whose tool prints a file by its name. -/
def byName : Finder where
  editor := .ofDirectory "/".toList
  tool := fun _ => ⟨.ok (.listing "a.go:1:1\n-\n".toList), [], none⟩
  settings := .ofRoot "/go".toList

/-- The root has no directory to resolve a path against, so a document there can have a
reference without a URI. -/
theorem found_uri_of_root :
    isAbsolute (forwardSlashes rootFile.path) = true ∧
    ∃ o, IsFound rootFile o ∧ o.path = "a.go".toList ∧ o.uri? = none := by
  have hanswer : (byName.find rootFile ⟨⟨0, 0⟩, true⟩).answer
      = .ok (some [⟨"a.go".toList, ⟨⟨1, 1⟩, ⟨1, 2⟩⟩⟩]) := rfl
  exact ⟨by decide, _, ⟨_, _, _, hanswer, List.mem_singleton_self _⟩, rfl, by decide⟩

end GoXref
