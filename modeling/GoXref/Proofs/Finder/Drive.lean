import GoXref.Proofs.Finder.Found
import GoXref.Proofs.Path.Drive

/-!
# `GoXref.Proofs.Finder.Drive`: requests for a drive path

A request reads the path of its document once, to make the canonical path of it. From
there on the raw path is only for the fault of a position that does not exist. So two
documents with one text and one canonical path are the same to the tool and to the
editor, and they are answered in the same way. A document at a drive path and a document
at the turned path are two such documents.

* `Finder.find_of_forwardSlashes_eq`: what a request makes of the path.
* `find_forwardSlashes`: what turning a path does, and that a request does not see it.
-/

set_option autoImplicit false

namespace GoXref

open GoXref.Path (forwardSlashes StartsWithDrive)

namespace Finder

variable {d d' : Document}

/-- A query has the canonical path only. -/
theorem query?_of_forwardSlashes_eq (htext : d'.text = d.text)
    (hpath : forwardSlashes d'.path = forwardSlashes d.path) (f : Finder) (r : Request) :
    f.query? d' r = f.query? d r := by
  obtain ⟨path, text⟩ := d
  obtain ⟨path', text'⟩ := d'
  obtain rfl : text' = text := htext
  unfold query?
  rw [hpath]
  rfl

/-- Two documents with one text and one canonical path make no difference to what a
request does, nor to its answer if the line is there. -/
theorem find_of_forwardSlashes_eq (htext : d'.text = d.text)
    (hpath : forwardSlashes d'.path = forwardSlashes d.path) (f : Finder) (r : Request) :
    (f.find d' r).events = (f.find d r).events ∧
      (r.position.line.toNat < d.lines.length →
        (f.find d' r).answer = (f.find d r).answer) := by
  have hquery := query?_of_forwardSlashes_eq htext hpath f r
  have hsome := f.isSome_query?_iff d r
  obtain ⟨path, text⟩ := d
  obtain ⟨path', text'⟩ := d'
  obtain rfl : text' = text := htext
  unfold find
  rw [ofPosition_eq, ofPosition_eq, hquery, ← hsome]
  -- With a query, the document is only there for its text.
  cases query? f ⟨path, text'⟩ r with
  | none => exact ⟨rfl, fun h => nomatch h⟩
  | some q => exact ⟨rfl, fun _ => rfl⟩

end Finder

/-- Turning a path, and what a request sees of it.

Only a text that starts with an ASCII letter, a colon and a backslash is changed, which
can be read off its first three octets as well as off its first three characters. It stays
as long, in characters and in octets, and has a slash for every backslash. What has been
turned is not changed again. A request for a document at the turned path does the same as
one for the document at the path: the same calls are made, so the tool gets the same query
and the same messages are shown, and the same records are made. If the line is there, the
answers are the same. If it is not, both say so, each with its own path. -/
theorem find_forwardSlashes :
    (∀ t, StartsWithDrive t ↔ ∃ b rest, Utf8.encode t = b :: 0x3A :: 0x5C :: rest ∧
      (0x41 ≤ b.toNat ∧ b.toNat ≤ 0x5A ∨ 0x61 ≤ b.toNat ∧ b.toNat ≤ 0x7A)) ∧
    (∀ t, ¬ StartsWithDrive t → forwardSlashes t = t) ∧
    (∀ t, StartsWithDrive t → (forwardSlashes t).length = t.length ∧
      Utf8.size (forwardSlashes t) = Utf8.size t ∧
      ∀ i : Nat, (forwardSlashes t)[i]? = t[i]?.map fun c => if c = '\\' then '/' else c) ∧
    (∀ t, forwardSlashes (forwardSlashes t) = forwardSlashes t) ∧
    ∀ (f : Finder) (path text : Text) (r : Request),
      (f.find ⟨forwardSlashes path, text⟩ r).events = (f.find ⟨path, text⟩ r).events ∧
      (r.position.line.toNat < (Text.lines text).length →
        (f.find ⟨forwardSlashes path, text⟩ r).answer = (f.find ⟨path, text⟩ r).answer) ∧
      ((Text.lines text).length ≤ r.position.line.toNat →
        (f.find ⟨path, text⟩ r).answer
          = .error (.invalidPosition path r.position (Text.lines text).length) ∧
        (f.find ⟨forwardSlashes path, text⟩ r).answer
          = .error (.invalidPosition (forwardSlashes path) r.position
            (Text.lines text).length)) := by
  refine ⟨fun t => Path.startsWithDrive_iff_octets,
    fun t h => Path.forwardSlashes_of_not_drive h, ?_, Path.forwardSlashes_idem, ?_⟩
  · intro t h
    obtain ⟨hsize, hlength⟩ := Path.size_forwardSlashes t
    exact ⟨hlength, hsize, Path.getElem?_forwardSlashes h⟩
  · intro f path text r
    have htext : (Document.mk (forwardSlashes path) text).text = (Document.mk path text).text := rfl
    obtain ⟨hevents, hanswer⟩ :=
      f.find_of_forwardSlashes_eq htext (Path.forwardSlashes_idem path) r
    refine ⟨hevents, hanswer, ?_⟩
    intro hmissing
    constructor
    · rw [Finder.answer_find, (f.outcome?_eq_none_iff ⟨path, text⟩ r).mpr hmissing]
      rfl
    · rw [Finder.answer_find, (f.outcome?_eq_none_iff ⟨forwardSlashes path, text⟩ r).mpr hmissing]
      rfl

/-- `find_forwardSlashes` for a drive path, at a line that is there and at one that is
not, and for a path that only looks like one. -/
theorem find_forwardSlashes_greeting :
    StartsWithDrive greeting.path ∧
    (∃ b rest, Utf8.encode greeting.path = b :: 0x3A :: 0x5C :: rest) ∧
    forwardSlashes greeting.path = "C:/ws/pkg/main.go".toList ∧
    (forwardSlashes greeting.path).length = greeting.path.length ∧
    ¬ StartsWithDrive "ü:\\ws".toList ∧
    forwardSlashes "ü:\\ws".toList = "ü:\\ws".toList ∧
    1 < (Text.lines greeting.text).length ∧
    (greeter.find ⟨"C:/ws/pkg/main.go".toList, greeting.text⟩ ⟨⟨1, 6⟩, true⟩).answer
      = (greeter.find greeting ⟨⟨1, 6⟩, true⟩).answer ∧
    (Text.lines greeting.text).length ≤ 3 ∧
    (greeter.find greeting ⟨⟨3, 0⟩, true⟩).answer
      = .error (.invalidPosition greeting.path ⟨3, 0⟩ 3) ∧
    (greeter.find ⟨"C:/ws/pkg/main.go".toList, greeting.text⟩ ⟨⟨3, 0⟩, true⟩).answer
      = .error (.invalidPosition "C:/ws/pkg/main.go".toList ⟨3, 0⟩ 3) := by
  have hdrive : StartsWithDrive greeting.path := Path.hasDrive_iff.mp (by decide)
  have hother : ¬ StartsWithDrive "ü:\\ws".toList :=
    fun h => absurd (Path.hasDrive_iff.mpr h) (by decide)
  have hturned : forwardSlashes greeting.path = "C:/ws/pkg/main.go".toList := by decide
  have hthere : 1 < (Text.lines greeting.text).length := by decide
  have hmissing : (Text.lines greeting.text).length ≤ 3 := by decide
  obtain ⟨hoctets, hsame, hlength, -, hfind⟩ := find_forwardSlashes
  obtain ⟨b, rest, hfirst, -⟩ := (hoctets greeting.path).mp hdrive
  obtain ⟨-, hanswer, -⟩ := hfind greeter greeting.path greeting.text ⟨⟨1, 6⟩, true⟩
  obtain ⟨-, -, hfault⟩ := hfind greeter greeting.path greeting.text ⟨⟨3, 0⟩, true⟩
  obtain ⟨hraw, hcanonical⟩ := hfault hmissing
  rw [hturned] at hanswer hcanonical
  exact ⟨hdrive, ⟨b, rest, hfirst⟩, hturned, (hlength _ hdrive).1, hother, hsame _ hother, hthere,
    hanswer hthere, hmissing, hraw, hcanonical⟩

end GoXref
