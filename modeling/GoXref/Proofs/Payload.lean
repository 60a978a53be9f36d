import GoXref.Finder
import GoXref.Payload
import GoXref.Proofs.Json.Reader
import GoXref.Proofs.Path.Uri

/-!
# `GoXref.Proofs.Payload`: the outcome of a search is read off its document

A search that asks for JSON prints a document. Whoever reads it, with nothing
but the grammar of JSON, gets back what was found: the paths as they are,
quotes, line feeds and all, and every line and column.

* `readFound?`: what was found, by the names of the members. Each occurrence
  comes with the URI that the document gives for it.
* `readMessage?`: the message of a fault.
* `readFound?_found`, `readMessage?_failed`: they undo `Payload.found` and
  `Payload.failed`.
* `found_pretty_unambiguous`: from the text on. The document has one value,
  which is read as what was found, so no two outcomes have the same text.
-/

set_option autoImplicit false

namespace GoXref

/-! ### Values of a document -/

namespace Json

/-- The value of a name in an object. -/
def get? (name : String) : Json → Option Json
  | .object members => members.lookup name.toList
  | _ => none

/-- What is read off the value of a name in an object. -/
def field? {α : Type} (name : String) (read? : Json → Option α) (j : Json) : Option α :=
  (j.get? name).bind read?

/-- The text of a string. -/
def text? : Json → Option Text
  | .string t => some t
  | _ => none

/-- The value of a number of 32 bits. -/
def number32? : Json → Option UInt32
  | .number n => if n < UInt32.size then some (UInt32.ofNat n) else none
  | _ => none

/-- A number of 32 bits is read back. -/
theorem number32?_toNat (n : UInt32) : number32? (.number n.toNat) = some n := by
  rw [number32?, if_pos n.toNat_lt_size, UInt32.ofNat_toNat]

end Json

namespace Payload

/-! ### Reading -/

/-- Reads a position. -/
def readPosition? (j : Json) : Option Position :=
  match j.field? "line" Json.number32?, j.field? "column" Json.number32? with
  | some line, some column => some ⟨line, column⟩
  | _, _ => none

/-- Reads a span. -/
def readSpan? (j : Json) : Option Span :=
  match j.field? "start" readPosition?, j.field? "end" readPosition? with
  | some start, some stop => some ⟨start, stop⟩
  | _, _ => none

/-- Reads the URI of an occurrence, which may be left out. -/
def readUri? (j : Json) : Option (Option Text) :=
  match j.get? "uri" with
  | none => some none
  | some value => value.text?.map some

/-- Reads an occurrence, and the URI that comes with it. -/
def readOccurrence? (j : Json) : Option (Occurrence × Option Text) :=
  match j.field? "path" Json.text?, readUri? j, j.field? "range" readSpan? with
  | some path, some uri?, some span => some (⟨path, span⟩, uri?)
  | _, _, _ => none

/-- What a document says about its outcome. -/
def readStatus? (j : Json) : Option Text := j.field? "status" Json.text?

/-- Reads the occurrences that were found, `none` where the search tool is
missing. -/
def readFound? (j : Json) : Option (Option (List (Occurrence × Option Text))) :=
  match j.get? "references" with
  | some .null => some none
  | some (.array items) => (items.mapM readOccurrence?).map some
  | _ => none

/-- Reads the message of a fault. -/
def readMessage? (j : Json) : Option Text := (j.get? "error").bind (·.field? "message" Json.text?)

/-! ### What is written is read back -/

/-- A position is read back. -/
theorem readPosition?_position (p : Position) : readPosition? (position p) = some p := by
  have hline : (position p).field? "line" Json.number32? = some p.line :=
    Json.number32?_toNat p.line
  have hcolumn : (position p).field? "column" Json.number32? = some p.column :=
    Json.number32?_toNat p.column
  rw [readPosition?, hline, hcolumn]

/-- A span is read back. -/
theorem readSpan?_span (s : Span) : readSpan? (span s) = some s := by
  have hstart : (span s).field? "start" readPosition? = some s.start :=
    readPosition?_position s.start
  have hstop : (span s).field? "end" readPosition? = some s.stop := readPosition?_position s.stop
  rw [readSpan?, hstart, hstop]

/-- An occurrence is read back, with its URI if it has one. -/
theorem readOccurrence?_occurrence (o : Occurrence) :
    readOccurrence? (occurrence o) = some (o, o.uri?) := by
  have hpath : (occurrence o).field? "path" Json.text? = some o.path := rfl
  -- Behind the path the members differ by the URI.
  have huri : readUri? (occurrence o) = some o.uri? := by
    unfold occurrence
    cases o.uri? with
    | none => rfl
    | some uri => rfl
  have hspan : (occurrence o).field? "range" readSpan? = some o.span := by
    have hmember : (occurrence o).get? "range" = some (span o.span) := by
      unfold occurrence
      cases o.uri? with
      | none => rfl
      | some uri => rfl
    rw [Json.field?, hmember, Option.bind_some, readSpan?_span]
  rw [readOccurrence?, hpath, huri, hspan]

/-- What was found is read back. -/
theorem readFound?_found (found : Found) :
    readFound? (Payload.found found) = some (found.map (·.map fun o => (o, o.uri?))) := by
  cases found with
  | none => rfl
  | some occurrences =>
      have hitems : (occurrences.map occurrence).mapM readOccurrence?
          = some (occurrences.map fun o => (o, o.uri?)) := by
        induction occurrences with
        | nil => rfl
        | cons o occurrences ih =>
            rw [List.map_cons, List.mapM_cons, readOccurrence?_occurrence, ih]
            rfl
      show ((occurrences.map occurrence).mapM readOccurrence?).map some = _
      rw [hitems]
      rfl

/-- The message of a fault is read back. -/
theorem readMessage?_failed (fault : Fault) : readMessage? (failed fault) = some fault.message :=
  rfl

/-! ### The text of an outcome -/

/-- The documents of two outcomes differ, if the outcomes do. -/
theorem found_injective {found found' : Found} (h : Payload.found found = Payload.found found') :
    found = found' := by
  have hread := congrArg readFound? h
  rw [readFound?_found, readFound?_found] at hread
  have hpair (o o' : Occurrence) (h : (o, o.uri?) = (o', o'.uri?)) : o = o' := congrArg Prod.fst h
  exact (Option.map_inj_right fun _ _ => (List.map_inj_right hpair).mp).mp (Option.some.inj hread)

/-- The text of an outcome is a JSON document with one value. This value is read
as what was found: nothing where the search tool is missing, and else every
occurrence in order, with its path, its span, and a URI exactly if the path is
absolute. So two outcomes have the same text only if they are the same. -/
theorem found_pretty_unambiguous :
    (∀ found : Found, ∃ doc,
      (∀ doc', Json.Denotes (Payload.found found).pretty doc' ↔ doc' = doc) ∧
      readFound? doc = some (found.map (·.map fun o => (o, o.uri?)))) ∧
    (∀ o : Occurrence, o.uri?.isSome ↔ Path.isAbsolute o.path) ∧
    ∀ found found' : Found,
      (Payload.found found).pretty = (Payload.found found').pretty ↔ found = found' := by
  have hdocument (found : Found) (doc : Json) :
      Json.Denotes (Payload.found found).pretty doc ↔ doc = Payload.found found := by
    rw [← Json.denotes_pretty_iff Json.blank_nil, List.append_nil]
  refine ⟨fun found => ⟨_, hdocument found, readFound?_found found⟩,
    fun o => Path.isSome_uri?_iff o.path, ?_⟩
  intro found found'
  constructor
  · intro htext
    -- The one text denotes both documents.
    have hvalue := (hdocument found _).mpr rfl
    rw [htext, hdocument] at hvalue
    exact found_injective hvalue
  · rintro rfl
    rfl

end Payload

end GoXref
