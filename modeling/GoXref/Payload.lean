import GoXref.Fault
import GoXref.Json
import GoXref.Occurrence

/-!
# `GoXref.Payload`: outcomes as JSON

* `Payload.found`: the occurrences, or null where the tool is missing.
* `Payload.failed`: a fault with its kind, its message, and what is known of
  the file and the remedy.
-/

set_option autoImplicit false

namespace GoXref.Payload

/-- A member of an object, left out if it has no value. -/
def member? (name : Text) (value? : Option Text) : List (Text × Json) :=
  (value?.map fun value => (name, Json.string value)).toList

/-- A position as JSON. -/
def position (p : Position) : Json :=
  .object [("line".toList, .number p.line.toNat), ("column".toList, .number p.column.toNat)]

/-- A span as JSON. -/
def span (s : Span) : Json :=
  .object [("start".toList, position s.start), ("end".toList, position s.stop)]

/-- An occurrence as JSON. The URI is there only if the path is absolute. -/
def occurrence (o : Occurrence) : Json :=
  .object (("path".toList, .string o.path) :: member? "uri".toList o.uri?
    ++ [("range".toList, span o.span)])

/-- A lookup that went through, as JSON. -/
def found (occurrences? : Option (List Occurrence)) : Json :=
  .object [("status".toList, .string "ok".toList),
    ("references".toList,
      match occurrences? with
      | none => .null
      | some occurrences => .array (occurrences.map occurrence))]

/-- A fault as JSON. -/
def failed (fault : Fault) : Json :=
  .object [("status".toList, .string "error".toList),
    ("error".toList,
      .object (("kind".toList, .string fault.kind) :: ("message".toList, .string fault.message)
        :: member? "file".toList fault.file? ++ member? "hint".toList fault.hint?))]

end GoXref.Payload
