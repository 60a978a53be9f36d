import GoXref.Path.Uri
import GoXref.Proofs.Json.Grammar
import GoXref.Proofs.Path.Normal
import GoXref.Proofs.Text.Utf8

/-!
# `GoXref.Proofs.Path.Uri`: what a URI says about a path

A URI is written octet by octet, so it is read back octet by octet.
`percentDecode` is that reader. It knows nothing of components, plain octets or
the writer, and takes digits in either case.

What is read back is not the path as it stands, but its components with one slash
between them: `uri?` leaves out what adds no component. Two absolute paths have one
URI exactly if they have the same components. A path that is written from its
components is read back as it is.

* `percentDecode_encodeOctet_append`: one octet is read back, whatever follows.
* `uri?_of_isAbsolute`: the form of a URI, and what is read back from it.
* `uri?_eq_iff`: which paths have the same URI.
-/

set_option autoImplicit false

namespace GoXref.Path

/-- The octets a text stands for when `%` and two hexadecimal digits stand for one
octet. Any other character stands for its own octets, `%` among them. -/
def percentDecode : Text → Bytes
  | [] => []
  | '%' :: high :: low :: rest =>
    match Json.hexValue? high, Json.hexValue? low with
    | some h, some l => UInt8.ofNat (16 * h + l) :: percentDecode rest
    | _, _ => String.utf8EncodeChar '%' ++ percentDecode (high :: low :: rest)
  | c :: rest => String.utf8EncodeChar c ++ percentDecode rest

/-! ### Octets -/

theorem hexValue?_hexDigit : ∀ n < 16, Json.hexValue? (hexDigit n) = some n := by decide

theorem hexDigit_printable :
    ∀ n < 16, 0x20 < (hexDigit n).toNat ∧ (hexDigit n).toNat < 0x7F := by decide

/-- The first half of an octet is the value of a digit. -/
theorem toNat_div_lt (b : UInt8) : b.toNat / 16 < 16 := by
  have hb := b.toNat_lt
  omega

/-- An octet that stands for itself is printable ASCII, and no percent sign. -/
theorem bounds_of_isPlainOctet {b : UInt8} (h : isPlainOctet b = true) :
    0x20 < b.toNat ∧ b.toNat < 0x7F ∧ b.toNat ≠ '%'.toNat := by
  simp only [isPlainOctet, Bool.and_eq_true, decide_eq_true_eq, Bool.not_eq_true',
    List.any_eq_false] at h
  obtain ⟨⟨hlow, hhigh⟩, hspecial⟩ := h
  have hpercent := hspecial '%' (by decide)
  refine ⟨hlow, hhigh, ?_⟩
  intro heq
  exact hpercent heq.symm

/-- A character other than the percent sign stands for its own octets. -/
theorem percentDecode_cons {c : Char} (hc : c ≠ '%') (rest : Text) :
    percentDecode (c :: rest) = String.utf8EncodeChar c ++ percentDecode rest := by
  rw [percentDecode]
  intro _ _ _ h
  exact absurd h hc

/-- A percent sign and two digits stand for one octet. -/
theorem percentDecode_octet {high low : Char} {h l : Nat} (hhigh : Json.hexValue? high = some h)
    (hlow : Json.hexValue? low = some l) (rest : Text) :
    percentDecode ('%' :: high :: low :: rest)
      = UInt8.ofNat (16 * h + l) :: percentDecode rest := by
  simp only [percentDecode, hhigh, hlow]

/-- The written form of an octet is read back, whatever follows. -/
theorem percentDecode_encodeOctet_append (b : UInt8) (rest : Text) :
    percentDecode (encodeOctet b ++ rest) = b :: percentDecode rest := by
  unfold encodeOctet
  split
  · -- A plain octet is ASCII, so its character takes that octet and no other.
    rename_i hplain
    obtain ⟨-, hhigh, hpercent⟩ := bounds_of_isPlainOctet hplain
    have hnumber : (Char.ofNat b.toNat).toNat = b.toNat := Utf8.toNat_ofNat (by omega)
    have hne : Char.ofNat b.toNat ≠ '%' := by
      intro heq
      exact hpercent (hnumber ▸ congrArg Char.toNat heq)
    have hoctet : String.utf8EncodeChar (Char.ofNat b.toNat) = [b] :=
      Utf8.utf8EncodeChar_eq_one_iff.mpr ⟨by omega, hnumber⟩
    rw [List.singleton_append, percentDecode_cons hne, hoctet, List.singleton_append]
  · have hhigh := hexValue?_hexDigit (b.toNat / 16) (toNat_div_lt b)
    have hlow := hexValue?_hexDigit (b.toNat % 16) (Nat.mod_lt _ (by decide))
    show percentDecode ('%' :: _ :: _ :: rest) = _
    rw [percentDecode_octet hhigh hlow, Nat.div_add_mod, UInt8.ofNat_toNat]

/-- The written form of an octet is printable ASCII. -/
theorem printable_of_mem_encodeOctet {b : UInt8} {c : Char} (h : c ∈ encodeOctet b) :
    0x20 < c.toNat ∧ c.toNat < 0x7F := by
  unfold encodeOctet at h
  split at h
  · rename_i hplain
    obtain ⟨hlow, hhigh, -⟩ := bounds_of_isPlainOctet hplain
    rw [List.mem_singleton.mp h, Utf8.toNat_ofNat (by omega)]
    exact ⟨hlow, hhigh⟩
  · simp only [List.mem_cons, List.not_mem_nil, or_false] at h
    rcases h with rfl | rfl | rfl
    · decide
    · exact hexDigit_printable _ (toNat_div_lt b)
    · exact hexDigit_printable _ (Nat.mod_lt _ (by decide))

/-! ### Components -/

/-- The written form of some octets is read back. -/
theorem percentDecode_flatMap_append (bytes : Bytes) (rest : Text) :
    percentDecode (bytes.flatMap encodeOctet ++ rest) = bytes ++ percentDecode rest := by
  induction bytes with
  | nil => rfl
  | cons b bytes ih =>
      rw [List.flatMap_cons, List.append_assoc, percentDecode_encodeOctet_append, ih]
      rfl

/-- The written forms of components, with a slash in front of each, are read back as
the components with a slash in front of each. -/
theorem percentDecode_parts (parts : List Text) :
    percentDecode (parts.flatMap fun part => '/' :: encodePart part)
      = Utf8.encode (parts.flatMap ('/' :: ·)) := by
  induction parts with
  | nil => rfl
  | cons part parts ih =>
      have hslash : '/' ≠ '%' := by decide
      rw [List.flatMap_cons, List.flatMap_cons, List.cons_append, List.cons_append,
        percentDecode_cons hslash, encodePart, percentDecode_flatMap_append, ih, Utf8.encode_cons,
        Utf8.encode_append]

/-- The written forms of components are printable ASCII. -/
theorem printable_of_mem_parts {parts : List Text} {c : Char}
    (h : c ∈ parts.flatMap fun part => '/' :: encodePart part) :
    0x20 < c.toNat ∧ c.toNat < 0x7F := by
  obtain ⟨part, -, hc⟩ := List.mem_flatMap.mp h
  rcases List.mem_cons.mp hc with rfl | hc
  · decide
  · obtain ⟨b, -, hc⟩ := List.mem_flatMap.mp hc
    exact printable_of_mem_encodeOctet hc

/-- A path from the root has a slash in front of each component. Without a component
there is one slash. -/
theorem toText_cons (part : Text) (parts : List Text) :
    toText ⟨true, part :: parts⟩ = (part :: parts).flatMap ('/' :: ·) := by
  show '/' :: ['/'].intercalate (part :: parts) = _
  induction parts generalizing part with
  | nil => simp
  | cons next parts ih =>
      rw [List.intercalate_cons_cons, List.flatMap_cons, ← ih next]
      simp

/-! ### Paths -/

/-- An absolute path has a URI. Behind `file://` it is printable ASCII, and what is read
back from there are the octets of the path's components with one slash between them. -/
theorem uri?_of_isAbsolute {t : Text} (h : isAbsolute t = true) :
    ∃ tail, uri? t = some ("file://".toList ++ tail) ∧
      (∀ c ∈ tail, 0x20 < c.toNat ∧ c.toNat < 0x7F) ∧
      percentDecode tail = Utf8.encode (ofText t).toText := by
  have hpath : ofText t = ⟨true, (ofText t).parts⟩ := congrArg (Path.mk · _) h
  rw [uri?, if_pos h, hpath]
  cases (ofText t).parts with
  | nil =>
      -- The root alone is one slash, in the path and in the URI.
      refine ⟨['/'], rfl, ?_, rfl⟩
      intro c hc
      rw [List.mem_singleton.mp hc]
      decide
  | cons part parts =>
      refine ⟨_, rfl, fun c hc => printable_of_mem_parts hc, ?_⟩
      rw [percentDecode_parts, toText_cons]

/-- No other path has one. -/
theorem isSome_uri?_iff (t : Text) : (uri? t).isSome ↔ isAbsolute t := by
  unfold uri?
  split
  · rename_i h
    simp [h]
  · rename_i h
    simp [h]

/-- Two absolute paths have the same URI exactly if they have the same components. -/
theorem uri?_eq_iff {t t' : Text} (h : isAbsolute t = true) (h' : isAbsolute t' = true) :
    uri? t = uri? t' ↔ ofText t = ofText t' := by
  constructor
  · intro huri
    obtain ⟨tail, htail, -, hread⟩ := uri?_of_isAbsolute h
    obtain ⟨tail', htail', -, hread'⟩ := uri?_of_isAbsolute h'
    rw [htail, htail', Option.some.injEq, List.append_cancel_left_eq] at huri
    -- Octets are those of one text, and a text is that of one path.
    have htext : (ofText t).toText = (ofText t').toText := by
      rw [← Utf8.encode_inj, ← hread, ← hread', huri]
    rw [← ofText_toText (isProper_ofText t), htext, ofText_toText (isProper_ofText t')]
  · intro hpath
    rw [uri?, uri?, if_pos h, if_pos h', hpath]

/-- A percent sign, a space, a character past ASCII and a slash that adds nothing. -/
example :
    uri? "/ws/./50% é//a.go".toList = some "file:///ws/50%25%20%C3%A9/a.go".toList ∧
      percentDecode "/ws/50%25%20%C3%A9/a.go".toList = Utf8.encode "/ws/50% é/a.go".toList := by
  decide

end GoXref.Path
