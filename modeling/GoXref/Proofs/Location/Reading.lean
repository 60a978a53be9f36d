import GoXref.Location

/-!
# `GoXref.Proofs.Location.Reading`: the reading with the longest file name

A line can often be read in several ways: `a:1:2:3` names the file `a` or the
file `a:1`. `Location.split?` walks to the end of the line and takes the last
place where two fields begin. Here a reading is said by what it cuts off, with
no walk, and what the walk finds is told apart from all other readings.

* `field?_eq_some_iff`, `fields?_eq_some_iff`: what one and two fields are.
* `LocationParts.IsReadingOf`: all the ways to read a text, the one that is
  found and the others.
* `LocationParts.IsReadingOf.exists_split?`: if there is a reading, one is found,
  and every other one has a shorter file name. The induction is on the text.
* `matches_iff_isSome_split?`: a line has the form of a location exactly if a
  reading is found.
* `parse?_longest_reading`: the location of a line comes from its longest reading
  alone. If the numbers there have no value, no other reading is tried.
-/

set_option autoImplicit false

namespace GoXref

namespace Location

open Unicode

/-! ### Fields -/

/-- The colon in front of a field is no digit. -/
theorem isDecimalDigit_colon : isDecimalDigit ':' = false := rfl

/-- A run of decimal digits of any script. There is at least one. -/
def AreDigits (digits : Text) : Prop := digits ≠ [] ∧ ∀ c ∈ digits, isDecimalDigit c = true

/-- A text ends a run of digits if it does not start with one. -/
def EndsDigits (rest : Text) : Prop := ∀ c ∈ rest.head?, isDecimalDigit c = false

theorem endsDigits_colon (t : Text) : EndsDigits (':' :: t) := by
  intro c hc
  cases hc
  exact isDecimalDigit_colon

/-- A run of digits stops where a text that ends it begins. -/
theorem takeWhile_append_of_endsDigits {digits rest : Text}
    (hdigits : ∀ c ∈ digits, isDecimalDigit c = true) (hrest : EndsDigits rest) :
    (digits ++ rest).takeWhile isDecimalDigit = digits
      ∧ (digits ++ rest).dropWhile isDecimalDigit = rest := by
  rw [List.takeWhile_append_of_pos hdigits, List.dropWhile_append_of_pos hdigits]
  cases rest with
  | nil => simp
  | cons c rest =>
      have hc : isDecimalDigit c = false := hrest c rfl
      simp [hc]

/-- A written field is read back. -/
theorem field?_append {digits rest : Text} (hdigits : AreDigits digits)
    (hrest : EndsDigits rest) : field? (':' :: (digits ++ rest)) = some (digits, rest) := by
  obtain ⟨hne, hdigits⟩ := hdigits
  obtain ⟨htake, hdrop⟩ := takeWhile_append_of_endsDigits hdigits hrest
  cases digits with
  | nil => exact absurd rfl hne
  | cons d digits => simp only [field?, htake, hdrop]

/-- Two written fields are read back. -/
theorem fields?_append {line column rest : Text} (hline : AreDigits line)
    (hcolumn : AreDigits column) (hrest : EndsDigits rest) :
    fields? (':' :: (line ++ ':' :: (column ++ rest))) = some (line, column, rest) := by
  simp only [fields?, field?_append hline (endsDigits_colon _), field?_append hcolumn hrest]

/-- No other character is in a run of digits. -/
theorem notMem_of_areDigits {digits : Text} {c : Char} (h : AreDigits digits)
    (hc : isDecimalDigit c = false) : c ∉ digits := by
  intro hmem
  rw [h.2 c hmem] at hc
  exact nomatch hc

theorem isDecimalDigit_of_mem_takeWhile {t : Text} {c : Char}
    (h : c ∈ t.takeWhile isDecimalDigit) : isDecimalDigit c = true :=
  List.all_eq_true.mp List.all_takeWhile c h

/-- What is left behind a run of digits does not start with one. -/
theorem endsDigits_dropWhile (t : Text) : EndsDigits (t.dropWhile isDecimalDigit) := by
  intro c hc
  have hhead := List.head?_dropWhile_not isDecimalDigit t
  rw [Option.mem_def.mp hc] at hhead
  exact hhead

/-- A field is a colon and a run of digits that cannot be made longer. -/
theorem field?_eq_some_iff {t digits rest : Text} :
    field? t = some (digits, rest)
      ↔ t = ':' :: (digits ++ rest) ∧ AreDigits digits ∧ EndsDigits rest := by
  constructor
  · intro h
    unfold field? at h
    split at h
    · rename_i t
      split at h
      · exact nomatch h
      · rename_i hne
        obtain ⟨rfl, rfl⟩ := Prod.mk.inj (Option.some.inj h)
        refine ⟨by rw [List.takeWhile_append_dropWhile], ⟨hne, ?_⟩, endsDigits_dropWhile t⟩
        exact fun c hc => isDecimalDigit_of_mem_takeWhile hc
    · exact nomatch h
  · rintro ⟨rfl, hdigits, hrest⟩
    exact field?_append hdigits hrest

/-- Two fields are a field and a field behind it. -/
theorem fields?_eq_some_iff {t line column rest : Text} :
    fields? t = some (line, column, rest)
      ↔ t = ':' :: (line ++ ':' :: (column ++ rest)) ∧ AreDigits line ∧ AreDigits column
        ∧ EndsDigits rest := by
  constructor
  · intro h
    unfold fields? at h
    split at h
    · exact nomatch h
    · rename_i line' t' hline
      split at h
      · exact nomatch h
      · rename_i column' rest' hcolumn
        simp only [Option.some.injEq, Prod.mk.injEq] at h
        obtain ⟨rfl, rfl, rfl⟩ := h
        obtain ⟨rfl, hdigits, -⟩ := field?_eq_some_iff.mp hline
        obtain ⟨rfl, hdigits', hrest⟩ := field?_eq_some_iff.mp hcolumn
        exact ⟨rfl, hdigits, hdigits', hrest⟩
  · rintro ⟨rfl, hline, hcolumn, hrest⟩
    exact fields?_append hline hcolumn hrest

/-! ### One step of the walk -/

/-- What is found in the tail is found in the whole text, with a longer file
name. -/
theorem split?_cons_of_some {c : Char} {t : Text} {found : LocationParts} (hc : c ≠ '\n')
    (h : split? t = some found) :
    split? (c :: t) = some { found with file := c :: found.file } := by
  rw [split?, if_neg hc, h]

/-- If nothing is found in the tail, the fields it starts with are found. -/
theorem split?_cons_of_none {c : Char} {t line column rest : Text} (hc : c ≠ '\n')
    (h : split? t = none) (hfields : fields? t = some (line, column, rest)) :
    split? (c :: t) = some ⟨[c], line, column, rest⟩ := by
  rw [split?, if_neg hc, h, hfields, Option.map_some]

end Location

/-! ### Readings -/

namespace LocationParts

open Location

/-- A way to read a text: a file name, which is not empty and stays on one
line, a colon, digits, a colon and digits. The digits go on as far as they can,
and whatever stands behind them is left unread. -/
structure IsReadingOf (parts : LocationParts) (t : Text) : Prop where
  /-- The parts are the whole text, in order. -/
  text_eq : t = parts.file ++ ':' :: (parts.line ++ ':' :: (parts.column ++ parts.rest))
  /-- There is a file name. -/
  file_ne_nil : parts.file ≠ []
  /-- The file name stays on one line. -/
  lf_notMem_file : '\n' ∉ parts.file
  /-- Digits stand between the colons. -/
  line : AreDigits parts.line
  /-- Digits stand behind the second colon. -/
  column : AreDigits parts.column
  /-- All the digits there are read. -/
  endsDigits : EndsDigits parts.rest

/-- No way to read the text has a longer file name. -/
def IsLongestReadingOf (parts : LocationParts) (t : Text) : Prop :=
  parts.IsReadingOf t ∧
    ∀ other : LocationParts, other.IsReadingOf t → other.file.length ≤ parts.file.length

/-- A text that starts with two fields can be read with the character in front
of it as the file name. -/
theorem isReadingOf_singleton {c : Char} {t line column rest : Text} (hc : c ≠ '\n')
    (h : fields? t = some (line, column, rest)) :
    IsReadingOf ⟨[c], line, column, rest⟩ (c :: t) := by
  obtain ⟨rfl, hline, hcolumn, hrest⟩ := fields?_eq_some_iff.mp h
  exact ⟨rfl, List.cons_ne_nil _ _, by simpa using hc.symm, hline, hcolumn, hrest⟩

/-- A reading is one of the text with a character more in front, which goes
into the file name. -/
theorem IsReadingOf.cons {parts : LocationParts} {t : Text} {c : Char}
    (h : parts.IsReadingOf t) (hc : c ≠ '\n') :
    IsReadingOf { parts with file := c :: parts.file } (c :: t) where
  text_eq := congrArg (c :: ·) h.text_eq
  file_ne_nil := List.cons_ne_nil _ _
  lf_notMem_file := List.not_mem_cons_of_ne_of_not_mem hc.symm h.lf_notMem_file
  line := h.line
  column := h.column
  endsDigits := h.endsDigits

/-- A text is read with its first character as the file name, and then two
fields follow, or with a longer file name, and then its tail is read too. -/
theorem IsReadingOf.cases {parts : LocationParts} {t : Text} (h : parts.IsReadingOf t) :
    ∃ c t', t = c :: t' ∧ c ≠ '\n' ∧
      ((parts.file = [c] ∧ fields? t' = some (parts.line, parts.column, parts.rest)) ∨
        ∃ file, parts.file = c :: file ∧ IsReadingOf { parts with file := file } t') := by
  obtain ⟨file, line, column, rest⟩ := parts
  obtain ⟨rfl, hne, hlf, hline, hcolumn, hrest⟩ := h
  obtain ⟨c, file, rfl⟩ := List.exists_cons_of_ne_nil hne
  refine ⟨c, _, rfl, fun hc => hlf (hc ▸ List.mem_cons_self), ?_⟩
  by_cases hfile : file = []
  · subst hfile
    exact .inl ⟨rfl, fields?_append hline hcolumn hrest⟩
  · exact .inr ⟨file, rfl, rfl, hfile, fun hmem => hlf (List.mem_cons_of_mem _ hmem), hline,
      hcolumn, hrest⟩

/-- What is found is a way to read the text. -/
theorem isReadingOf_of_split? {t : Text} {parts : LocationParts} (h : split? t = some parts) :
    parts.IsReadingOf t := by
  induction t generalizing parts with
  | nil => exact nomatch h
  | cons c t ih =>
      unfold split? at h
      split at h
      · exact nomatch h
      · rename_i hc
        split at h
        · -- It was found further right, with `c` in front of its file name.
          rename_i parts' htail
          obtain rfl := Option.some.inj h
          exact (ih htail).cons hc
        · obtain ⟨⟨line, column, rest⟩, hfields, rfl⟩ := Option.map_eq_some_iff.mp h
          exact isReadingOf_singleton hc hfields

/-- If there is a way to read the text, one is found. It is the same, or its file
name is longer. -/
theorem IsReadingOf.exists_split? {t : Text} {parts : LocationParts} (h : parts.IsReadingOf t) :
    ∃ found, split? t = some found ∧
      (parts = found ∨ parts.file.length < found.file.length) := by
  induction t generalizing parts with
  | nil =>
      obtain ⟨c, t', ht, -⟩ := h.cases
      exact nomatch ht
  | cons c t ih =>
      obtain ⟨c', t', ht, hc, hcases⟩ := h.cases
      obtain ⟨rfl, rfl⟩ := List.cons.inj ht
      rcases hcases with ⟨hfile, hfields⟩ | ⟨file, hfile, htail⟩
      · -- The file name is one character. A reading of the tail has a longer one.
        cases hsplit : split? t with
        | some found =>
            refine ⟨_, split?_cons_of_some hc hsplit, .inr ?_⟩
            have hpos := List.length_pos_iff.mpr (isReadingOf_of_split? hsplit).file_ne_nil
            rw [hfile]
            simpa using hpos
        | none =>
            refine ⟨_, split?_cons_of_none hc hsplit hfields, .inl ?_⟩
            rw [← hfile]
      · -- The tail is read too, so something is found there that is no shorter.
        obtain ⟨found, hfound, hsame | hlt⟩ := ih htail
        · refine ⟨_, split?_cons_of_some hc hfound, .inl ?_⟩
          rw [← hsame, ← hfile]
        · refine ⟨_, split?_cons_of_some hc hfound, .inr ?_⟩
          rw [hfile]
          simpa using hlt

/-- What is found is the longest reading. -/
theorem split?_eq_some_iff {t : Text} {parts : LocationParts} :
    split? t = some parts ↔ parts.IsLongestReadingOf t := by
  constructor
  · intro h
    refine ⟨isReadingOf_of_split? h, ?_⟩
    intro other hother
    obtain ⟨found, hfound, hle⟩ := hother.exists_split?
    obtain rfl := Option.some.inj (h.symm.trans hfound)
    rcases hle with rfl | hlt
    · exact Nat.le_refl _
    · exact Nat.le_of_lt hlt
  · rintro ⟨hreading, hlongest⟩
    obtain ⟨found, hfound, rfl | hlt⟩ := hreading.exists_split?
    · exact hfound
    · -- What is found is itself a reading, so it cannot be longer.
      have hle := hlongest found (isReadingOf_of_split? hfound)
      exact absurd hlt (Nat.not_lt.mpr hle)

/-- Nothing is found exactly if there is no way to read the text. -/
theorem split?_eq_none_iff {t : Text} :
    split? t = none ↔ ∀ parts : LocationParts, ¬ parts.IsReadingOf t := by
  constructor
  · intro hnone parts hreading
    obtain ⟨found, hfound, -⟩ := hreading.exists_split?
    exact nomatch hnone.symm.trans hfound
  · intro hnone
    rw [Option.eq_none_iff_forall_ne_some]
    intro parts hparts
    exact hnone parts (isReadingOf_of_split? hparts)

end LocationParts

namespace Location

open Unicode

/-! ### The form of a location -/

/-- A line has the form of a location: some characters of one line, a colon,
digits, a colon and digits, and then anything. -/
def Matches (t : Text) : Prop :=
  ∃ file line column rest, file ≠ [] ∧ '\n' ∉ file ∧ AreDigits line ∧ AreDigits column ∧
    t = file ++ ':' :: (line ++ ':' :: (column ++ rest))

/-- A line has the form of a location exactly if it can be read. -/
theorem matches_iff_exists {t : Text} : Matches t ↔ ∃ parts : LocationParts, parts.IsReadingOf t := by
  constructor
  · rintro ⟨file, line, column, rest, hne, hlf, hline, ⟨hcolumn_ne, hcolumn⟩, rfl⟩
    -- A reading takes all the digits of the last field, so the rest may lose some.
    refine ⟨⟨file, line, column ++ rest.takeWhile isDecimalDigit,
      rest.dropWhile isDecimalDigit⟩, ?_, hne, hlf, hline, ⟨?_, ?_⟩, endsDigits_dropWhile rest⟩
    · simp only [List.append_assoc, List.takeWhile_append_dropWhile]
    · exact List.append_ne_nil_of_left_ne_nil hcolumn_ne _
    · intro c hc
      rcases List.mem_append.mp hc with hc | hc
      · exact hcolumn c hc
      · exact isDecimalDigit_of_mem_takeWhile hc
  · rintro ⟨parts, h⟩
    exact ⟨_, _, _, _, h.file_ne_nil, h.lf_notMem_file, h.line, h.column, h.text_eq⟩

/-- A line has the form of a location exactly if a reading is found. -/
theorem matches_iff_isSome_split? {t : Text} : Matches t ↔ (split? t).isSome := by
  rw [matches_iff_exists]
  constructor
  · rintro ⟨parts, h⟩
    obtain ⟨found, hfound, -⟩ := h.exists_split?
    exact Option.isSome_of_eq_some hfound
  · intro h
    obtain ⟨found, hfound⟩ := Option.isSome_iff_exists.mp h
    exact ⟨found, LocationParts.isReadingOf_of_split? hfound⟩

instance (t : Text) : Decidable (Matches t) :=
  decidable_of_iff _ matches_iff_isSome_split?.symm

/-! ### Values -/

/-- A run of digits has a value if all of them are ASCII digits and the number
fits 32 bits. -/
def HasValue (digits : Text) : Prop :=
  (∀ c ∈ digits, c.isDigit = true) ∧ Nat.ofDigitChars 10 digits 0 < UInt32.size

instance (digits : Text) : Decidable (HasValue digits) :=
  inferInstanceAs (Decidable (_ ∧ _))

/-- The value of a run of digits that has one. -/
theorem value?_eq (digits : Text) :
    value? digits = if HasValue digits then some (UInt32.ofNat (Nat.ofDigitChars 10 digits 0))
      else none := by
  have hiff : (digits.all Char.isDigit && Nat.ofDigitChars 10 digits 0 < UInt32.size) = true
      ↔ HasValue digits := by
    rw [Bool.and_eq_true, List.all_eq_true, decide_eq_true_eq, HasValue]
  rw [value?]
  simp only [hiff]

/-- The location of a line is read off its longest reading. -/
theorem parse?_of_isLongestReadingOf {t : Text} {parts : LocationParts}
    (h : parts.IsLongestReadingOf t) :
    parse? t = if HasValue parts.line ∧ HasValue parts.column then
        some ⟨parts.file, UInt32.ofNat (Nat.ofDigitChars 10 parts.line 0),
          UInt32.ofNat (Nat.ofDigitChars 10 parts.column 0)⟩
      else none := by
  rw [parse?, LocationParts.split?_eq_some_iff.mpr h]
  simp only [value?_eq]
  by_cases hline : HasValue parts.line
  · by_cases hcolumn : HasValue parts.column
    · simp [hline, hcolumn]
    · simp [hline, hcolumn]
  · simp [hline]

/-- A line has a location if its longest reading has digits with a value, in
both places. -/
def IsReadable (t : Text) : Prop :=
  ∃ parts : LocationParts, parts.IsLongestReadingOf t ∧ HasValue parts.line ∧
    HasValue parts.column

/-- Exactly the readable lines have a location. -/
theorem isSome_parse?_iff {t : Text} : (parse? t).isSome ↔ IsReadable t := by
  constructor
  · intro h
    cases hsplit : split? t with
    | none => simp [parse?, hsplit] at h
    | some parts =>
        have hlongest := LocationParts.split?_eq_some_iff.mp hsplit
        rw [parse?_of_isLongestReadingOf hlongest, Option.isSome_ite] at h
        exact ⟨parts, hlongest, h⟩
  · rintro ⟨parts, hlongest, hvalues⟩
    rw [parse?_of_isLongestReadingOf hlongest, if_pos hvalues]
    rfl

instance (t : Text) : Decidable (IsReadable t) := decidable_of_iff _ isSome_parse?_iff

/-- A readable line has the form of a location. -/
theorem IsReadable.matches {t : Text} (h : IsReadable t) : Matches t := by
  obtain ⟨parts, hlongest, -⟩ := h
  exact matches_iff_exists.mpr ⟨parts, hlongest.1⟩

/-- The location of a line. Without a reading there is none. Otherwise one
reading has the longest file name, and the location is its file name and the
values of its digits, where both have one. No other reading is tried: if one of
them has no value, there is no location. -/
theorem parse?_longest_reading (t : Text) :
    (parse? t = none ∧ ∀ parts : LocationParts, ¬ parts.IsReadingOf t) ∨
    ∃ parts : LocationParts, parts.IsLongestReadingOf t ∧
      (∀ other : LocationParts, other.IsLongestReadingOf t → other = parts) ∧
      parse? t = if HasValue parts.line ∧ HasValue parts.column then
          some ⟨parts.file, UInt32.ofNat (Nat.ofDigitChars 10 parts.line 0),
            UInt32.ofNat (Nat.ofDigitChars 10 parts.column 0)⟩
        else none := by
  cases hsplit : split? t with
  | none =>
      refine .inl ⟨?_, LocationParts.split?_eq_none_iff.mp hsplit⟩
      rw [parse?, hsplit]
  | some parts =>
      have hlongest := LocationParts.split?_eq_some_iff.mp hsplit
      refine .inr ⟨parts, hlongest, ?_, parse?_of_isLongestReadingOf hlongest⟩
      intro other hother
      have hother := LocationParts.split?_eq_some_iff.mpr hother
      exact Option.some.inj (hother.symm.trans hsplit)

-- The last pair wins, and its number is too large.
example : split? "a:1:2: b:7:4294967296".toList
    = some ⟨"a:1:2: b".toList, "7".toList, "4294967296".toList, []⟩ ∧
    parse? "a:1:2: b:7:4294967296".toList = none := by decide +kernel

end Location

end GoXref
