import GoXref.Proofs.Location
import GoXref.Proofs.Location.Bare

/-!
# `GoXref.Proofs.Location.Agreement`: the two ways to recognise a location

`Location.isBare` asks whether a whole line is a location, and tries every place
for the end of the file name. `Location.parse?` reads a location at the front of a
line, and takes the last place. A strict reader of listings asks both of the same
lines. So the question is whether they cut a line at the same two colons.

* `EndsInGroups`: the last two groups of digits of a line, with no file name.
* `ReadsToEnd`: the longest reading of a line leaves nothing unread.
* `isBare_iff_split?`: a bare location is cut by the reader, at its end, behind a
  file name without white space.
* `isBare_agrees_parse?`: so both recognise the same lines, if the numbers have a
  value, and see the same parts in them.
-/

set_option autoImplicit false

namespace GoXref.Location

open Unicode

/-! ### The last two groups of digits -/

/-- A line ends in a colon, digits, a colon and digits. -/
structure EndsInGroups (t first second : Text) : Prop where
  /-- The line ends in both groups. -/
  isSuffix : ':' :: (first ++ ':' :: second) <:+ t
  /-- Digits stand between the colons. -/
  first : AreDigits first
  /-- Digits stand behind the second colon. -/
  second : AreDigits second

/-- What stands behind the last colon of a line is told by having none. -/
theorem eq_of_colon_isSuffix {t back back' : Text} (hback : ':' ∉ back) (hback' : ':' ∉ back')
    (h : ':' :: back <:+ t) (h' : ':' :: back' <:+ t) : back = back' := by
  rcases List.suffix_or_suffix_of_suffix h h' with hsuffix | hsuffix
  · rcases List.suffix_cons_iff.mp hsuffix with heq | hin
    · exact (List.cons.inj heq).2
    · exact absurd (hin.subset List.mem_cons_self) hback'
  · rcases List.suffix_cons_iff.mp hsuffix with heq | hin
    · exact (List.cons.inj heq).2.symm
    · exact absurd (hin.subset List.mem_cons_self) hback

/-- A line ends in one pair of groups only. -/
theorem EndsInGroups.unique {t first second first' second' : Text}
    (h : EndsInGroups t first second) (h' : EndsInGroups t first' second') :
    first = first' ∧ second = second' := by
  obtain ⟨front, rfl⟩ := h.isSuffix
  obtain ⟨front', heq⟩ := h'.isSuffix
  have hcolon : ∀ {digits : Text}, AreDigits digits → ':' ∉ digits := fun hdigits =>
    notMem_of_areDigits hdigits isDecimalDigit_colon
  -- The second groups stand behind the last colon, and the first ones behind the last
  -- colon of what is left.
  have hcut : (front' ++ ':' :: first') ++ ':' :: second'
      = (front ++ ':' :: first) ++ ':' :: second := by
    simpa using heq
  obtain rfl : second = second' :=
    eq_of_colon_isSuffix (hcolon h.second) (hcolon h'.second) ⟨_, rfl⟩ ⟨_, hcut⟩
  have hleft : front' ++ ':' :: first' = front ++ ':' :: first := List.append_cancel_right hcut
  exact ⟨eq_of_colon_isSuffix (hcolon h.first) (hcolon h'.first) ⟨_, rfl⟩ ⟨_, hleft⟩, rfl⟩

/-! ### Lines that are read to their end -/

/-- The longest reading of a line takes all of it. -/
def ReadsToEnd (t : Text) : Prop :=
  ∃ parts : LocationParts, parts.IsLongestReadingOf t ∧ parts.rest = []

/-- A reading with nothing behind its digits has the last two groups of the line. -/
theorem endsInGroups_of_isReadingOf {t : Text} {parts : LocationParts}
    (h : parts.IsReadingOf t) (hrest : parts.rest = []) :
    EndsInGroups t parts.line parts.column := by
  have htext := h.text_eq
  rw [hrest, List.append_nil] at htext
  exact ⟨⟨parts.file, htext.symm⟩, h.line, h.column⟩

/-- A bare location is a line that the reader cuts into a file name without white
space and two fields, with nothing left. -/
theorem isBare_iff_split? {t : Text} :
    isBare t = true ↔ ∃ parts, split? t = some parts ∧ parts.rest = [] ∧
      ∀ c ∈ parts.file, isBlank c = false := by
  rw [isBare_iff]
  constructor
  · rintro ⟨file, line, column, hne, hfile, hline, hcolumn, rfl⟩
    have hlf : '\n' ∉ file := fun hmem => absurd (hfile _ hmem) (by decide)
    -- Only one of the colons stands behind the first field, so no cut lies further on.
    have hsplit := split?_append_fields hne hlf hline hcolumn (List.not_mem_nil (a := ':'))
      (fun c hc => nomatch hc)
    rw [List.append_nil] at hsplit
    exact ⟨_, hsplit, rfl, hfile⟩
  · rintro ⟨parts, hsplit, hrest, hfile⟩
    have hreading := LocationParts.isReadingOf_of_split? hsplit
    have htext := hreading.text_eq
    rw [hrest, List.append_nil] at htext
    exact ⟨_, _, _, hreading.file_ne_nil, hfile, hreading.line, hreading.column, htext⟩

/-- A line whose longest reading is known has a location exactly if both its numbers
have a value. -/
theorem parse?_eq_some_iff_of_isLongestReadingOf {t : Text} {parts : LocationParts} {l : Location}
    (h : parts.IsLongestReadingOf t) :
    parse? t = some l ↔ (HasValue parts.line ∧ HasValue parts.column) ∧ l.file = parts.file ∧
      l.line.toNat = Nat.ofDigitChars 10 parts.line 0 ∧
      l.column.toNat = Nat.ofDigitChars 10 parts.column 0 := by
  rw [parse?_of_isLongestReadingOf h, Option.ite_none_right_eq_some]
  refine and_congr_right fun ⟨hline, hcolumn⟩ => ?_
  have hline := UInt32.toNat_ofNat_of_lt' hline.2
  have hcolumn := UInt32.toNat_ofNat_of_lt' hcolumn.2
  obtain ⟨file, line, column⟩ := l
  rw [Option.some.injEq, mk.injEq, ← UInt32.toNat_inj, ← UInt32.toNat_inj, hline, hcolumn]
  exact ⟨fun ⟨h₁, h₂, h₃⟩ => ⟨h₁.symm, h₂.symm, h₃.symm⟩,
    fun ⟨h₁, h₂, h₃⟩ => ⟨h₁.symm, h₂.symm, h₃.symm⟩⟩

/-- A line is a bare location, and its last two groups of digits have values,
exactly if it has a location, the file name there holds no white space, and the
longest reading takes all of the line. Then the line is that file name and those two
groups, each behind a colon, and the numbers of the location are their values. -/
theorem isBare_agrees_parse? (t : Text) :
    ((isBare t = true ∧
        ∃ first second, EndsInGroups t first second ∧ HasValue first ∧ HasValue second) ↔
      ∃ l, parse? t = some l ∧ (∀ c ∈ l.file, isBlank c = false) ∧ ReadsToEnd t) ∧
    ∀ l, isBare t = true → parse? t = some l →
      ∃ first second, EndsInGroups t first second ∧ t = l.file ++ ':' :: (first ++ ':' :: second) ∧
        l.line.toNat = Nat.ofDigitChars 10 first 0 ∧
        l.column.toNat = Nat.ofDigitChars 10 second 0 := by
  refine ⟨⟨?_, ?_⟩, ?_⟩
  · rintro ⟨hbare, first, second, hgroups, hfirst, hsecond⟩
    obtain ⟨parts, hsplit, hrest, hfile⟩ := isBare_iff_split?.mp hbare
    have hlongest := LocationParts.split?_eq_some_iff.mp hsplit
    -- The reader sees the same two groups.
    obtain ⟨rfl, rfl⟩ := hgroups.unique (endsInGroups_of_isReadingOf hlongest.1 hrest)
    have hparse := parse?_of_isLongestReadingOf hlongest
    rw [if_pos ⟨hfirst, hsecond⟩] at hparse
    exact ⟨_, hparse, hfile, parts, hlongest, hrest⟩
  · rintro ⟨l, hparse, hfile, parts, hlongest, hrest⟩
    obtain ⟨⟨hline, hcolumn⟩, hname, -⟩ :=
      (parse?_eq_some_iff_of_isLongestReadingOf hlongest).mp hparse
    rw [hname] at hfile
    exact ⟨isBare_iff_split?.mpr
        ⟨parts, LocationParts.split?_eq_some_iff.mpr hlongest, hrest, hfile⟩,
      _, _, endsInGroups_of_isReadingOf hlongest.1 hrest, hline, hcolumn⟩
  · intro l hbare hparse
    obtain ⟨parts, hsplit, hrest, -⟩ := isBare_iff_split?.mp hbare
    have hlongest := LocationParts.split?_eq_some_iff.mp hsplit
    obtain ⟨-, hname, hline, hcolumn⟩ :=
      (parse?_eq_some_iff_of_isLongestReadingOf hlongest).mp hparse
    have htext := hlongest.1.text_eq
    rw [hrest, List.append_nil, ← hname] at htext
    exact ⟨_, _, endsInGroups_of_isReadingOf hlongest.1 hrest, htext, hline, hcolumn⟩

/-- `isBare_agrees_parse?` for a line whose file name looks like a location itself. -/
theorem isBare_agrees_parse?_nested :
    isBare "C:\\a.go:1:2:003:4".toList = true ∧
    parse? "C:\\a.go:1:2:003:4".toList = some ⟨"C:\\a.go:1:2".toList, 3, 4⟩ ∧
    ReadsToEnd "C:\\a.go:1:2:003:4".toList ∧
    ∃ first second, EndsInGroups "C:\\a.go:1:2:003:4".toList first second ∧
      "C:\\a.go:1:2:003:4".toList = "C:\\a.go:1:2".toList ++ ':' :: (first ++ ':' :: second) ∧
      3 = Nat.ofDigitChars 10 first 0 ∧ 4 = Nat.ofDigitChars 10 second 0 := by
  have hbare : isBare "C:\\a.go:1:2:003:4".toList = true := by decide +kernel
  have hparse : parse? "C:\\a.go:1:2:003:4".toList = some ⟨"C:\\a.go:1:2".toList, 3, 4⟩ := by
    decide +kernel
  obtain ⟨hagree, hparts⟩ := isBare_agrees_parse? "C:\\a.go:1:2:003:4".toList
  have hgroups : EndsInGroups "C:\\a.go:1:2:003:4".toList "003".toList "4".toList :=
    ⟨⟨"C:\\a.go:1:2".toList, rfl⟩, ⟨by decide, List.all_eq_true.mp rfl⟩,
      ⟨by decide, List.all_eq_true.mp rfl⟩⟩
  obtain ⟨-, -, -, hend⟩ := hagree.mp ⟨hbare, _, _, hgroups,
    ⟨List.all_eq_true.mp rfl, by decide⟩, ⟨List.all_eq_true.mp rfl, by decide⟩⟩
  exact ⟨hbare, hparse, hend, hparts _ hbare hparse⟩

end GoXref.Location
