import GoXref.Proofs.Json.Grammar
import GoXref.Text.Quoted

/-!
# `GoXref.Proofs.Text.Quoted`: a quoted text is read back

Between quotes every character stands for itself or is written behind a backslash. A
reader that goes from left to right therefore always knows where it is: in front of a
character, or between the braces of a code point. `readFrom` is that reader. It finds the
closing quote without knowing what follows, so a quoted text may stand in the middle of
any other text, and the text between the quotes may look like anything: like an escape,
like a closing quote, or like what follows the quotes.

A quoted text stays on one line, because a character that would end the line has no
printed form and is written by its code point.

* `readQuoted?_append`: what is quoted is read back, whatever follows.
* `quoted_append_inj`: so two quoted texts are equal only if their texts are.
* `isOneLine_quoted`: whatever the text, it is quoted on one line.
-/

set_option autoImplicit false

namespace GoXref.Text

/-! ### Reading -/

/-- The character that a letter behind a backslash stands for. -/
def ofLetter? : Char → Option Char
  | '0' => some '\x00'
  | 't' => some '\t'
  | 'r' => some '\r'
  | 'n' => some '\n'
  | '\\' => some '\\'
  | '"' => some '"'
  | _ => none

/-- The text up to a closing quote, and what follows the quote. Between the braces of a
code point, the number read so far is given. -/
def readFrom : Option Nat → Text → Option (Text × Text)
  | _, [] => none
  | none, '"' :: rest => some ([], rest)
  | none, '\\' :: 'u' :: '\x7b' :: rest => readFrom (some 0) rest
  | none, '\\' :: letter :: rest =>
    match ofLetter? letter with
    | some c => (readFrom none rest).map fun (t, rest) => (c :: t, rest)
    | none => none
  | none, c :: rest => (readFrom none rest).map fun (t, rest) => (c :: t, rest)
  | some n, '\x7d' :: rest => (readFrom none rest).map fun (t, rest) => (Char.ofNat n :: t, rest)
  | some n, digit :: rest =>
    match Json.hexValue? digit with
    | some d => readFrom (some (16 * n + d)) rest
    | none => none

/-- The text that is quoted in front, and what follows it. -/
def readQuoted? : Text → Option (Text × Text)
  | '"' :: rest => readFrom none rest
  | _ => none

/-! ### Code points -/

theorem hexValue?_digitChar : ∀ n < 16, Json.hexValue? n.digitChar = some n := by decide

/-- A digit between braces is worth its value, and the digits in front of it sixteen times
theirs. -/
theorem readFrom_digitChar (n : Nat) {d : Nat} (hd : d < 16) (rest : Text) :
    readFrom (some n) (d.digitChar :: rest) = readFrom (some (16 * n + d)) rest := by
  have hbrace : d.digitChar ≠ '\x7d' := Nat.digitChar_ne _ (by decide)
  simp only [readFrom, hexValue?_digitChar d hd]

/-- A number between braces is read, whatever follows. -/
theorem readFrom_toDigits (n : Nat) (rest : Text) :
    readFrom (some 0) (Nat.toDigits 16 n ++ rest) = readFrom (some n) rest := by
  -- The induction takes off the last digit, and `rest` takes it up.
  induction n using Nat.strongRecOn generalizing rest with
  | ind n ih =>
      by_cases hlt : n < 16
      · rw [Nat.toDigits_of_lt_base hlt, List.singleton_append, readFrom_digitChar 0 hlt]
        simp
      · have hmod : n % 16 < 16 := Nat.mod_lt _ (by decide)
        rw [Nat.toDigits_of_base_le (by decide) (by omega), List.append_assoc,
          ih (n / 16) (by omega), List.singleton_append, readFrom_digitChar _ hmod,
          Nat.div_add_mod]

/-! ### Characters -/

/-- What a character is written as: it is read as that character, whatever follows. -/
def HasForm (c : Char) (form : Text) : Prop :=
  ∀ rest, readFrom none (form ++ rest) = (readFrom none rest).map fun (t, rest) => (c :: t, rest)

/-- The character that a letter behind a backslash stands for. -/
theorem hasForm_letter {letter c : Char} (h : ofLetter? letter = some c) :
    HasForm c ['\\', letter] := by
  intro rest
  -- No letter starts a code point.
  have hletter : letter ≠ 'u' := by
    rintro rfl
    exact nomatch h
  show readFrom none ('\\' :: letter :: rest) = _
  rw [readFrom]
  · simp only [h]
  · intro _ hu
    exact absurd hu hletter

/-- The character that has a code point. -/
theorem hasForm_codePointEscape (c : Char) : HasForm c (codePointEscape c) := by
  intro rest
  show readFrom none ('\\' :: 'u' :: '\x7b' :: (Nat.toDigits 16 c.toNat ++ ['\x7d'] ++ rest)) = _
  rw [List.append_assoc, readFrom, readFrom_toDigits]
  show (readFrom none rest).map _ = _
  rw [Char.ofNat_toNat]

/-- A character that is neither the quote nor the backslash. -/
theorem hasForm_self {c : Char} (hquote : c ≠ '"') (hbackslash : c ≠ '\\') : HasForm c [c] := by
  intro rest
  rw [List.singleton_append, readFrom]
  · exact hquote
  · intro _ h
    exact absurd h hbackslash
  · intro _ _ h
    exact absurd h hbackslash

/-- A character is written in one of its forms. -/
theorem hasForm_escapeChar (c : Char) : HasForm c (escapeChar c) := by
  unfold escapeChar
  -- The four controls, the backslash and the quote have a letter of their own.
  refine Json.form_ite (hasForm_letter rfl) fun _ => Json.form_ite (hasForm_letter rfl) fun _ =>
    Json.form_ite (hasForm_letter rfl) fun _ => Json.form_ite (hasForm_letter rfl) fun _ =>
    Json.form_ite (hasForm_letter rfl) fun hbackslash =>
    Json.form_ite (hasForm_letter rfl) fun hquote => ?_
  split
  · exact hasForm_codePointEscape c
  · exact hasForm_self hquote hbackslash

/-! ### Quoted texts -/

/-- What stands between the quotes is read up to the closing one. -/
theorem readFrom_flatMap_append (t rest : Text) :
    readFrom none (t.flatMap escapeChar ++ '"' :: rest) = some (t, rest) := by
  induction t with
  | nil => rfl
  | cons c t ih =>
      rw [List.flatMap_cons, List.append_assoc, hasForm_escapeChar c, ih]
      rfl

/-- What is quoted is read back, whatever follows. -/
theorem readQuoted?_append (t rest : Text) : readQuoted? (quoted t ++ rest) = some (t, rest) := by
  show readFrom none ((t.flatMap escapeChar ++ ['"']) ++ rest) = _
  rw [List.append_assoc]
  exact readFrom_flatMap_append t rest

/-- Two texts with a quoted text in front are equal only if both parts are. -/
theorem quoted_append_inj {t t' rest rest' : Text} (h : quoted t ++ rest = quoted t' ++ rest') :
    t = t' ∧ rest = rest' := by
  have hread := readQuoted?_append t rest
  rw [h, readQuoted?_append] at hread
  -- One text is read as one text and one rest.
  obtain ⟨htext, hrest⟩ := Prod.mk.inj (Option.some.inj hread)
  exact ⟨htext.symm, hrest.symm⟩

/-- A quote, a backslash, and text that looks like an escape and like more of a message. -/
example : readQuoted? (quoted "a\"): \\u\x7b41\x7d\x01".toList ++ "): b".toList)
    = some ("a\"): \\u\x7b41\x7d\x01".toList, "): b".toList) := by decide +kernel

/-! ### One line -/

/-- A text on one line: it has no control character, no line separator and no paragraph
separator. -/
def IsOneLine (t : Text) : Prop :=
  ∀ c ∈ t, 0x20 ≤ c.toNat ∧ ¬ (0x7F ≤ c.toNat ∧ c.toNat < 0xA0) ∧ c ≠ '\u2028' ∧ c ≠ '\u2029'

instance (t : Text) : Decidable (IsOneLine t) := List.decidableBAll _ t

/-- Two texts on one line make one together. -/
theorem isOneLine_append {t t' : Text} :
    IsOneLine (t ++ t') ↔ IsOneLine t ∧ IsOneLine t' := List.forall_mem_append

/-- The characters that have a printed form stay on a line. -/
theorem isOneLine_singleton {c : Char} (h : Unicode.isUnprintable c = false) :
    IsOneLine [c] := by
  have hascending : Unicode.unprintableRanges.isAscending := by decide +kernel
  have hnone : ∀ r ∈ Unicode.unprintableRanges, ¬ (r.1 ≤ c.toNat ∧ c.toNat ≤ r.2) := by
    intro r hr hwithin
    have hcontains := (Unicode.Ranges.contains_iff hascending c.toNat).mpr ⟨r, hr, hwithin⟩
    exact absurd (h.symm.trans hcontains) Bool.false_ne_true
  -- Three ranges of the table hold all the characters that would end the line.
  have hcontrol := hnone (0x0, 0x1F) (by decide +kernel)
  have hdelete := hnone (0x7F, 0xA0) (by decide +kernel)
  have hseparator := hnone (0x2028, 0x202F) (by decide +kernel)
  rw [IsOneLine, List.forall_mem_singleton]
  refine ⟨by omega, by omega, ?_, ?_⟩ <;>
  · rintro rfl
    exact hseparator (by decide)

theorem isOneLine_digitChar : ∀ d < 16, IsOneLine [d.digitChar] := by decide

/-- The digits of a number stay on a line. -/
theorem isOneLine_toDigits {b : Nat} (hb : 1 < b) (hb' : b ≤ 16) (n : Nat) :
    IsOneLine (Nat.toDigits b n) := by
  have hdigit : ∀ d < b, IsOneLine [d.digitChar] :=
    fun d hd => isOneLine_digitChar d (Nat.lt_of_lt_of_le hd hb')
  induction n using Nat.strongRecOn with
  | ind n ih =>
      rw [Nat.toDigits_eq_if hb]
      split
      · exact hdigit n ‹_›
      · rw [isOneLine_append]
        exact ⟨ih _ (Nat.div_lt_self (by omega) hb), hdigit _ (Nat.mod_lt _ (by omega))⟩

/-- However a character is written, it stays on a line. -/
theorem isOneLine_escapeChar (c : Char) : IsOneLine (escapeChar c) := by
  unfold escapeChar
  -- A letter behind a backslash does.
  refine iteInduction (fun _ => by decide) fun _ => iteInduction (fun _ => by decide) fun _ =>
    iteInduction (fun _ => by decide) fun _ => iteInduction (fun _ => by decide) fun _ =>
    iteInduction (fun _ => by decide) fun _ => iteInduction (fun _ => by decide) fun _ => ?_
  split
  · unfold codePointEscape
    rw [isOneLine_append, isOneLine_append]
    exact ⟨⟨by decide, isOneLine_toDigits (by decide) (by decide) _⟩, by decide⟩
  · rename_i hplain
    rw [Bool.or_eq_true, not_or, Bool.not_eq_true, Bool.not_eq_true] at hplain
    exact isOneLine_singleton hplain.2

/-- Whatever the text, it is quoted on one line. -/
theorem isOneLine_quoted (t : Text) : IsOneLine (quoted t) := by
  have hforms : IsOneLine (t.flatMap escapeChar) := by
    intro c hc
    obtain ⟨c', -, hc⟩ := List.mem_flatMap.mp hc
    exact isOneLine_escapeChar c' c hc
  show IsOneLine (['"'] ++ (t.flatMap escapeChar ++ ['"']))
  rw [isOneLine_append, isOneLine_append]
  exact ⟨by decide, hforms, by decide⟩

end GoXref.Text
