import GoXref.Json

/-!
# `GoXref.Proofs.Json.Grammar`: which texts are JSON documents

The grammar of JSON, phrase by phrase, for the values that `Json` holds: null,
natural numbers, strings, arrays and objects. It leaves a writer all its
freedom: blanks between any two parts, and several forms of one character in a
string. `Json.write` uses little of this.

* `WrittenChar`, `WrittenString`: the forms of a character, and of a string.
* `Written`: the forms of a phrase, one constructor for each rule.
* `Denotes`: a text is a document, and this is its value.
* `written_write`: what `Json.write` writes is one of the forms.
* `denotes_compact`, `denotes_pretty`: so both layouts give documents, with a
  line feed behind them or without.
-/

set_option autoImplicit false

namespace GoXref.Json

/-! ### Blanks -/

/-- The characters that may stand between two parts of a document. -/
def isSpace (c : Char) : Bool := c = ' ' || c = '\t' || c = '\n' || c = '\r'

/-- A text of such characters only. -/
def Blank (t : Text) : Prop := ∀ c ∈ t, isSpace c = true

/-- The empty text is one. -/
theorem blank_nil : Blank [] := fun _ h => nomatch h

/-! ### Strings -/

/-- The character that a letter behind a backslash stands for. -/
def ofLetter? : Char → Option Char
  | '"' => some '"'
  | '\\' => some '\\'
  | '/' => some '/'
  | 'b' => some '\x08'
  | 'f' => some '\x0c'
  | 'n' => some '\n'
  | 'r' => some '\r'
  | 't' => some '\t'
  | _ => none

/-- The value of a hexadecimal digit. -/
def hexValue? (c : Char) : Option Nat :=
  if '0' ≤ c ∧ c ≤ '9' then some (c.toNat - '0'.toNat)
  else if 'a' ≤ c ∧ c ≤ 'f' then some (c.toNat - 'a'.toNat + 10)
  else if 'A' ≤ c ∧ c ≤ 'F' then some (c.toNat - 'A'.toNat + 10)
  else none

/-- The value of four hexadecimal digits. -/
def unit? : Text → Option Nat
  | [a, b, c, d] =>
    match hexValue? a, hexValue? b, hexValue? c, hexValue? d with
    | some a, some b, some c, some d => some (((a * 16 + b) * 16 + c) * 16 + d)
    | _, _, _, _ => none
  | _ => none

/-- The first half of a pair that stands for one character. -/
def IsHigh (n : Nat) : Prop := 0xD800 ≤ n ∧ n < 0xDC00

/-- The second half of such a pair. -/
def IsLow (n : Nat) : Prop := 0xDC00 ≤ n ∧ n < 0xE000

instance (n : Nat) : Decidable (IsHigh n) := inferInstanceAs (Decidable (_ ∧ _))

instance (n : Nat) : Decidable (IsLow n) := inferInstanceAs (Decidable (_ ∧ _))

/-- The character that a pair stands for. -/
def ofPair (high low : Nat) : Char :=
  Char.ofNat (0x10000 + (high - 0xD800) * 0x400 + (low - 0xDC00))

/-- The forms of one character in a string. -/
inductive WrittenChar : Char → Text → Prop where
  /-- The character itself, unless it has a meaning of its own there or is a
  control. -/
  | plain {c : Char} (hquote : c ≠ '"') (hbackslash : c ≠ '\\') (hcontrol : 0x20 ≤ c.toNat) :
    WrittenChar c [c]
  /-- A letter behind a backslash. -/
  | letter {c l : Char} (h : ofLetter? l = some c) : WrittenChar c ['\\', l]
  /-- A code point by its digits. -/
  | codePoint {n : Nat} {digits : Text} (h : unit? digits = some n) (hhigh : ¬ IsHigh n)
    (hlow : ¬ IsLow n) : WrittenChar (Char.ofNat n) ('\\' :: 'u' :: digits)
  /-- A code point by the digits of a pair. -/
  | pair {n m : Nat} {high low : Text} (h : unit? high = some n) (hhigh : IsHigh n)
    (h' : unit? low = some m) (hlow : IsLow m) :
    WrittenChar (ofPair n m) ('\\' :: 'u' :: (high ++ '\\' :: 'u' :: low))

/-- The forms of what stands between the quotes of a string. -/
inductive WrittenChars : Text → Text → Prop where
  /-- Nothing. -/
  | nil : WrittenChars [] []
  /-- A character, and more. -/
  | cons {c : Char} {s t t' : Text} (hchar : WrittenChar c t) (hchars : WrittenChars s t') :
    WrittenChars (c :: s) (t ++ t')

/-! ### Phrases -/

/-- A run of digits, without a zero in front of others. -/
def IsNumeral (digits : Text) : Prop :=
  digits ≠ [] ∧ (∀ c ∈ digits, c.isDigit = true) ∧ (digits.head? = some '0' → digits = ['0'])

instance (digits : Text) : Decidable (IsNumeral digits) :=
  inferInstanceAs (Decidable (_ ∧ _ ∧ (_ → _)))

/-- A part of a document, by what it stands for. -/
inductive Phrase where
  /-- A value. -/
  | value (v : Json)
  /-- A value with blanks around it. -/
  | element (v : Json)
  /-- Values with commas between them, at least one. -/
  | elements (vs : List Json)
  /-- A name, a colon and a value. -/
  | member (m : Text × Json)
  /-- Named values with commas between them, at least one. -/
  | members (ms : List (Text × Json))

/-- The forms of a phrase. -/
inductive Written : Phrase → Text → Prop where
  | null : Written (.value .null) ['n', 'u', 'l', 'l']
  | number {digits : Text} (h : IsNumeral digits) :
    Written (.value (.number (Nat.ofDigitChars 10 digits 0))) digits
  | string {s t : Text} (h : WrittenChars s t) : Written (.value (.string s)) ('"' :: (t ++ ['"']))
  | noElements {b : Text} (hb : Blank b) : Written (.value (.array [])) ('[' :: (b ++ [']']))
  | array {vs : List Json} {t : Text} (h : Written (.elements vs) t) :
    Written (.value (.array vs)) ('[' :: (t ++ [']']))
  | noMembers {b : Text} (hb : Blank b) :
    Written (.value (.object [])) ('\x7b' :: (b ++ ['\x7d']))
  | object {ms : List (Text × Json)} {t : Text} (h : Written (.members ms) t) :
    Written (.value (.object ms)) ('\x7b' :: (t ++ ['\x7d']))
  | element {v : Json} {b t b' : Text} (hb : Blank b) (h : Written (.value v) t) (hb' : Blank b') :
    Written (.element v) (b ++ (t ++ b'))
  | lastElement {v : Json} {t : Text} (h : Written (.element v) t) : Written (.elements [v]) t
  | moreElements {v : Json} {vs : List Json} {t t' : Text} (h : Written (.element v) t)
    (h' : Written (.elements vs) t') : Written (.elements (v :: vs)) (t ++ ',' :: t')
  | member {name : Text} {v : Json} {b s b' t : Text} (hb : Blank b) (hname : WrittenChars name s)
    (hb' : Blank b') (h : Written (.element v) t) :
    Written (.member (name, v)) (b ++ '"' :: (s ++ '"' :: (b' ++ ':' :: t)))
  | lastMember {m : Text × Json} {t : Text} (h : Written (.member m) t) : Written (.members [m]) t
  | moreMembers {m : Text × Json} {ms : List (Text × Json)} {t t' : Text}
    (h : Written (.member m) t) (h' : Written (.members ms) t') :
    Written (.members (m :: ms)) (t ++ ',' :: t')

/-- A text is a document, and this is its value: there is one value, with
blanks around it. -/
def Denotes (t : Text) (v : Json) : Prop := Written (.element v) t

/-! ### What is written of a string -/

/-- A control below the space is written by its code point in four digits. -/
theorem unit?_hexDigits4 : ∀ n < 0x20, unit? (hexDigits4 n) = some n := by decide

/-- If each character has one of two forms in some sense, it has the one that is chosen
for it. -/
theorem form_ite {R : Char → Text → Prop} {c d : Char} {t t' : Text} (h : R d t)
    (h' : c ≠ d → R c t') : R c (if c = d then t else t') := by
  split
  · rename_i heq
    rwa [heq]
  · rename_i hne
    exact h' hne

/-- A character is written in one of its forms. -/
theorem writtenChar_escapeChar (c : Char) : WrittenChar c (escapeChar c) := by
  unfold escapeChar
  refine form_ite (.letter rfl) fun hquote => form_ite (.letter rfl) fun hbackslash => ?_
  -- The five controls with a letter of their own.
  refine form_ite (.letter rfl) fun _ => form_ite (.letter rfl) fun _ =>
    form_ite (.letter rfl) fun _ => form_ite (.letter rfl) fun _ =>
    form_ite (.letter rfl) fun _ => ?_
  split
  · rename_i hcontrol
    have hhigh : ¬ IsHigh c.toNat := by
      rintro ⟨hle, -⟩
      omega
    have hlow : ¬ IsLow c.toNat := by
      rintro ⟨hle, -⟩
      omega
    have hwritten := WrittenChar.codePoint (unit?_hexDigits4 c.toNat hcontrol) hhigh hlow
    rwa [Char.ofNat_toNat] at hwritten
  · exact .plain hquote hbackslash (by omega)

/-- The characters of a string are written one after the other. -/
theorem writtenChars_flatMap (s : Text) : WrittenChars s (s.flatMap escapeChar) := by
  induction s with
  | nil => exact .nil
  | cons c s ih =>
      rw [List.flatMap_cons]
      exact .cons (writtenChar_escapeChar c) ih

/-! ### What is written of a number -/

/-- No number in decimal has a zero in front of other digits. -/
theorem decimal_eq_of_head? (n : Nat) (h : (Text.decimal n).head? = some '0') :
    Text.decimal n = ['0'] := by
  induction n using Nat.strongRecOn with
  | ind n ih =>
      by_cases hlt : n < 10
      · rw [Text.decimal, Nat.toDigits_of_lt_base hlt] at h ⊢
        rw [Option.some.inj h]
      · -- The digits in front of the last one are those of a smaller number, and
        -- that number is not zero.
        have hsplit : Text.decimal n = Text.decimal (n / 10) ++ [(n % 10).digitChar] :=
          Nat.toDigits_of_base_le (by decide) (by omega)
        obtain ⟨c, front, hfront⟩ : ∃ c front, Text.decimal (n / 10) = c :: front :=
          List.exists_cons_of_ne_nil Nat.toDigits_ne_nil
        rw [hsplit, hfront, List.cons_append, List.head?_cons] at h
        have hzero : Text.decimal (n / 10) = ['0'] := by
          refine ih (n / 10) (by omega) ?_
          rw [hfront, List.head?_cons, h]
        have hvalue : Nat.ofDigitChars 10 (Text.decimal (n / 10)) 0 = n / 10 :=
          Nat.ofDigitChars_ten_toDigits
        rw [hzero] at hvalue
        have : Nat.ofDigitChars 10 ['0'] 0 = 0 := rfl
        omega

/-- A number in decimal is a numeral. -/
theorem isNumeral_decimal (n : Nat) : IsNumeral (Text.decimal n) :=
  ⟨Nat.toDigits_ne_nil, fun _ hc => Nat.isDigit_of_mem_toDigits (by decide) (by decide) hc,
    decimal_eq_of_head? n⟩

/-- A number is written in its one form. -/
theorem written_decimal (n : Nat) : Written (.value (.number n)) (Text.decimal n) := by
  have h := Written.number (isNumeral_decimal n)
  rwa [Text.decimal, Nat.ofDigitChars_ten_toDigits] at h

/-! ### What is written of a value -/

/-- A layout adds blanks to a document, and the colon behind a name. -/
structure Layout.AddsBlanks (layout : Layout) : Prop where
  /-- Only blanks stand in front of an item. -/
  newline : ∀ depth, Blank (layout.newline depth)
  /-- Only blanks stand behind the colon. -/
  colon : ∃ b, Blank b ∧ layout.colon = ':' :: b

/-- The layout on one line adds nothing. -/
theorem addsBlanks_compact : Layout.compact.AddsBlanks :=
  ⟨fun _ => blank_nil, [], blank_nil, rfl⟩

/-- The layout with an item a line adds line feeds and spaces. -/
theorem addsBlanks_pretty : Layout.pretty.AddsBlanks := by
  refine ⟨?_, [' '], by simp [Blank, isSpace], rfl⟩
  intro depth c hc
  rcases List.mem_cons.mp hc with rfl | hc
  · rfl
  · rw [List.eq_of_mem_replicate hc]
    rfl

section
variable {layout : Layout} (hlayout : layout.AddsBlanks)
include hlayout

/-- A value behind the blanks of its level, with more of them behind it or
none, is an element. -/
theorem written_element {v : Json} {t b : Text} (depth : Nat) (h : Written (.value v) t)
    (hb : Blank b) : Written (.element v) (layout.newline depth ++ (t ++ b)) :=
  .element (hlayout.newline depth) h hb

/-- A named value behind the blanks of its level is a member. -/
theorem written_member (name : Text) {v : Json} {t b : Text} (depth : Nat)
    (h : Written (.value v) t) (hb : Blank b) :
    Written (.member (name, v))
      (layout.newline depth ++ (writeString name ++ (layout.colon ++ (t ++ b)))) := by
  obtain ⟨b', hb', hcolon⟩ := hlayout.colon
  have h' := Written.member (hlayout.newline depth) (writtenChars_flatMap name) blank_nil
    (.element hb' h hb)
  rw [hcolon]
  simpa [writeString] using h'

mutual

/-- What is written of a value is one of its forms. -/
theorem written_write (depth : Nat) (v : Json) :
    Written (.value v) (write layout depth v) := by
  match v with
  | .null => exact .null
  | .number n => exact written_decimal n
  | .string s => exact .string (writtenChars_flatMap s)
  | .array [] => exact .noElements blank_nil
  | .array (item :: items) =>
      have h := written_writeItems (depth + 1) (hlayout.newline depth) (item :: items)
        (List.cons_ne_nil _ _)
      simpa [write] using Written.array h
  | .object [] => exact .noMembers blank_nil
  | .object (member :: members) =>
      have h := written_writeMembers (depth + 1) (hlayout.newline depth) (member :: members)
        (List.cons_ne_nil _ _)
      simpa [write] using Written.object h

/-- What is written of some values, with blanks behind it, is one of the forms
of a list of them. -/
theorem written_writeItems (depth : Nat) {b : Text} (hb : Blank b) (items : List Json)
    (hne : items ≠ []) : Written (.elements items) (writeItems layout depth items ++ b) := by
  match items with
  | [] => exact absurd rfl hne
  | [item] =>
      have h := written_element hlayout depth (written_write depth item) hb
      simpa [writeItems] using Written.lastElement h
  | item :: item' :: items =>
      have h := written_element hlayout depth (written_write depth item) blank_nil
      have h' := written_writeItems depth hb (item' :: items) (List.cons_ne_nil _ _)
      simpa [writeItems] using Written.moreElements h h'

/-- What is written of some named values, with blanks behind it, is one of the
forms of a list of them. -/
theorem written_writeMembers (depth : Nat) {b : Text} (hb : Blank b)
    (members : List (Text × Json)) (hne : members ≠ []) :
    Written (.members members) (writeMembers layout depth members ++ b) := by
  match members with
  | [] => exact absurd rfl hne
  | [(name, value)] =>
      have h := written_member hlayout name depth (written_write depth value) hb
      simpa [writeMembers] using Written.lastMember h
  | (name, value) :: member :: members =>
      have h := written_member hlayout name depth (written_write depth value) blank_nil
      have h' := written_writeMembers depth hb (member :: members) (List.cons_ne_nil _ _)
      simpa [writeMembers] using Written.moreMembers h h'

end

end

/-- A value on one line is a document, with blanks behind it or without. -/
theorem denotes_compact (v : Json) {b : Text} (hb : Blank b) : Denotes (v.compact ++ b) v :=
  .element blank_nil (written_write addsBlanks_compact 0 v) hb

/-- A value with an item a line is a document, with blanks behind it or
without. -/
theorem denotes_pretty (v : Json) {b : Text} (hb : Blank b) : Denotes (v.pretty ++ b) v :=
  .element blank_nil (written_write addsBlanks_pretty 0 v) hb

end GoXref.Json
