import GoXref.Proofs.Json.Grammar

/-!
# `GoXref.Proofs.Json.Reader`: a document has one value

The grammar of JSON is read from left to right without ever going back: what
stands next tells which rule is used. The reader of this module does so. It
finds whatever the grammar allows, so a text that is a document has the value
that the reader finds, and no other.

* `read?`: the value of a document.
* `Phrase.IsRead`: the reader finds a phrase in front of any text that can
  follow it. `isRead_of_written` shows it of each rule of the grammar.
* `read?_of_denotes`, `Denotes.unique`: a document has one value.
* `denotes_pretty_iff`: so the value that was written is the only one that can
  be read.

The reader counts down from a number of steps, and three steps for each
character are enough: no more than three phrases start at the same one.
-/

set_option autoImplicit false

namespace GoXref.Json

/-! ### The reader -/

/-- The text behind the blanks in front of it. -/
def skip (t : Text) : Text := t.dropWhile isSpace

/-- Reads the second half of a pair, behind the digits of the first. -/
def lowHalf? (high : Nat) : Text → Option (Char × Text)
  | '\\' :: 'u' :: t =>
    match unit? (t.take 4) with
    | some low => if IsLow low then some (ofPair high low, t.drop 4) else none
    | none => none
  | _ => none

/-- Reads a character from the digits of its code point. -/
def codePoint? (t : Text) : Option (Char × Text) :=
  match unit? (t.take 4) with
  | some n =>
    if IsHigh n then lowHalf? n (t.drop 4)
    else if IsLow n then none
    else some (Char.ofNat n, t.drop 4)
  | none => none

/-- Reads a character from what stands behind a backslash. -/
def escape? : Text → Option (Char × Text)
  | [] => none
  | l :: t => if l = 'u' then codePoint? t else (ofLetter? l).map fun c => (c, t)

/-- Reads a character of a string. -/
def char? : Text → Option (Char × Text)
  | [] => none
  | c :: t => if c = '\\' then escape? t else if c.toNat < 0x20 then none else some (c, t)

/-- Reads the characters of a string, and the quote behind them. -/
def chars? : Nat → Text → Option (Text × Text)
  | 0, _ => none
  | _ + 1, '"' :: t => some ([], t)
  | steps + 1, t =>
    match char? t with
    | some (c, t) => (chars? steps t).map fun (s, t) => (c :: s, t)
    | none => none

/-- Reads a number. -/
def number? (t : Text) : Option (Nat × Text) :=
  let digits := t.takeWhile Char.isDigit
  if IsNumeral digits then some (Nat.ofDigitChars 10 digits 0, t.dropWhile Char.isDigit) else none

mutual

/-- Reads a value. -/
def value? : Nat → Text → Option (Json × Text)
  | 0, _ => none
  | steps + 1, t =>
    match number? t with
    | some (n, t) => some (.number n, t)
    | none =>
      match t with
      | 'n' :: 'u' :: 'l' :: 'l' :: t => some (.null, t)
      | '"' :: t => (chars? steps t).map fun (s, t) => (.string s, t)
      | '[' :: t =>
        match skip t with
        | ']' :: t => some (.array [], t)
        | _ => (elements? steps t).map fun (vs, t) => (.array vs, t)
      | '\x7b' :: t =>
        match skip t with
        | '\x7d' :: t => some (.object [], t)
        | _ => (members? steps t).map fun (ms, t) => (.object ms, t)
      | _ => none

/-- Reads values with commas between them, and the bracket behind them. -/
def elements? : Nat → Text → Option (List Json × Text)
  | 0, _ => none
  | steps + 1, t =>
    match value? steps (skip t) with
    | none => none
    | some (v, t) =>
      match skip t with
      | ']' :: t => some ([v], t)
      | ',' :: t => (elements? steps t).map fun (vs, t) => (v :: vs, t)
      | _ => none

/-- Reads a name, a colon and a value. -/
def member? : Nat → Text → Option ((Text × Json) × Text)
  | 0, _ => none
  | steps + 1, t =>
    match skip t with
    | '"' :: t =>
      match chars? steps t with
      | none => none
      | some (name, t) =>
        match skip t with
        | ':' :: t => (value? steps (skip t)).map fun (v, t) => ((name, v), t)
        | _ => none
    | _ => none

/-- Reads named values with commas between them, and the brace behind them. -/
def members? : Nat → Text → Option (List (Text × Json) × Text)
  | 0, _ => none
  | steps + 1, t =>
    match member? steps t with
    | none => none
    | some (m, t) =>
      match skip t with
      | '\x7d' :: t => some ([m], t)
      | ',' :: t => (members? steps t).map fun (ms, t) => (m :: ms, t)
      | _ => none

end

/-- Reads a document: a value with blanks around it. -/
def read? (t : Text) : Option Json :=
  match value? (3 * t.length + 1) (skip t) with
  | some (v, t) => if skip t = [] then some v else none
  | none => none

/-! ### Blanks -/

/-- Blanks are skipped. -/
theorem skip_append {b : Text} (hb : Blank b) (t : Text) : skip (b ++ t) = skip t :=
  List.dropWhile_append_of_pos hb

/-- Nothing is skipped in front of anything else. -/
theorem skip_cons {c : Char} (hc : isSpace c = false) (t : Text) : skip (c :: t) = c :: t :=
  List.dropWhile_cons_of_neg (by simp [hc])

/-- A blank is no digit. -/
theorem isDigit_of_isSpace {c : Char} (h : isSpace c = true) : c.isDigit = false := by
  simp only [isSpace, Bool.or_eq_true, decide_eq_true_eq] at h
  rcases h with ((rfl | rfl) | rfl) | rfl <;> rfl

/-- A text can follow a value if it starts with no digit, and an element if it
starts with no blank either. -/
structure Stops (t : Text) : Prop where
  /-- No digit is in front. -/
  digit : ∀ c ∈ t.head?, c.isDigit = false
  /-- No blank is in front. -/
  space : ∀ c ∈ t.head?, isSpace c = false

/-- Nothing is skipped in front of a text that can follow an element. -/
theorem Stops.skip_eq {t : Text} (h : Stops t) : skip t = t := by
  cases t with
  | nil => rfl
  | cons c t => exact skip_cons (h.space c rfl) t

/-- With blanks in front, such a text still starts with no digit. -/
theorem Stops.digit_append {t b : Text} (h : Stops t) (hb : Blank b) :
    ∀ c ∈ (b ++ t).head?, c.isDigit = false := by
  cases b with
  | nil => exact h.digit
  | cons c b =>
      intro c' hc'
      obtain rfl : c = c' := Option.some.inj hc'
      exact isDigit_of_isSpace (hb c List.mem_cons_self)

/-! ### Strings -/

/-- Four digits have a value, and no other number of them does. -/
theorem length_of_unit? {digits : Text} {n : Nat} (h : unit? digits = some n) :
    digits.length = 4 := by
  unfold unit? at h
  split at h
  · rfl
  · exact nomatch h

/-- The digits in front of a text are taken off it. -/
theorem take_drop_of_unit? {digits : Text} {n : Nat} (h : unit? digits = some n) (t : Text) :
    (digits ++ t).take 4 = digits ∧ (digits ++ t).drop 4 = t := by
  rw [← length_of_unit? h]
  exact ⟨List.take_left, List.drop_left⟩

/-- A character is read in each of its forms. -/
theorem char?_append {c : Char} {t : Text} (h : WrittenChar c t) (rest : Text) :
    char? (t ++ rest) = some (c, rest) := by
  cases h with
  | plain hquote hbackslash hcontrol =>
      rw [List.singleton_append, char?, if_neg hbackslash, if_neg (by omega)]
  | @letter _ l h =>
      have hl : l ≠ 'u' := by
        rintro rfl
        exact nomatch h
      show escape? (l :: rest) = _
      rw [escape?, if_neg hl, h, Option.map_some]
  | @codePoint n digits h hhigh hlow =>
      obtain ⟨htake, hdrop⟩ := take_drop_of_unit? h rest
      show codePoint? (digits ++ rest) = _
      simp only [codePoint?, htake, hdrop, h, if_neg hhigh, if_neg hlow]
  | @pair n m high low h hhigh h' hlow =>
      obtain ⟨htake, hdrop⟩ := take_drop_of_unit? h ('\\' :: 'u' :: (low ++ rest))
      obtain ⟨htake', hdrop'⟩ := take_drop_of_unit? h' rest
      have htext : '\\' :: 'u' :: (high ++ '\\' :: 'u' :: low) ++ rest
          = '\\' :: 'u' :: (high ++ '\\' :: 'u' :: (low ++ rest)) := by simp
      rw [htext]
      show codePoint? (high ++ '\\' :: 'u' :: (low ++ rest)) = _
      simp only [codePoint?, htake, hdrop, h, if_pos hhigh, lowHalf?, htake', hdrop', h',
        if_pos hlow]

/-- No form of a character starts with a quote. -/
theorem exists_cons_of_writtenChar {c : Char} {t : Text} (h : WrittenChar c t) :
    ∃ d t', t = d :: t' ∧ d ≠ '"' := by
  cases h with
  | plain hquote => exact ⟨_, _, rfl, hquote⟩
  | letter => exact ⟨_, _, rfl, by decide⟩
  | codePoint => exact ⟨_, _, rfl, by decide⟩
  | pair => exact ⟨_, _, rfl, by decide⟩

/-- A character that is read is the first of a string. -/
theorem chars?_cons {c d : Char} {t rest : Text} (steps : Nat) (hd : d ≠ '"')
    (h : char? (d :: t) = some (c, rest)) :
    chars? (steps + 1) (d :: t) = (chars? steps rest).map fun (s, t) => (c :: s, t) := by
  rw [chars?]
  · rw [h]
  · rintro t' ⟨⟩
    exact hd rfl

/-- The characters of a string are read up to its quote. -/
theorem chars?_append {s t : Text} (h : WrittenChars s t) (rest : Text) (steps : Nat)
    (hsteps : t.length < steps) : chars? steps (t ++ '"' :: rest) = some (s, rest) := by
  induction h generalizing steps with
  | nil =>
      obtain ⟨steps, rfl⟩ := Nat.exists_eq_succ_of_ne_zero (Nat.ne_of_gt hsteps)
      rfl
  | @cons c s t t' hchar _ ih =>
      rw [List.length_append] at hsteps
      obtain ⟨d, front, rfl, hd⟩ := exists_cons_of_writtenChar hchar
      rw [List.length_cons] at hsteps
      obtain ⟨steps, rfl⟩ := Nat.exists_eq_succ_of_ne_zero (by omega : steps ≠ 0)
      have hread : char? (d :: (front ++ (t' ++ '"' :: rest)))
          = some (c, t' ++ '"' :: rest) := char?_append hchar _
      rw [List.append_assoc, List.cons_append, chars?_cons steps hd hread,
        ih steps (by omega), Option.map_some]

/-! ### Numbers -/

/-- A numeral is read in front of a text that does not go on with a digit. -/
theorem number?_append {digits rest : Text} (h : IsNumeral digits)
    (hrest : ∀ c ∈ rest.head?, c.isDigit = false) :
    number? (digits ++ rest) = some (Nat.ofDigitChars 10 digits 0, rest) := by
  have htake : (digits ++ rest).takeWhile Char.isDigit = digits := by
    rw [List.takeWhile_append_of_pos h.2.1]
    cases rest with
    | nil => simp
    | cons c rest => simp [hrest c rfl]
  have hdrop : (digits ++ rest).dropWhile Char.isDigit = rest := by
    rw [List.dropWhile_append_of_pos h.2.1]
    cases rest with
    | nil => rfl
    | cons c rest => simp [hrest c rfl]
  simp only [number?, htake, hdrop, if_pos h]

/-- Nothing else is read as a number. -/
theorem number?_cons {c : Char} (hc : c.isDigit = false) (t : Text) : number? (c :: t) = none := by
  have htake : (c :: t).takeWhile Char.isDigit = [] := by simp [hc]
  simp only [number?, htake]
  exact if_neg fun h => h.1 rfl

/-! ### Phrases -/

/-- A value starts with no blank and no closing bracket or brace. -/
theorem exists_cons_of_written {v : Json} {t : Text} (h : Written (.value v) t) :
    ∃ c t', t = c :: t' ∧ isSpace c = false ∧ c ≠ ']' ∧ c ≠ '\x7d' := by
  cases h with
  | null => exact ⟨_, _, rfl, rfl, by decide, by decide⟩
  | number h =>
      obtain ⟨c, digits, rfl⟩ := List.exists_cons_of_ne_nil h.1
      have hdigit : c.isDigit = true := h.2.1 c List.mem_cons_self
      refine ⟨c, digits, rfl, ?_, ?_, ?_⟩
      · cases hspace : isSpace c with
        | false => rfl
        | true => rw [isDigit_of_isSpace hspace] at hdigit; exact nomatch hdigit
      · rintro rfl
        exact nomatch hdigit
      · rintro rfl
        exact nomatch hdigit
  | string h => exact ⟨_, _, rfl, rfl, by decide, by decide⟩
  | noElements hb => exact ⟨_, _, rfl, rfl, by decide, by decide⟩
  | array h => exact ⟨_, _, rfl, rfl, by decide, by decide⟩
  | noMembers hb => exact ⟨_, _, rfl, rfl, by decide, by decide⟩
  | object h => exact ⟨_, _, rfl, rfl, by decide, by decide⟩

/-- Nothing is skipped in front of a value. -/
theorem skip_value {v : Json} {t : Text} (h : Written (.value v) t) (rest : Text) :
    skip (t ++ rest) = t ++ rest := by
  obtain ⟨c, t', rfl, hspace, -⟩ := exists_cons_of_written h
  exact skip_cons hspace _

/-- Behind the blanks in front of a phrase there is no closing bracket or
brace. -/
theorem exists_skip_of_written {p : Phrase} {t : Text} (h : Written p t) (rest : Text) :
    ∃ c t', skip (t ++ rest) = c :: t' ∧ c ≠ ']' ∧ c ≠ '\x7d' := by
  have hvalue {v : Json} {t : Text} (h : Written (.value v) t) (rest : Text) :
      ∃ c t', skip (t ++ rest) = c :: t' ∧ c ≠ ']' ∧ c ≠ '\x7d' := by
    obtain ⟨c, t', rfl, -, hclose⟩ := exists_cons_of_written h
    exact ⟨c, t' ++ rest, skip_value h rest, hclose⟩
  induction h generalizing rest with
  | null => exact hvalue .null rest
  | number h => exact hvalue (.number h) rest
  | string h => exact hvalue (.string h) rest
  | noElements hb => exact hvalue (.noElements hb) rest
  | array h => exact hvalue (.array h) rest
  | noMembers hb => exact hvalue (.noMembers hb) rest
  | object h => exact hvalue (.object h) rest
  | element hb _ _ ih =>
      rw [List.append_assoc, skip_append hb, List.append_assoc]
      exact ih _
  | lastElement _ ih => exact ih rest
  | moreElements _ _ ih => rw [List.append_assoc]; exact ih _
  | member hb => rw [List.append_assoc, skip_append hb]; exact ⟨_, _, rfl, by decide, by decide⟩
  | lastMember _ ih => exact ih rest
  | moreMembers _ _ ih => rw [List.append_assoc]; exact ih _

/-- The reader finds a phrase that stands in front of any text that can follow
it there. -/
def Phrase.IsRead : Phrase → Text → Prop
  | .value v, t => ∀ rest steps, (∀ c ∈ rest.head?, c.isDigit = false) → 3 * t.length < steps →
    value? steps (t ++ rest) = some (v, rest)
  | .element v, t => ∀ rest steps, Stops rest → 3 * t.length < steps →
    ∃ left, value? steps (skip (t ++ rest)) = some (v, left) ∧ skip left = rest
  | .elements vs, t => ∀ rest steps, 3 * t.length + 1 < steps →
    elements? steps (t ++ ']' :: rest) = some (vs, rest)
  | .member m, t => ∀ rest steps, Stops rest → 3 * t.length + 1 < steps →
    ∃ left, member? steps (t ++ rest) = some (m, left) ∧ skip left = rest
  | .members ms, t => ∀ rest steps, 3 * t.length + 2 < steps →
    members? steps (t ++ '\x7d' :: rest) = some (ms, rest)

/-- A mark can follow an element. -/
theorem stops_cons {c : Char} (hdigit : c.isDigit = false) (hspace : isSpace c = false) (t : Text) :
    Stops (c :: t) := by
  constructor
  · rintro _ ⟨⟩
    exact hdigit
  · rintro _ ⟨⟩
    exact hspace

/-- Where more than no steps are left, one can be taken. -/
theorem exists_eq_succ {n steps : Nat} (h : n < steps) : ∃ steps', steps = steps' + 1 :=
  Nat.exists_eq_succ_of_ne_zero (Nat.ne_zero_of_lt h)

section
variable {v : Json} {vs : List Json} {m : Text × Json} {ms : List (Text × Json)}
  {name s t t' b b' : Text}

/-! ### Each rule of the grammar is a branch of the reader -/

theorem isRead_null : (Phrase.value .null).IsRead ['n', 'u', 'l', 'l'] := by
  intro rest steps _ hsteps
  obtain ⟨steps, rfl⟩ := exists_eq_succ hsteps
  rfl

theorem isRead_number (h : IsNumeral t) :
    (Phrase.value (.number (Nat.ofDigitChars 10 t 0))).IsRead t := by
  intro rest steps hrest hsteps
  obtain ⟨steps, rfl⟩ := exists_eq_succ hsteps
  rw [value?.eq_def]
  simp only [number?_append h hrest]

theorem isRead_string (h : WrittenChars s t) :
    (Phrase.value (.string s)).IsRead ('"' :: (t ++ ['"'])) := by
  intro rest steps _ hsteps
  obtain ⟨steps, rfl⟩ := exists_eq_succ hsteps
  rw [List.length_cons, List.length_append, List.length_singleton] at hsteps
  have hread := chars?_append h rest steps (by omega)
  have htext : '"' :: (t ++ ['"']) ++ rest = '"' :: (t ++ '"' :: rest) := by simp
  rw [htext, value?, number?_cons rfl]
  simp only [hread, Option.map_some]

theorem isRead_noElements (hb : Blank b) :
    (Phrase.value (.array [])).IsRead ('[' :: (b ++ [']'])) := by
  intro rest steps _ hsteps
  obtain ⟨steps, rfl⟩ := exists_eq_succ hsteps
  have htext : '[' :: (b ++ [']']) ++ rest = '[' :: (b ++ ']' :: rest) := by simp
  rw [htext, value?, number?_cons rfl]
  simp only [skip_append hb, skip_cons (c := ']') rfl]

theorem isRead_array (h : Written (.elements vs) t) (ih : (Phrase.elements vs).IsRead t) :
    (Phrase.value (.array vs)).IsRead ('[' :: (t ++ [']'])) := by
  intro rest steps _ hsteps
  obtain ⟨steps, rfl⟩ := exists_eq_succ hsteps
  rw [List.length_cons, List.length_append, List.length_singleton] at hsteps
  have hread : elements? steps (t ++ ']' :: rest) = some (vs, rest) := ih rest steps (by omega)
  have htext : '[' :: (t ++ [']']) ++ rest = '[' :: (t ++ ']' :: rest) := by simp
  -- No bracket stands in front of the elements.
  obtain ⟨c, t', hskip, hclose, -⟩ := exists_skip_of_written h (']' :: rest)
  rw [htext, value?, number?_cons rfl]
  simp only [hskip, hread]
  split
  · rename_i heq
    exact absurd (List.cons.inj heq).1 hclose
  · rfl

theorem isRead_noMembers (hb : Blank b) :
    (Phrase.value (.object [])).IsRead ('\x7b' :: (b ++ ['\x7d'])) := by
  intro rest steps _ hsteps
  obtain ⟨steps, rfl⟩ := exists_eq_succ hsteps
  have htext : '\x7b' :: (b ++ ['\x7d']) ++ rest = '\x7b' :: (b ++ '\x7d' :: rest) := by simp
  rw [htext, value?, number?_cons rfl]
  simp only [skip_append hb, skip_cons (c := '\x7d') rfl]

theorem isRead_object (h : Written (.members ms) t) (ih : (Phrase.members ms).IsRead t) :
    (Phrase.value (.object ms)).IsRead ('\x7b' :: (t ++ ['\x7d'])) := by
  intro rest steps _ hsteps
  obtain ⟨steps, rfl⟩ := exists_eq_succ hsteps
  rw [List.length_cons, List.length_append, List.length_singleton] at hsteps
  have hread : members? steps (t ++ '\x7d' :: rest) = some (ms, rest) := ih rest steps (by omega)
  have htext : '\x7b' :: (t ++ ['\x7d']) ++ rest = '\x7b' :: (t ++ '\x7d' :: rest) := by simp
  -- No brace stands in front of the members.
  obtain ⟨c, t', hskip, -, hclose⟩ := exists_skip_of_written h ('\x7d' :: rest)
  rw [htext, value?, number?_cons rfl]
  simp only [hskip, hread]
  split
  · rename_i heq
    exact absurd (List.cons.inj heq).1 hclose
  · rfl

theorem isRead_element (hb : Blank b) (h : Written (.value v) t) (ih : (Phrase.value v).IsRead t)
    (hb' : Blank b') : (Phrase.element v).IsRead (b ++ (t ++ b')) := by
  intro rest steps hrest hsteps
  rw [List.length_append, List.length_append] at hsteps
  refine ⟨b' ++ rest, ?_, (skip_append hb' rest).trans hrest.skip_eq⟩
  rw [List.append_assoc, skip_append hb, List.append_assoc, skip_value h]
  exact ih _ steps (hrest.digit_append hb') (by omega)

theorem isRead_lastElement (ih : (Phrase.element v).IsRead t) :
    (Phrase.elements [v]).IsRead t := by
  intro rest steps hsteps
  obtain ⟨steps, rfl⟩ := exists_eq_succ hsteps
  obtain ⟨left, hread, hleft⟩ := ih (']' :: rest) steps (stops_cons rfl rfl rest) (by omega)
  rw [elements?, hread]
  simp only [hleft]

theorem isRead_moreElements (ih : (Phrase.element v).IsRead t)
    (ih' : (Phrase.elements vs).IsRead t') :
    (Phrase.elements (v :: vs)).IsRead (t ++ ',' :: t') := by
  intro rest steps hsteps
  obtain ⟨steps, rfl⟩ := exists_eq_succ hsteps
  rw [List.length_append, List.length_cons] at hsteps
  obtain ⟨left, hread, hleft⟩ :=
    ih (',' :: (t' ++ ']' :: rest)) steps (stops_cons rfl rfl _) (by omega)
  have hmore : elements? steps (t' ++ ']' :: rest) = some (vs, rest) := ih' rest steps (by omega)
  rw [List.append_assoc, List.cons_append, elements?, hread]
  simp only [hleft, hmore, Option.map_some]

theorem isRead_member (hb : Blank b) (hname : WrittenChars name s) (hb' : Blank b')
    (ih : (Phrase.element v).IsRead t) :
    (Phrase.member (name, v)).IsRead (b ++ '"' :: (s ++ '"' :: (b' ++ ':' :: t))) := by
  intro rest steps hrest hsteps
  obtain ⟨steps, rfl⟩ := exists_eq_succ hsteps
  simp only [List.length_append, List.length_cons] at hsteps
  obtain ⟨left, hread, hleft⟩ := ih rest steps hrest (by omega)
  have hchars := chars?_append hname (b' ++ ':' :: (t ++ rest)) steps (by omega)
  have htext : b ++ '"' :: (s ++ '"' :: (b' ++ ':' :: t)) ++ rest
      = b ++ '"' :: (s ++ '"' :: (b' ++ ':' :: (t ++ rest))) := by simp
  refine ⟨left, ?_, hleft⟩
  rw [htext, member?]
  simp only [skip_append hb, skip_cons (c := '"') rfl, hchars, skip_append hb',
    skip_cons (c := ':') rfl, hread, Option.map_some]

theorem isRead_lastMember (ih : (Phrase.member m).IsRead t) : (Phrase.members [m]).IsRead t := by
  intro rest steps hsteps
  obtain ⟨steps, rfl⟩ := exists_eq_succ hsteps
  obtain ⟨left, hread, hleft⟩ := ih ('\x7d' :: rest) steps (stops_cons rfl rfl rest) (by omega)
  rw [members?, hread]
  simp only [hleft]

theorem isRead_moreMembers (ih : (Phrase.member m).IsRead t) (ih' : (Phrase.members ms).IsRead t') :
    (Phrase.members (m :: ms)).IsRead (t ++ ',' :: t') := by
  intro rest steps hsteps
  obtain ⟨steps, rfl⟩ := exists_eq_succ hsteps
  rw [List.length_append, List.length_cons] at hsteps
  obtain ⟨left, hread, hleft⟩ :=
    ih (',' :: (t' ++ '\x7d' :: rest)) steps (stops_cons rfl rfl _) (by omega)
  have hmore : members? steps (t' ++ '\x7d' :: rest) = some (ms, rest) := ih' rest steps (by omega)
  rw [List.append_assoc, List.cons_append, members?, hread]
  simp only [hleft, hmore, Option.map_some]

end

/-- The reader finds every phrase that the grammar allows. -/
theorem isRead_of_written {p : Phrase} {t : Text} (h : Written p t) : p.IsRead t := by
  induction h with
  | null => exact isRead_null
  | number h => exact isRead_number h
  | string h => exact isRead_string h
  | noElements hb => exact isRead_noElements hb
  | array h ih => exact isRead_array h ih
  | noMembers hb => exact isRead_noMembers hb
  | object h ih => exact isRead_object h ih
  | element hb h hb' ih => exact isRead_element hb h ih hb'
  | lastElement _ ih => exact isRead_lastElement ih
  | moreElements _ _ ih ih' => exact isRead_moreElements ih ih'
  | member hb hname hb' _ ih => exact isRead_member hb hname hb' ih
  | lastMember _ ih => exact isRead_lastMember ih
  | moreMembers _ _ ih ih' => exact isRead_moreMembers ih ih'

/-! ### Documents -/

/-- The reader finds the value of a document. -/
theorem read?_of_denotes {t : Text} {v : Json} (h : Denotes t v) : read? t = some v := by
  have hstops : Stops ([] : Text) := ⟨fun _ h => (nomatch h), fun _ h => (nomatch h)⟩
  obtain ⟨left, hread, hleft⟩ :=
    isRead_of_written h [] (3 * t.length + 1) hstops (Nat.lt_succ_self _)
  rw [List.append_nil] at hread
  simp only [read?, hread, hleft, if_true]

/-- A document has one value. -/
theorem Denotes.unique {t : Text} {v w : Json} (hv : Denotes t v) (hw : Denotes t w) : v = w := by
  have hread := read?_of_denotes hv
  rw [read?_of_denotes hw] at hread
  exact (Option.some.inj hread).symm

/-- The value that was written with an item a line is the only one of the
document. -/
theorem denotes_pretty_iff {v w : Json} {b : Text} (hb : Blank b) :
    Denotes (v.pretty ++ b) w ↔ w = v := by
  constructor
  · exact fun h => h.unique (denotes_pretty v hb)
  · rintro rfl
    exact denotes_pretty w hb

/-- The value that was written on one line is the only one of the document. -/
theorem denotes_compact_iff {v w : Json} {b : Text} (hb : Blank b) :
    Denotes (v.compact ++ b) w ↔ w = v := by
  constructor
  · exact fun h => h.unique (denotes_compact v hb)
  · rintro rfl
    exact denotes_compact w hb

end GoXref.Json
