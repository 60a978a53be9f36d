import GoXref.Text.Utf8

/-!
# `GoXref.Proofs.Text.Utf8`: reading undoes writing, octet by octet

The reader of `Utf8.tokens` goes from octet to octet, with the bounds of the
next one in its state. The writer knows characters only.

* `utf8EncodeChar_eq_one_iff` and its neighbours: the octets of a character,
  by the bounds each of them has.
* `exists_eq_of_tokensFrom`, `tokensFrom_utf8EncodeChar_append`: the reader finds
  a character exactly where the octets of one begin.
* `decode_eq_ok_iff`: what is read as a text is what the text is written as, so
  octets can be read exactly if they are those of a text.
* `encode_eq_cons_iff`: an ASCII octet in front is a character in front.
* `length_le_size`, `size_eq_length_iff`: a text has at least as many octets as
  characters, and no more exactly if it is ASCII.
-/

set_option autoImplicit false

namespace GoXref.Utf8

open String (utf8EncodeChar)

/-! ### The octets of a character -/

/-- Two octets with the same number are the same. -/
theorem ofNat_eq_iff {n : Nat} {b : UInt8} (h : n < 256) : UInt8.ofNat n = b ↔ n = b.toNat := by
  rw [← UInt8.toNat_inj, UInt8.toNat_ofNat_of_lt' h]

/-- The number of a character is no surrogate, and at most U+10FFFF. -/
theorem toNat_range (c : Char) : c.toNat < 0xD800 ∨ 0xDFFF < c.toNat ∧ c.toNat < 0x110000 :=
  c.valid

/-- A character of one octet. -/
theorem utf8EncodeChar_eq_one_iff {c : Char} {b : UInt8} :
    utf8EncodeChar c = [b] ↔ b.toNat < 0x80 ∧ c.toNat = b.toNat := by
  have hb := b.toNat_lt
  unfold utf8EncodeChar
  simp only [Char.toNat_val]
  split
  · rw [List.singleton_inj, ofNat_eq_iff (by omega)]
    omega
  · split
    · exact iff_of_false (by simp) (by omega)
    · split
      · exact iff_of_false (by simp) (by omega)
      · exact iff_of_false (by simp) (by omega)

/-- A character of two octets. The least first octet shuts out those that one
octet is enough for. -/
theorem utf8EncodeChar_eq_two_iff {c : Char} {b₁ b₂ : UInt8} :
    utf8EncodeChar c = [b₁, b₂] ↔ (0xC2 ≤ b₁.toNat ∧ b₁.toNat < 0xE0) ∧
      (0x80 ≤ b₂.toNat ∧ b₂.toNat ≤ 0xBF) ∧
      c.toNat = (b₁.toNat - 0xC0) * 64 + (b₂.toNat - 0x80) := by
  unfold utf8EncodeChar
  simp only [Char.toNat_val]
  split
  · exact iff_of_false (by simp) (by omega)
  · split
    · rw [List.cons_eq_cons, List.singleton_inj, ofNat_eq_iff (by omega),
        ofNat_eq_iff (by omega)]
      omega
    · split
      · exact iff_of_false (by simp) (by omega)
      · exact iff_of_false (by simp) (by omega)

/-- A character of three octets. The bounds of the second one shut out those
that two octets are enough for, and the surrogates. -/
theorem utf8EncodeChar_eq_three_iff {c : Char} {b₁ b₂ b₃ : UInt8} :
    utf8EncodeChar c = [b₁, b₂, b₃] ↔ (0xE0 ≤ b₁.toNat ∧ b₁.toNat < 0xF0) ∧
      (0x80 ≤ b₂.toNat ∧ b₂.toNat ≤ 0xBF) ∧
      (b₁.toNat = 0xE0 → 0xA0 ≤ b₂.toNat) ∧ (b₁.toNat = 0xED → b₂.toNat ≤ 0x9F) ∧
      (0x80 ≤ b₃.toNat ∧ b₃.toNat ≤ 0xBF) ∧
      c.toNat = ((b₁.toNat - 0xE0) * 64 + (b₂.toNat - 0x80)) * 64 + (b₃.toNat - 0x80) := by
  have hc := toNat_range c
  unfold utf8EncodeChar
  simp only [Char.toNat_val]
  split
  · exact iff_of_false (by simp) (by omega)
  · split
    · exact iff_of_false (by simp) (by omega)
    · split
      · rw [List.cons_eq_cons, List.cons_eq_cons, List.singleton_inj, ofNat_eq_iff (by omega),
          ofNat_eq_iff (by omega), ofNat_eq_iff (by omega)]
        omega
      · exact iff_of_false (by simp) (by omega)

/-- A character of four octets. The bounds of the second one shut out those
that three octets are enough for, and what lies past U+10FFFF. -/
theorem utf8EncodeChar_eq_four_iff {c : Char} {b₁ b₂ b₃ b₄ : UInt8} :
    utf8EncodeChar c = [b₁, b₂, b₃, b₄] ↔ (0xF0 ≤ b₁.toNat ∧ b₁.toNat < 0xF5) ∧
      (0x80 ≤ b₂.toNat ∧ b₂.toNat ≤ 0xBF) ∧
      (b₁.toNat = 0xF0 → 0x90 ≤ b₂.toNat) ∧ (b₁.toNat = 0xF4 → b₂.toNat ≤ 0x8F) ∧
      (0x80 ≤ b₃.toNat ∧ b₃.toNat ≤ 0xBF) ∧ (0x80 ≤ b₄.toNat ∧ b₄.toNat ≤ 0xBF) ∧
      c.toNat = (((b₁.toNat - 0xF0) * 64 + (b₂.toNat - 0x80)) * 64 + (b₃.toNat - 0x80)) * 64
        + (b₄.toNat - 0x80) := by
  have hc := toNat_range c
  unfold utf8EncodeChar
  simp only [Char.toNat_val]
  split
  · exact iff_of_false (by simp) (by omega)
  · split
    · exact iff_of_false (by simp) (by omega)
    · split
      · exact iff_of_false (by simp) (by omega)
      · rw [List.cons_eq_cons, List.cons_eq_cons, List.cons_eq_cons, List.singleton_inj,
          ofNat_eq_iff (by omega), ofNat_eq_iff (by omega), ofNat_eq_iff (by omega),
          ofNat_eq_iff (by omega)]
        omega

/-! ### One character read -/

/-- Whether an octet fits what is pending. -/
def Pending.Fits (p : Pending) (b : UInt8) : Prop := p.low ≤ b.toNat ∧ b.toNat ≤ p.high

/-- What is pending after an octet that fits. -/
def Pending.next (p : Pending) (b : UInt8) : Pending :=
  ⟨p.value * 64 + (b.toNat - 0x80), p.taken + 1, p.owed - 1, 0x80, 0xBF⟩

/-- An octet that fits finishes the character, or is taken into it. -/
theorem step_of_fits {p : Pending} {b : UInt8} (h : p.Fits b) :
    step (some p) b = if p.owed ≤ 1 then ([.char (Char.ofNat (p.next b).value)], none)
      else ([], some (p.next b)) := by
  rw [Pending.Fits] at h
  rw [step, if_pos h]
  rfl

/-- An octet that does not fit shows that what is pending is no character. -/
theorem step_of_not_fits {p : Pending} {b : UInt8} (h : ¬ p.Fits b) :
    step (some p) b = (.malformed p.taken :: (lead b.toNat).1, (lead b.toNat).2) := by
  rw [Pending.Fits] at h
  rw [step, if_neg h]

section Read

variable {c : Char} {bytes : Bytes} {rest : List Token} {p : Pending}

/-- A character is found behind what is pending only if an octet follows that
fits. -/
theorem exists_fits_of_tokensFrom (h : tokensFrom (some p) bytes = .char c :: rest) :
    ∃ b more, bytes = b :: more ∧ p.Fits b := by
  cases bytes with
  | nil => simp [tokensFrom] at h
  | cons b more =>
      refine ⟨b, more, rfl, Classical.byContradiction fun hfits => ?_⟩
      simp [tokensFrom, step_of_not_fits hfits] at h

/-- Where one octet is owed, the next one finishes the character. -/
theorem tokensFrom_last {b : UInt8} {more : Bytes} (howed : p.owed ≤ 1) (h : p.Fits b) :
    tokensFrom (some p) (b :: more)
      = .char (Char.ofNat (p.next b).value) :: tokensFrom none more := by
  rw [tokensFrom, step_of_fits h, if_pos howed]
  rfl

/-- Where more are owed, the next one is taken into the character. -/
theorem tokensFrom_more {b : UInt8} {more : Bytes} (howed : 1 < p.owed) (h : p.Fits b) :
    tokensFrom (some p) (b :: more) = tokensFrom (some (p.next b)) more := by
  rw [tokensFrom, step_of_fits h, if_neg (Nat.not_le.mpr howed)]
  rfl

end Read

/-! ### The first octet -/

/-- A first octet below 0x80 is a character. -/
theorem lead_one {n : Nat} (h : n < 0x80) : lead n = ([.char (Char.ofNat n)], none) := if_pos h

/-- No character begins with an octet of these. -/
theorem lead_malformed {n : Nat} (h : 0x80 ≤ n ∧ n < 0xC2 ∨ 0xF5 ≤ n) :
    lead n = ([.malformed 1], none) := by
  rw [lead, if_neg (by omega)]
  rcases h with h | h
  · rw [if_pos h.2]
  · rw [if_neg (by omega), if_neg (by omega), if_neg (by omega), if_neg (by omega)]

/-- What is pending after the first octet of two. -/
def Pending.ofTwo (n : Nat) : Pending := ⟨n - 0xC0, 1, 1, 0x80, 0xBF⟩

/-- What is pending after the first octet of three. -/
def Pending.ofThree (n : Nat) : Pending :=
  ⟨n - 0xE0, 1, 2, if n = 0xE0 then 0xA0 else 0x80, if n = 0xED then 0x9F else 0xBF⟩

/-- What is pending after the first octet of four. -/
def Pending.ofFour (n : Nat) : Pending :=
  ⟨n - 0xF0, 1, 3, if n = 0xF0 then 0x90 else 0x80, if n = 0xF4 then 0x8F else 0xBF⟩

/-- The first octet of two. -/
theorem lead_two {n : Nat} (h : 0xC2 ≤ n ∧ n < 0xE0) : lead n = ([], some (.ofTwo n)) := by
  rw [lead, if_neg (by omega), if_neg (by omega), if_pos h.2]
  rfl

/-- The first octet of three. -/
theorem lead_three {n : Nat} (h : 0xE0 ≤ n ∧ n < 0xF0) : lead n = ([], some (.ofThree n)) := by
  rw [lead, if_neg (by omega), if_neg (by omega), if_neg (by omega), if_pos h.2]
  rfl

/-- The first octet of four. -/
theorem lead_four {n : Nat} (h : 0xF0 ≤ n ∧ n < 0xF5) : lead n = ([], some (.ofFour n)) := by
  rw [lead, if_neg (by omega), if_neg (by omega), if_neg (by omega), if_neg (by omega), if_pos h.2]
  rfl

/-- The bounds of the second octet of three. -/
theorem fits_ofThree_iff {n : Nat} {b : UInt8} : (Pending.ofThree n).Fits b ↔
    (0x80 ≤ b.toNat ∧ b.toNat ≤ 0xBF) ∧ (n = 0xE0 → 0xA0 ≤ b.toNat) ∧
      (n = 0xED → b.toNat ≤ 0x9F) := by
  unfold Pending.Fits Pending.ofThree
  dsimp only
  split <;> split <;> omega

/-- The bounds of the second octet of four. -/
theorem fits_ofFour_iff {n : Nat} {b : UInt8} : (Pending.ofFour n).Fits b ↔
    (0x80 ≤ b.toNat ∧ b.toNat ≤ 0xBF) ∧ (n = 0xF0 → 0x90 ≤ b.toNat) ∧
      (n = 0xF4 → b.toNat ≤ 0x8F) := by
  unfold Pending.Fits Pending.ofFour
  dsimp only
  split <;> split <;> omega

/-- The number of the character with a number, if there is one. -/
theorem toNat_ofNat {n : Nat} (h : n < 0xD800 ∨ 0xDFFF < n ∧ n < 0x110000) :
    (Char.ofNat n).toNat = n := by
  have hvalid : n.isValidChar := h
  rw [Char.ofNat, dif_pos hvalid]
  rfl

/-! ### A character is found where its octets are -/

section Found

variable {c : Char} {b₁ : UInt8} {bytes : Bytes} {rest : List Token}

/-- A character found behind the first octet of two has these two octets. -/
theorem exists_eq_of_two (hb₁ : 0xC2 ≤ b₁.toNat ∧ b₁.toNat < 0xE0)
    (h : tokensFrom (some (.ofTwo b₁.toNat)) bytes = .char c :: rest) :
    ∃ more, b₁ :: bytes = utf8EncodeChar c ++ more ∧ tokensFrom none more = rest := by
  obtain ⟨b₂, more, rfl, hfits⟩ := exists_fits_of_tokensFrom h
  rw [tokensFrom_last (Nat.le_refl 1) hfits] at h
  obtain ⟨hchar, hrest⟩ := List.cons.inj h
  have hb₂ : 0x80 ≤ b₂.toNat ∧ b₂.toNat ≤ 0xBF := hfits
  have hoctets : utf8EncodeChar c = [b₁, b₂] := by
    rw [← Token.char.inj hchar]
    exact utf8EncodeChar_eq_two_iff.mpr ⟨hb₁, hb₂,
      toNat_ofNat (n := (b₁.toNat - 0xC0) * 64 + (b₂.toNat - 0x80)) (by omega)⟩
  exact ⟨more, by rw [hoctets]; rfl, hrest⟩

/-- A character found behind the first octet of three has these three octets. -/
theorem exists_eq_of_three (hb₁ : 0xE0 ≤ b₁.toNat ∧ b₁.toNat < 0xF0)
    (h : tokensFrom (some (.ofThree b₁.toNat)) bytes = .char c :: rest) :
    ∃ more, b₁ :: bytes = utf8EncodeChar c ++ more ∧ tokensFrom none more = rest := by
  obtain ⟨b₂, more, rfl, hfits₂⟩ := exists_fits_of_tokensFrom h
  rw [tokensFrom_more (Nat.lt_succ_self 1) hfits₂] at h
  obtain ⟨b₃, more, rfl, hfits₃⟩ := exists_fits_of_tokensFrom h
  rw [tokensFrom_last (Nat.le_refl 1) hfits₃] at h
  obtain ⟨hchar, hrest⟩ := List.cons.inj h
  obtain ⟨hb₂, hlow, hhigh⟩ := fits_ofThree_iff.mp hfits₂
  have hb₃ : 0x80 ≤ b₃.toNat ∧ b₃.toNat ≤ 0xBF := hfits₃
  have hoctets : utf8EncodeChar c = [b₁, b₂, b₃] := by
    rw [← Token.char.inj hchar]
    exact utf8EncodeChar_eq_three_iff.mpr ⟨hb₁, hb₂, hlow, hhigh, hb₃, toNat_ofNat
      (n := ((b₁.toNat - 0xE0) * 64 + (b₂.toNat - 0x80)) * 64 + (b₃.toNat - 0x80)) (by omega)⟩
  exact ⟨more, by rw [hoctets]; rfl, hrest⟩

/-- A character found behind the first octet of four has these four octets. -/
theorem exists_eq_of_four (hb₁ : 0xF0 ≤ b₁.toNat ∧ b₁.toNat < 0xF5)
    (h : tokensFrom (some (.ofFour b₁.toNat)) bytes = .char c :: rest) :
    ∃ more, b₁ :: bytes = utf8EncodeChar c ++ more ∧ tokensFrom none more = rest := by
  obtain ⟨b₂, more, rfl, hfits₂⟩ := exists_fits_of_tokensFrom h
  rw [tokensFrom_more (show 1 < 3 by decide) hfits₂] at h
  obtain ⟨b₃, more, rfl, hfits₃⟩ := exists_fits_of_tokensFrom h
  rw [tokensFrom_more (show 1 < 2 by decide) hfits₃] at h
  obtain ⟨b₄, more, rfl, hfits₄⟩ := exists_fits_of_tokensFrom h
  rw [tokensFrom_last (Nat.le_refl 1) hfits₄] at h
  obtain ⟨hchar, hrest⟩ := List.cons.inj h
  obtain ⟨hb₂, hlow, hhigh⟩ := fits_ofFour_iff.mp hfits₂
  have hb₃ : 0x80 ≤ b₃.toNat ∧ b₃.toNat ≤ 0xBF := hfits₃
  have hb₄ : 0x80 ≤ b₄.toNat ∧ b₄.toNat ≤ 0xBF := hfits₄
  have hoctets : utf8EncodeChar c = [b₁, b₂, b₃, b₄] := by
    rw [← Token.char.inj hchar]
    exact utf8EncodeChar_eq_four_iff.mpr ⟨hb₁, hb₂, hlow, hhigh, hb₃, hb₄, toNat_ofNat
      (n := (((b₁.toNat - 0xF0) * 64 + (b₂.toNat - 0x80)) * 64 + (b₃.toNat - 0x80)) * 64
        + (b₄.toNat - 0x80)) (by omega)⟩
  exact ⟨more, by rw [hoctets]; rfl, hrest⟩

/-- A character that is found stands there with all its octets. -/
theorem exists_eq_of_tokensFrom (h : tokensFrom none bytes = .char c :: rest) :
    ∃ more, bytes = utf8EncodeChar c ++ more ∧ tokensFrom none more = rest := by
  cases bytes with
  | nil => exact nomatch h
  | cons b₁ more =>
      rw [tokensFrom, step] at h
      rcases (by omega : b₁.toNat < 0x80 ∨ (0x80 ≤ b₁.toNat ∧ b₁.toNat < 0xC2 ∨ 0xF5 ≤ b₁.toNat)
        ∨ (0xC2 ≤ b₁.toNat ∧ b₁.toNat < 0xE0) ∨ (0xE0 ≤ b₁.toNat ∧ b₁.toNat < 0xF0)
        ∨ (0xF0 ≤ b₁.toNat ∧ b₁.toNat < 0xF5)) with hone | hnone | htwo | hthree | hfour
      · rw [lead_one hone] at h
        obtain ⟨hchar, hrest⟩ := List.cons.inj h
        have hoctets : utf8EncodeChar c = [b₁] := by
          rw [← Token.char.inj hchar]
          exact utf8EncodeChar_eq_one_iff.mpr ⟨hone, toNat_ofNat (by omega)⟩
        exact ⟨more, by rw [hoctets]; rfl, hrest⟩
      · rw [lead_malformed hnone] at h
        exact nomatch h
      · rw [lead_two htwo] at h
        exact exists_eq_of_two htwo h
      · rw [lead_three hthree] at h
        exact exists_eq_of_three hthree h
      · rw [lead_four hfour] at h
        exact exists_eq_of_four hfour h

/-- A character has one, two, three or four octets. -/
theorem utf8EncodeChar_cases (c : Char) :
    (∃ b, utf8EncodeChar c = [b]) ∨ (∃ b₁ b₂, utf8EncodeChar c = [b₁, b₂]) ∨
      (∃ b₁ b₂ b₃, utf8EncodeChar c = [b₁, b₂, b₃]) ∨
      ∃ b₁ b₂ b₃ b₄, utf8EncodeChar c = [b₁, b₂, b₃, b₄] := by
  unfold utf8EncodeChar
  dsimp only
  split
  · exact .inl ⟨_, rfl⟩
  · split
    · exact .inr (.inl ⟨_, _, rfl⟩)
    · split
      · exact .inr (.inr (.inl ⟨_, _, _, rfl⟩))
      · exact .inr (.inr (.inr ⟨_, _, _, _, rfl⟩))

/-- Where the octets of a character stand, the character is found. -/
theorem tokensFrom_utf8EncodeChar_append (c : Char) (more : Bytes) :
    tokensFrom none (utf8EncodeChar c ++ more) = .char c :: tokensFrom none more := by
  rcases utf8EncodeChar_cases c with ⟨b, h⟩ | ⟨b₁, b₂, h⟩ | ⟨b₁, b₂, b₃, h⟩ | ⟨b₁, b₂, b₃, b₄, h⟩
  · obtain ⟨hb, hc⟩ := utf8EncodeChar_eq_one_iff.mp h
    rw [h, List.singleton_append, tokensFrom, step, lead_one hb, ← hc, Char.ofNat_toNat]
    rfl
  · obtain ⟨hb₁, hb₂, hc⟩ := utf8EncodeChar_eq_two_iff.mp h
    have hchar : Char.ofNat ((Pending.ofTwo b₁.toNat).next b₂).value = c := by
      rw [← Char.ofNat_toNat c, hc]
      rfl
    rw [h, List.cons_append, tokensFrom, step, lead_two hb₁]
    show tokensFrom (some (.ofTwo b₁.toNat)) (b₂ :: more) = _
    rw [tokensFrom_last (p := .ofTwo b₁.toNat) (Nat.le_refl 1) hb₂, hchar]
  · obtain ⟨hb₁, hb₂, hlow, hhigh, hb₃, hc⟩ := utf8EncodeChar_eq_three_iff.mp h
    have hchar : Char.ofNat (((Pending.ofThree b₁.toNat).next b₂).next b₃).value = c := by
      rw [← Char.ofNat_toNat c, hc]
      rfl
    rw [h, List.cons_append, tokensFrom, step, lead_three hb₁]
    show tokensFrom (some (.ofThree b₁.toNat)) (b₂ :: b₃ :: more) = _
    have hfits := fits_ofThree_iff.mpr ⟨hb₂, hlow, hhigh⟩
    rw [tokensFrom_more (Nat.lt_succ_self 1) hfits,
      tokensFrom_last (p := (Pending.ofThree b₁.toNat).next b₂) (Nat.le_refl 1) hb₃, hchar]
  · obtain ⟨hb₁, hb₂, hlow, hhigh, hb₃, hb₄, hc⟩ := utf8EncodeChar_eq_four_iff.mp h
    have hchar : Char.ofNat ((((Pending.ofFour b₁.toNat).next b₂).next b₃).next b₄).value = c := by
      rw [← Char.ofNat_toNat c, hc]
      rfl
    rw [h, List.cons_append, tokensFrom, step, lead_four hb₁]
    show tokensFrom (some (.ofFour b₁.toNat)) (b₂ :: b₃ :: b₄ :: more) = _
    have hfits := fits_ofFour_iff.mpr ⟨hb₂, hlow, hhigh⟩
    rw [tokensFrom_more (show 1 < 3 by decide) hfits,
      tokensFrom_more (p := (Pending.ofFour b₁.toNat).next b₂) (show 1 < 2 by decide) hb₃,
      tokensFrom_last (p := ((Pending.ofFour b₁.toNat).next b₂).next b₃) (Nat.le_refl 1) hb₄,
      hchar]

end Found

/-! ### Texts and octets -/

/-- An octet is a token at once, or something is pending after it. -/
theorem step_ne (pending : Option Pending) (b : UInt8) : step pending b ≠ ([], none) := by
  cases pending with
  | none =>
      show lead b.toNat ≠ _
      unfold lead
      repeat' split
      all_goals exact nofun
  | some p =>
      by_cases hfits : p.Fits b
      · rw [step_of_fits hfits]
        split <;> exact nofun
      · rw [step_of_not_fits hfits]
        exact nofun

/-- Octets are never read as nothing. -/
theorem tokensFrom_ne_nil (pending : Option Pending) (b : UInt8) (bytes : Bytes) :
    tokensFrom pending (b :: bytes) ≠ [] := by
  intro h
  induction bytes generalizing pending b with
  | nil =>
      rw [tokensFrom, List.append_eq_nil_iff] at h
      obtain ⟨htokens, hrest⟩ := h
      cases hstep : (step pending b).2 with
      | none => exact step_ne pending b (Prod.ext htokens hstep)
      | some p =>
          rw [hstep] at hrest
          exact nomatch hrest
  | cons b' bytes ih =>
      rw [tokensFrom, List.append_eq_nil_iff] at h
      exact ih (step pending b).2 b' h.2

/-- The octets of a text are those of its characters, one after the other. -/
theorem encode_cons (c : Char) (t : Text) : encode (c :: t) = utf8EncodeChar c ++ encode t := rfl

/-- The tokens of octets are the characters of a text exactly if the octets are
those of the text. -/
theorem tokens_eq_map_char_iff {bytes : Bytes} {t : Text} :
    tokens bytes = t.map .char ↔ encode t = bytes := by
  unfold tokens
  induction t generalizing bytes with
  | nil =>
      cases bytes with
      | nil => exact iff_of_true rfl rfl
      | cons b bytes => exact iff_of_false (tokensFrom_ne_nil none b bytes) nofun
  | cons c t ih =>
      rw [List.map_cons, encode_cons]
      constructor
      · intro h
        obtain ⟨more, rfl, hmore⟩ := exists_eq_of_tokensFrom h
        rw [ih.mp hmore]
      · rintro rfl
        rw [tokensFrom_utf8EncodeChar_append, ih.mpr rfl]

/-- Tokens are read as a text exactly if they are its characters. -/
theorem readTokens_eq_ok_iff {index : Nat} {ts : List Token} {t : Text} :
    readTokens index ts = .ok t ↔ ts = t.map .char := by
  induction ts generalizing index t with
  | nil =>
      cases t with
      | nil => exact iff_of_true rfl rfl
      | cons c t => exact iff_of_false nofun nofun
  | cons token ts ih =>
      cases token with
      | malformed n => cases t <;> exact iff_of_false nofun nofun
      | truncated n => cases t <;> exact iff_of_false nofun nofun
      | char c =>
          rw [readTokens]
          constructor
          · intro h
            cases hread : readTokens (index + (Token.char c).length) ts with
            | error e =>
                rw [hread] at h
                exact nomatch h
            | ok more =>
                rw [hread] at h
                obtain rfl : c :: more = t := Except.ok.inj h
                rw [ih.mp hread, List.map_cons]
          · intro h
            obtain ⟨c', more, rfl, hchar, hmore⟩ := List.map_eq_cons_iff.mp h.symm
            rw [ih.mpr hmore.symm, Token.char.inj hchar]
            rfl

/-- Octets are read as a text exactly if they are those of the text. -/
theorem decode_eq_ok_iff {bytes : Bytes} {t : Text} : decode bytes = .ok t ↔ encode t = bytes := by
  rw [decode, readTokens_eq_ok_iff, ← tokens_eq_map_char_iff]

/-- Two texts have the same octets only if they are the same. -/
theorem encode_inj {t t' : Text} : encode t = encode t' ↔ t = t' := by
  constructor
  · intro h
    have hread : decode (encode t') = .ok t := decode_eq_ok_iff.mpr h
    rw [decode_eq_ok_iff.mpr rfl] at hread
    exact (Except.ok.inj hread).symm
  · rintro rfl
    rfl

/-- An ASCII octet in front of a text's octets is the text's first character. -/
theorem encode_eq_cons_iff {t : Text} {b : UInt8} (hb : b.toNat < 0x80) {rest : Bytes} :
    encode t = b :: rest ↔ ∃ t', t = Char.ofNat b.toNat :: t' ∧ encode t' = rest := by
  have htokens : tokens (b :: rest) = .char (Char.ofNat b.toNat) :: tokens rest := by
    unfold tokens
    rw [tokensFrom, step, lead_one hb]
    rfl
  rw [← tokens_eq_map_char_iff, htokens, eq_comm, List.map_eq_cons_iff]
  constructor
  · rintro ⟨c, t', rfl, hchar, hrest⟩
    rw [Token.char.inj hchar]
    exact ⟨t', rfl, tokens_eq_map_char_iff.mp hrest.symm⟩
  · rintro ⟨t', rfl, hrest⟩
    exact ⟨_, t', rfl, rfl, (tokens_eq_map_char_iff.mpr hrest).symm⟩

/-! ### Sizes -/

/-- A character and more take the octets of both. -/
theorem size_cons (c : Char) (t : Text) : size (c :: t) = c.utf8Size + size t := by
  rw [size, encode_cons, List.length_append, String.length_utf8EncodeChar]
  rfl

/-- A character takes one octet exactly if it is ASCII. -/
theorem utf8Size_eq_one_iff {c : Char} : c.utf8Size = 1 ↔ c.toNat < 0x80 := by
  rw [Char.utf8Size_eq_one_iff, UInt32.le_iff_toNat_le]
  exact Nat.lt_succ_iff.symm

/-- A text has at least as many octets as characters. -/
theorem length_le_size (t : Text) : t.length ≤ size t := by
  induction t with
  | nil => exact Nat.zero_le _
  | cons c t ih =>
      have hpos := c.utf8Size_pos
      rw [size_cons, List.length_cons]
      omega

/-- A text has as many octets as characters exactly if it is ASCII. -/
theorem size_eq_length_iff (t : Text) : size t = t.length ↔ ∀ c ∈ t, c.toNat < 0x80 := by
  induction t with
  | nil => simp [size, encode]
  | cons c t ih =>
      -- Neither the first character nor the others can make up for the other.
      have hpos := c.utf8Size_pos
      have hle := length_le_size t
      rw [List.forall_mem_cons, ← ih, ← utf8Size_eq_one_iff, size_cons, List.length_cons]
      omega

end GoXref.Utf8
