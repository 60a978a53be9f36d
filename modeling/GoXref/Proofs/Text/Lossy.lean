import GoXref.Proofs.Text.Pieces
import GoXref.Proofs.Text.Utf8

/-!
# `GoXref.Proofs.Text.Lossy`: lines of octets that may be no text

`Utf8.decodeLossy` reads any octets, with U+FFFD for what is no character. A
character can be broken off anywhere, also in front of a line feed. It does not
take the line feed in, because the octets behind its first one are all at least
0x80 (`low_of_step`). And a line feed is never read where there is none, because
a character that is read stands there with its octets.

* `map_toChar_tokensFrom_append`, `decodeLossy_append_lf`: what stands in front of
  a line feed and what stands behind it are read apart.
* `lf_mem_of_mem_decodeLossy`: a line feed in the text is one of the octets.
* `splitOn_decodeLossy`: octets can be cut into lines before they are read.
-/

set_option autoImplicit false

namespace GoXref.Utf8

/-! ### In front of a line feed -/

/-- Behind a first octet, only an octet that is not ASCII can fit. -/
theorem low_of_lead {n : Nat} {p : Pending} (h : (lead n).2 = some p) : 0x80 ≤ p.low := by
  rcases (by omega : n < 0x80 ∨ (0x80 ≤ n ∧ n < 0xC2 ∨ 0xF5 ≤ n) ∨ (0xC2 ≤ n ∧ n < 0xE0) ∨
    (0xE0 ≤ n ∧ n < 0xF0) ∨ (0xF0 ≤ n ∧ n < 0xF5)) with hone | hnone | htwo | hthree | hfour
  · rw [lead_one hone] at h
    exact nomatch h
  · rw [lead_malformed hnone] at h
    exact nomatch h
  · rw [lead_two htwo] at h
    obtain rfl := Option.some.inj h
    exact Nat.le_refl _
  · rw [lead_three hthree] at h
    obtain rfl := Option.some.inj h
    show 0x80 ≤ if n = 0xE0 then 0xA0 else 0x80
    split <;> omega
  · rw [lead_four hfour] at h
    obtain rfl := Option.some.inj h
    show 0x80 ≤ if n = 0xF0 then 0x90 else 0x80
    split <;> omega

/-- So it is behind any octet, whatever was pending before. -/
theorem low_of_step {pending : Option Pending} {b : UInt8} {p : Pending}
    (h : (step pending b).2 = some p) : 0x80 ≤ p.low := by
  cases pending with
  | none => exact low_of_lead h
  | some q =>
      by_cases hfits : q.Fits b
      · rw [step_of_fits hfits] at h
        split at h
        · exact nomatch h
        · obtain rfl := Option.some.inj h
          exact Nat.le_refl _
      · rw [step_of_not_fits hfits] at h
        exact low_of_lead h

/-- What is pending in front of a line feed is read as if the octets ended there,
and what follows the line feed as if they started there. -/
theorem map_toChar_tokensFrom_append {pending : Option Pending}
    (hlow : ∀ p, pending = some p → 0x80 ≤ p.low) (front back : Bytes) :
    (tokensFrom pending (front ++ 0x0A :: back)).map Token.toChar
      = (tokensFrom pending front).map Token.toChar
        ++ '\n' :: (tokensFrom none back).map Token.toChar := by
  induction front generalizing pending with
  | nil =>
      cases pending with
      | none => rfl
      | some p =>
          -- The line feed does not fit, so the broken character is one token in
          -- front of it, as at the end of the octets.
          have hlow := hlow p rfl
          have hfits : ¬ p.Fits 0x0A := by
            rintro ⟨hle, -⟩
            exact absurd (Nat.le_trans hlow hle) (by decide)
          have hread : tokensFrom (some p) (0x0A :: back)
              = .malformed p.taken :: .char '\n' :: tokensFrom none back := by
            rw [tokensFrom, step_of_not_fits hfits]
            rfl
          rw [List.nil_append, hread]
          rfl
  | cons b front ih =>
      rw [List.cons_append, tokensFrom, tokensFrom, List.map_append, List.map_append,
        ih fun p hp => low_of_step hp, List.append_assoc]

/-- A line feed parts what is read. -/
theorem decodeLossy_append_lf (front back : Bytes) :
    decodeLossy (front ++ 0x0A :: back) = decodeLossy front ++ '\n' :: decodeLossy back :=
  map_toChar_tokensFrom_append (by simp) front back

/-! ### No line feed from elsewhere -/

/-- A first octet finishes a token, or something is pending behind it. -/
theorem lead_cases (n : Nat) : (∃ p, lead n = ([], some p)) ∨ ∃ token, lead n = ([token], none) := by
  unfold lead
  split
  · exact .inr ⟨_, rfl⟩
  split
  · exact .inr ⟨_, rfl⟩
  split
  · exact .inl ⟨_, rfl⟩
  split
  · exact .inl ⟨_, rfl⟩
  split
  · exact .inl ⟨_, rfl⟩
  · exact .inr ⟨_, rfl⟩

/-- An octet is taken into what is pending, or it finishes a token, or it shows that
what is pending is none and is read afresh. -/
theorem tokensFrom_cons_cases (pending : Option Pending) (b : UInt8) (bytes : Bytes) :
    (∃ p, tokensFrom pending (b :: bytes) = tokensFrom (some p) bytes) ∨
    (∃ token, tokensFrom pending (b :: bytes) = token :: tokensFrom none bytes) ∨
    ∃ token, tokensFrom pending (b :: bytes) = token :: tokensFrom none (b :: bytes) := by
  cases pending with
  | none =>
      rcases lead_cases b.toNat with ⟨p, hlead⟩ | ⟨token, hlead⟩
      · exact .inl ⟨p, by rw [tokensFrom, step, hlead]; rfl⟩
      · exact .inr (.inl ⟨token, by rw [tokensFrom, step, hlead]; rfl⟩)
  | some p =>
      by_cases hfits : p.Fits b
      · by_cases howed : p.owed ≤ 1
        · exact .inr (.inl ⟨_, tokensFrom_last howed hfits⟩)
        · exact .inl ⟨_, tokensFrom_more (Nat.not_le.mp howed) hfits⟩
      · refine .inr (.inr ⟨.malformed p.taken, ?_⟩)
        rw [tokensFrom, step_of_not_fits hfits]
        rfl

/-- Behind each token the reader starts afresh, at the same place or further on. -/
theorem exists_suffix_of_tokensFrom {pending : Option Pending} {bytes : Bytes} {token : Token}
    {rest : List Token} (h : tokensFrom pending bytes = token :: rest) :
    ∃ back, back <:+ bytes ∧ tokensFrom none back = rest := by
  induction bytes generalizing pending with
  | nil =>
      cases pending with
      | none => exact nomatch h
      | some p => exact ⟨[], List.suffix_rfl, (List.cons.inj h).2⟩
  | cons b bytes ih =>
      rcases tokensFrom_cons_cases pending b bytes with ⟨p, hp⟩ | ⟨_, htoken⟩ | ⟨_, hafresh⟩
      · rw [hp] at h
        obtain ⟨back, hback, hrest⟩ := ih h
        exact ⟨back, hback.trans (List.suffix_cons b bytes), hrest⟩
      · rw [htoken] at h
        exact ⟨bytes, List.suffix_cons b bytes, (List.cons.inj h).2⟩
      · rw [hafresh] at h
        exact ⟨b :: bytes, List.suffix_rfl, (List.cons.inj h).2⟩

/-- Each token is the first one of the octets from some place on. -/
theorem exists_suffix_of_mem_tokens {bytes : Bytes} {token : Token} (h : token ∈ tokens bytes) :
    ∃ back rest, back <:+ bytes ∧ tokensFrom none back = token :: rest := by
  unfold tokens at h
  generalize htokens : tokensFrom none bytes = ts at h
  induction ts generalizing bytes with
  | nil => exact nomatch h
  | cons first ts ih =>
      rcases List.mem_cons.mp h with rfl | hrest
      · exact ⟨bytes, ts, List.suffix_rfl, htokens⟩
      · obtain ⟨back, hback, hts⟩ := exists_suffix_of_tokensFrom htokens
        obtain ⟨back', rest, hback', hrest⟩ := ih hts hrest
        exact ⟨back', rest, hback'.trans hback, hrest⟩

/-- A line feed that is read is one of the octets. -/
theorem lf_mem_of_mem_decodeLossy {bytes : Bytes} (h : '\n' ∈ decodeLossy bytes) :
    0x0A ∈ bytes := by
  obtain ⟨token, hmem, htoken⟩ := List.mem_map.mp h
  -- Only a character is read as one that is not U+FFFD.
  obtain rfl : token = .char '\n' := by
    cases token with
    | char c => rw [← htoken]; rfl
    | malformed n => exact absurd htoken (show '\uFFFD' ≠ '\n' by decide)
    | truncated n => exact absurd htoken (show '\uFFFD' ≠ '\n' by decide)
  obtain ⟨back, rest, hback, hread⟩ := exists_suffix_of_mem_tokens hmem
  obtain ⟨more, rfl, -⟩ := exists_eq_of_tokensFrom hread
  have hoctets : String.utf8EncodeChar '\n' = [0x0A] := by decide
  apply hback.subset
  rw [hoctets]
  exact List.mem_cons_self

/-! ### Lines -/

/-- To read octets and cut the text into lines is to cut the octets into lines and
read these. -/
theorem splitOn_decodeLossy (bytes : Bytes) :
    (decodeLossy bytes).splitOn '\n' = (bytes.splitOn 0x0A).map decodeLossy := by
  induction bytes using Pieces.splitOn_induction (a := (0x0A : UInt8)) with
  | single line hline =>
      rw [List.splitOn_eq_singleton fun h => hline (lf_mem_of_mem_decodeLossy h)]
      rfl
  | cons line rest hline ih =>
      rw [decodeLossy_append_lf, List.splitOn_append_cons_self_of_not_mem
        fun h => hline (lf_mem_of_mem_decodeLossy h), ih]
      rfl

end GoXref.Utf8
