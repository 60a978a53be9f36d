import GoXref.Path
import GoXref.Proofs.Text.Utf8

/-!
# `GoXref.Proofs.Path.Drive`: drive paths

`forwardSlashes` turns the backslashes of a drive path and leaves every other text
alone. Whether a text is a drive path can be read off its first three octets as well as
off its first three characters: in UTF-8 no octet of a longer character looks like a
letter, a colon or a backslash.

A turned path is no drive path any more, because the backslash behind its colon is gone.
So nothing is left to turn.

* `startsWithDrive_iff_octets`: the two ways to tell a drive path.
* `getElem?_forwardSlashes`, `size_forwardSlashes`: what is turned, and what is not.
* `forwardSlashes_idem`: turning again changes nothing.
* `forwardSlashes_of_isAbsolute`: turning an absolute path changes nothing.
-/

set_option autoImplicit false

namespace GoXref.Path

/-- A text that starts with an ASCII letter, a colon and a backslash. -/
def StartsWithDrive (t : Text) : Prop :=
  ∃ letter rest, t = letter :: ':' :: '\\' :: rest ∧
    (0x41 ≤ letter.toNat ∧ letter.toNat ≤ 0x5A ∨ 0x61 ≤ letter.toNat ∧ letter.toNat ≤ 0x7A)

/-- The ASCII letters by their numbers. -/
theorem isAlpha_iff (c : Char) : c.isAlpha = true ↔
    0x41 ≤ c.toNat ∧ c.toNat ≤ 0x5A ∨ 0x61 ≤ c.toNat ∧ c.toNat ≤ 0x7A := by
  show (decide (c.val ≥ 'A'.val ∧ c.val ≤ 'Z'.val)
    || (decide (c.val ≥ 'a'.val) && decide (c.val ≤ 'z'.val))) = true ↔ _
  rw [Bool.or_eq_true, Bool.and_eq_true, decide_eq_true_eq, decide_eq_true_eq, decide_eq_true_eq]
  exact Iff.rfl

theorem hasDrive_iff {t : Text} : hasDrive t = true ↔ StartsWithDrive t := by
  constructor
  · intro h
    unfold hasDrive at h
    split at h
    · exact ⟨_, _, rfl, (isAlpha_iff _).mp h⟩
    · exact absurd h Bool.false_ne_true
  · rintro ⟨letter, rest, rfl, hletter⟩
    exact (isAlpha_iff letter).mpr hletter

/-- A drive path is told by its first three octets. -/
theorem startsWithDrive_iff_octets {t : Text} : StartsWithDrive t ↔
    ∃ b rest, Utf8.encode t = b :: 0x3A :: 0x5C :: rest ∧
      (0x41 ≤ b.toNat ∧ b.toNat ≤ 0x5A ∨ 0x61 ≤ b.toNat ∧ b.toNat ≤ 0x7A) := by
  constructor
  · rintro ⟨letter, rest, rfl, hletter⟩
    have hlt : letter.toNat < 256 := by omega
    have hnumber : (UInt8.ofNat letter.toNat).toNat = letter.toNat := UInt8.toNat_ofNat_of_lt' hlt
    refine ⟨UInt8.ofNat letter.toNat, Utf8.encode rest, ?_, by rwa [hnumber]⟩
    rw [Utf8.encode_eq_cons_iff (by omega), hnumber, Char.ofNat_toNat]
    exact ⟨_, rfl, rfl⟩
  · rintro ⟨b, rest, hoctets, hletter⟩
    -- One character after the other, because all three octets are ASCII.
    obtain ⟨more, rfl, hmore⟩ := (Utf8.encode_eq_cons_iff (by omega)).mp hoctets
    obtain ⟨behind, rfl, hbehind⟩ := (Utf8.encode_eq_cons_iff (by decide)).mp hmore
    obtain ⟨t, rfl, -⟩ := (Utf8.encode_eq_cons_iff (by decide)).mp hbehind
    refine ⟨_, t, rfl, ?_⟩
    rwa [Utf8.toNat_ofNat (by omega)]

/-! ### Turned paths -/

/-- What becomes of a character of a drive path. -/
def turn (c : Char) : Char := if c = '\\' then '/' else c

variable {t : Text}

theorem forwardSlashes_of_drive (h : StartsWithDrive t) : forwardSlashes t = t.map turn :=
  if_pos (hasDrive_iff.mpr h)

/-- Any other path stands for itself. -/
theorem forwardSlashes_of_not_drive (h : ¬ StartsWithDrive t) : forwardSlashes t = t :=
  if_neg (mt hasDrive_iff.mp h)

/-- An absolute path has no drive, so it stands for itself. -/
theorem forwardSlashes_of_isAbsolute (h : isAbsolute t = true) : forwardSlashes t = t := by
  apply forwardSlashes_of_not_drive
  rintro ⟨letter, rest, rfl, hletter⟩
  -- Its first character is the slash, which is no letter.
  obtain rfl : letter = '/' := Option.some.inj (of_decide_eq_true h)
  exact absurd hletter (by decide)

/-- In a drive path each character is turned where it stands. -/
theorem getElem?_forwardSlashes (h : StartsWithDrive t) (i : Nat) :
    (forwardSlashes t)[i]? = t[i]?.map turn := by
  rw [forwardSlashes_of_drive h, List.getElem?_map]

/-- A slash takes as many octets as a backslash. -/
theorem size_map_turn (t : Text) : Utf8.size (t.map turn) = Utf8.size t := by
  induction t with
  | nil => rfl
  | cons c t ih =>
      have hc : (turn c).utf8Size = c.utf8Size := by
        unfold turn
        split
        · rename_i hc
          rw [hc]
          decide
        · rfl
      rw [List.map_cons, Utf8.size_cons, Utf8.size_cons, hc, ih]

/-- So a turned path takes as many octets as the path, and has as many characters. -/
theorem size_forwardSlashes (t : Text) :
    Utf8.size (forwardSlashes t) = Utf8.size t ∧ (forwardSlashes t).length = t.length := by
  by_cases h : StartsWithDrive t
  · rw [forwardSlashes_of_drive h]
    exact ⟨size_map_turn t, List.length_map _⟩
  · rw [forwardSlashes_of_not_drive h]
    exact ⟨rfl, rfl⟩

/-- A turned path does not start with a drive. -/
theorem not_startsWithDrive_forwardSlashes (t : Text) : ¬ StartsWithDrive (forwardSlashes t) := by
  by_cases h : StartsWithDrive t
  · rw [forwardSlashes_of_drive h]
    obtain ⟨letter, rest, rfl, -⟩ := h
    -- Where a drive has its backslash, there is a slash now.
    rintro ⟨letter', rest', htext, -⟩
    have hthird := congrArg (·[2]?) htext
    exact absurd hthird (by simp [turn])
  · rwa [forwardSlashes_of_not_drive h]

theorem forwardSlashes_idem (t : Text) : forwardSlashes (forwardSlashes t) = forwardSlashes t :=
  forwardSlashes_of_not_drive (not_startsWithDrive_forwardSlashes t)

end GoXref.Path
