import GoXref.Proofs.Listing.Violation
import GoXref.Proofs.Location
import GoXref.Proofs.Text.Quoted

/-!
# `GoXref.Proofs.Listing.Complaint`: the message about a malformed listing

The message about a listing that a strict reader refuses holds a number, a line of the
listing and a reason. The line is foreign text and can hold anything but a line feed. It
stands between other parts of the message, so two things could go wrong: the line could
break the message in two, and it could be taken for more of the message.

Neither happens, because the line is quoted. A number ends at the space behind it, and a
quoted text ends at its closing quote.

* `isOneLine_message`: the message is on one line, if its reason is.
* `message_inj`: the number, the line and the reason can be told from the message.
* `message_oneLine_injective`: both, of whatever a reader objects to.
-/

set_option autoImplicit false

namespace GoXref.Listing

open Text (IsOneLine isOneLine_append)

variable {number number' : Nat} {line line' reason reason' : Text}

/-- A message is on one line if its reason is, whatever the line it is about. -/
theorem isOneLine_message (hreason : IsOneLine reason) :
    IsOneLine (Fault.malformedListing number line reason).message := by
  have hnumber : IsOneLine (Text.decimal number) :=
    Text.isOneLine_toDigits (by decide) (by decide) number
  have hline := Text.isOneLine_quoted line
  unfold Fault.message
  simp only [isOneLine_append]
  exact ⟨⟨⟨⟨⟨by decide, hnumber⟩, by decide⟩, hline⟩, by decide⟩, hreason⟩

/-- A number in decimal goes up to the space behind it. -/
theorem takeWhile_decimal (n : Nat) (rest : Text) :
    (Text.decimal n ++ ' ' :: rest).takeWhile Char.isDigit = Text.decimal n := by
  rw [List.takeWhile_append_of_pos fun c hc => Location.isDigit_of_mem_decimal hc,
    List.takeWhile_cons_of_neg (by decide), List.append_nil]

/-- So the number and the rest can be told apart. -/
theorem decimal_append_inj {rest rest' : Text}
    (h : Text.decimal number ++ ' ' :: rest = Text.decimal number' ++ ' ' :: rest') :
    number = number' ∧ rest = rest' := by
  have hdigits : Text.decimal number = Text.decimal number' := by
    rw [← takeWhile_decimal number rest, h, takeWhile_decimal]
  have hvalue := congrArg (Nat.ofDigitChars 10 · 0) hdigits
  simp only [Text.decimal, Nat.ofDigitChars_ten_toDigits] at hvalue
  rw [hdigits, List.append_cancel_left_eq] at h
  exact ⟨hvalue, (List.cons.inj h).2⟩

/-- The parts of a message, each with all that follows it. -/
theorem message_eq (number : Nat) (line reason : Text) :
    (Fault.malformedListing number line reason).message
      = "Malformed tool output at line ".toList ++ (Text.decimal number ++ ' ' :: '(' ::
        (Text.quoted line ++ ("): ".toList ++ reason))) := by
  -- `simp` would evaluate the texts in an equation of messages, so this is kept apart.
  have hopen (t : Text) : ' ' :: '(' :: t = " (".toList ++ t := rfl
  unfold Fault.message
  simp only [hopen, List.append_assoc]

/-- What a message is about can be told from the message. -/
theorem message_inj (h : (Fault.malformedListing number line reason).message
    = (Fault.malformedListing number' line' reason').message) :
    number = number' ∧ line = line' ∧ reason = reason' := by
  rw [message_eq, message_eq] at h
  -- Both numbers end at the space, and both lines at their closing quote.
  obtain ⟨hnumber, hrest⟩ := decimal_append_inj (List.append_cancel_left h)
  obtain ⟨hline, hrest⟩ := Text.quoted_append_inj (List.cons.inj hrest).2
  exact ⟨hnumber, hline, List.append_cancel_left hrest⟩

/-- The message about a listing that is refused is on one line, whatever the listing
holds. Two such messages are equal only if they are about the same number, line and
reason. -/
theorem message_oneLine_injective :
    (∀ listing fault, read .strict listing = .error fault →
      ∃ number line reason, fault = .malformedListing number line reason ∧
        IsOneLine fault.message) ∧
    ∀ listing listing' fault fault', read .strict listing = .error fault →
      read .strict listing' = .error fault' → fault.message = fault'.message →
      ∃ number line reason, fault = .malformedListing number line reason ∧
        fault' = .malformedListing number line reason := by
  constructor
  · intro listing fault hread
    obtain ⟨number, line, reason, rfl, hreason⟩ := malformed_of_read hread
    -- The line may be anything; the reason is one of two fixed texts.
    refine ⟨number, line, reason, rfl, isOneLine_message ?_⟩
    rcases hreason with rfl | rfl <;> decide
  · intro listing listing' fault fault' hread hread' h
    obtain ⟨number, line, reason, rfl, -⟩ := malformed_of_read hread
    obtain ⟨number', line', reason', rfl, -⟩ := malformed_of_read hread'
    obtain ⟨rfl, rfl, rfl⟩ := message_inj h
    exact ⟨number, line, reason, rfl, rfl⟩

/-- `message_oneLine_injective` for a line with a quote, a control and an octet that is no
text, and for the same line with a carriage return. -/
theorem message_oneLine_injective_octets :
    read .strict (Utf8.decodeLossy [0x22, 0x01, 0xFF, 0x3A, 0x31, 0x3A, 0x31])
      = .error (.malformedListing 1 "\"\x01\uFFFD:1:1".toList Pair.noCompanion) ∧
    IsOneLine (Fault.malformedListing 1 "\"\x01\uFFFD:1:1".toList Pair.noCompanion).message ∧
    ∃ fault, read .strict "\"\x01\uFFFD:1:1\r".toList = .error fault ∧
      fault.message
        = (Fault.malformedListing 1 "\"\x01\uFFFD:1:1".toList Pair.noCompanion).message ∧
      fault = .malformedListing 1 "\"\x01\uFFFD:1:1".toList Pair.noCompanion := by
  obtain ⟨hline, hsame⟩ := message_oneLine_injective
  have hread : read .strict (Utf8.decodeLossy [0x22, 0x01, 0xFF, 0x3A, 0x31, 0x3A, 0x31])
      = .error (.malformedListing 1 "\"\x01\uFFFD:1:1".toList Pair.noCompanion) := rfl
  have hread' : read .strict "\"\x01\uFFFD:1:1\r".toList
      = .error (.malformedListing 1 "\"\x01\uFFFD:1:1".toList Pair.noCompanion) := rfl
  obtain ⟨_, _, _, -, hone⟩ := hline _ _ hread
  obtain ⟨_, _, _, hfault, hfault'⟩ := hsame _ _ _ _ hread hread' rfl
  exact ⟨hread, hone, _, hread', rfl, hfault'.trans hfault.symm⟩

end GoXref.Listing
