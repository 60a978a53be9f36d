import GoXref.Text.Basic

/-!
# `GoXref.Text.Utf8`: text as octets

The writer is `encode`. The reader cuts the octets into tokens, each a
character, an ill-formed run, or a sequence the input breaks off. An
ill-formed run is maximal: it is the longest run that could still have
begun a character, or a single octet where none begins.

* `Utf8.tokens`: the tokens, read one octet at a time.
* `Utf8.decode`: the text, or the first token that is no character.
* `Utf8.decodeLossy`: the text, with U+FFFD for every such token.
-/

set_option autoImplicit false

namespace GoXref.Utf8

/-- The octets of a text. -/
def encode (t : Text) : Bytes := t.flatMap String.utf8EncodeChar

/-- The number of octets a text takes. -/
def size (t : Text) : Nat := (encode t).length

/-- Texts are written one after the other. -/
theorem encode_append (s t : Text) : encode (s ++ t) = encode s ++ encode t := by
  simp [encode]

/-- Sizes add up. -/
theorem size_append (s t : Text) : size (s ++ t) = size s + size t := by
  simp [size, encode_append]

/-- What a reader finds in a sequence of octets. -/
inductive Token where
  /-- One character. -/
  | char (c : Char)
  /-- So many octets that belong to no character. -/
  | malformed (length : Nat)
  /-- So many octets of a character whose rest is missing. -/
  | truncated (length : Nat)
deriving DecidableEq, Repr

namespace Token

/-- The number of octets the token covers. -/
def length : Token → Nat
  | char c => (String.utf8EncodeChar c).length
  | malformed n => n
  | truncated n => n

/-- The character the token stands for, U+FFFD where it is none. -/
def toChar : Token → Char
  | char c => c
  | _ => '\uFFFD'

end Token

/-- A character begun but not finished. -/
structure Pending where
  /-- The bits read so far. -/
  value : Nat
  /-- The octets read so far. -/
  taken : Nat
  /-- The octets still to come. -/
  owed : Nat
  /-- The least octet that may come next. -/
  low : Nat
  /-- The greatest octet that may come next. -/
  high : Nat

/-- The effect of an octet where no character has begun. The narrower
bounds shut out overlong forms, surrogates, and code points past U+10FFFF. -/
def lead (n : Nat) : List Token × Option Pending :=
  if n < 0x80 then ([.char (Char.ofNat n)], none)
  else if n < 0xC2 then ([.malformed 1], none)
  else if n < 0xE0 then ([], some ⟨n - 0xC0, 1, 1, 0x80, 0xBF⟩)
  else if n < 0xF0 then
    ([], some ⟨n - 0xE0, 1, 2, if n = 0xE0 then 0xA0 else 0x80, if n = 0xED then 0x9F else 0xBF⟩)
  else if n < 0xF5 then
    ([], some ⟨n - 0xF0, 1, 3, if n = 0xF0 then 0x90 else 0x80, if n = 0xF4 then 0x8F else 0xBF⟩)
  else ([.malformed 1], none)

/-- The effect of one octet: the tokens it completes, and what is pending
after it. An octet that does not fit ends the pending run and is then read
afresh. -/
def step (pending : Option Pending) (b : UInt8) : List Token × Option Pending :=
  let n := b.toNat
  match pending with
  | none => lead n
  | some p =>
    if p.low ≤ n ∧ n ≤ p.high then
      let value := p.value * 64 + (n - 0x80)
      if p.owed ≤ 1 then ([.char (Char.ofNat value)], none)
      else ([], some ⟨value, p.taken + 1, p.owed - 1, 0x80, 0xBF⟩)
    else (.malformed p.taken :: (lead n).1, (lead n).2)

/-- The tokens of the octets that follow `pending`. -/
def tokensFrom : Option Pending → Bytes → List Token
  | none, [] => []
  | some p, [] => [.truncated p.taken]
  | pending, b :: rest => (step pending b).1 ++ tokensFrom (step pending b).2 rest

/-- The tokens of a sequence of octets. -/
def tokens (bytes : Bytes) : List Token := tokensFrom none bytes

/-- Why octets are no text. -/
structure DecodeError where
  /-- The number of octets in front that are sound. -/
  index : Nat
  /-- The number of octets to blame, `none` if the input breaks off. -/
  length? : Option Nat
deriving DecidableEq, Repr

/-- The message for octets that are no text. -/
def DecodeError.message (e : DecodeError) : Text :=
  match e.length? with
  | some n =>
    "invalid utf-8 sequence of ".toList ++ Text.decimal n ++ " bytes from index ".toList
      ++ Text.decimal e.index
  | none => "incomplete utf-8 byte sequence from index ".toList ++ Text.decimal e.index

/-- The text of the tokens, where `index` octets stand before them. -/
def readTokens (index : Nat) : List Token → Except DecodeError Text
  | [] => .ok []
  | .char c :: rest =>
    (readTokens (index + (Token.char c).length) rest).map (c :: ·)
  | .malformed n :: _ => .error ⟨index, some n⟩
  | .truncated _ :: _ => .error ⟨index, none⟩

/-- The text the octets encode. -/
def decode (bytes : Bytes) : Except DecodeError Text := readTokens 0 (tokens bytes)

/-- The text the octets encode, with U+FFFD for whatever is no character. -/
def decodeLossy (bytes : Bytes) : Text := (tokens bytes).map Token.toChar

end GoXref.Utf8
