import GoXref.Text.Basic

/-!
# `GoXref.Text.Terminal`: text without terminal controls

A terminal takes some characters as orders. An escape character begins a
sequence that moves the cursor, sets a colour or names the window, and a
lone control may ring the bell. Foreign text may hold such orders, so
records are shown without them.

White space that interrupts a sequence is shown, and so is the printable
text right behind it. The sequence goes on at the next character that is not
printable.

* `Mode.next`: what a character does to the sequence it stands in.
* `plain`: the text without its controls.
* `plain_of_printable`: text without controls is left alone.
-/

set_option autoImplicit false

namespace GoXref.Terminal

/-- Where in a sequence a reader stands. -/
inductive Mode where
  /-- In no sequence. -/
  | ground
  /-- Right behind the escape character. -/
  | escape
  /-- Behind an intermediate character of an escape sequence. -/
  | escapeIntermediate
  /-- In a control sequence. -/
  | control
  /-- At the start of a device control. -/
  | device
  /-- Behind a parameter of a device control. -/
  | deviceParameter
  /-- Behind an intermediate character of a device control. -/
  | deviceIntermediate
  /-- In data for a device or an application. -/
  | data
  /-- In a command to the operating system. -/
  | command
deriving DecidableEq, Repr

/-- Whether a character lies between two others. -/
def within (lo hi c : Char) : Bool := lo ≤ c && c ≤ hi

/-- Whether a character is white space that lays text out. -/
def isLayout (c : Char) : Bool := c = '\t' || c = '\n' || c = '\x0C' || c = '\r'

/-- Whether a character is shown where it stands in no sequence. -/
def isPrintable (c : Char) : Bool := isLayout c || within ' ' '~' c || 0x80 ≤ c.toNat

/-- Whether the octet that ends data is among a character's octets. -/
def endsData (c : Char) : Bool := (String.utf8EncodeChar c).contains 0x9C

namespace Mode

/-- Where the reader stands behind a character that is not shown. -/
def next (mode : Mode) (c : Char) : Mode :=
  if c = '\x1B' then escape
  else if c = '\x18' || c = '\x1A' then ground
  else
    match mode with
    | ground => ground
    | escape =>
      if c = '[' then control
      else if c = 'P' then device
      else if c = ']' then command
      else if c = 'X' || c = '^' || c = '_' then data
      else if within ' ' '/' c then escapeIntermediate
      else if within '0' '~' c then ground
      else escape
    | escapeIntermediate => if within '0' '~' c then ground else escapeIntermediate
    | control => if within '@' '~' c then ground else control
    | device =>
      if within ' ' '/' c then deviceIntermediate
      else if within '0' '?' c then deviceParameter
      else if within '@' '~' c then data
      else device
    | deviceParameter =>
      if within ' ' '/' c then deviceIntermediate
      else if within '<' '~' c then data
      else deviceParameter
    | deviceIntermediate => if within '0' '~' c then data else deviceIntermediate
    | data => if endsData c then ground else data
    | command => if c = '\x07' then ground else command

/-- Whether a character is shown that does not continue shown text. -/
def shows (mode : Mode) (c : Char) : Bool :=
  match mode with
  | ground => isPrintable c
  | escape | escapeIntermediate | control => isLayout c
  | _ => false

end Mode

/-- The text without its controls, read from within a sequence. `running`
tells that the character before was shown. A character outside ASCII ends
the sequence that shown text interrupts. -/
def plainFrom (running : Bool) (mode : Mode) : Text → Text
  | [] => []
  | c :: rest =>
    if (running && isPrintable c) || mode.shows c then
      c :: plainFrom true (if c.toNat < 0x80 then mode else .ground) rest
    else plainFrom false (mode.next c) rest

/-- The text without its controls. -/
def plain (t : Text) : Text := plainFrom false .ground t

/-- Text without controls is shown as it is. -/
theorem plain_of_printable (t : Text) (h : ∀ c ∈ t, isPrintable c) : plain t = t := by
  suffices hrun : ∀ running, plainFrom running .ground t = t from hrun false
  induction t with
  | nil => intro _; rfl
  | cons c rest ih =>
    intro running
    have hc : isPrintable c := h c List.mem_cons_self
    simp [plainFrom, Mode.shows, hc, ih fun d hd => h d (List.mem_cons_of_mem c hd)]

end GoXref.Terminal
