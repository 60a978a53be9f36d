import GoXref.Command.Parameter

/-!
# `GoXref.Command.Draft`: a command as its arguments are read

A draft holds the values read so far and the parameter that was named last.
Its value, usually the next argument, is looked at only when the next
parameter is reached or the arguments end. So of two faults in a row the
second may be the one that is reported.

* `Draft.settle`: the last value is looked at.
* `Draft.apply`: a parameter is reached.
* `Draft.read`: the arguments behind a command's name.
* `Invocation.ofArguments`: all arguments of the program.
-/

set_option autoImplicit false

namespace GoXref

/-- A parameter that was named, and its value if that was read too. -/
structure Pending where
  /-- The parameter. -/
  key : Key
  /-- Its value. -/
  value? : Option Text
deriving DecidableEq, Repr

/-- A command as its arguments are read. -/
structure Draft where
  /-- The file. -/
  file? : Option Text := none
  /-- The line. -/
  line? : Option UInt32 := none
  /-- The column. -/
  column? : Option UInt32 := none
  /-- The root of the workspace. -/
  root? : Option Text := none
  /-- The toolchain root. -/
  gopath? : Option Text := none
  /-- The switches that are on. -/
  switches : List Switch := []
  /-- The parameter that was named last. -/
  pending? : Option Pending := none
deriving DecidableEq, Repr

namespace Draft

/-! ### Values -/

/-- A path has at least one character. -/
def path (key : Key) (t : Text) : Except Refusal Text :=
  if t = [] then .error (.missingValue key.name) else .ok t

/-- The value of a whole number in decimal, with or without a sign. -/
def integer? (t : Text) : Option Int :=
  let value? (digits : Text) : Option Nat :=
    if digits ≠ [] && digits.all Char.isDigit then some (Nat.ofDigitChars 10 digits 0) else none
  match t with
  | '-' :: digits => (value? digits).map fun n => -(n : Int)
  | '+' :: digits => (value? digits).map fun n => (n : Int)
  | digits => (value? digits).map fun n => (n : Int)

/-- A line or a column fits 32 bits. -/
def number (key : Key) (t : Text) : Except Refusal UInt32 :=
  match integer? t with
  | none => .error (.malformedValue key.name t)
  | some n =>
    if 0 ≤ n ∧ n < UInt32.size then .ok (UInt32.ofNat n.toNat)
    else .error (.malformedValue key.name t)

/-- Whether a parameter has its value. -/
def has (d : Draft) : Key → Bool
  | .file => d.file?.isSome
  | .line => d.line?.isSome
  | .column => d.column?.isSome
  | .root => d.root?.isSome
  | .gopath => d.gopath?.isSome

/-- Gives a parameter its value. -/
def put (d : Draft) (key : Key) (t : Text) : Except Refusal Draft :=
  if d.has key then .error (.repeatedArgument key.name)
  else
    match key with
    | .file => (path key t).map fun v => { d with file? := some v }
    | .line => (number key t).map fun n => { d with line? := some n }
    | .column => (number key t).map fun n => { d with column? := some n }
    | .root => (path key t).map fun v => { d with root? := some v }
    | .gopath => (path key t).map fun v => { d with gopath? := some v }

/-- Gives the parameter that was named last its value. -/
def settle (d : Draft) : Except Refusal Draft :=
  match d.pending? with
  | none => .ok d
  | some ⟨key, none⟩ => .error (.missingValue key.name)
  | some ⟨key, some t⟩ => { d with pending? := none }.put key t

/-! ### Parameters -/

/-- Turns a switch on. -/
def switchOn (d : Draft) (s : Switch) : Except Refusal Draft :=
  if d.switches.contains s then .error (.repeatedArgument s.name)
  else .ok { d with switches := d.switches ++ [s] }

/-- The effect of a parameter, with the value that is attached to it. -/
def apply (scope : Scope) (d : Draft) (p : Parameter) (attached? : Option Text) :
    Except Refusal Draft :=
  match p, attached? with
  | .value key, some t => d.settle.bind fun d => d.put key t
  | .value key, none => d.settle.map fun d => { d with pending? := some ⟨key, none⟩ }
  | p, some _ => .error (.unwantedValue p.name)
  | .switch s, none => d.settle.bind fun d => d.switchOn s
  | .help, none => d.settle.bind fun _ => .error (.help scope)
  | .version, none => d.settle.bind fun _ => .error .version

/-- The value that is attached to a letter, with or without an equals sign. -/
def attachment? : Text → Option Text
  | [] => none
  | '=' :: t => some t
  | t => some t

/-- The effect of letters behind a dash. The first one that takes a value
has all that follows attached to it. -/
def applyLetters (scope : Scope) (d : Draft) : Text → Except Refusal Draft
  | [] => .ok d
  | c :: t =>
    match Parameter.byLetter? scope c with
    | none => .error (.unknownArgument ['-', c])
    | some (.value key) => d.apply scope (.value key) (attachment? t)
    | some p =>
      match d.apply scope p none with
      | .error e => .error e
      | .ok d => applyLetters scope d t

/-- The effect of a long name. -/
def applyName (scope : Scope) (d : Draft) (name : Text) (attached? : Option Text) :
    Except Refusal Draft :=
  match Parameter.byName? scope name with
  | none => .error (.unknownArgument ('-' :: '-' :: name))
  | some p => d.apply scope p attached?

/-- The effect of a plain argument, which only a parameter that waits for
its value can take. -/
def applyPlain (d : Draft) (t : Text) : Except Refusal Draft :=
  match d.pending? with
  | some ⟨key, none⟩ => .ok { d with pending? := some ⟨key, some t⟩ }
  | _ => .error (.unknownArgument t)

/-- Reads the arguments behind a command's name. -/
def read (scope : Scope) (d : Draft) : List Text → Except Refusal Draft
  | [] => d.settle
  | argument :: rest =>
    match Word.ofText argument with
    | .rest =>
      match rest with
      | [] => d.settle
      | next :: _ => .error (.unknownArgument next)
    | .long name value? =>
      match d.applyName scope name value? with
      | .error e => .error e
      | .ok d => read scope d rest
    | .letters t =>
      match d.applyLetters scope t with
      | .error e => .error e
      | .ok d => read scope d rest
    | .plain t =>
      match d.applyPlain t with
      | .error e => .error e
      | .ok d => read scope d rest

/-! ### Commands -/

/-- Whether a switch is on. -/
def isOn (d : Draft) (s : Switch) : Bool := d.switches.contains s

/-- A value that a command needs. -/
def need {α : Type} (key : Key) (value? : Option α) : Except Refusal α :=
  match value? with
  | some value => .ok value
  | none => .error (.missingArgument key.name)

/-- The cursor of a command. -/
def target (d : Draft) : Except Refusal Target :=
  match need .file d.file?, need .line d.line?, need .column d.column? with
  | .ok file, .ok line, .ok column =>
    .ok ⟨file, ⟨line, column⟩, if d.isOn .byteOffsets then .octets else .characters⟩
  | .error e, _, _ => .error e
  | _, .error e, _ => .error e
  | _, _, .error e => .error e

/-- What is said about a search. -/
def findOptions (d : Draft) : FindOptions where
  root? := d.root?
  gopath? := d.gopath?
  policy := if d.isOn .lenient then .lenient else .strict
  includeDeclaration := d.isOn .includeDeclaration
  json := d.isOn .json

end Draft

namespace Invocation

/-- The search command with the arguments behind its name. -/
def ofFind (top : Draft) (arguments : List Text) : Except Refusal Invocation := do
  let d ← Draft.read .find {} arguments
  let target ← d.target
  pure ⟨top.isOn .verbose || d.isOn .verbose, .find target d.findOptions⟩

/-- The offset command with the arguments behind its name. -/
def ofOffset (top : Draft) (arguments : List Text) : Except Refusal Invocation := do
  let d ← Draft.read .offset {} arguments
  let target ← d.target
  pure ⟨top.isOn .verbose || d.isOn .verbose, .offset target⟩

/-- The place that a command's name leads to. -/
def scope? (name : Text) : Option Scope :=
  if name = "find".toList then some .find
  else if name = "offset".toList then some .offset
  else if name = "help".toList then some .help
  else none

/-- The help command, with at most one command's name behind it. -/
def ofHelp : List Text → Refusal
  | [] => .help .top
  | [name] =>
    match scope? name with
    | some scope => .help scope
    | none => .unknownCommand name
  | name :: next :: _ =>
    match scope? name with
    | some _ => .unknownCommand next
    | none => .unknownCommand name

/-- The end of the arguments before any command. -/
def ofNothing (top : Draft) : Refusal := if top.switches = [] then .noArguments else .noCommand

/-- Reads the arguments in front of a command's name, and then the command. -/
def read (top : Draft) : List Text → Except Refusal Invocation
  | [] => .error (ofNothing top)
  | argument :: rest =>
    match Word.ofText argument with
    | .rest =>
      match rest with
      | [] => .error (ofNothing top)
      | next :: _ =>
        match scope? next with
        | some _ => .error (.unknownArgument next)
        | none => .error (.unknownCommand next)
    | .long name value? =>
      match top.applyName .top name value? with
      | .error e => .error e
      | .ok top => read top rest
    | .letters t =>
      match top.applyLetters .top t with
      | .error e => .error e
      | .ok top => read top rest
    | .plain t =>
      match scope? t with
      | some .find => ofFind top rest
      | some .offset => ofOffset top rest
      | some _ => .error (ofHelp rest)
      | none => .error (.unknownCommand t)

/-- The command that the arguments of the program ask for. -/
def ofArguments (arguments : List Text) : Except Refusal Invocation := read {} arguments

end Invocation

end GoXref
