import GoXref.Command

/-!
# `GoXref.Command.Parameter`: the named arguments and their names

Each parameter has a long name behind two dashes, and some have a letter
behind one. Which parameters there are depends on the place: in front of
the command's name, or behind it.

* `Parameter.byName?`, `Parameter.byLetter?`: the parameter of a name.
* `Word.ofText`: the form of an argument.
-/

set_option autoImplicit false

namespace GoXref

/-- A parameter that takes a value. -/
inductive Key where
  | file
  | line
  | column
  | root
  | gopath
deriving DecidableEq, Repr

/-- A parameter that is there or not. -/
inductive Switch where
  | byteOffsets
  | lenient
  | includeDeclaration
  | json
  | verbose
deriving DecidableEq, Repr

/-- A named argument. -/
inductive Parameter where
  /-- One that takes a value. -/
  | value (key : Key)
  /-- One that is there or not. -/
  | switch (s : Switch)
  /-- The request for help. -/
  | help
  /-- The request for the version. -/
  | version
deriving DecidableEq, Repr

/-- The long name of a parameter with a value. -/
def Key.name : Key → Text
  | file => "file".toList
  | line => "line".toList
  | column => "column".toList
  | root => "root".toList
  | gopath => "gopath".toList

/-- The long name of a switch. -/
def Switch.name : Switch → Text
  | byteOffsets => "byte-offsets".toList
  | lenient => "lenient".toList
  | includeDeclaration => "include-declaration".toList
  | json => "json".toList
  | verbose => "verbose".toList

namespace Parameter

/-- The long name. -/
def name : Parameter → Text
  | value key => key.name
  | switch s => s.name
  | help => "help".toList
  | version => "version".toList

/-- The letter, if there is one. -/
def letter? : Parameter → Option Char
  | value .file => some 'f'
  | value .line => some 'l'
  | value .column => some 'c'
  | value .root => some 'r'
  | switch .verbose => some 'v'
  | help => some 'h'
  | version => some 'V'
  | _ => none

/-- The parameters that are known in a place. -/
def known : Scope → List Parameter
  | .find =>
    [value .file, value .line, value .column, value .root, value .gopath, switch .byteOffsets,
      switch .lenient, switch .includeDeclaration, switch .json, switch .verbose, help]
  | .offset =>
    [value .file, value .line, value .column, switch .byteOffsets, switch .verbose, help]
  | _ => [switch .verbose, help, version]

/-- The parameter with a long name. -/
def byName? (scope : Scope) (name : Text) : Option Parameter :=
  (known scope).find? fun p => p.name = name

/-- The parameter with a letter. -/
def byLetter? (scope : Scope) (letter : Char) : Option Parameter :=
  (known scope).find? fun p => p.letter? = some letter

end Parameter

/-- The form of an argument. -/
inductive Word where
  /-- Two dashes: all that follows is plain. -/
  | rest
  /-- A long name, and what stands behind an equals sign. -/
  | long (name : Text) (value? : Option Text)
  /-- Letters behind one dash. -/
  | letters (t : Text)
  /-- Anything else. -/
  | plain (t : Text)
deriving DecidableEq, Repr

/-- The form of an argument. -/
def Word.ofText : Text → Word
  | ['-', '-'] => rest
  | '-' :: '-' :: t =>
    long (t.takeWhile (· ≠ '=')) ((t.dropWhile (· ≠ '=')).tail?)
  | '-' :: c :: t => letters (c :: t)
  | t => plain t

end GoXref
