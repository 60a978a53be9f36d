import GoXref.Command.Parameter
import GoXref.Settings

/-!
# `GoXref.Command.Usage`: the texts behind `--help` and `--version`
-/

set_option autoImplicit false

namespace GoXref.Usage

/-- The name of the program. -/
def programName : Text := "go-references".toList

/-- The version line. -/
def versionLine : Text := programName ++ ' ' :: version

/-- The help text for the program as a whole. -/
def topLines : List String :=
  ["Find references to Go identifiers by delegating to go-find-references",
    "",
    "Usage: go-references [OPTIONS] <COMMAND>",
    "",
    "Commands:",
    "  find    Find references to the identifier at a position",
    "  offset  Print the offset that would be passed to the tool",
    "  help    Print this message or the help of the given subcommand(s)",
    "",
    "Options:",
    "  -v, --verbose  Enable verbose logging",
    "  -h, --help     Print help",
    "  -V, --version  Print version"]

/-- The help text for the search command. -/
def findLines : List String :=
  ["Find references to the identifier at a position",
    "",
    "Usage: go-references find [OPTIONS] --file <FILE> --line <LINE> --column <COLUMN>",
    "",
    "Options:",
    "  -f, --file <FILE>          Go source file containing the cursor",
    "  -l, --line <LINE>          Cursor line (0-based)",
    "  -c, --column <COLUMN>      Cursor column (0-based)",
    "  -r, --root <ROOT>          Workspace root (defaults to the current directory)",
    "      --gopath <DIR>         Toolchain root holding bin/go-find-references (defaults to $GOPATH)",
    "      --byte-offsets         Pass the cursor offset in UTF-8 bytes instead of characters",
    "      --lenient              Skip output lines that do not follow the expected pairing instead of failing",
    "      --include-declaration  Include the declaration (accepted for editor parity; has no effect)",
    "      --json                 Print results as JSON",
    "  -v, --verbose              Enable verbose logging",
    "  -h, --help                 Print help"]

/-- The help text for the offset command. -/
def offsetLines : List String :=
  ["Print the offset that would be passed to the tool",
    "",
    "Usage: go-references offset [OPTIONS] --file <FILE> --line <LINE> --column <COLUMN>",
    "",
    "Options:",
    "  -f, --file <FILE>      Go source file containing the cursor",
    "  -l, --line <LINE>      Cursor line (0-based)",
    "  -c, --column <COLUMN>  Cursor column (0-based)",
    "      --byte-offsets     Count UTF-8 bytes instead of characters",
    "  -v, --verbose          Enable verbose logging",
    "  -h, --help             Print help"]

/-- The help text for the help command. -/
def helpLines : List String :=
  ["Print this message or the help of the given subcommand(s)",
    "",
    "Usage: go-references help [COMMAND]...",
    "",
    "Arguments:",
    "  [COMMAND]...  Print help for the subcommand(s)"]

/-- The help text for a place on the command line. -/
def help (scope : Scope) : Text :=
  let lines := match scope with
    | .top => topLines
    | .find => findLines
    | .offset => offsetLines
    | .help => helpLines
  Text.joinLines (lines.map String.toList)

end GoXref.Usage
