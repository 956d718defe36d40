import Lexis.Command.Arguments

/-!
# The help text

The help text, and the lines that are shown when the command does not start.
-/

namespace Lexis.Help

/-- The name of the command. -/
def command : String := "sylan"

/-- How the command is called. -/
def usage : String :=
  "usage: sylan [-h] [-o OUTPUT] [--config FILE] [--skip-comments] [--positions]\n" ++
  "             [--debug] [-v]\n" ++
  "             input\n"

/-- What the arguments mean. -/
def explanation : String :=
  "Lex a Sylan source file and print one token per line\n\n" ++
  "positional arguments:\n" ++
  "  input                 Input source file\n\n" ++
  "options:\n" ++
  "  -h, --help            show this help message and exit\n" ++
  "  -o OUTPUT, --output OUTPUT\n" ++
  "                        Output file (default: stdout)\n" ++
  "  --config FILE         Config file (default: auto-discover sylan.toml)\n" ++
  "  --skip-comments       Leave comment tokens out of the output\n" ++
  "  --positions           Prefix each token with its line:column\n" ++
  "  --debug               Dump tokens with offsets to stderr\n" ++
  "  -v, --verbose         Enable debug logging\n"

/-- The help text. -/
def text : String := usage ++ "\n" ++ explanation

/-- What is shown about arguments that make no sense. -/
def complaint (e : UsageError) : String := usage ++ command ++ ": error: " ++ e.message ++ "\n"

end Lexis.Help
