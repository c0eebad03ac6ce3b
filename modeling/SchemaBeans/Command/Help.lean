import SchemaBeans.Command.Arguments

/-!
# Command — Help

The texts that the program shows instead of a run: its version, help on its command line, and what
is wrong with a command line.
-/

namespace SchemaBeans.Command

/-- The name of the program. -/
def programName : String := "oas3-beans"

/-- The version of the program, as a line. -/
def versionLine : String := programName ++ " 0.4.0\n"

/-- Help on the program. -/
def programHelp : String :=
  "OpenAPI v3.0 schemas to Java beans generator\n" ++
  "\n" ++
  "Usage: oas3-beans [OPTIONS] <COMMAND>\n" ++
  "\n" ++
  "Commands:\n" ++
  "  generate  Generate Java beans from the component schemas of an OpenAPI document\n" ++
  "  help      Print this message or the help of the given subcommand(s)\n" ++
  "\n" ++
  "Options:\n" ++
  "      --color <COLOR>  Control color output [default: auto] " ++
  "[possible values: always, auto, never]\n" ++
  "  -h, --help           Print help\n" ++
  "  -V, --version        Print version\n"

/-- Help on the command that generates. -/
def generateHelp : String :=
  "Generate Java beans from the component schemas of an OpenAPI document\n" ++
  "\n" ++
  "Usage: oas3-beans generate [OPTIONS] --yaml <FILE>\n" ++
  "\n" ++
  "Options:\n" ++
  "      --color <COLOR>      Control color output [default: auto] " ++
  "[possible values: always, auto, never]\n" ++
  "  -y, --yaml <FILE>        Path to the OpenAPI YAML document\n" ++
  "  -p, --package <PACKAGE>  Java package of the generated sources [default: generated]\n" ++
  "  -o, --output <DIR>       Root directory the package directories are created under " ++
  "[default: generated]\n" ++
  "  -l, --log <FILE>         Where to write the diagnostic log; '-' writes to stderr " ++
  "[default: -]\n" ++
  "      --force              Delete existing .java files in the package directory before " ++
  "writing\n" ++
  "  -v, --verbose            Enable verbose output with detailed progress information\n" ++
  "  -q, --quiet              Suppress non-essential output (errors only)\n" ++
  "  -h, --help               Print help\n"

/-- Help on a part of the command line. -/
def Scope.help : Scope → String
  | .program => programHelp
  | .generate => generateHelp

namespace Refusal

/-- What is wrong, in words. -/
def problem : Refusal → String
  | .missingRequired => "the following required arguments were not provided: --yaml <FILE>"
  | .unknownArgument => "unexpected argument found"
  | .invalidValue => "invalid or missing value for an option"
  | .invalidCommand => "unrecognized subcommand"
  | .missingCommand => "'oas3-beans' requires a subcommand but one was not provided"
  | .conflict => "an argument cannot be used multiple times"
  | .tooManyValues => "unexpected value for a flag"
  | .help _ | .version | .empty => ""

/-- The text for the standard output: an answer that was asked for. -/
def reply : Refusal → String
  | .help scope => scope.help
  | .version => versionLine
  | _ => ""

/-- The text for the standard error. -/
def complaint : Refusal → String
  | .help _ | .version => ""
  | .empty => programHelp
  | refusal => "error: " ++ refusal.problem ++ "\n\nFor more information, try '--help'.\n"

/-- The exit status of the program: an answer that was asked for is no failure. -/
def exitStatus : Refusal → Nat
  | .help _ | .version => 0
  | _ => 2

end Refusal

end SchemaBeans.Command
