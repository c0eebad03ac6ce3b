/-!
# Command — Switch

The options and flags of the command line.  An option takes a value and a flag does not.  Options
and flags are named in full after two dashes, and some by one letter after a single dash.
-/

namespace SchemaBeans.Command

/-- Which texts are coloured. -/
inductive ColourMode where
  | always
  /-- Those that a terminal shows. -/
  | auto
  | never
  deriving DecidableEq, Repr

/-- Reads a mode. -/
def ColourMode.ofName? (name : String) : Option ColourMode :=
  if name = "always" then some .always
  else if name = "auto" then some .auto
  else if name = "never" then some .never
  else none

/-- An option or a flag. -/
inductive Switch where
  | yaml
  | package
  | output
  | log
  | color
  | force
  | verbose
  | quiet
  | help
  | version
  deriving DecidableEq, Repr

namespace Switch

/-- The name after two dashes. -/
def longName : Switch → String
  | .yaml => "yaml"
  | .package => "package"
  | .output => "output"
  | .log => "log"
  | .color => "color"
  | .force => "force"
  | .verbose => "verbose"
  | .quiet => "quiet"
  | .help => "help"
  | .version => "version"

/-- The letter after a single dash. -/
def letter? : Switch → Option Char
  | .yaml => some 'y'
  | .package => some 'p'
  | .output => some 'o'
  | .log => some 'l'
  | .verbose => some 'v'
  | .quiet => some 'q'
  | .help => some 'h'
  | .version => some 'V'
  | .color | .force => none

/-- It is an option. -/
def takesValue : Switch → Bool
  | .yaml | .package | .output | .log | .color => true
  | .force | .verbose | .quiet | .help | .version => false

/-- The option can have the value: a path is not empty, and a mode is one of three. -/
def accepts (s : Switch) (value : String) : Bool :=
  match s with
  | .yaml | .output => value ≠ ""
  | .color => (ColourMode.ofName? value).isSome
  | _ => true

end Switch

/-- The part of a command line that a switch stands in: before the command, or after `generate`. -/
inductive Scope where
  | program
  | generate
  deriving DecidableEq, Repr

namespace Scope

/-- The switches that are known in a scope. -/
def switches : Scope → List Switch
  | .program => [.color, .help, .version]
  | .generate => [.color, .yaml, .package, .output, .log, .force, .verbose, .quiet, .help]

/-- The switch of a name. -/
def named? (scope : Scope) (name : List Char) : Option Switch :=
  scope.switches.find? fun s => s.longName.toList = name

/-- The switch of a letter. -/
def lettered? (scope : Scope) (letter : Char) : Option Switch :=
  scope.switches.find? fun s => s.letter? = some letter

end Scope

end SchemaBeans.Command
