import SchemaBeans.Command.Switch

/-!
# Command — Arguments

Reading the words of a command line.  A word with two dashes names a switch, and a word with one
dash is a row of letters; the value of an option is what is left of its word, with or without `=`,
or the next word if that has no dash in front.  A single dash is a value, and after two dashes alone
nothing is a switch.

The words are taken from left to right, and the first thing that is wrong decides.  An option whose
value may still come is *pending*: what is wrong with it shows when the next switch is taken up, or
at the end.  A word that nothing waits for is looked at before the pending option is.
-/

namespace SchemaBeans.Command

/-- Why a command line asks for no run. -/
inductive Refusal where
  | missingRequired
  | unknownArgument
  | invalidValue
  | invalidCommand
  | missingCommand
  /-- A switch is given twice. -/
  | conflict
  /-- A flag is given a value. -/
  | tooManyValues
  /-- Help on a part of the command line is asked for, and nothing else. -/
  | help (scope : Scope)
  | version
  /-- Nothing at all is asked for. -/
  | empty
  deriving DecidableEq, Repr

/-- A word of a command line by its dashes. -/
inductive Word where
  /-- Two dashes alone. -/
  | dashes
  | named (name : List Char) (value : Option String)
  | letters (letters : List Char)
  | plain (text : String)
  deriving DecidableEq, Repr

/-- What stands in front of the first `=`, and what comes after it if there is one. -/
def splitValue : List Char → List Char × Option String
  | [] => ([], none)
  | c :: cs =>
    if c = '=' then ([], some (String.ofList cs))
    else
      let (name, value) := splitValue cs
      (c :: name, value)

/-- Tells words apart by their dashes. -/
def Word.ofText (text : String) : Word :=
  match text.toList with
  | ['-', '-'] => .dashes
  | '-' :: '-' :: cs =>
    let (name, value) := splitValue cs
    .named name value
  | '-' :: c :: cs => .letters (c :: cs)
  | _ => .plain text

/-- What has been taken up. -/
structure Given where
  /-- The switches so far, each with its value; that of a flag is empty. -/
  values : List (Switch × String) := []
  /-- The option that waits for its value, or has got it from a word of its own. -/
  pending : Option (Switch × Option String) := none
  deriving DecidableEq, Repr

namespace Given

/-- The value of a switch. -/
def value? (g : Given) (s : Switch) : Option String := g.values.lookup s

/-- The switch has been given. -/
def has (g : Given) (s : Switch) : Bool := (g.value? s).isSome

/-- Gives a value to a switch. -/
def put (g : Given) (s : Switch) (value : String) : Except Refusal Given :=
  if g.has s then .error .conflict
  else if s.accepts value then .ok { g with values := g.values ++ [(s, value)] }
  else .error .invalidValue

/-- Gives the pending option its value. -/
def settle (g : Given) : Except Refusal Given :=
  match g.pending with
  | none => .ok g
  | some (_, none) => .error .invalidValue
  | some (s, some value) => { g with pending := none }.put s value

/-- Takes up an option, with the value that its own word holds. -/
def option (g : Given) (s : Switch) (value : Option String) : Except Refusal Given :=
  g.settle.bind fun g =>
    match value with
    | some value => g.put s value
    | none => .ok { g with pending := some (s, none) }

/-- Takes up a flag. -/
def flag (scope : Scope) (g : Given) (s : Switch) : Except Refusal Given :=
  g.settle.bind fun g =>
    match s with
    | .help => .error (.help scope)
    | .version => .error .version
    | s => g.put s ""

/-- The value that the rest of a row of letters holds. -/
def attached? : List Char → Option String
  | [] => none
  | '=' :: cs => some (String.ofList cs)
  | cs => some (String.ofList cs)

/-- Takes up a row of letters. -/
def letters (scope : Scope) (g : Given) : List Char → Except Refusal Given
  | [] => .ok g
  | c :: cs =>
    match scope.lettered? c with
    | none => .error .unknownArgument
    | some s =>
      if s.takesValue then g.option s (attached? cs)
      else (g.flag scope s).bind fun g => letters scope g cs

/-- Takes up a named switch. -/
def named (scope : Scope) (g : Given) (name : List Char) (value : Option String) :
    Except Refusal Given :=
  match scope.named? name with
  | none => .error .unknownArgument
  | some s =>
    if s.takesValue then g.option s value
    else if value.isSome then .error .tooManyValues
    else g.flag scope s

end Given

/-- The switches of a part of a command line, and the words behind them. -/
structure Taken where
  given : Given
  rest : List String
  /-- Two dashes alone stand in front of the rest. -/
  afterDashes : Bool := false
  deriving DecidableEq, Repr

/-- Takes up words as long as they are switches or values. -/
def take (scope : Scope) (g : Given) : List String → Except Refusal Taken
  | [] => .ok { given := g, rest := [] }
  | word :: words =>
    match Word.ofText word with
    | .dashes => .ok { given := g, rest := words, afterDashes := true }
    | .named name value => (g.named scope name value).bind fun g => take scope g words
    | .letters cs => (g.letters scope cs).bind fun g => take scope g words
    | .plain text =>
      match g.pending with
      | some (s, none) => take scope { g with pending := some (s, some text) } words
      | _ => .ok { given := g, rest := word :: words }

/-- What a command line asks for, in its own words. -/
structure Arguments where
  yaml : String
  package : String := "generated"
  output : String := "generated"
  log : String := "-"
  force : Bool := false
  verbose : Bool := false
  quiet : Bool := false
  color : ColourMode := .auto
  deriving DecidableEq, Repr

/-- The mode that has been given. -/
def Given.color? (g : Given) : Option ColourMode := (g.value? .color).bind ColourMode.ofName?

/-- Reads what comes after `generate`. -/
def readGenerate (words : List String) : Except Refusal Given :=
  (take .generate {} words).bind fun taken =>
    match taken.rest with
    | _ :: _ => .error .unknownArgument
    | [] =>
      taken.given.settle.bind fun g => if g.has .yaml then .ok g else .error .missingRequired

/-- The arguments that switches stand for: those after `generate` come before those of the
program. -/
def argumentsOf (program generate : Given) : Arguments :=
  { yaml := (generate.value? .yaml).getD ""
    package := (generate.value? .package).getD "generated"
    output := (generate.value? .output).getD "generated"
    log := (generate.value? .log).getD "-"
    force := generate.has .force
    verbose := generate.has .verbose
    quiet := generate.has .quiet
    color := (generate.color?.orElse fun _ => program.color?).getD .auto }

/-- The commands. -/
def commands : List String := ["generate", "help"]

/-- What comes of the words after `help`. -/
def helpOn : List String → Refusal
  | [] | ["help"] => .help .program
  | ["generate"] => .help .generate
  | _ => .invalidCommand

/-- Reads a command line. -/
def Arguments.ofWords (words : List String) : Except Refusal Arguments :=
  (take .program {} words).bind fun taken =>
    match taken.rest with
    | [] =>
      taken.given.settle.bind fun g =>
        .error (if g.values.isEmpty then .empty else .missingCommand)
    | word :: words =>
      if taken.afterDashes then
        .error (if word ∈ commands then .unknownArgument else .invalidCommand)
      else if word = "generate" then
        (readGenerate words).bind fun generate =>
          taken.given.settle.map fun program => argumentsOf program generate
      else if word = "help" then .error (helpOn words)
      else .error .invalidCommand

end SchemaBeans.Command
