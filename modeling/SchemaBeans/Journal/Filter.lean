import SchemaBeans.Journal.Level
import SchemaBeans.Text.Category
import SchemaBeans.Text.Split

/-!
# Journal — Filter

Which entries the journal has.  A filter is a list of directives between commas.  A directive is a
level, or a target and a level (`target=level`), or a target alone or with an empty level, which
asks for all levels; it concerns a program whose name begins with its target.  A target in brackets,
or with brackets, concerns a part of another program.  Of the directives that concern this program
the one with the longest target counts, and of those the last.  A filter without directives keeps
errors only.
-/

namespace SchemaBeans.Journal

open SchemaBeans.Text

/-- The least level that is kept; nothing at all if there is none. -/
abbrev Threshold := Option Level

/-- The threshold of a name. -/
def namedThreshold? (name : List Char) : Option Threshold :=
  let name := String.ofList (name.map Char.toLower)
  if name = "off" then some none
  else if name = "error" then some (some .error)
  else if name = "warn" then some (some .warn)
  else if name = "info" then some (some .info)
  else if name = "debug" then some (some .debug)
  else if name = "trace" then some (some .trace)
  else none

/-- The threshold of a number; zeros in front do not matter. -/
def numberedThreshold? (digits : List Char) : Option Threshold :=
  if digits.isEmpty || !digits.all Char.isDigit then none
  else
    match digits.dropWhile (· = '0') with
    | [] => some none
    | ['1'] => some (some .error)
    | ['2'] => some (some .warn)
    | ['3'] => some (some .info)
    | ['4'] => some (some .debug)
    | ['5'] => some (some .trace)
    | _ => none

/-- The threshold that a name or a number stands for; a number may have a plus in front. -/
def threshold? : List Char → Option Threshold
  | '+' :: digits => numberedThreshold? digits
  | word => (numberedThreshold? word).orElse fun _ => namedThreshold? word

/-- A part of a filter. -/
structure Directive where
  /-- What the names of the concerned programs begin with. -/
  target : String := ""
  threshold : Threshold
  deriving DecidableEq, Repr

/-- The name that targets are compared with. -/
def programTarget : String := "oas3_beans"

namespace Directive

/-- A character that a directive may begin with. -/
def isStart (c : Char) : Bool :=
  isAlphanumeric c || c == '-' || c == ':' || c == '_' || c == '['

/-- The threshold of a target's level; without a level it is that of all levels. -/
def levelOf? (level : List Char) : Option Threshold :=
  if level.isEmpty then some (some .trace) else threshold? level

/-- Reads a directive. -/
def parse? (cs : List Char) : Option Directive :=
  if !cs.head?.all isStart then none
  else
    match splitOn '=' cs with
    | [_] =>
      match threshold? cs with
      | some t => some { threshold := t }
      | none => some { target := String.ofList cs, threshold := some .trace }
    | target :: rest =>
      (levelOf? (joinWith '=' rest)).map fun t =>
        { target := String.ofList target, threshold := t }
    | [] => none

/-- The directive concerns this program. -/
def isConcerned (d : Directive) : Bool := d.target.toList.isPrefixOf programTarget.toList

/-- The directive that counts, of one and a later one. -/
def stronger (d : Option Directive) (e : Directive) : Option Directive :=
  match d with
  | none => some e
  | some d => if d.target.length ≤ e.target.length then some e else some d

end Directive

/-- Reads a filter. -/
def filter? (text : String) : Option Threshold :=
  let parts := (splitOn ',' text.toList).filter (!·.isEmpty)
  (parts.mapM Directive.parse?).map fun directives =>
    if directives.isEmpty then some .error
    else
      ((directives.filter Directive.isConcerned).foldl Directive.stronger none).bind
        Directive.threshold

/-- The threshold for a run: that of the filter if there is one that can be read. -/
def thresholdFor (filter : Option String) (default : Level) : Threshold :=
  (filter.bind filter?).getD (some default)

/-- Entries of the level are kept. -/
def keeps (t : Threshold) (l : Level) : Bool := t.any fun least => least.severity ≤ l.severity

end SchemaBeans.Journal
