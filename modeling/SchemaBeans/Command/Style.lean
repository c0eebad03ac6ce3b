import SchemaBeans.Command.Switch

/-!
# Command — Style

The colours of a run's report.  Without colours each text still stands between the codes for the
terminal's own colour, and if the environment wants no colours at all, between empty codes.
-/

namespace SchemaBeans.Command

/-- How texts are coloured. -/
inductive Colouring where
  /-- Each in its own colour. -/
  | own
  /-- In the terminal's colour. -/
  | standard
  /-- By no colour. -/
  | none
  deriving DecidableEq, Repr

/-- How texts are coloured in a mode. -/
def Colouring.ofMode (mode : ColourMode) (terminal noColour : Bool) : Colouring :=
  if noColour then .none
  else
    match mode with
    | .always => .own
    | .never => .standard
    | .auto => if terminal then .own else .standard

/-- What a coloured text is. -/
inductive Role where
  | timestamp
  | primary
  | accent
  | success
  | label
  | value
  deriving DecidableEq, Repr

/-- The code of a role's own colour. -/
def Role.code : Role → String
  | .timestamp => "38;2;118;166;166"
  | .primary => "38;2;191;126;4"
  | .accent => "38;2;166;84;55"
  | .success => "38;2;34;142;90"
  | .label => "38;2;217;164;4"
  | .value => "38;2;242;211;56"

namespace Colouring

/-- The code for the terminal's colour. -/
def standardCode : String := "39"

/-- The code in front of a text. -/
def before (c : Colouring) (role : Role) : String :=
  match c with
  | .own => role.code
  | .standard => standardCode
  | .none => ""

/-- The code behind a text. -/
def after : Colouring → String
  | .own | .standard => standardCode
  | .none => ""

/-- Turns to the colour of a code. -/
def turnTo (code : String) : String := "\x1b[" ++ code ++ "m"

/-- A text in the colour of its role. -/
def paint (c : Colouring) (role : Role) (text : String) : String :=
  turnTo (c.before role) ++ text ++ turnTo c.after

end Colouring

end SchemaBeans.Command
