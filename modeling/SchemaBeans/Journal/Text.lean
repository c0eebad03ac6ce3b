import SchemaBeans.Journal.Entry
import SchemaBeans.Journal.Filter
import SchemaBeans.Text.Quoted

/-!
# Journal — Text

The lines of the journal.  A line begins with the time and the level, and ends with the fields.  On
a terminal the parts are told apart by styles; control characters that could act on a terminal are
shown by their code in the message.
-/

namespace SchemaBeans.Journal

/-- Begins a style, or ends all styles. -/
def styleCode (code : String) : String := "\x1b[" ++ code ++ "m"

/-- A text in a style, if there are styles. -/
def styled (styles : Bool) (code text : String) : String :=
  if styles then styleCode code ++ text ++ styleCode "0" else text

/-- The colour of a level. -/
def Level.colour : Level → String
  | .trace => "35"
  | .debug => "34"
  | .info => "32"
  | .warn => "33"
  | .error => "31"

/-- A character of a message, shown by its code if it could act on a terminal. -/
def messageChar (c : Char) : List Char :=
  if c = '\x1b' then ['\\', 'x', '1', 'b']
  else if c = '\x07' then ['\\', 'x', '0', '7']
  else if c = '\x08' then ['\\', 'x', '0', '8']
  else if c = '\x0c' then ['\\', 'x', '0', 'c']
  else if c = '\x7f' then ['\\', 'x', '7', 'f']
  else if '\u0080' ≤ c ∧ c ≤ '\u009f' then Text.codePoint c
  else [c]

/-- A message without characters that could act on a terminal. -/
def messageText (message : String) : String := String.ofList (message.toList.flatMap messageChar)

/-- The text of a field's value. -/
def Value.text : Value → String
  | .plain text => text
  | .quoted text => Text.quoted text
  | .number value => toString value

namespace Entry

/-- A field, with a space in front of it. -/
def fieldText (styles : Bool) (field : String × Value) : String :=
  " " ++ styled styles "3" field.1 ++ styled styles "2" "=" ++ field.2.text

/-- The line of an entry. -/
def line (styles : Bool) (stamp : String) (e : Entry) : String :=
  styled styles "2" stamp ++ " " ++ styled styles e.level.colour e.level.label ++ " " ++
    messageText e.message ++ String.join (e.fields.map (fieldText styles)) ++ "\n"

end Entry

/-- The lines of the events that are kept. -/
def linesOf (threshold : Threshold) (styles : Bool) (stamp : String) (events : List Event) :
    String :=
  String.join <|
    ((events.map Event.entry).filter fun e => keeps threshold e.level).map (Entry.line styles stamp)

end SchemaBeans.Journal
