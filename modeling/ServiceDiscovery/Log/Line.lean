import ServiceDiscovery.Log.Record
import ServiceDiscovery.Value

/-!
Log lines. A record is written either as plain text or as one JSON object, and in both forms it
takes the time at which it was made. A JSON line is printable ASCII: quotes, backslashes, control
characters and everything outside ASCII are escaped, so no message can end its line or forge a
field.
-/

namespace ServiceDiscovery.Log

namespace Json

/-- The escape of one unit of sixteen bits. -/
def unit (n : Nat) : List Char :=
  '\\' :: 'u' :: Text.Quoted.hex 4 n

/-- How a character is written inside a JSON text. Characters past the first plane take two units,
a high and a low one. -/
def escape (c : Char) : List Char :=
  if c = '"' then ['\\', '"']
  else if c = '\\' then ['\\', '\\']
  else if c = '\n' then ['\\', 'n']
  else if c = '\r' then ['\\', 'r']
  else if c = '\t' then ['\\', 't']
  else if c = '\x08' then ['\\', 'b']
  else if c = '\x0c' then ['\\', 'f']
  else if 0x20 ≤ c.toNat && c.toNat < 0x7F then [c]
  else if c.toNat < 0x10000 then unit c.toNat
  else
    let n := c.toNat - 0x10000
    unit (0xD800 + n / 0x400) ++ unit (0xDC00 + n % 0x400)

/-- How a point is written inside a JSON text. -/
def escapePoint : Text.Point → List Char
  | .char c => escape c
  | .half h => unit h.code

def string (points : Text.Points) : List Char :=
  '"' :: points.flatMap escapePoint ++ ['"']

/-- A JSON object of texts, in the given order. -/
def object (fields : List (String × Text.Points)) : List Char :=
  '\x7b' :: ", ".toList.intercalate
    (fields.map fun field =>
      string (.ofString field.1) ++ ": ".toList ++ string field.2) ++ ['\x7d']

end Json

/-- The name of a level that may be any number. -/
def Level.nameOf (level : Value) : Text.Points :=
  match level.whole? with
  | some n => if (title? n).isSome then name n else "Level " ++ level.shownPoints
  | none => "Level " ++ level.shownPoints

/-- What a JSON line says besides the time. -/
structure Line where
  level : Text.Points
  component : Text.Points
  thread : Text.Points
  message : Text.Points
  fault : Option Fault

namespace Line

/-- The line of a record that was made on a thread. -/
def ofRecord (thread : Text.Points) (record : Record) : Line where
  level := Level.name record.level
  component := record.component
  thread := thread
  message := record.message
  fault := record.fault

/-- The fields of a line but the time, in their order. The fault comes last if there is one. -/
def fields (line : Line) : List (String × Text.Points) :=
  [("level", line.level.lower), ("component", line.component), ("thread", line.thread),
      ("message", line.message)] ++
    (line.fault.map fun fault => [("exception", fault.text)]).getD []

/-- The fields of a line with its time, which comes first. -/
def timedFields (timestamp : String) (line : Line) : List (String × Text.Points) :=
  ("timestamp", .ofString timestamp) :: line.fields

/-- A line as one JSON object without its time. -/
def json (line : Line) : String :=
  String.ofList (Json.object line.fields)

def timedJson (moment : Moment) (line : Line) : String :=
  String.ofList (Json.object (line.timedFields moment.textInMilliseconds))

end Line

/-- The plain text of a record without its time. -/
def plainText (record : Record) : Text.Points :=
  record.component ++ " - " ++ Level.name record.level ++ " - " ++ record.message

end ServiceDiscovery.Log
