import ServiceDiscovery.Facade
import ServiceDiscovery.Log.Line
import ServiceDiscovery.Log.Setup
import ServiceDiscovery.Text.Split

/-!
What the program shows. Services and what became of a publication go to the output; errors and log
records go to the other stream, in the order in which they arise. Records below the chosen level do
not show.
-/

namespace ServiceDiscovery.CommandLine

structure Screen where
  output : Array String := #[]
  errors : Array String := #[]

namespace Screen

def print (text : String) (screen : Screen) : Screen :=
  { screen with output := screen.output.push text }

/-- Prints a text among the errors, where halves of surrogate pairs show as escapes. -/
def printError (text : Text.Points) (screen : Screen) : Screen :=
  { screen with errors := screen.errors.push (Text.Quoted.halves text) }

def thread : String := "MainThread"

def recordText (setup : Log.Setup) (record : Log.Record) : Text.Points :=
  if setup.json then (Log.Line.ofRecord thread record).json else Log.plainText record

def log (setup : Log.Setup) (record : Log.Record) (screen : Screen) : Screen :=
  if setup.level ≤ record.level then screen.printError (recordText setup record) else screen

/-- The width of the word that says what happened to a service. -/
def wordWidth : Nat := 8

/-- What happened to a service, the service, and its TXT records if it has any. -/
def serviceText (word : String) (service : ResolvedService) : Text.Points :=
  let shown (record : Bytes × Bytes) : String :=
    Text.Utf8.decodeLenient record.1 ++ "=" ++ Text.Utf8.decodeLenient record.2
  let records :=
    if service.txt = [] then ""
    else " [" ++ ", ".intercalate (service.txt.map shown) ++ "]"
  String.ofList (word.toList.rightpad wordWidth ' ') ++ " " ++ service.text ++ records

/-- What a callback shows, unless it is about an error. -/
def news? : CallbackKind → CallbackArgument → Option Text.Points
  | .added, .service service => some (serviceText CallbackKind.added.name service)
  | .updated, .service service => some (serviceText CallbackKind.updated.name service)
  | .removed, .service service => some (serviceText CallbackKind.removed.name service)
  | .published, _ => some "Service published"
  | .renamed, .name name => some ("Service renamed to " ++ Text.Quoted.points name)
  | _, _ => none

def lines (texts : Array String) : List String :=
  texts.toList.flatMap fun text => (Text.split '\n' text.toList).map String.ofList

end Screen

end ServiceDiscovery.CommandLine
