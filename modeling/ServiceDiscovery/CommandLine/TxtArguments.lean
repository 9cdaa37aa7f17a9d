import ServiceDiscovery.Settings.Basic
import ServiceDiscovery.Text.Split

/-!
TXT records given on the command line, as a key with a value behind an equals sign or as a bare key.
-/

namespace ServiceDiscovery.CommandLine

/-- Key and value of one argument. Only the first equals sign counts. -/
def txtArgument (text : String) : String × Option String :=
  let (key, value) := Text.cut '=' text.toList
  (String.ofList key, value.map String.ofList)

/-- The records of several arguments. Of equal keys the last one decides. -/
def txtArguments (texts : List String) : List (String × Option String) :=
  texts.foldl (fun made text =>
    let (key, value) := txtArgument text
    Settings.insertRecord key value made) []

/-- Adds the records of several arguments to others, whose values they replace. -/
def addTxtArguments (texts : List String) (records : List (Text.Points × Option Text.Points)) :
    List (Text.Points × Option Text.Points) :=
  (txtArguments texts).foldl (fun made record =>
    Settings.insertRecord (.ofString record.1) (record.2.map .ofString) made) records

end ServiceDiscovery.CommandLine
