import ServiceDiscovery.Value
import ServiceDiscovery.Yaml.Fault

/-!
The settings of the program, in four sections. Numbers, the TXT records and the log level are
converted when settings are read. The other fields take any value that is given for them, of
whatever kind.
-/

namespace ServiceDiscovery

structure BrowseSettings where
  serviceType : Value := .text "_http._tcp"
  browse : Value := .bool true
  deriving Repr

structure PublishSettings where
  enabled : Value := .bool false
  name : Value := .text "nsdkit"
  serviceType : Value := .text "_http._tcp"
  /-- A whole number, unless it was given on the command line in a way that leaves none. -/
  port : Value := .int 8080
  /-- A key may come without a value. -/
  txt : List (Text.Points × Option Text.Points) := []
  deriving Repr

structure ResolveSettings where
  /-- Milliseconds that the platform spends on one resolve. -/
  timeout : Int := 3000
  /-- Seconds to hold off after a busy answer, one twentieth if nothing is said. -/
  retryDelay : Double := .ofQuotient 1 20
  deduplicate : Value := .bool false
  deriving Repr

structure LogSettings where
  level : Text.Points := .ofString "info"
  json : Value := .bool false
  deriving Repr

structure Settings where
  browse : BrowseSettings := {}
  publish : PublishSettings := {}
  resolve : ResolveSettings := {}
  log : LogSettings := {}
  deriving Repr

namespace Settings

/-- Gives a key a value. A key that is there keeps its place. -/
def insertRecord {α : Type} [DecidableEq α] (key : α) (value : Option α) :
    List (α × Option α) → List (α × Option α)
  | [] => [(key, value)]
  | (k, v) :: rest =>
      if k = key then (k, value) :: rest else (k, v) :: insertRecord key value rest

/-- Why settings cannot be read. -/
inductive Fault where
  /-- The file is there but cannot be opened. -/
  | notReadable
  /-- The bytes of the file are no text. -/
  | notText
  | document (fault : Yaml.Fault)
  /-- The document has no sections to look for. -/
  | noSections
  /-- A section, or the TXT records, have no fields. -/
  | noFields
  /-- A value of this kind is never a number. -/
  | noNumber
  | number (reason : Number.Unreadable)
  | infinite
  | notANumber
  /-- A whole number lies past all floating point numbers. -/
  | tooLarge
  /-- A whole number has too many digits to be written. -/
  | unwritable
  deriving DecidableEq, Repr

def Fault.message : Fault → String
  | notReadable => "the file cannot be opened"
  | notText => "the file is not in UTF-8"
  | document fault => fault.message
  | noSections => "the document has no sections"
  | noFields => "the section has no fields"
  | noNumber => "the value is not a number"
  | number reason => reason.message
  | infinite => "cannot convert float infinity to integer"
  | notANumber => "cannot convert float NaN to integer"
  | tooLarge => "int too large to convert to float"
  | unwritable => Number.unwritable

end Settings

end ServiceDiscovery
