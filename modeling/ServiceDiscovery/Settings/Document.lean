import ServiceDiscovery.Settings.Field
import ServiceDiscovery.Text.Split
import ServiceDiscovery.Yaml.Part

/-!
Settings from a document. Each section is optional, and so is each of its fields; what is left out
has its default. Sections are read in a fixed order, and the first fault ends the reading. Only the
parts that fields ask for are looked at.
-/

namespace ServiceDiscovery.Settings

open Yaml (Document Part)

/-- Keys and values by the numbers of their parts. -/
abbrev Entries := List (Nat × Nat)

variable (document : Document)

/-- The value of a field, if it is there. -/
def field? (name : String) (entries : Entries) : Option Value :=
  (document.find? name entries).map document.value

/-- A field of a section, or its default. -/
def field (name : String) (default : Value) (entries : Entries) : Value :=
  (field? document name entries).getD default

/-- TXT records from a mapping, with keys and values as texts. A null stays a key without a value,
and whatever counts as nothing gives no records. -/
def txtRecords (number : Nat) : Except Fault (List (Text.Points × Option Text.Points)) :=
  match document.parts[number]? with
  | some (.map entries) =>
      entries.foldlM (fun made entry => do
        let key ← shownText (document.value entry.1)
        let shown ← match document.value entry.2 with
          | .null => pure none
          | value => (shownText value).map some
        return insertRecord key shown made) []
  | _ => if (document.value number).isTruthy then .error .noFields else .ok []

def browseSection (entries : Entries) : BrowseSettings :=
  let default : BrowseSettings := {}
  { serviceType := field document "service_type" default.serviceType entries
    browse := field document "browse" default.browse entries }

def publishSection (entries : Entries) : Except Fault PublishSettings := do
  let default : PublishSettings := {}
  return {
    enabled := field document "enabled" default.enabled entries
    name := field document "name" default.name entries
    serviceType := field document "service_type" default.serviceType entries
    port := .int (← wholeNumber (field document "port" default.port entries))
    txt := ← match document.find? "txt" entries with
      | some number => txtRecords document number
      | none => pure default.txt }

def resolveSection (entries : Entries) : Except Fault ResolveSettings := do
  let default : ResolveSettings := {}
  return {
    timeout := ← wholeNumber (field document "timeout_ms" (.int default.timeout) entries)
    retryDelay := ← floatingNumber
      (field document "busy_retry_delay_seconds" (.float default.retryDelay) entries)
    deduplicate := field document "deduplicate" default.deduplicate entries }

def logSection (entries : Entries) : Except Fault LogSettings := do
  let default : LogSettings := {}
  return {
    level := ← match field? document "level" entries with
      | some value => logLevel value
      | none => pure default.level
    json := field document "json" default.json entries }

/-- The fields of a section, if it is there. Only mappings have fields. -/
def section? (name : String) (entries : Entries) : Except Fault (Option Entries) :=
  match document.find? name entries with
  | none => .ok none
  | some number =>
      match document.parts[number]? with
      | some (.map entries) => .ok (some entries)
      | _ => .error .noFields

def ofSections (entries : Entries) : Except Fault Settings := do
  let browse := ((← section? document "discovery" entries).map (browseSection document)).getD {}
  let publish ← match ← section? document "publish" entries with
    | some fields => publishSection document fields
    | none => pure {}
  let resolve ← match ← section? document "resolver" entries with
    | some fields => resolveSection document fields
    | none => pure {}
  let log ← match ← section? document "logging" entries with
    | some fields => logSection document fields
    | none => pure {}
  return { browse, publish, resolve, log }

def sectionNames : List String :=
  ["discovery", "publish", "resolver", "logging"]

/-- Does a document that is no mapping seem to have a section? Lists have the texts in them, and a
text has what stands inside it. -/
def seemsToHave (name : String) : Part → Bool
  | .list items | .set items =>
      items.any fun item => document.parts[item]?.any (Part.isText name)
  | .single (.text s) => Text.contains name.toList s.toList
  | .single (.broken points) => Text.contains name.toList points.shownChars
  | _ => false

/-- Settings from a document. One that counts as nothing leaves all defaults. One that is no mapping
is refused where a section would have to be taken from it. -/
def ofDocument : Except Fault Settings :=
  match document.root.bind fun root => document.parts[root]? with
  | none | some (.list []) | some (.pairs []) | some (.set []) => .ok {}
  | some (.map entries) => ofSections document entries
  | some (.single value) =>
      if !value.isTruthy then .ok {}
      else match value with
        | .text _ | .broken _ => untitled (.single value)
        | _ => .error .noSections
  | some .noNumber => .error .noSections
  | some part => untitled part
where
  untitled (part : Part) : Except Fault Settings :=
    if sectionNames.any fun name => seemsToHave document name part then .error .noSections
    else .ok {}

end ServiceDiscovery.Settings
