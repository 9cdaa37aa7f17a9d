import Mathlib.Tactic.Choose
import ServiceDiscovery.Proofs.Yaml.Part
import ServiceDiscovery.Settings.Document
import ServiceDiscovery.Settings.Environment

/-!
Where the fields of settings come from. Each has a key in a section of the document and a default,
and all but the TXT records have a variable that replaces them. What a field is taken from, and how
it is converted, is said here in one table.
-/

namespace ServiceDiscovery

namespace Settings

open Yaml (Document)

/-- What one field is taken from. -/
structure Source (α : Type) where
  /-- The name of the section that the field is in. -/
  group : String
  key : String
  default : α
  /-- What becomes of a part of the document. -/
  ofPart : Document → Nat → Except Fault α
  /-- The variable that replaces the field, and what becomes of its text. -/
  replacing : Option (String × (String → Except Fault α))

namespace Source

variable {α : Type}

/-- A field for which any value is taken from the document as it is. -/
def asWritten (group key name : String) (default : Value) (ofText : String → Value) :
    Source Value where
  group
  key
  default
  ofPart document number := .ok (document.value number)
  replacing := some (name, fun text => .ok (ofText text))

/-- A field for which values are converted, in the document as in the environment. -/
def converted (group key name : String) (default : α) (convert : Value → Except Fault α) :
    Source α where
  group
  key
  default
  ofPart document number := convert (document.value number)
  replacing := some (name, fun text => convert (.text text))

/-- What the entries of a section make of a field. -/
def within (source : Source α) (document : Document) (entries : Entries) : Except Fault α :=
  match document.find? source.key entries with
  | some number => source.ofPart document number
  | none => .ok source.default

/-- The part of the document that is for a field. -/
def part? (source : Source α) (document : Document) : Option Nat :=
  document.given? source.group source.key

/-- What the document makes of a field. -/
def written (source : Source α) (document : Document) : Except Fault α :=
  source.within document (document.sectionEntries source.group)

/-- What the environment makes of a field, if its variable is set and not empty. -/
def replacement? (source : Source α) (environment : Environment) : Option (Except Fault α) :=
  source.replacing.bind fun (name, ofText) => (setVariable? name environment).map ofText

/-- What a field comes to: the environment goes before the document, and that before the default. -/
def value (source : Source α) (document : Document) (environment : Environment) :
    Except Fault α :=
  (source.replacement? environment).getD (source.written document)

variable {source : Source α} {document : Document}

theorem written_of_part {number : Nat} (hpart : source.part? document = some number) :
    source.written document = source.ofPart document number := by
  rw [part?, Document.given?] at hpart
  rw [written, within, hpart]

theorem written_of_no_part (hpart : source.part? document = none) :
    source.written document = .ok source.default := by
  rw [part?, Document.given?] at hpart
  rw [written, within, hpart]

end Source

/-- The fields that settings have. -/
inductive Field where
  | browseType
  | browse
  | enabled
  | name
  | publishType
  | port
  | records
  | timeout
  | retryDelay
  | deduplicate
  | level
  | json
  deriving DecidableEq

namespace Field

/-- What a field holds. -/
abbrev Carrier : Field → Type
  | browseType | browse | enabled | name | publishType | port | deduplicate | json => Value
  | records => List (Text.Points × Option Text.Points)
  | timeout => Int
  | retryDelay => Double
  | level => Text.Points

def get (settings : Settings) : (field : Field) → field.Carrier
  | browseType => settings.browse.serviceType
  | browse => settings.browse.browse
  | enabled => settings.publish.enabled
  | name => settings.publish.name
  | publishType => settings.publish.serviceType
  | port => settings.publish.port
  | records => settings.publish.txt
  | timeout => settings.resolve.timeout
  | retryDelay => settings.resolve.retryDelay
  | deduplicate => settings.resolve.deduplicate
  | level => settings.log.level
  | json => settings.log.json

/-- A text as a switch that its words turn on. -/
def switched (text : String) : Value :=
  .bool (switch text)

def source : (field : Field) → Source field.Carrier
  | browseType => .asWritten "discovery" "service_type" "SERVICE_TYPE" (.text "_http._tcp") .text
  | browse => .asWritten "discovery" "browse" "BROWSE" (.bool true) switched
  | enabled => .asWritten "publish" "enabled" "PUBLISH_ENABLED" (.bool false) switched
  | name => .asWritten "publish" "name" "PUBLISH_NAME" (.text "nsdkit") .text
  | publishType =>
      .asWritten "publish" "service_type" "PUBLISH_SERVICE_TYPE" (.text "_http._tcp") .text
  | port =>
      .converted "publish" "port" "PUBLISH_PORT" (.int 8080) fun value =>
        (wholeNumber value).map .int
  | records =>
      { group := "publish", key := "txt", default := [], ofPart := txtRecords, replacing := none }
  | timeout => .converted "resolver" "timeout_ms" "RESOLVE_TIMEOUT_MS" 3000 wholeNumber
  | retryDelay =>
      .converted "resolver" "busy_retry_delay_seconds" "RESOLVE_BUSY_RETRY_DELAY"
        (.ofQuotient 1 20) floatingNumber
  | deduplicate =>
      .asWritten "resolver" "deduplicate" "RESOLVE_DEDUPLICATE" (.bool false) switched
  | level => .converted "logging" "level" "LOG_LEVEL" (.ofString "info") logLevel
  | json => .asWritten "logging" "json" "LOG_JSON" (.bool false) switched

/-- Fields that can each be given a value can be given them all at once. -/
theorem exists_settings {holds : (field : Field) → field.Carrier → Prop}
    (heach : ∀ field, ∃ value, holds field value) :
    ∃ settings, ∀ field, holds field (field.get settings) := by
  choose value hvalue using heach
  refine ⟨{
    browse := { serviceType := value browseType, browse := value browse }
    publish := {
      enabled := value enabled
      name := value name
      serviceType := value publishType
      port := value port
      txt := value records }
    resolve := {
      timeout := value timeout
      retryDelay := value retryDelay
      deduplicate := value deduplicate }
    log := { level := value level, json := value json } }, fun field => ?_⟩
  cases field <;> exact hvalue _

/-- Settings with the same fields are the same. -/
theorem ext_get {made other : Settings} (hsame : ∀ field, get made field = get other field) :
    made = other := by
  obtain ⟨⟨type, browse⟩, ⟨enabled, name, published, port, txt⟩, ⟨timeout, delay, single⟩,
    ⟨level, json⟩⟩ := made
  obtain ⟨⟨_, _⟩, ⟨_, _, _, _, _⟩, ⟨_, _, _⟩, ⟨_, _⟩⟩ := other
  simp only [Settings.mk.injEq, BrowseSettings.mk.injEq, PublishSettings.mk.injEq,
    ResolveSettings.mk.injEq, LogSettings.mk.injEq]
  exact ⟨⟨hsame .browseType, hsame .browse⟩,
    ⟨hsame .enabled, hsame .name, hsame .publishType, hsame .port, hsame .records⟩,
    ⟨hsame .timeout, hsame .retryDelay, hsame .deduplicate⟩, hsame .level, hsame .json⟩

end Field

end Settings

end ServiceDiscovery
