import ServiceDiscovery.Settings.Field

/-!
Settings from the environment. A variable that is set and not empty replaces the field it is for.
The TXT records have no variable.
-/

namespace ServiceDiscovery.Settings

/-- Variables, by their names without the prefix of the program. -/
abbrev Environment := List (String × String)

def variableNames : List String :=
  ["SERVICE_TYPE", "BROWSE", "PUBLISH_ENABLED", "PUBLISH_NAME", "PUBLISH_SERVICE_TYPE",
    "PUBLISH_PORT", "RESOLVE_TIMEOUT_MS", "RESOLVE_BUSY_RETRY_DELAY", "RESOLVE_DEDUPLICATE",
    "LOG_LEVEL", "LOG_JSON"]

/-- The text of a variable that is set and not empty. -/
def setVariable? (name : String) (environment : Environment) : Option String :=
  (environment.lookup name).filter (· ≠ "")

variable (environment : Environment)

/-- A field that a text replaces as it is. -/
def overrideText (name : String) (value : Value) : Value :=
  ((setVariable? name environment).map .text).getD value

/-- A field that the words for true turn on and all others off. -/
def overrideSwitch (name : String) (value : Value) : Value :=
  ((setVariable? name environment).map fun text => .bool (switch text)).getD value

def overrideWhole (name : String) (value : Int) : Except Fault Int :=
  match setVariable? name environment with
  | some text => wholeNumber (.text text)
  | none => .ok value

def overridePort (name : String) (value : Value) : Except Fault Value :=
  match setVariable? name environment with
  | some text => (wholeNumber (.text text)).map .int
  | none => .ok value

def overrideFloating (name : String) (value : Double) : Except Fault Double :=
  match setVariable? name environment with
  | some text => floatingNumber (.text text)
  | none => .ok value

/-- Settings with the variables of the environment in force. -/
def override (settings : Settings) : Except Fault Settings := do
  let text := overrideText environment
  let switch := overrideSwitch environment
  let browse := settings.browse
  let publish := settings.publish
  let resolve := settings.resolve
  let log := settings.log
  return {
    browse := {
      serviceType := text "SERVICE_TYPE" browse.serviceType
      browse := switch "BROWSE" browse.browse }
    publish := {
      enabled := switch "PUBLISH_ENABLED" publish.enabled
      name := text "PUBLISH_NAME" publish.name
      serviceType := text "PUBLISH_SERVICE_TYPE" publish.serviceType
      port := ← overridePort environment "PUBLISH_PORT" publish.port
      txt := publish.txt }
    resolve := {
      timeout := ← overrideWhole environment "RESOLVE_TIMEOUT_MS" resolve.timeout
      retryDelay :=
        ← overrideFloating environment "RESOLVE_BUSY_RETRY_DELAY" resolve.retryDelay
      deduplicate := switch "RESOLVE_DEDUPLICATE" resolve.deduplicate }
    log := {
      level := ((setVariable? "LOG_LEVEL" environment).map fun text =>
        (Text.Points.ofString text).lower).getD log.level
      json := switch "LOG_JSON" log.json } }

end ServiceDiscovery.Settings
