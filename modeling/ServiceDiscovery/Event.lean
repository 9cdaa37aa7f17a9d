import ServiceDiscovery.Service.Basic

/-!
What sessions and the resolve queue tell their callers: that a browse or a publication runs or has
failed, that a service was resolved or went away, and that a publication had to take another name.
-/

namespace ServiceDiscovery

inductive Event where
  | browserState (running error : Bool)
  | publisherState (running error : Bool)
  | serviceRemoved (name : Text.Points)
  | serviceResolved (service : ResolvedService)
  | serviceRenamed (name : Text.Points)
  /-- An event of a kind that this library does not send. -/
  | unknown
  deriving DecidableEq, Repr

namespace Event

def kindName : Event → String
  | browserState _ _ => "BrowserStateChanged"
  | publisherState _ _ => "PublisherStateChanged"
  | serviceRemoved _ => "ServiceRemoved"
  | serviceResolved _ => "ServiceResolved"
  | serviceRenamed _ => "ServiceNameChanged"
  | unknown => "Unknown"

def fields : Event → List String
  | browserState running error | publisherState running error =>
      ["running=" ++ (Value.bool running).quoted, "error=" ++ (Value.bool error).quoted]
  | serviceRemoved name => ["name=" ++ Text.Quoted.points name]
  | serviceResolved service => ["service=" ++ service.quoted]
  | serviceRenamed name => ["new_name=" ++ Text.Quoted.points name]
  | unknown => []

/-- The kind of an event with its fields in brackets. -/
def text (event : Event) : String :=
  event.kindName ++ "(" ++ ", ".intercalate event.fields ++ ")"

end Event

end ServiceDiscovery
