import ServiceDiscovery.BrowseSession
import ServiceDiscovery.PublicationSession

/-!
One browse and one publication under a common roof, with a cache of the services resolved so far.
The cache is kept by name. The first resolve of a name is reported as added, later ones as updated,
and a lost service that was in the cache as removed. Callbacks run one after the other, and one that
fails keeps neither the others nor the reporter from going on. A callback that is registered while
those of its kind are being told has its turn after them.
-/

namespace ServiceDiscovery

inductive CallbackKind where
  | added
  | updated
  | removed
  | published
  | renamed
  | error
  deriving DecidableEq, Repr

def CallbackKind.name : CallbackKind → String
  | added => "added"
  | updated => "updated"
  | removed => "removed"
  | published => "published"
  | renamed => "renamed"
  | error => "error"

inductive FacadeError where
  | registrationFailed
  | browserFailed
  deriving DecidableEq, Repr

def FacadeError.name : FacadeError → String
  | registrationFailed => "SERVICE_REGISTRATION_FAILED"
  | browserFailed => "BROWSER_FAILED"

inductive CallbackArgument where
  | none
  | service (service : ResolvedService)
  | name (name : Text.Points)
  | error (error : FacadeError)
  deriving DecidableEq, Repr

/-- How many callbacks there are of each kind. They are numbered in the order of registration. -/
structure Callbacks where
  added : Nat := 0
  updated : Nat := 0
  removed : Nat := 0
  published : Nat := 0
  renamed : Nat := 0
  error : Nat := 0
  deriving DecidableEq, Repr

def Callbacks.count (callbacks : Callbacks) : CallbackKind → Nat
  | .added => callbacks.added
  | .updated => callbacks.updated
  | .removed => callbacks.removed
  | .published => callbacks.published
  | .renamed => callbacks.renamed
  | .error => callbacks.error

/-- One more callback of a kind. -/
def Callbacks.add (callbacks : Callbacks) : CallbackKind → Callbacks
  | .added => { callbacks with added := callbacks.added + 1 }
  | .updated => { callbacks with updated := callbacks.updated + 1 }
  | .removed => { callbacks with removed := callbacks.removed + 1 }
  | .published => { callbacks with published := callbacks.published + 1 }
  | .renamed => { callbacks with renamed := callbacks.renamed + 1 }
  | .error => { callbacks with error := callbacks.error + 1 }

structure Facade where
  callbacks : Callbacks := {}
  services : List (Text.Points × ResolvedService) := []
  txt : List (Value × Value) := []
  browserExists : Bool := false
  publishExists : Bool := false
  deriving Repr

namespace Facade

inductive Operation where
  | publish (event : Event)
  | startBrowser (type : Text.Points)
  | stopBrowser
  | startPublish (name type : Text.Points) (port : Value)
  | stopPublish
  | addTxt (name value : Value)
  | clearTxt
  /-- Another callback is to hear of news of a kind. -/
  | register (kind : CallbackKind)
  | close
  deriving Repr

inductive Task where
  | call (operation : Operation)
  /-- The callbacks of a kind are told one after the other, and one is next. -/
  | telling (kind : CallbackKind) (argument : CallbackArgument) (number : Nat)
  /-- A callback is running. -/
  | calling (kind : CallbackKind)
  /-- What is left of closing once both sessions are closed. -/
  | closing
  deriving Repr

inductive Effect where
  | own (task : Task)
  | browse (operation : BrowseSession.Operation)
  | publication (operation : PublicationSession.Operation)
  | callback (kind : CallbackKind) (index : Nat) (argument : CallbackArgument)
  | log (record : Log.Record)
  deriving Repr

def component : String := "nsdkit.manager"

def log (level : Log.Level) (message : Text.Points) : Effect :=
  .log { level, component, message, fault := none }

/-- Has all callbacks of a kind told. -/
def emit (kind : CallbackKind) (argument : CallbackArgument) : List Effect :=
  [.own (.telling kind argument 0)]

/-- Runs the callback that is next, protected from the failures of the others, if there is one by
now. -/
def tell (kind : CallbackKind) (argument : CallbackArgument) (number : Nat) (facade : Facade) :
    List Effect :=
  if number < facade.callbacks.count kind then
    [.callback kind number argument, .own (.calling kind),
      .own (.telling kind argument (number + 1))]
  else []

def service? (name : Text.Points) (facade : Facade) : Option ResolvedService :=
  facade.services.lookup name

/-- Puts a service into the cache. A name that is there keeps its place. -/
def insertService (service : ResolvedService) :
    List (Text.Points × ResolvedService) → List (Text.Points × ResolvedService)
  | [] => [(service.name, service)]
  | (name, known) :: rest =>
      if name = service.name then (name, service) :: rest
      else (name, known) :: insertService service rest

def serviceResolved (service : ResolvedService) (facade : Facade) : Facade × List Effect :=
  let after := { facade with services := insertService service facade.services }
  match facade.service? service.name with
  | some _ =>
      (after, log Log.Level.debug ("Service updated: " ++ service.text) ::
        emit .updated (.service service))
  | none =>
      (after, log Log.Level.info ("Service added: " ++ service.text) ::
        emit .added (.service service))

def serviceRemoved (name : Text.Points) (facade : Facade) : Facade × List Effect :=
  match facade.service? name with
  | none => (facade, [])
  | some service =>
      ({ facade with services := facade.services.filter (·.1 ≠ name) },
        log Log.Level.info ("Service removed: " ++ service.text) ::
          emit .removed (.service service))

/-- Takes note of an event and runs the callbacks that it calls for. -/
def receive : Event → Facade → Facade × List Effect
  | .serviceResolved service, facade => facade.serviceResolved service
  | .serviceRemoved name, facade => facade.serviceRemoved name
  | .browserState running error, facade =>
      ({ facade with browserExists := running },
        if error then emit .error (.error .browserFailed) else [])
  | .publisherState running error, facade =>
      ({ facade with publishExists := running },
        (if running then emit .published .none else []) ++
          if error then emit .error (.error .registrationFailed) else [])
  | .serviceRenamed name, facade => (facade, emit .renamed (.name name))
  | .unknown, facade => (facade, [])

def call : Operation → Facade → Facade × List Effect
  | .publish event, facade => facade.receive event
  | .startBrowser type, facade => (facade, [.browse (.start type)])
  | .stopBrowser, facade => (facade, [.browse .stop])
  | .startPublish name type port, facade =>
      (facade, [.publication (.register name type port facade.txt)])
  | .stopPublish, facade => (facade, [.publication .unregister])
  | .addTxt name value, facade =>
      ({ facade with txt := Value.insertEntry name value facade.txt }, [])
  | .clearTxt, facade => ({ facade with txt := [] }, [])
  | .register kind, facade => ({ facade with callbacks := facade.callbacks.add kind }, [])
  | .close, facade => (facade, [.browse .close, .publication .close, .own .closing])

def step : Task → Facade → Facade × List Effect
  | .call operation, facade => facade.call operation
  | .telling kind argument number, facade => (facade, facade.tell kind argument number)
  | .calling _, facade => (facade, [])
  | .closing, facade =>
      ({ facade with browserExists := false, publishExists := false },
        [log Log.Level.info "ZeroConf closed"])

/-- What happens when a fault reaches a task: a callback that failed is logged. -/
def recover : Task → Fault → Facade → Option (Facade × List Effect)
  | .calling kind, fault, facade =>
      some (facade, [.log {
        level := Log.Level.error
        component
        message := "Callback <" ++ kind.name ++ "> failed: " ++ fault.message
        fault }])
  | _, _, _ => none

end Facade

end ServiceDiscovery
