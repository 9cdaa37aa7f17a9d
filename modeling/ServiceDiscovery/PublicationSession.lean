import ServiceDiscovery.ChannelRegistry
import ServiceDiscovery.Platform

/-!
The publication of one service at a time. A session asks the platform to register a service and
reports to its channel whether the service is published, and under what name if the platform had to
change it. It is active from the request on until the registration failed or the service was
unregistered. A failed withdrawal leaves it active, since the service may still be published.
-/

namespace ServiceDiscovery

/-- The course of one registration. -/
structure RegistrationState where
  requestedName : Text.Points
  effectiveName : Text.Points
  type : Text.Points
  port : Value
  running : Bool := false
  lastError : Option Int := none
  deriving Repr

structure PublicationSession where
  token : Token
  state : Option RegistrationState := none
  active : Bool := false
  closed : Bool := false
  deriving Repr

namespace PublicationSession

inductive Operation where
  | register (name type : Text.Points) (port : Value) (txt : List (Value × Value))
  | unregister
  | close
  | notice (notice : RegistrationNotice)
  deriving Repr

inductive Task where
  | call (operation : Operation)
  /-- The platform is being asked to register a service. -/
  | registering (name : Text.Points)
  /-- What is left of closing once the service was asked to be withdrawn. -/
  | closing
  deriving Repr

inductive Effect where
  | own (task : Task)
  | request (request : Request)
  | detach
  | deliver (event : Event)
  | log (record : Log.Record)
  | raise (fault : Fault)
  deriving Repr

def component : String := "nsdkit.publication"

def log (level : Log.Level) (message : Text.Points) : Effect :=
  .log { level, component, message, fault := none }

def report (running error : Bool) : Effect :=
  .deliver (.publisherState running error)

def running (session : PublicationSession) : Bool :=
  session.state.any (·.running)

/-- Changes the state of the present registration, if there is one. -/
def mapState (f : RegistrationState → RegistrationState) (session : PublicationSession) :
    PublicationSession :=
  { session with state := session.state.map f }

def register (name type : Text.Points) (port : Value) (txt : List (Value × Value))
    (session : PublicationSession) : PublicationSession × List Effect :=
  if session.closed then (session, [.raise .publicationClosed])
  else if session.active then
    let present := (session.state.map (·.effectiveName)).getD []
    (session, [log Log.Level.warning ("Already publishing " ++ present),
      report session.running true])
  else
    let type := ServiceType.normalize type
    ({ session with
        state := some { requestedName := name, effectiveName := name, type, port }
        active := true },
      [.request (.register name type port txt), .own (.registering name)])

/-- The platform refused to register. Malformed input is reported, any other fault goes on. -/
def registerRefused (name : Text.Points) (fault : Fault) (session : PublicationSession) :
    PublicationSession × List Effect :=
  let session := { session with active := false }
  if fault.isMalformed then
    let warning := log Log.Level.warning
      ("Error registering service " ++ Text.Quoted.points name ++ ": " ++ fault.message)
    match session.state with
    | none => (session, [warning, .raise .noSuchField])
    | some state =>
        ({ session with state := some { state with lastError := some FailureCode.badParameters } },
          [warning, report false true])
  else (session, [.raise fault])

def unregister (session : PublicationSession) : PublicationSession × List Effect :=
  (session, if session.active then [.request .unregister] else [report false false])

def close (session : PublicationSession) : PublicationSession × List Effect :=
  if session.closed then (session, [])
  else
    (session, if session.active then [.own (.call .unregister), .own .closing]
      else [.own .closing])

def finishClose (session : PublicationSession) : PublicationSession × List Effect :=
  ({ session with closed := true }, [.detach])

/-- The service is published. The name that was asked for is that of the registration which the
notice found, whatever the channel does on hearing of it. -/
def registered (name : Text.Points) (session : PublicationSession) :
    PublicationSession × List Effect :=
  match session.state with
  | none => (session, [])
  | some state =>
      let renamed :=
        if name = state.requestedName then []
        else [log Log.Level.info ("Service " ++ Text.Quoted.points state.requestedName ++
            " renamed to " ++ Text.Quoted.points name),
          .deliver (.serviceRenamed name)]
      ({ session with state := some { state with running := true, effectiveName := name } },
        [log Log.Level.info ("Published " ++ name ++ "." ++ state.type ++ " on port " ++
            state.port.shownPoints),
          report true false] ++ renamed)

def hear : RegistrationNotice → PublicationSession → PublicationSession × List Effect
  | .registered name _, session => session.registered name
  | .failed code, session =>
      (({ session with active := false }).mapState fun state =>
          { state with running := false, lastError := some code },
        [log Log.Level.warning ("Registration failed: " ++ Text.ofInt code), report false true])
  | .unregistered, session =>
      ({ session with active := false, state := none },
        [log Log.Level.info "Service unpublished", report false false])
  | .unregistrationFailed code, session =>
      (session.mapState fun state => { state with running := false, lastError := some code },
        [log Log.Level.warning ("Unregistration failed: " ++ Text.ofInt code), report false true])

def call : Operation → PublicationSession → PublicationSession × List Effect
  | .register name type port txt, session => session.register name type port txt
  | .unregister, session => session.unregister
  | .close, session => session.close
  | .notice notice, session => session.hear notice

def step : Task → PublicationSession → PublicationSession × List Effect
  | .call operation, session => session.call operation
  | .registering _, session => (session, [])
  | .closing, session => session.finishClose

/-- What happens when a fault reaches a task. Closing passes over faults of this library. -/
def recover : Task → Fault → PublicationSession → Option (PublicationSession × List Effect)
  | .registering name, fault, session => some (session.registerRefused name fault)
  | .closing, fault, session =>
      if fault.isOwn then
        let (session, effects) := session.finishClose
        some (session,
          log Log.Level.warning ("Unregistering on close failed: " ++ fault.message) :: effects)
      else none
  | .call _, _, _ => none

end PublicationSession

end ServiceDiscovery
