import ServiceDiscovery.ChannelRegistry
import ServiceDiscovery.Platform

/-!
A browse for one type of service at a time. A session asks the platform to browse, passes what is
found to the resolve queue, and reports to its channel whether it runs. It counts as active from the
request on until the platform says that the browse stopped or failed; a second start meanwhile is
refused and leaves the browse alone. A lost service is reported at once and stays in the queue, so
it may be reported as resolved later.
-/

namespace ServiceDiscovery

/-- The course of one browse. -/
structure BrowseState where
  type : Text.Points
  running : Bool := false
  lastError : Option Int := none
  deriving DecidableEq, Repr

structure BrowseSession where
  token : Token
  state : Option BrowseState := none
  active : Bool := false
  closed : Bool := false
  deriving DecidableEq, Repr

namespace BrowseSession

inductive Operation where
  | start (type : Text.Points)
  | stop
  | close
  | notice (notice : BrowseNotice)
  deriving DecidableEq, Repr

inductive Task where
  | call (operation : Operation)
  /-- The platform is being asked to browse for a type. -/
  | starting (type : Text.Points)
  /-- What is left of closing once the browse was asked to stop. -/
  | closing
  deriving DecidableEq, Repr

inductive Effect where
  | own (task : Task)
  | request (request : Request)
  | enqueue (ref : ServiceRef)
  | discard
  | detach
  | deliver (event : Event)
  | log (record : Log.Record)
  | raise (fault : Fault)
  deriving Repr

def component : String := "nsdkit.discovery"

def log (level : Log.Level) (message : Text.Points) : Effect :=
  .log { level, component, message, fault := none }

def report (running error : Bool) : Effect :=
  .deliver (.browserState running error)

def running (session : BrowseSession) : Bool :=
  session.state.any (·.running)

/-- Changes the state of the present browse, if there is one. -/
def mapState (f : BrowseState → BrowseState) (session : BrowseSession) : BrowseSession :=
  { session with state := session.state.map f }

def start (type : Text.Points) (session : BrowseSession) : BrowseSession × List Effect :=
  if session.closed then (session, [.raise .browseClosed])
  else if session.active then
    let present := (session.state.map (·.type)).getD []
    (session, [log Log.Level.warning ("Already browsing for " ++ present),
      report session.running true])
  else
    let type := ServiceType.normalize type
    ({ session with state := some { type }, active := true },
      [.request (.discover type), .own (.starting type)])

/-- The platform refused to browse. A malformed type is reported, any other fault goes on. -/
def startRefused (type : Text.Points) (fault : Fault) (session : BrowseSession) :
    BrowseSession × List Effect :=
  let session := { session with active := false }
  if fault.isMalformed then
    (session.mapState fun state => { state with lastError := some FailureCode.badParameters },
      [log Log.Level.warning ("Browsing for " ++ type ++ " rejected: " ++ fault.message),
        report false true])
  else (session, [.raise fault])

def stop (session : BrowseSession) : BrowseSession × List Effect :=
  (session, if session.active then [.request .stopDiscovery] else [report false false])

def close (session : BrowseSession) : BrowseSession × List Effect :=
  if session.closed then (session, [])
  else (session, if session.active then [.own (.call .stop), .own .closing] else [.own .closing])

/-- A browse failed to start or to stop. -/
def failed (operation : String) (type : Text.Points) (code : Int) (session : BrowseSession) :
    BrowseSession × List Effect :=
  (({ session with active := false }).mapState fun state =>
      { state with running := false, lastError := some code },
    [log Log.Level.warning
        ("Failed to " ++ operation ++ " browsing for " ++ type ++ ": " ++ Text.ofInt code),
      report false true])

def hear : BrowseNotice → BrowseSession → BrowseSession × List Effect
  | .started _, session =>
      (session.mapState fun state => { state with running := true }, [report true false])
  | .found ref, session =>
      (session, if session.closed then []
        else [log Log.Level.debug ("Found " ++ ref.text), .enqueue ref])
  | .lost ref, session =>
      (session, [log Log.Level.debug ("Lost " ++ ref.text), .deliver (.serviceRemoved ref.name)])
  | .stopped type, session =>
      (({ session with active := false }).mapState fun state => { state with running := false },
        [log Log.Level.info ("Stopped browsing for " ++ type), report false false])
  | .startFailed type code, session => session.failed "start" type code
  | .stopFailed type code, session => session.failed "stop" type code

def call : Operation → BrowseSession → BrowseSession × List Effect
  | .start type, session => session.start type
  | .stop, session => session.stop
  | .close, session => session.close
  | .notice notice, session => session.hear notice

def step : Task → BrowseSession → BrowseSession × List Effect
  | .call operation, session => session.call operation
  | .starting type, session =>
      (session, [log Log.Level.info ("Browsing for " ++ type ++ " services")])
  | .closing, session => ({ session with closed := true }, [.discard, .detach])

/-- What happens when a fault reaches a task. Closing is not protected: a platform that refuses to
stop leaves the session open. -/
def recover : Task → Fault → BrowseSession → Option (BrowseSession × List Effect)
  | .starting type, fault, session => some (session.startRefused type fault)
  | _, _, _ => none

end BrowseSession

end ServiceDiscovery
