import ServiceDiscovery.Log.Record
import ServiceDiscovery.Mdns.ServiceInfo
import ServiceDiscovery.Platform

/-!
Service discovery over multicast DNS. Requests are checked at once; what passes becomes a job, and
jobs run on an event loop in the order in which they were handed in, each until it ends or waits for
the network. The network answers by a ticket, either while the job still runs or later, and then the
job goes on when the loop comes round to it. A fault that leaves a job is lost.

Registering takes two waits, and so does unregistering. With its first answer the network has put a
service in or taken it out; then it broadcasts the news, and the job waits for the end of that with
another ticket.

The platform resolves one service at a time. The slot is taken when a resolve is requested, and
given back by its job before the listener hears of the outcome.
-/

namespace ServiceDiscovery.Mdns

/-- An open browser: its number among all that were ever opened, and its bare type. -/
structure Browser where
  number : Nat
  type : Text.Points
  deriving DecidableEq, Repr

/-- What the network says about a service that is being published or resolved. -/
structure InfoUpdate where
  name : Option Text.Points := none
  port : Option Int := none
  server : Option String := none
  addresses : Option (List Address) := none
  text : Option Bytes := none
  deriving DecidableEq, Repr

def InfoUpdate.apply (update : InfoUpdate) (info : ServiceInfo) : ServiceInfo :=
  { info with
    name := update.name.getD info.name
    port := (update.port.map .int).or info.port
    server := update.server.or info.server
    addresses := update.addresses.getD info.addresses
    text := update.text.getD info.text }

/-- How the network answers. Only a request can come to nothing without a fault. -/
inductive Response where
  | done
  | notFound
  | failed (fault : Fault)
  deriving DecidableEq, Repr

/-- What a job asks of the network. The ticket is for the answer. -/
inductive NetworkCall where
  | browse (type : Text.Points)
  | cancel (browser : Nat) (type : Text.Points)
  | register (info : ServiceInfo)
  | unregister (info : ServiceInfo)
  | request (info : ServiceInfo) (timeout : Int)
  | close
  deriving Repr

/-- Work of the platform, at the point where it goes on. Services are given by their numbers. -/
inductive Job where
  | register (info : Nat) (listener : Listener)
  | registering (info : Nat) (listener : Listener)
  /-- The network has the service, and broadcasts it. -/
  | announcing (info : Nat) (listener : Listener)
  | unregister (info : Nat) (listener : Listener)
  | unregistering (info : Nat) (listener : Listener)
  /-- The network does not have the service any more, and broadcasts its end. -/
  | retracting (info : Nat) (listener : Listener)
  | discover (type : Text.Points) (listener : Listener)
  | opening (type : Text.Points) (listener : Listener)
  | stop (listener : Listener)
  | cancelling (type : Text.Points) (listener : Listener)
  | reportBusy (ref : ServiceRef) (listener : Listener)
  | resolve (ref : ServiceRef) (listener : Listener)
  | requesting (ref : ServiceRef) (info : Nat) (listener : Listener)
  /-- Cancelling one browser on closing, with these to follow. -/
  | closingBrowsers (rest : List Browser)
  | closing
  deriving DecidableEq, Repr

/-- The service that a waiting job is about. -/
def Job.info? : Job → Option Nat
  | .registering info _ | .unregistering info _ | .requesting _ info _ => some info
  | _ => none

/-- An entry of the event loop. A job that was handed in takes one round to be admitted. -/
inductive Ready where
  | submitted (job : Job)
  | begun (job : Job)
  | resumed (job : Job) (response : Response)
  deriving DecidableEq, Repr

structure Platform where
  host : Host
  timeout : Int
  started : Bool := false
  browsers : List (Listener × Browser) := []
  /-- Every browser ever opened, with its listener and its full type. -/
  opened : List (Listener × Text.Points) := []
  registrations : List (Listener × Nat) := []
  infos : List ServiceInfo := []
  /-- The reference that takes up the resolver. -/
  resolving : Option ServiceRef := none
  ready : List Ready := []
  waiting : List (Nat × Job) := []
  /-- How many tickets were given out so far. -/
  tickets : Nat := 0

namespace Platform

inductive Change where
  | added
  | updated
  | removed
  deriving DecidableEq, Repr

inductive Operation where
  | start
  | close
  | request (request : Request) (listener : Listener)
  /-- The loop takes up its next entry. -/
  | turn
  | announce (browser : Nat) (change : Change) (name : Text.Points) (type : Option Text.Points)
  | update (ticket : Nat) (update : InfoUpdate)
  /-- The network answers while the job still runs. -/
  | reply (ticket : Nat) (response : Response)
  /-- The network answers later. -/
  | wake (ticket : Nat) (response : Response)
  /-- From now on the host's address is looked up with this result. -/
  | hostAddress (found : Except Fault String)

inductive Task where
  | call (operation : Operation)
  | run (job : Job)
  | resume (job : Job) (response : Response)
  /-- A job is running on the loop. -/
  | turning

inductive Effect where
  | own (task : Task)
  | notify (listener : Listener) (notice : Notice)
  | network (ticket : Nat) (call : NetworkCall)
  /-- A job waits for the network to broadcast a service, or its end. -/
  | broadcast (ticket : Nat) (info : ServiceInfo)
  | log (record : Log.Record)
  | raise (fault : Fault)
  /-- Closing came to its end, or failed. -/
  | closed (fault : Option Fault)

def component : String := "nsdkit.platform.mdns"

def log (level : Log.Level) (message : Text.Points) : Effect :=
  .log { level, component, message, fault := none }

def tellBrowse (listener : Listener) (notice : BrowseNotice) : Effect :=
  .notify listener (.browse notice)

def tellRegistration (listener : Listener) (notice : RegistrationNotice) : Effect :=
  .notify listener (.registration notice)

def tellResolve (listener : Listener) (outcome : ResolveOutcome) : Effect :=
  .notify listener (.resolve outcome)

/-- Sets the entry of a listener. A listener that is there keeps its place. -/
def setEntry {α : Type} (listener : Listener) (value : α) :
    List (Listener × α) → List (Listener × α)
  | [] => [(listener, value)]
  | (l, v) :: rest =>
      if l = listener then (l, value) :: rest else (l, v) :: setEntry listener value rest

def eraseEntry {α : Type} (listener : Listener) (entries : List (Listener × α)) :
    List (Listener × α) :=
  entries.filter (·.1 ≠ listener)

/-- The description of a service by its number. -/
def info (number : Nat) (platform : Platform) : ServiceInfo :=
  platform.infos.getD number { type := "", name := "" }

def submit (job : Job) (platform : Platform) : Platform :=
  { platform with ready := platform.ready ++ [.submitted job] }

/-- Lets a job wait with the next ticket. -/
def wait (job : Job) (platform : Platform) : Platform :=
  { platform with
    waiting := platform.waiting ++ [(platform.tickets, job)]
    tickets := platform.tickets + 1 }

/-- Asks the network and lets a job wait for the answer. -/
def ask (call : NetworkCall) (job : Job) (platform : Platform) : Platform × List Effect :=
  (platform.wait job, [.network platform.tickets call])

/-- Lets a job wait until the news of a service are broadcast. -/
def await (number : Nat) (job : Job) (platform : Platform) : Platform × List Effect :=
  (platform.wait job, [.broadcast platform.tickets (platform.info number)])

/-- Hands a job in if the platform is started. -/
def submitOrRaise (job : Job) (platform : Platform) : Platform × List Effect :=
  if platform.started then (platform.submit job, []) else (platform, [.raise .notStarted])

/-- A registration is taken note of before its job runs. -/
def requestRegister (name type : Text.Points) (port : Value) (txt : List (Value × Value))
    (listener : Listener) (platform : Platform) : Platform × List Effect :=
  if (platform.registrations.lookup listener).isSome then
    (platform, [.raise (.invalidService "Listener is already registering a service")])
  else
    match ServiceInfo.forRegistration platform.host name type port txt with
    | .error fault => (platform, [.raise fault])
    | .ok made =>
        if platform.started then
          let number := platform.infos.length
          ({ platform with
              infos := platform.infos ++ [made]
              registrations := setEntry listener number platform.registrations }.submit
              (.register number listener), [])
        else (platform, [.raise .notStarted])

def requestUnregister (listener : Listener) (platform : Platform) : Platform × List Effect :=
  match platform.registrations.lookup listener with
  | none => (platform, [.raise (.invalidService "Listener has no registered service")])
  | some number => platform.submitOrRaise (.unregister number listener)

def requestDiscover (type : Text.Points) (listener : Listener) (platform : Platform) :
    Platform × List Effect :=
  if (platform.browsers.lookup listener).isSome then
    (platform, [.raise (.invalidService "Listener is already browsing")])
  else
    let full := ServiceType.qualify type
    match checkType full with
    | .error fault => (platform, [.raise fault.fault])
    | .ok _ => platform.submitOrRaise (.discover full listener)

/-- Takes the resolver's slot, or has the listener told that it is taken. -/
def requestResolve (ref : ServiceRef) (listener : Listener) (platform : Platform) :
    Platform × List Effect :=
  match platform.resolving with
  | some _ => platform.submitOrRaise (.reportBusy ref listener)
  | none =>
      if platform.started then
        ({ platform with resolving := some ref }.submit (.resolve ref listener), [])
      else (platform, [.raise .notStarted])

def handle (listener : Listener) : Request → Platform → Platform × List Effect
  | .register name type port txt, platform =>
      platform.requestRegister name type port txt listener
  | .unregister, platform => platform.requestUnregister listener
  | .discover type, platform => platform.requestDiscover type listener
  | .stopDiscovery, platform => platform.submitOrRaise (.stop listener)
  | .resolve ref, platform => platform.requestResolve ref listener

/-- The fault of a job that finds the platform closed. -/
def missing (field : String) : Fault :=
  .outside (.other "AttributeError") ("'NoneType' object has no attribute " ++
    Text.Quoted.text field)

def fullType (browser : Browser) (platform : Platform) : Text.Points :=
  (platform.opened[browser.number]?.map (·.2)).getD []

/-- Cancels the browsers that are still open on closing, and then closes the network. -/
def closeBrowsers (platform : Platform) : List Browser → Platform × List Effect
  | [] => { platform with browsers := [], registrations := [] }.ask .close .closing
  | browser :: rest =>
      platform.ask (.cancel browser.number (platform.fullType browser)) (.closingBrowsers rest)

def close (platform : Platform) : Platform × List Effect :=
  if platform.started then platform.closeBrowsers (platform.browsers.map (·.2))
  else (platform, [.closed none])

/-- The attributes that an answer brings. A record without a value has none. -/
def attributes (info : ServiceInfo) : List (Value × Value) :=
  info.properties.map fun entry => (.bytes entry.1, (entry.2.map Value.bytes).getD .null)

/-- The outcome of a request that was answered. Services without an address count as not found. -/
def outcome (ref : ServiceRef) (found : Bool) (info : ServiceInfo) : ResolveOutcome :=
  match found, info.addressTexts with
  | true, address :: _ =>
      .resolved ref {
        name := ref.name
        type := ref.type
        hostname := Text.trimRight (· == .char '.') (Text.Points.ofString (info.server.getD ""))
        address
        port := info.answeredPort
        attributes := some (attributes info) }
  | _, _ => .failed ref FailureCode.internal

/-- A registration that failed is forgotten, whether or not the network has the service. -/
def registrationFailed (number : Nat) (listener : Listener) (fault : Fault)
    (platform : Platform) : Platform × List Effect :=
  ({ platform with registrations := eraseEntry listener platform.registrations },
    [log Log.Level.warning
        ("Registering " ++ (platform.info number).name ++ " failed: " ++ fault.message),
      tellRegistration listener (.failed FailureCode.internal)])

def unregistrationFailed (number : Nat) (listener : Listener) (fault : Fault)
    (platform : Platform) : Platform × List Effect :=
  (platform,
    [log Log.Level.warning
        ("Unregistering " ++ (platform.info number).name ++ " failed: " ++ fault.message),
      tellRegistration listener (.unregistrationFailed FailureCode.internal)])

/-- A waiting job goes on with the answer of the network. -/
def resume : Job → Response → Platform → Platform × List Effect
  | .registering number listener, response, platform =>
      match response with
      | .failed fault => platform.registrationFailed number listener fault
      | _ => platform.await number (.announcing number listener)
  | .announcing number listener, response, platform =>
      let info := platform.info number
      match response with
      | .failed fault => platform.registrationFailed number listener fault
      | _ =>
          (platform, [tellRegistration listener
            (.registered (instanceName info.name info.type) (ServiceType.normalize info.type))])
  | .unregistering number listener, response, platform =>
      match response with
      | .failed fault => platform.unregistrationFailed number listener fault
      | _ => platform.await number (.retracting number listener)
  | .retracting number listener, response, platform =>
      match response with
      | .failed fault => platform.unregistrationFailed number listener fault
      | _ =>
          ({ platform with registrations := eraseEntry listener platform.registrations },
            [tellRegistration listener .unregistered])
  | .opening type listener, response, platform =>
      let bare := ServiceType.normalize type
      match response with
      | .failed fault =>
          (platform, [
            log Log.Level.warning ("Browsing for " ++ type ++ " failed: " ++ fault.message),
            tellBrowse listener (.startFailed bare FailureCode.internal)])
      | _ =>
          let browser := { number := platform.opened.length, type := bare }
          ({ platform with
              opened := platform.opened ++ [(listener, type)]
              browsers := setEntry listener browser platform.browsers },
            [tellBrowse listener (.started bare)])
  | .cancelling type listener, response, platform =>
      match response with
      | .failed fault =>
          (platform,
            [log Log.Level.warning ("Stopping browse for " ++ type ++ " failed: " ++ fault.message),
              tellBrowse listener (.stopFailed type FailureCode.internal)])
      | _ => (platform, [tellBrowse listener (.stopped type)])
  | .requesting ref number listener, response, platform =>
      let report := match response with
        | .failed fault => [log Log.Level.debug
            ("Resolve request for " ++ ref.text ++ " raised: " ++ fault.message)]
        | _ => []
      ({ platform with resolving := none },
        report ++ [tellResolve listener
          (outcome ref (response = .done) (platform.info number))])
  | .closingBrowsers rest, response, platform =>
      match response with
      | .failed fault => (platform, [.closed (some fault)])
      | _ => platform.closeBrowsers rest
  | .closing, response, platform =>
      match response with
      | .failed fault => (platform, [.closed (some fault)])
      | _ => ({ platform with started := false },
          [log Log.Level.info "Zeroconf platform closed", .closed none])
  | _, _, platform => (platform, [])

def run : Job → Platform → Platform × List Effect
  | .register number listener, platform =>
      if platform.started then
        platform.ask (.register (platform.info number)) (.registering number listener)
      else platform.registrationFailed number listener (missing "async_register_service")
  | .unregister number listener, platform =>
      if platform.started then
        platform.ask (.unregister (platform.info number)) (.unregistering number listener)
      else platform.unregistrationFailed number listener (missing "async_unregister_service")
  | .discover type listener, platform =>
      if platform.started then platform.ask (.browse type) (.opening type listener)
      else resume (.opening type listener) (.failed (missing "zeroconf")) platform
  | .stop listener, platform =>
      match platform.browsers.lookup listener with
      | none => (platform, [tellBrowse listener (.stopFailed "" FailureCode.notRunning)])
      | some browser =>
          { platform with browsers := eraseEntry listener platform.browsers }.ask
            (.cancel browser.number (platform.fullType browser)) (.cancelling browser.type listener)
  | .reportBusy ref listener, platform =>
      (platform, [tellResolve listener (.failed ref FailureCode.alreadyActive)])
  | .resolve ref listener, platform =>
      match ServiceInfo.forResolving ref with
      | .error fault => (platform, [.raise fault])
      | .ok made =>
          let number := platform.infos.length
          let platform := { platform with infos := platform.infos ++ [made] }
          if platform.started then
            platform.ask (.request made platform.timeout) (.requesting ref number listener)
          else resume (.requesting ref number listener) (.failed (missing "zeroconf")) platform
  | _, platform => (platform, [])

/-- The loop takes up its next entry. -/
def turn (platform : Platform) : Platform × List Effect :=
  match platform.ready with
  | [] => (platform, [])
  | .submitted job :: rest => ({ platform with ready := rest ++ [.begun job] }, [])
  | .begun job :: rest => ({ platform with ready := rest }, [.own (.run job), .own .turning])
  | .resumed job response :: rest =>
      ({ platform with ready := rest }, [.own (.resume job response), .own .turning])

/-- A browser reports a change of an instance. Updated instances count as found again, so that new
TXT data gets resolved. -/
def announce (number : Nat) (change : Change) (name : Text.Points) (type : Option Text.Points)
    (platform : Platform) : Platform × List Effect :=
  match platform.opened[number]? with
  | none => (platform, [])
  | some (listener, browsed) =>
      let type := type.getD browsed
      let ref : ServiceRef := { name := instanceName name type, type := ServiceType.normalize type }
      (platform, [tellBrowse listener (if change = .removed then .lost ref else .found ref)])

/-- Takes a waiting job out by its ticket. -/
def takeWaiting (ticket : Nat) (platform : Platform) : Option (Job × Platform) :=
  (platform.waiting.lookup ticket).map fun job =>
    (job, { platform with waiting := platform.waiting.filter (·.1 ≠ ticket) })

def update (ticket : Nat) (change : InfoUpdate) (platform : Platform) : Platform :=
  match (platform.waiting.lookup ticket).bind Job.info? with
  | some number => { platform with infos := platform.infos.modify number change.apply }
  | none => platform

def call : Operation → Platform → Platform × List Effect
  | .start, platform =>
      ({ platform with started := true }, [log Log.Level.info "Zeroconf platform started"])
  | .close, platform => platform.close
  | .request request listener, platform => platform.handle listener request
  | .turn, platform => platform.turn
  | .announce browser change name type, platform => platform.announce browser change name type
  | .update ticket change, platform => (platform.update ticket change, [])
  | .reply ticket response, platform =>
      match platform.takeWaiting ticket with
      | some (job, platform) => (platform, [.own (.resume job response)])
      | none => (platform, [])
  | .wake ticket response, platform =>
      match platform.takeWaiting ticket with
      | some (job, platform) =>
          ({ platform with ready := platform.ready ++ [.resumed job response] }, [])
      | none => (platform, [])
  | .hostAddress found, platform =>
      ({ platform with host := { platform.host with ownAddress := found } }, [])

def step : Task → Platform → Platform × List Effect
  | .call operation, platform => platform.call operation
  | .run job, platform => run job platform
  | .resume job response, platform => resume job response platform
  | .turning, platform => (platform, [])

/-- What happens when a fault reaches a task. A fault that leaves a job is lost. -/
def recover : Task → Fault → Platform → Option (Platform × List Effect)
  | .turning, _, platform => some (platform, [])
  | _, _, _ => none

end Platform

end ServiceDiscovery.Mdns
