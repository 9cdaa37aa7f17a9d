import ServiceDiscovery.CommandLine.Screen
import ServiceDiscovery.Machine
import ServiceDiscovery.Settings.Basic
import ServiceDiscovery.Simulation.Clock
import ServiceDiscovery.Simulation.TimedNetwork

/-!
The program at work. It starts the platform, begins to browse and to publish as the settings say,
waits for its time to be over or for the user, and closes everything in order. Between its own
doings the event loop runs, and when nothing is left that could happen the user interrupts: the
first time this ends the waiting, and at any other point it ends the program.
-/

namespace ServiceDiscovery.CommandLine.Serving

open Simulation

structure Orders where
  settings : Settings
  /-- Seconds to wait; without them, or with none, the program waits for the user. -/
  timeout : Option Double
  log : Log.Setup

inductive Alarm where
  | announce (browser : Nat) (change : Mdns.Platform.Change) (name : Text.Points)
  /-- A request is over, with an answer or without. -/
  | answer (ticket : Nat) (answer : Option NetworkAnswer)
  /-- The time of the program is over. -/
  | timeout

inductive Instruction where
  | browse
  | publish
  /-- The beginning is over, or failed. -/
  | begun
  /-- Let the event loop have a number of rounds, and then close. -/
  | linger (rounds : Nat)
  /-- Let everything happen that happens without the program. -/
  | wait
  | close
  /-- Let the event loop have up to a number of rounds. -/
  | settle (rounds : Nat)
  | networkClosed (ticket : Nat)

inductive Ending where
  | exit (code : Nat)
  | fault (fault : Fault)
  deriving DecidableEq, Repr

structure State where
  orders : Orders
  network : TimedNetwork
  clock : Clock Alarm := {}
  screen : Screen := {}
  /-- What reached the network. -/
  calls : Array Mdns.NetworkCall := #[]
  /-- How many browsers were opened. -/
  browsers : Nat := 0
  /-- The program is waiting and has not been interrupted. -/
  waiting : Bool := false
  /-- An error was reported. -/
  failed : Bool := false
  /-- The fault that ended the beginning. -/
  fault : Option Fault := none
  ending : Option Ending := none

abbrev Moves := List (Move Instruction)

/-- The places of the only platform, registry, queue and facade. -/
def place : Nat := 0

def State.show (change : Screen → Screen) (state : State) : State :=
  { state with screen := change state.screen }

/-- Prints a text, unless it has no bytes. -/
def State.print (text : Text.Points) (state : State) : Except Fault State :=
  match text.encode with
  | .ok _ => .ok (state.show (Screen.print text.shown))
  | .error run => .error (.unencodable run)

def State.log (record : Log.Record) (state : State) : State :=
  state.show (Screen.log state.orders.log record)

def onPlatform (operation : Mdns.Platform.Operation) : Move Instruction :=
  .perform (.platform place operation)

def onFacade (operation : Facade.Operation) : Move Instruction :=
  .perform (.facade place operation)

/-- The fault of taking a value for a text. Bytes can be trimmed like a text and fail later. -/
def notText : Value → Fault
  | .bytes _ => .wrongType
  | _ => .noSuchField

/-- Begins to browse. The type may be any value, but only a text can be browsed for. -/
def browse (type : Value) : Moves :=
  match type.points? with
  | some type => [onFacade (.startBrowser type)]
  | none => [.raise (notText type)]

/-- What is wrong with a name that is no text and counts as nothing. -/
def emptyName (name : Value) : String :=
  "Service name must be 1-" ++ toString Mdns.ServiceInfo.nameLimit ++ " bytes: " ++ name.quoted

/-- The report about a name that is no text and counts as nothing. -/
def badName (name : Value) : Log.Record where
  level := Log.Level.warning
  component := PublicationSession.component
  message := "Error registering service " ++ name.quoted ++ ": " ++ emptyName name
  fault := none

/-- Begins to publish. Name and type may be any values. A name that is no text and counts as nothing
is reported like an empty one. -/
def publish (publish : PublishSettings) (state : State) : State × Moves :=
  let records := publish.txt.map fun record =>
    onFacade (.addTxt (.ofPoints record.1) ((record.2.map Value.ofPoints).getD .null))
  let announced : Text.Points := "Publishing " ++ publish.name.quoted ++ " (" ++
    publish.serviceType.shownPoints ++ ") on port " ++ publish.port.shownPoints
  if [publish.name, publish.serviceType, publish.port].any Value.isOverlong then
    (state, records ++ [.raise .unwritable])
  else
    match state.print announced with
    | .error fault => (state, records ++ [.raise fault])
    | .ok state =>
        match publish.serviceType.points?, publish.name.points? with
        | some type, some name =>
            (state, records ++ [onFacade (.startPublish name type publish.port)])
        | some _, none =>
            if publish.name.isTruthy then (state, records ++ [.raise .noSuchField])
            else
              (state.log (badName publish.name),
                records ++ [onFacade (.publish (.publisherState false true))])
        | none, _ => (state, records ++ [.raise (notText publish.serviceType)])

/-- One round of the event loop: a turn for each entry that is there when the round begins. -/
def round (world : World) : Moves :=
  match world.platforms[place]? with
  | some (.mdns platform) => List.replicate platform.ready.length (onPlatform .turn)
  | _ => []

/-- How long the program waits, once everything has begun. Time that is over already costs one
round, and time that cannot be compared two. -/
def await (state : State) : State × Moves :=
  let waiting := { state with waiting := true }
  match state.orders.timeout with
  | none => (waiting, [.outside .wait])
  | some seconds =>
      if seconds.isZero then (waiting, [.outside .wait])
      else if seconds.isPositive then
        ({ waiting with clock := state.clock.set seconds .timeout }, [.outside .wait])
      else if seconds.meaning = .notANumber then (waiting, [.outside (.linger 2)])
      else (waiting, [.outside (.linger 1)])

def ring : Alarm → Moves
  | .announce browser change name =>
      [onPlatform (.announce browser change name none), .outside .wait]
  | .answer ticket (some answer) => answer.moves place ticket ++ [.outside .wait]
  | .answer ticket none => [networkWake place ticket .notFound, .outside .wait]
  | .timeout => [.outside .close]

def interrupt (state : State) : State × Moves :=
  if state.waiting then (state, [.outside .close])
  else ({ state.show (Screen.print "\nShutting down...") with ending := some (.exit 0) }, [])

/-- Lets the event loop run, or else the clock, or else the user decide. -/
def wait (world : World) (state : State) : State × Moves :=
  if state.ending.isSome then (state, [])
  else
    match round world with
    | turn :: turns => (state, turn :: turns ++ [.outside .wait])
    | [] =>
        match state.clock.next? with
        | some (alarm, clock) => ({ state with clock }, ring alarm)
        | none => interrupt state

/-- The state of the queue, for the log. -/
def queueReport (world : World) : Log.Record where
  level := Log.Level.debug
  component := "nsdkit"
  message := "Resolve queue: " ++
    match world.queues[place]? with
    | some node => (Value.map (node.core.status.map fun entry => (.text entry.1, entry.2))).quoted
    | none => Value.null.quoted
  fault := none

/-- Closes everything. Should this hang, the rest of the world goes on. -/
def close (world : World) (state : State) : State × Moves :=
  ({ state.log (queueReport world) with waiting := false },
    [onFacade .close, onPlatform .close, .outside .wait])

/-- How many rounds the event loop gets while the network closes. -/
def closingRounds : Nat := 30

/-- The program, and the surroundings on their own account. -/
def act (instruction : Instruction) (world : World) (state : State) : State × Moves :=
  let settings := state.orders.settings
  match instruction with
  | .browse =>
      if !settings.browse.browse.isTruthy then (state, [])
      else if settings.browse.serviceType.isOverlong then (state, [.raise .unwritable])
      else
        match state.print ("Browsing for " ++ settings.browse.serviceType.shownPoints) with
        | .error fault => (state, [.raise fault])
        | .ok state => (state, browse settings.browse.serviceType)
  | .publish =>
      if settings.publish.enabled.isTruthy then publish settings.publish state else (state, [])
  | .begun =>
      match world.caught with
      | some fault => ({ state with fault := some fault }, [onPlatform .close, .outside .wait])
      | none => await state
  | .linger 0 => (state, [.outside .close])
  | .linger (rounds + 1) => (state, round world ++ [.outside (.linger rounds)])
  | .wait => wait world state
  | .close => close world state
  | .settle 0 => (state, [])
  | .settle (rounds + 1) =>
      match round world with
      | [] => (state, [])
      | turn :: turns => (state, turn :: turns ++ [.outside (.settle rounds)])
  | .networkClosed ticket =>
      ({ state with calls := state.calls.push .close }, [networkReply place ticket .done])

/-- A browser is open from now on, and its announcements are due. -/
def opened (type : Text.Points) (state : State) : State :=
  let full (name : Text.Points) : Text.Points := name ++ "." ++ type
  let clock := state.network.announcements.foldl (fun clock announcement =>
    clock.set announcement.seconds
      (.announce state.browsers announcement.change (full announcement.name))) state.clock
  { state with clock, browsers := state.browsers + 1 }

def answerNetwork (ticket : Nat) (call : Mdns.NetworkCall) (state : State) : State × Moves :=
  let network := state.network
  let done : Moves := [networkReply place ticket .done]
  match call with
  | .browse type =>
      if network.browserError then
        (state, [networkReply place ticket (.failed (.outside .system "no socket"))])
      else (opened type state, done)
  | .cancel _ _ => (state, if network.cancelHangs then [] else done)
  | .register _ =>
      let (outcome, register) := NetworkOutcome.next network.register
      let broadcasts := network.broadcasts ++ outcome.broadcasts
      ({ state with network := { network with register, broadcasts } }, outcome.moves place ticket)
  | .unregister _ =>
      let (outcome, unregister) := NetworkOutcome.next network.unregister
      let broadcasts := network.broadcasts ++ outcome.broadcasts
      ({ state with network := { network with unregister, broadcasts } },
        outcome.moves place ticket)
  | .request info timeout =>
      let (seconds, answer, network) :=
        network.request (Mdns.instanceName info.name info.type).shown timeout
      ({ state with network, clock := state.clock.set seconds (.answer ticket answer) }, [])
  | .close =>
      (state, [.outside (.settle closingRounds), .outside (.networkClosed ticket)])

/-- A broadcast that is held never ends. -/
def answerBroadcast (ticket : Nat) (state : State) : State × Moves :=
  let (outcome, broadcasts) := NetworkOutcome.next state.network.broadcasts
  ({ state with network := { state.network with broadcasts } },
    if outcome.hold then [] else [networkReply place ticket outcome.response])

/-- How the program ends once the platform is closed. -/
def State.finish (state : State) : Ending :=
  match state.fault with
  | some fault => .fault fault
  | none => .exit (if state.failed then 1 else 0)

/-- The surroundings answer to a call. The second callback for errors keeps in mind that there was
one. -/
def answer (call : Call) (_ : World) (state : State) : State × Moves :=
  match call with
  | .callback _ .error 1 _ => ({ state with failed := true }, [])
  | .callback _ .error _ (.error error) =>
      (state.show (Screen.printError ("Error: " ++ error.name)), [])
  | .callback _ kind _ argument =>
      match Screen.news? kind argument with
      | none => (state, [])
      | some text =>
          match state.print text with
          | .ok state => (state, [])
          | .error fault => (state, [.raise fault])
  | .network _ ticket .close => answerNetwork ticket .close state
  | .network _ ticket call =>
      answerNetwork ticket call { state with calls := state.calls.push call }
  | .broadcast _ ticket _ => answerBroadcast ticket state
  | .closed _ none => ({ state with ending := some state.finish }, [])
  | .closed _ (some fault) => ({ state with ending := some (.fault fault) }, [])
  | .log record => (state.log record, [])
  | _ => (state, [])

def surroundings : Surroundings Instruction State where
  act := act
  answer := answer

/-- The callbacks of the program: one of each kind to show what happens, and another one for errors.
-/
def callbacks : Callbacks where
  added := 1
  updated := 1
  removed := 1
  published := 1
  renamed := 1
  error := 2

/-- A platform, a queue over a registry, and a facade on all of them. -/
def world (host : Mdns.Host) (resolve : ResolveSettings) : World :=
  let empty : World := {
    registries := [{}]
    platforms := [.mdns { host, timeout := resolve.timeout }] }
  let (_, world) := empty.addQueue place place {
    deduplicate := resolve.deduplicate.isTruthy
    retryDelay := resolve.retryDelay }
  match world.addFacade place (some place) (some place) callbacks with
  | .ok (_, world) => world
  | .error _ => world

def start (host : Mdns.Host) (network : TimedNetwork) (orders : Orders) :
    Configuration Instruction State where
  world := world host orders.settings.resolve
  around := { orders, network }
  agenda := [(Operation.platform place .start).work, .outside .browse, .outside .publish,
    .watch .begun]

/-- A bound on the work of one run that no network comes near. -/
def patience : Nat := 1000000000000

def run (host : Mdns.Host) (network : TimedNetwork) (orders : Orders) : State :=
  (Configuration.run surroundings patience (start host network orders)).around

end ServiceDiscovery.CommandLine.Serving
