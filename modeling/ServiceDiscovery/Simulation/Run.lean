import ServiceDiscovery.Simulation.State

/-!
Running a script. The surroundings turn each step into moves and take note of every call that
reaches them. After a step the event loops run until nothing can go on.
-/

namespace ServiceDiscovery.Simulation

inductive Destination where
  | top
  | batch
  | nested
  deriving DecidableEq, Repr

/-- How the result of a step is found when it went without a fault. -/
inductive Outcome.Source where
  | known (result : Result)
  | returned
  | collected
  /-- An outcome is still to be delivered a number of times. -/
  | delivering (platform index count : Nat) (outcome : Outcome)

inductive Instruction where
  | step (step : Step) (destination : Destination)
  | finish (source : Outcome.Source) (destination : Destination)
  /-- Let the event loop have up to a number of rounds. -/
  | settle (rounds : Nat)
  | networkClosed (platform ticket : Nat)

abbrev Moves := List (Move Instruction)

/-- The place of a platform of multicast DNS, if the script has one. -/
def mdnsPlace : Nat := 0

/-- The registry that the script's own sessions share. -/
def sharedRegistry : Nat := 0

/-- The platform of multicast DNS, if there is one. -/
def mdns? (world : World) : Option Mdns.Platform :=
  match world.platforms[mdnsPlace]? with
  | some (.mdns core) => some core
  | _ => none

def onMdns (operation : Mdns.Platform.Operation) : Move Instruction :=
  .perform (.platform mdnsPlace operation)

/-- What a step does: the new state, the moves, and where its result comes from. -/
structure Plan where
  state : State
  moves : Moves := []
  source : Outcome.Source := .known .nothing

/-- A plan that comes to nothing because what it is about is not there. -/
def Plan.missing (state : State) : Plan :=
  { state, source := .known .missing }

/-- Makes the moves of a plan and then finds out what it came to. -/
def Plan.carryOut (destination : Destination) (plan : Plan) : State × Moves :=
  (plan.state, plan.moves ++ [.watch (.finish plan.source destination)])

def browsePlace (world : World) (state : State) : SessionPlace → Option Nat
  | .alone index => state.browses[index]?
  | .ofFacade index => (world.facades[index]?).map (·.browser)

def publicationPlace (world : World) (state : State) : SessionPlace → Option Nat
  | .alone index => state.publications[index]?
  | .ofFacade index => (world.facades[index]?).map (·.publisher)

def countCallbacks (scripts : List (CallbackKind × CallbackScript)) : Callbacks where
  added := scripts.countP (·.1 = .added)
  updated := scripts.countP (·.1 = .updated)
  removed := scripts.countP (·.1 = .removed)
  published := scripts.countP (·.1 = .published)
  renamed := scripts.countP (·.1 = .renamed)
  error := scripts.countP (·.1 = .error)

/-- The operations that leave a result behind. -/
def queueSource : ResolveQueue.Operation → Outcome.Source
  | .discard _ => .returned
  | _ => .known .nothing

def planEvent (spec : EventSpec) (state : State) (source : Outcome.Source)
    (perform : Event → Operation) : Plan :=
  match spec.event with
  | .ok event => { state, moves := [.perform (perform event)], source }
  | .error fault => { state, moves := [.raise fault] }

def planSession (state : State) (place : Option Nat) (perform : Nat → Operation) : Plan :=
  match place with
  | some index => { state, moves := [.perform (perform index)] }
  | none => { state }

/-- Takes an open resolve out and delivers an outcome for it. What was opened meanwhile comes next,
as often as asked. -/
def planOutcome (platform index count : Nat) (outcome : Outcome) (state : State) : Plan :=
  match state.platforms[platform]? with
  | none => .missing state
  | some found =>
      match found.unanswered[index]? with
      | none => .missing state
      | some (ref, queue) =>
          let after := { found with unanswered := found.unanswered.eraseIdx index }
          { state := { state with platforms := state.platforms.set platform after }
            moves := outcome.moves queue ref
            source :=
              if count ≤ 1 then .known .nothing
              else .delivering platform index (count - 1) outcome }

def planAnswer (index : Nat) (answer : NetworkAnswer) (state : State) : Plan :=
  match state.network.requests[index]? with
  | none => .missing state
  | some (ticket, _) =>
      let network :=
        { state.network with requests := state.network.requests.eraseIdx index }
      { state := { state with network }, moves := answer.moves mdnsPlace ticket }

def planRelease (state : State) : Plan :=
  match state.network.held with
  | [] => .missing state
  | (ticket, response) :: held =>
      { state := { state with network := { state.network with held } }
        moves := [onMdns (.wake ticket response)] }

def planNetwork (change : NetworkChange) (state : State) : Plan where
  state := { state with network := state.network.change change }
  moves := change.hostError.toList.map fun fails => onMdns (.hostAddress (hostAddress fails))

def plan (world : World) (state : State) : Step → Plan
  | .channel fails rounds =>
      { state := { state with channels := state.channels ++ [{ fails, rounds }] }
        source := .known (.number state.channels.length) }
  | .browse channel queue platform =>
      { state := { state with browses := state.browses ++ [world.browsers.length] }
        moves := [.perform (.build (.browse platform queue sharedRegistry (.outside channel)))]
        source := .returned }
  | .publication channel platform =>
      { state := { state with publications := state.publications ++ [world.publications.length] }
        moves := [.perform (.build (.publication platform sharedRegistry (.outside channel)))]
        source := .returned }
  | .facade platform queue registry callbacks =>
      let refused := queue.isSome && registry.isNone
      let state :=
        if refused then state else { state with callbacks := state.callbacks ++ [callbacks] }
      { state
        moves := [.perform (.build (.facade platform queue registry (countCallbacks callbacks)))]
        source := .returned }
  | .attach channel =>
      { state
        moves := [.perform (.registry sharedRegistry (.attach (.outside channel)))]
        source := .returned }
  | .detach token =>
      { state, moves := [.perform (.registry sharedRegistry (.detach token))] }
  | .isAttached token =>
      { state
        moves := [.perform (.registry sharedRegistry (.isAttached token))]
        source := .returned }
  | .deliver token spec =>
      planEvent spec state .returned fun event => .registry sharedRegistry (.deliver token event)
  | .queue index operation =>
      { state, moves := [.perform (.queue index operation)], source := queueSource operation }
  | .enqueueMany index ref session count =>
      { state
        moves := (List.range count).map fun number =>
          let ref := { ref with name := ref.name ++ toString number }
          .perform (.queue index (.enqueue ref session)) }
  | .resolved index ref spec =>
      { state, moves := [.perform (.queue index (.outcome (.resolved ref (spec.answer ref))))] }
  | .outcome platform index outcome count =>
      if count = 0 then { state } else planOutcome platform index count outcome state
  | .fireTimer timer =>
      match state.timers[timer]? with
      | some (queue, number) => { state, moves := [.perform (.queue queue (.timerFired number))] }
      | none => .missing state
  | .onBrowse session operation =>
      planSession state (browsePlace world state session) fun index => .browse index operation
  | .onPublication session operation =>
      planSession state (publicationPlace world state session) fun index =>
        .publication index operation
  | .onFacade facade operation => { state, moves := [.perform (.facade facade operation)] }
  | .publish facade spec =>
      planEvent spec state (.known .nothing) fun event => .facade facade (.publish event)
  | .setPlatform platform change =>
      { state := { state with
          platforms := state.platforms.modify platform (OutsidePlatform.change change) } }
  | .start => { state, moves := [onMdns .start] }
  | .close => { state, moves := [onMdns .close] }
  | .isStarted =>
      if (mdns? world).any (·.started) then { state, source := .known (.truth true) }
      else { state, moves := [.raise .notStarted] }
  | .request label request =>
      { state, moves := [onMdns (.request request (.outside label))] }
  | .setNetwork change => planNetwork change state
  | .announce browser change name type =>
      match mdns? world with
      | some platform =>
          if browser < platform.opened.length then
            let type := type.map Text.Points.ofString
            { state, moves := [onMdns (.announce browser change name type)] }
          else .missing state
      | none => .missing state
  | .answer index answer => planAnswer index answer state
  | .release => planRelease state
  | .batch steps =>
      { state := { state with collected := [] }
        moves := steps.map fun step => .outside (.step step .batch)
        source := .collected }

/-- The result of a step that is over. -/
def resultOf (world : World) (state : State) (source : Outcome.Source) : Result :=
  match world.caught with
  | some fault => .fault fault
  | none =>
      match source with
      | .known result => result
      | .delivering .. => .nothing
      | .collected => .all state.collected
      | .returned => match world.returned with
        | .nothing => .nothing
        | .number n => .number n
        | .truth b => .truth b

def finish (world : World) (source : Outcome.Source) (destination : Destination) (state : State) :
    State :=
  let result := resultOf world state source
  match destination with
  | .top => { state with result }
  | .batch => { state with collected := state.collected ++ [result] }
  | .nested => state.note (.nested result)

/-- How many rounds the event loop gets after a step. Jobs that hand each other in without end still
go on after the next step. -/
def roundsPerStep : Nat := 30

/-- One round of the event loop: a turn for each entry that is there when the round begins. -/
def round (world : World) : Moves :=
  match mdns? world with
  | some platform => List.replicate platform.ready.length (onMdns .turn)
  | none => []

def act (instruction : Instruction) (world : World) (state : State) : State × Moves :=
  match instruction with
  | .step step destination =>
      (plan world state step).carryOut destination
  | .finish (.delivering platform index count outcome) destination =>
      if world.caught.isSome then (finish world (.known .nothing) destination state, [])
      else (planOutcome platform index count outcome state).carryOut destination
  | .finish source destination => (finish world source destination state, [])
  | .settle rounds =>
      match rounds, round world with
      | rounds + 1, turn :: turns => (state, turn :: turns ++ [.outside (.settle rounds)])
      | _, _ => (state, [])
  | .networkClosed platform ticket =>
      (state.note (.network .close), [.perform (.platform platform (.reply ticket .done))])

/-- Runs a list of steps from inside a channel or callback. -/
def nested (steps : List Step) : Moves :=
  steps.map fun step => .outside (.step step .nested)

def answerRequest (platform : Nat) (request : Request) (listener : Listener) (state : State) :
    State × Moves :=
  match state.platforms[platform]? with
  | none => (state, [])
  | some found =>
      let (after, moves) := found.handle listener request
      ({ state with platforms := state.platforms.set platform after }.note
        (.request platform request (found.remembered listener)), moves)

def answerPublish (channel : Nat) (event : Event) (state : State) : State × Moves :=
  match state.channels[channel]? with
  | none => (state, [])
  | some found =>
      let (steps, rounds) := takeRound event.kindName found.rounds
      let failure : Moves :=
        if found.fails then [.raise (.outside .runtime "channel failed")] else []
      ({ state with channels := state.channels.set channel { found with rounds } },
        nested steps ++ failure)

def answerCallback (facade : Nat) (kind : CallbackKind) (number : Nat) (state : State) :
    State × Moves :=
  match state.callbacks[facade]? with
  | none => (state, [])
  | some scripts =>
      let (script, scripts) := takeCallback kind number scripts
      ({ state with callbacks := state.callbacks.set facade scripts },
        match script with
        | .log => []
        | .raise => [.raise (.outside .runtime "bad callback")]
        | .steps rounds => nested (rounds.headD []))

def milliseconds (seconds : Double) : Int :=
  ((Double.ofFloat (seconds.toFloat * 1000)).truncate?).getD 0

/-- Carries out an outcome of a registration, or of the end of one, up to what is broadcast. -/
def settleOutcome (platform ticket : Nat) (outcome : NetworkOutcome) (network : Network) :
    Network × Moves :=
  ({ network with broadcasts := network.broadcasts ++ outcome.broadcasts },
    outcome.moves platform ticket)

/-- The broadcast of the outcome that was carried out last goes out, or is held back. -/
def answerBroadcast (platform ticket : Nat) (network : Network) : Network × Moves :=
  let (outcome, broadcasts) := NetworkOutcome.next network.broadcasts
  if outcome.hold then
    ({ network with broadcasts, held := network.held ++ [(ticket, outcome.response)] }, [])
  else ({ network with broadcasts }, [networkReply platform ticket outcome.response])

def answerNetwork (platform ticket : Nat) (call : Mdns.NetworkCall) (network : Network) :
    Network × Moves :=
  let reply (fails : Bool) (message : String) : Moves :=
    [networkReply platform ticket (if fails then .failed (.outside .system message) else .done)]
  match call with
  | .browse _ => (network, reply network.browserError "no socket")
  | .cancel _ _ => (network, reply network.cancelError "cancel failed")
  | .register _ =>
      let (outcome, rest) := NetworkOutcome.next network.register
      settleOutcome platform ticket outcome { network with register := rest }
  | .unregister _ =>
      let (outcome, rest) := NetworkOutcome.next network.unregister
      settleOutcome platform ticket outcome { network with unregister := rest }
  | .request info _ => ({ network with requests := network.requests ++ [(ticket, info)] }, [])
  | .close =>
      (network, [.outside (.settle roundsPerStep), .outside (.networkClosed platform ticket)])

def answer (call : Call) (_ : World) (state : State) : State × Moves :=
  match call with
  | .request platform request listener =>
      answerRequest platform request listener state
  | .publish channel event => answerPublish channel event (state.note (.event channel event))
  | .callback facade kind number argument =>
      answerCallback facade kind number (state.note (.callback facade kind argument))
  | .notify label notice => (state.note (.notice label notice), [])
  | .startTimer queue timer delay =>
      let note := Note.timerStarted state.timers.length (milliseconds delay)
      ({ state with timers := state.timers ++ [(queue, timer)] }.note note, [])
  | .cancelTimer queue timer =>
      (state.note (.timerCancelled (state.timers.idxOf (queue, timer))), [])
  | .network platform ticket call =>
      let state := match call with
        | .close => state
        | call => state.note (.network call)
      let (network, moves) := answerNetwork platform ticket call state.network
      ({ state with network }, moves)
  | .broadcast platform ticket _ =>
      let (network, moves) := answerBroadcast platform ticket state.network
      ({ state with network }, moves)
  | .closed _ fault => (state, fault.toList.map Move.raise)
  | .log record => (state.note (.record record), [])

def surroundings : Surroundings Instruction State where
  act := act
  answer := answer

/-- A bound on the work of one step that no script comes near. -/
def patience : Nat := 1000000000000

/-- Runs a step and lets the event loops settle. What was taken note of before is forgotten. -/
def runStep (step : Step) (now : Configuration Instruction State) :
    Configuration Instruction State :=
  Configuration.run surroundings patience
    { now with
      around := { now.around with notes := #[], result := .nothing }
      agenda := [.outside (.step step .top), .outside (.settle roundsPerStep)] }

structure QueueSetup where
  platform : Nat := 0
  deduplicate : Bool := false
  retryDelay : Double := .zero

/-- A world with outside platforms, or with multicast DNS alone, and queues over a registry that
they share. -/
def setup (platforms : Nat) (mdns : Option Mdns.Platform) (queues : List QueueSetup) :
    Configuration Instruction State where
  world := {
    registries := [{}]
    platforms := match mdns with
      | some platform => [.mdns platform]
      | none => List.replicate platforms .outside
    queues := queues.map fun queue => {
      platform := queue.platform
      registry := sharedRegistry
      core := { deduplicate := queue.deduplicate, retryDelay := queue.retryDelay } } }
  around := { platforms := List.replicate platforms {} }
  agenda := []

end ServiceDiscovery.Simulation

namespace Driver

/-- Whoever drives simulations from outside shows texts with stand-ins for their halves. -/
scoped instance : Coe ServiceDiscovery.Text.Points String :=
  ⟨ServiceDiscovery.Text.Points.shown⟩

end Driver
