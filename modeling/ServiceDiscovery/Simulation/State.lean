import ServiceDiscovery.Simulation.Script

/-!
The state of simulated surroundings: outside platforms with their settings, channels and callbacks
with the steps they still have to run, the timers made so far, and a network that answers when the
script says so.
-/

namespace ServiceDiscovery.Simulation

structure OutsidePlatform where
  auto : List AutoOutcome := []
  discover : Reaction := .accept
  stop : Reaction := .accept
  register : Reaction := .defer
  unregister : Reaction := .accept
  /-- The type that each listener browsed for last. -/
  types : List (Listener × Text.Points) := []
  /-- References that were asked for and not answered, with the queues that asked, oldest first. -/
  unanswered : List (ServiceRef × Nat) := []

namespace OutsidePlatform

/-- What to do about the next resolve. Items that are used up are passed over. -/
def takeAuto : List AutoOutcome → Option Outcome × List AutoOutcome
  | [] => (none, [])
  | item :: rest =>
      if item.times = 0 then takeAuto rest
      else (item.outcome, { item with times := item.times - 1 } :: rest)

def change (change : PlatformChange) (platform : OutsidePlatform) : OutsidePlatform :=
  { platform with
    auto := change.auto.getD platform.auto
    discover := change.discover.getD platform.discover
    stop := change.stop.getD platform.stop
    register := change.register.getD platform.register
    unregister := change.unregister.getD platform.unregister }

def remember (listener : Listener) (type : Text.Points) (platform : OutsidePlatform) :
    OutsidePlatform :=
  { platform with types := (listener, type) :: platform.types }

def remembered (listener : Listener) (platform : OutsidePlatform) : Text.Points :=
  (platform.types.lookup listener).getD []

variable {ι : Type}

def tellBrowse (listener : Listener) (notice : BrowseNotice) : List (Move ι) :=
  match listener with
  | .member index => [.perform (.browse index (.notice notice))]
  | .outside _ => []

def tellRegistration (listener : Listener) (notice : RegistrationNotice) : List (Move ι) :=
  match listener with
  | .member index => [.perform (.publication index (.notice notice))]
  | .outside _ => []

def malformed (message : String) : Move ι :=
  .raise (.outside .value message)

/-- What a reaction comes to, given what is to be told on success, on success under another name,
and on failure. -/
def react (reaction : Reaction) (accepted : List (Move ι)) (renamed : String → List (Move ι))
    (failed : Int → List (Move ι)) : List (Move ι) :=
  match reaction with
  | .accept => accepted
  | .defer => []
  | .fail code => failed code
  | .rename name => renamed name
  | .refuse fault => [.raise fault]

def handle (listener : Listener) (platform : OutsidePlatform) :
    Request → OutsidePlatform × List (Move ι)
  | .resolve ref =>
      let (outcome, auto) := takeAuto platform.auto
      let platform := { platform with auto }
      match listener, outcome with
      | .member queue, some outcome => (platform, outcome.moves queue ref)
      | .member queue, none =>
          ({ platform with unanswered := platform.unanswered ++ [(ref, queue)] }, [])
      | .outside _, _ => (platform, [])
  | .discover type =>
      if type.head? ≠ some (.char '_') then (platform, [malformed "bad service type"])
      else
        (platform.remember listener type,
          react platform.discover (tellBrowse listener (.started type)) (fun _ => [])
            fun code => tellBrowse listener (.startFailed type code))
  | .stopDiscovery =>
      let type := platform.remembered listener
      (platform, react platform.stop (tellBrowse listener (.stopped type)) (fun _ => [])
        fun code => tellBrowse listener (.stopFailed type code))
  | .register name type port _ =>
      if name = [] then (platform, [malformed "malformed service"])
      else match Port.isValid? port with
      | none => (platform, [.raise .wrongType])
      | some false => (platform, [malformed "malformed service"])
      | some true =>
          (platform, react platform.register (tellRegistration listener (.registered name type))
            (fun name => tellRegistration listener (.registered name type))
            fun code => tellRegistration listener (.failed code))
  | .unregister =>
      (platform, react platform.unregister (tellRegistration listener .unregistered) (fun _ => [])
        fun code => tellRegistration listener (.unregistrationFailed code))

end OutsidePlatform

structure Channel where
  fails : Bool
  rounds : List (String × List (List Step))

/-- Takes the first list of steps for a kind of event. -/
def takeRound (kind : String) :
    List (String × List (List Step)) → List Step × List (String × List (List Step))
  | [] => ([], [])
  | (name, rounds) :: rest =>
      if name = kind then (rounds.headD [], (name, rounds.tail) :: rest)
      else
        let (steps, rest) := takeRound kind rest
        (steps, (name, rounds) :: rest)

/-- Takes what the callback of a kind with a number does next. -/
def takeCallback (kind : CallbackKind) :
    Nat → List (CallbackKind × CallbackScript) →
      CallbackScript × List (CallbackKind × CallbackScript)
  | _, [] => (.log, [])
  | number, (k, script) :: rest =>
      if k ≠ kind then
        let (taken, rest) := takeCallback kind number rest
        (taken, (k, script) :: rest)
      else match number with
        | 0 => match script with
          | .steps rounds => (script, (k, .steps rounds.tail) :: rest)
          | _ => (script, (k, script) :: rest)
        | number + 1 =>
            let (taken, rest) := takeCallback kind number rest
            (taken, (k, script) :: rest)

structure Network where
  browserError : Bool := false
  cancelError : Bool := false
  register : List NetworkOutcome := []
  unregister : List NetworkOutcome := []
  /-- Outcomes of which something is going to be broadcast. -/
  broadcasts : List NetworkOutcome := []
  /-- Requests that were not answered, by their tickets, oldest first. -/
  requests : List (Nat × Mdns.ServiceInfo) := []
  /-- Broadcasts that are held, with what they will come to, oldest first. -/
  held : List (Nat × Mdns.Response) := []

namespace Network

def change (change : NetworkChange) (network : Network) : Network :=
  { network with
    browserError := change.browserError.getD network.browserError
    cancelError := change.cancelError.getD network.cancelError
    register := change.register.getD network.register
    unregister := change.unregister.getD network.unregister }

end Network

structure State where
  platforms : List OutsidePlatform := []
  channels : List Channel := []
  callbacks : List (List (CallbackKind × CallbackScript)) := []
  /-- The sessions that were made on their own, by their places in the world. -/
  browses : List Nat := []
  publications : List Nat := []
  /-- Queue and number of each timer, in the order in which timers were made. -/
  timers : List (Nat × Nat) := []
  network : Network := {}
  notes : Array Note := #[]
  /-- What the steps of a batch came to so far. -/
  collected : List Result := []
  result : Result := .nothing

def State.note (note : Note) (state : State) : State :=
  { state with notes := state.notes.push note }

end ServiceDiscovery.Simulation
