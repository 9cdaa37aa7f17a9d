import ServiceDiscovery.Simulation.Network

/-!
Scripts that a world can be put through. A script is a list of steps; a step does one thing to the
world or changes how its simulated surroundings are going to behave. Channels and callbacks may have
steps of their own, which they run when they are called.
-/

namespace ServiceDiscovery.Simulation

/-- A resolve answer that is spelled out in part. What is left out is filled in from the reference
that was asked for and from a sample host. -/
structure AnswerSpec where
  name : Option String := none
  type : Option String := none
  hostname : Option String := none
  address : Option String := none
  port : Option Int := none
  attributes : Option (List (Value × Value)) := some []
  deriving Repr

def AnswerSpec.answer (ref : ServiceRef) (spec : AnswerSpec) : ResolveAnswer where
  name := (spec.name.map Text.Points.ofString).getD ref.name
  type := (spec.type.map Text.Points.ofString).getD ref.type
  hostname := spec.hostname.getD "host.local"
  address := spec.address.getD "192.168.1.10"
  port := spec.port.getD 80
  attributes := spec.attributes

/-- An event, or the answer that a resolved service is to be made from. -/
inductive EventSpec where
  | plain (event : Event)
  | resolved (spec : AnswerSpec)
  deriving Repr

def EventSpec.event : EventSpec → Except Fault Event
  | plain event => .ok event
  | resolved spec => (ResolvedService.ofAnswer (spec.answer { name := "", type := "" })).map
      .serviceResolved

/-- What an outside platform does about a resolve. -/
inductive Outcome where
  | resolved (spec : AnswerSpec)
  | failed (code : Int)
  | raised (fault : Fault)
  /-- An outcome for a reference that was not asked for. -/
  | stale (outcome : Outcome) (ref : ServiceRef)
  | sequence (outcomes : List Outcome)

mutual

/-- The moves that deliver an outcome to a queue. -/
def Outcome.moves {ι : Type} (queue : Nat) (ref : ServiceRef) : Outcome → List (Move ι)
  | .resolved spec => [.perform (.queue queue (.outcome (.resolved ref (spec.answer ref))))]
  | .failed code => [.perform (.queue queue (.outcome (.failed ref code)))]
  | .raised fault => [.raise fault]
  | .stale outcome other => outcome.moves queue other
  | .sequence outcomes => Outcome.allMoves queue ref outcomes

def Outcome.allMoves {ι : Type} (queue : Nat) (ref : ServiceRef) : List Outcome → List (Move ι)
  | [] => []
  | outcome :: rest => outcome.moves queue ref ++ Outcome.allMoves queue ref rest

end

/-- What an outside platform does about the next resolves: an outcome, or none to leave them open.
-/
structure AutoOutcome where
  outcome : Option Outcome
  times : Nat

/-- What an outside platform does about any other request. -/
inductive Reaction where
  | accept
  | defer
  | fail (code : Int)
  | rename (name : String)
  | refuse (fault : Fault)
  deriving Repr

/-- Changes of an outside platform's settings. What is left out stays as it is. -/
structure PlatformChange where
  auto : Option (List AutoOutcome) := none
  discover : Option Reaction := none
  stop : Option Reaction := none
  register : Option Reaction := none
  unregister : Option Reaction := none

/-- Changes of the network's settings. What is left out stays as it is. -/
structure NetworkChange where
  browserError : Option Bool := none
  cancelError : Option Bool := none
  hostError : Option Bool := none
  register : Option (List NetworkOutcome) := none
  unregister : Option (List NetworkOutcome) := none

/-- A session is given by its place among those made on their own, or by the facade it is part of.
-/
inductive SessionPlace where
  | alone (index : Nat)
  | ofFacade (index : Nat)
  deriving DecidableEq, Repr

mutual

inductive CallbackScript where
  | log
  | raise
  | steps (rounds : List (List Step))

inductive Step where
  /-- A new channel. For events by their kinds it has steps to run, one list for each event. -/
  | channel (fails : Bool) (rounds : List (String × List (List Step)))
  | browse (channel queue platform : Nat)
  | publication (channel platform : Nat)
  | facade (platform : Nat) (queue registry : Option Nat)
      (callbacks : List (CallbackKind × CallbackScript))
  | attach (channel : Nat)
  | detach (token : Token)
  | isAttached (token : Token)
  | deliver (token : Token) (event : EventSpec)
  | queue (index : Nat) (operation : ResolveQueue.Operation)
  /-- A number of references with numbered names. -/
  | enqueueMany (index : Nat) (ref : ServiceRef) (session : Token) (count : Nat)
  | resolved (index : Nat) (ref : ServiceRef) (spec : AnswerSpec)
  | outcome (platform index : Nat) (outcome : Outcome) (count : Nat)
  | fireTimer (timer : Nat)
  | onBrowse (session : SessionPlace) (operation : BrowseSession.Operation)
  | onPublication (session : SessionPlace) (operation : PublicationSession.Operation)
  | onFacade (facade : Nat) (operation : Facade.Operation)
  | publish (facade : Nat) (event : EventSpec)
  | setPlatform (platform : Nat) (change : PlatformChange)
  | start
  | close
  | isStarted
  | request (label : String) (request : Request)
  | setNetwork (change : NetworkChange)
  | announce (browser : Nat) (change : Mdns.Platform.Change) (name : String)
      (type : Option String)
  | answer (index : Nat) (answer : NetworkAnswer)
  | release
  /-- Steps that follow each other before the event loop gets a turn. -/
  | batch (steps : List Step)

end

inductive Result where
  | nothing
  | number (n : Int)
  | truth (b : Bool)
  /-- There is no such open resolve, timer, browser, request or held task. -/
  | missing
  | fault (fault : Fault)
  | all (results : List Result)

/-- What is taken note of while a step runs. -/
inductive Note where
  /-- A request, with the type that its listener browsed for last. -/
  | request (platform : Nat) (request : Request) (browsed : Text.Points)
  | event (channel : Nat) (event : Event)
  | callback (facade : Nat) (kind : CallbackKind) (argument : CallbackArgument)
  | timerStarted (timer : Nat) (milliseconds : Int)
  | timerCancelled (timer : Nat)
  | nested (result : Result)
  | record (record : Log.Record)
  | network (call : Mdns.NetworkCall)
  | notice (label : String) (notice : Notice)

end ServiceDiscovery.Simulation
