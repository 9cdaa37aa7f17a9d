import ServiceDiscovery.World

/-!
How a world runs. All work that is still to be done lies on an agenda, the next task in front. A
task changes one member and puts its effects in front of everything else, so calls nest as deep as
they like while the agenda stays a plain list. A fault takes tasks off the agenda until it finds one
that handles it.

Whatever is not part of the world belongs to the surroundings: channels, callbacks, outside
platforms, the network and the clock. They hear of each call that reaches them and answer with moves
of their own, any number of operations in any order, and they may fail. Nothing else is assumed of
them, so what holds in every run holds whatever they do.
-/

namespace ServiceDiscovery

/-- What reaches the surroundings. -/
inductive Call where
  | request (platform : Nat) (request : Request) (listener : Listener)
  | publish (channel : Nat) (event : Event)
  | callback (facade : Nat) (kind : CallbackKind) (index : Nat) (argument : CallbackArgument)
  | notify (label : String) (notice : Notice)
  | startTimer (queue timer : Nat) (delay : Double)
  | cancelTimer (queue timer : Nat)
  | network (platform ticket : Nat) (call : Mdns.NetworkCall)
  | broadcast (platform ticket : Nat) (info : Mdns.ServiceInfo)
  | closed (platform : Nat) (fault : Option Fault)
  | log (record : Log.Record)

/-- What the surroundings can do. Instructions of their own have the type `ι`. -/
inductive Move (ι : Type) where
  | perform (operation : Operation)
  | outside (instruction : ι)
  /-- Hold up any fault of the moves before this one, and go on with an instruction. -/
  | watch (instruction : ι)
  | raise (fault : Fault)

/-- Work on the agenda. -/
inductive Work (ι : Type) where
  | build (build : Build)
  | registry (index : Nat) (task : ChannelRegistry.Task)
  | queue (index : Nat) (task : ResolveQueue.Task)
  | browse (index : Nat) (task : BrowseSession.Task)
  | publication (index : Nat) (task : PublicationSession.Task)
  | facade (index : Nat) (task : Facade.Task)
  | platform (index : Nat) (task : Mdns.Platform.Task)
  /-- A request on its way to a platform of either kind. -/
  | request (platform : Nat) (request : Request) (listener : Listener)
  /-- A notice on its way to a listener. -/
  | notify (listener : Listener) (notice : Notice)
  | call (call : Call)
  | answer (answer : Answer)
  | outside (instruction : ι)
  | watch (instruction : ι)
  | raise (fault : Fault)

/-- The surroundings have a state of type `σ`. They act on their own instructions and answer to
calls that reach them. -/
structure Surroundings (ι σ : Type) where
  act : ι → World → σ → σ × List (Move ι)
  answer : Call → World → σ → σ × List (Move ι)

namespace Operation

def work {ι : Type} : Operation → Work ι
  | .build member => .build member
  | .registry index operation => .registry index (.call operation)
  | .queue index operation => .queue index (.call operation)
  | .browse index operation => .browse index (.call operation)
  | .publication index operation => .publication index (.call operation)
  | .facade index operation => .facade index (.call operation)
  | .platform index operation => .platform index (.call operation)

end Operation

def Move.work {ι : Type} : Move ι → Work ι
  | .perform operation => operation.work
  | .outside instruction => .outside instruction
  | .watch instruction => .watch instruction
  | .raise fault => .raise fault

/-! Effects of members become tasks by the wires that lead from the member. -/

def ChannelRegistry.Effect.work {ι : Type} (index : Nat) : ChannelRegistry.Effect → Work ι
  | .own task => .registry index task
  | .publish (.facade facade) event => .facade facade (.call (.publish event))
  | .publish (.outside channel) event => .call (.publish channel event)
  | .log record => .call (.log record)
  | .answerToken token => .answer (.number token)
  | .answerTruth b => .answer (.truth b)

def ResolveQueue.Effect.work {ι : Type} (index : Nat) (node : QueueNode) :
    ResolveQueue.Effect → Work ι
  | .own task => .queue index task
  | .resolve ref => .request node.platform (.resolve ref) (.member index)
  | .deliver session event => .registry node.registry (.call (.deliver session event))
  | .startTimer timer => .call (.startTimer index timer node.core.retryDelay)
  | .cancelTimer timer => .call (.cancelTimer index timer)
  | .log record => .call (.log record)
  | .answerNumber n => .answer (.number n)

def BrowseSession.Effect.work {ι : Type} (index : Nat) (node : BrowseNode) :
    BrowseSession.Effect → Work ι
  | .own task => .browse index task
  | .request asked => .request node.platform asked (.member index)
  | .enqueue ref => .queue node.queue (.call (.enqueue ref node.core.token))
  | .discard => .queue node.queue (.call (.discard node.core.token))
  | .detach => .registry node.registry (.call (.detach node.core.token))
  | .deliver event => .registry node.registry (.call (.deliver node.core.token event))
  | .log record => .call (.log record)
  | .raise fault => .raise fault

def PublicationSession.Effect.work {ι : Type} (index : Nat) (node : PublicationNode) :
    PublicationSession.Effect → Work ι
  | .own task => .publication index task
  | .request asked => .request node.platform asked (.member index)
  | .detach => .registry node.registry (.call (.detach node.core.token))
  | .deliver event => .registry node.registry (.call (.deliver node.core.token event))
  | .log record => .call (.log record)
  | .raise fault => .raise fault

def Facade.Effect.work {ι : Type} (index : Nat) (node : FacadeNode) : Facade.Effect → Work ι
  | .own task => .facade index task
  | .browse operation => .browse node.browser (.call operation)
  | .publication operation => .publication node.publisher (.call operation)
  | .callback kind place argument => .call (.callback index kind place argument)
  | .log record => .call (.log record)

def Mdns.Platform.Effect.work {ι : Type} (index : Nat) : Mdns.Platform.Effect → Work ι
  | .own task => .platform index task
  | .notify listener notice => .notify listener notice
  | .network ticket call => .call (.network index ticket call)
  | .broadcast ticket info => .call (.broadcast index ticket info)
  | .log record => .call (.log record)
  | .raise fault => .raise fault
  | .closed fault => .call (.closed index fault)

namespace World

/-! Putting a member back after it ran, and turning its effects into tasks. A place at which nobody
is has no effects. -/

def runRegistry {ι : Type} (index : Nat)
    (run : ChannelRegistry → ChannelRegistry × List ChannelRegistry.Effect) (world : World) :
    World × List (Work ι) :=
  match world.registries[index]? with
  | none => (world, [])
  | some registry =>
      let (registry, effects) := run registry
      ({ world with registries := world.registries.set index registry },
        effects.map (·.work index))

def runQueue {ι : Type} (index : Nat)
    (run : ResolveQueue → ResolveQueue × List ResolveQueue.Effect) (world : World) :
    World × List (Work ι) :=
  match world.queues[index]? with
  | none => (world, [])
  | some node =>
      let (core, effects) := run node.core
      ({ world with queues := world.queues.set index { node with core } },
        effects.map (·.work index node))

def runBrowse {ι : Type} (index : Nat)
    (run : BrowseSession → BrowseSession × List BrowseSession.Effect) (world : World) :
    World × List (Work ι) :=
  match world.browsers[index]? with
  | none => (world, [])
  | some node =>
      let (core, effects) := run node.core
      ({ world with browsers := world.browsers.set index { node with core } },
        effects.map (·.work index node))

def runPublication {ι : Type} (index : Nat)
    (run : PublicationSession → PublicationSession × List PublicationSession.Effect)
    (world : World) : World × List (Work ι) :=
  match world.publications[index]? with
  | none => (world, [])
  | some node =>
      let (core, effects) := run node.core
      ({ world with publications := world.publications.set index { node with core } },
        effects.map (·.work index node))

def runFacade {ι : Type} (index : Nat) (run : Facade → Facade × List Facade.Effect)
    (world : World) : World × List (Work ι) :=
  match world.facades[index]? with
  | none => (world, [])
  | some node =>
      let (core, effects) := run node.core
      ({ world with facades := world.facades.set index { node with core } },
        effects.map (·.work index node))

def runPlatform {ι : Type} (index : Nat)
    (run : Mdns.Platform → Mdns.Platform × List Mdns.Platform.Effect) (world : World) :
    World × List (Work ι) :=
  match world.platforms[index]? with
  | some (.mdns core) =>
      let (core, effects) := run core
      ({ world with platforms := world.platforms.set index (.mdns core) },
        effects.map (·.work index))
  | _ => (world, [])

/-- Where a request goes: to the surroundings if the platform is outside. -/
def route {ι : Type} (platform : Nat) (request : Request) (listener : Listener) (world : World) :
    Work ι :=
  match world.platforms[platform]? with
  | some (.mdns _) => .platform platform (.call (.request request listener))
  | _ => .call (.request platform request listener)

/-- Where a notice goes: to the session or queue at the listener's place, or outside. -/
def deliverNotice {ι : Type} : Listener → Notice → Work ι
  | .outside label, notice => .call (.notify label notice)
  | .member index, .browse notice => .browse index (.call (.notice notice))
  | .member index, .registration notice => .publication index (.call (.notice notice))
  | .member index, .resolve outcome => .queue index (.call (.outcome outcome))

/-- Runs a task that is the world's own. Tasks for the surroundings are left to them. -/
def run {ι : Type} : Work ι → World → World × List (Work ι)
  | .build build, world =>
      match world.build build with
      | .ok (place, world) => (world, [.answer (.number place)])
      | .error fault => (world, [.raise fault])
  | .registry index task, world => world.runRegistry index (ChannelRegistry.step task)
  | .queue index task, world => world.runQueue index (ResolveQueue.step task)
  | .browse index task, world => world.runBrowse index (BrowseSession.step task)
  | .publication index task, world => world.runPublication index (PublicationSession.step task)
  | .facade index task, world => world.runFacade index (Facade.step task)
  | .platform index task, world => world.runPlatform index (Mdns.Platform.step task)
  | .request platform request listener, world => (world, [world.route platform request listener])
  | .notify listener notice, world => (world, [deliverNotice listener notice])
  | .answer answer, world => ({ world with returned := answer }, [])
  | .call _, world | .outside _, world | .watch _, world | .raise _, world => (world, [])

/-- Lets a member recover from a fault, if it does. -/
def recoverWith {α ε ι : Type} (found : Option α) (recover : α → Option (α × List ε))
    (put : α → World) (work : α → ε → Work ι) : Option (World × List (Work ι)) :=
  match found with
  | none => none
  | some member => (recover member).map fun after => (put after.1, after.2.map (work member))

/-- What a task on the agenda makes of a fault that reaches it. Most tasks are dropped. -/
def recover {ι : Type} (fault : Fault) : Work ι → World → Option (World × List (Work ι))
  | .registry index task, world =>
      recoverWith world.registries[index]? (ChannelRegistry.recover task fault)
        (fun after => { world with registries := world.registries.set index after })
        fun _ effect => effect.work index
  | .queue index task, world =>
      recoverWith world.queues[index]?
        (fun node => (ResolveQueue.recover task fault node.core).map fun after =>
          ({ node with core := after.1 }, after.2))
        (fun after => { world with queues := world.queues.set index after })
        fun node effect => effect.work index node
  | .browse index task, world =>
      recoverWith world.browsers[index]?
        (fun node => (BrowseSession.recover task fault node.core).map fun after =>
          ({ node with core := after.1 }, after.2))
        (fun after => { world with browsers := world.browsers.set index after })
        fun node effect => effect.work index node
  | .publication index task, world =>
      recoverWith world.publications[index]?
        (fun node => (PublicationSession.recover task fault node.core).map fun after =>
          ({ node with core := after.1 }, after.2))
        (fun after => { world with publications := world.publications.set index after })
        fun node effect => effect.work index node
  | .facade index task, world =>
      recoverWith world.facades[index]?
        (fun node => (Facade.recover task fault node.core).map fun after =>
          ({ node with core := after.1 }, after.2))
        (fun after => { world with facades := world.facades.set index after })
        fun node effect => effect.work index node
  | .platform index task, world =>
      match world.platforms[index]? with
      | some (.mdns core) =>
          (Mdns.Platform.recover task fault core).map fun after =>
            ({ world with platforms := world.platforms.set index (.mdns after.1) },
              after.2.map (·.work index))
      | _ => none
  | .watch instruction, world =>
      some ({ world with caught := some fault }, [.outside instruction])
  | _, _ => none

/-- Takes tasks off the agenda until one handles the fault. If none does, all work is gone. -/
def unwind {ι : Type} (fault : Fault) (world : World) : List (Work ι) → World × List (Work ι)
  | [] => ({ world with caught := some fault }, [])
  | task :: rest =>
      match recover fault task world with
      | some (world, tasks) => (world, tasks ++ rest)
      | none => unwind fault world rest

end World

/-- A world, the state of its surroundings, and the work to be done. -/
structure Configuration (ι σ : Type) where
  world : World
  around : σ
  agenda : List (Work ι)

namespace Configuration

variable {ι σ : Type}

def step (surroundings : Surroundings ι σ) (now : Configuration ι σ) :
    Option (Configuration ι σ) :=
  match now.agenda with
  | [] => none
  | .call call :: rest =>
      let (around, moves) := surroundings.answer call now.world now.around
      some { now with around, agenda := moves.map Move.work ++ rest }
  | .outside instruction :: rest =>
      let (around, moves) := surroundings.act instruction now.world now.around
      some { now with around, agenda := moves.map Move.work ++ rest }
  | .watch instruction :: rest =>
      some { now with
        world := { now.world with caught := none }
        agenda := .outside instruction :: rest }
  | .raise fault :: rest =>
      let (world, agenda) := now.world.unwind fault rest
      some { now with world, agenda }
  | task :: rest =>
      let (world, tasks) := now.world.run task
      some { now with world, agenda := tasks ++ rest }

def run (surroundings : Surroundings ι σ) : Nat → Configuration ι σ → Configuration ι σ
  | 0, now => now
  | steps + 1, now =>
      match now.step surroundings with
      | none => now
      | some after => run surroundings steps after

/-- One configuration comes from another by doing tasks. -/
inductive Reaches (surroundings : Surroundings ι σ) :
    Configuration ι σ → Configuration ι σ → Prop where
  | refl (now : Configuration ι σ) : Reaches surroundings now now
  | tail {start now after : Configuration ι σ} (run : Reaches surroundings start now)
      (step : now.step surroundings = some after) : Reaches surroundings start after

theorem Reaches.trans {surroundings : Surroundings ι σ} {a b c : Configuration ι σ}
    (first : Reaches surroundings a b) (second : Reaches surroundings b c) :
    Reaches surroundings a c := by
  induction second with
  | refl => exact first
  | tail _ step ih => exact .tail ih step

end Configuration

end ServiceDiscovery
