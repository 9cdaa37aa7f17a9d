import ServiceDiscovery.BrowseSession
import ServiceDiscovery.Facade
import ServiceDiscovery.Mdns.Platform
import ServiceDiscovery.PublicationSession
import ServiceDiscovery.ResolveQueue

/-!
A world of registries, queues, sessions, facades and platforms, each known by its place in a list,
with the wires between them. Members are only ever added, so a place stays good for ever.
-/

namespace ServiceDiscovery

structure QueueNode where
  platform : Nat
  registry : Nat
  core : ResolveQueue
  deriving Repr

structure BrowseNode where
  platform : Nat
  queue : Nat
  registry : Nat
  core : BrowseSession
  deriving Repr

structure PublicationNode where
  platform : Nat
  registry : Nat
  core : PublicationSession
  deriving Repr

structure FacadeNode where
  queue : Nat
  browser : Nat
  publisher : Nat
  core : Facade
  deriving Repr

/-- A platform outside, of which nothing is known but what it does, or multicast DNS. -/
inductive PlatformNode where
  | outside
  | mdns (core : Mdns.Platform)

/-- What the latest call with a result returned. -/
inductive Answer where
  | nothing
  | number (n : Int)
  | truth (b : Bool)
  deriving DecidableEq, Repr

structure World where
  registries : List ChannelRegistry := []
  queues : List QueueNode := []
  browsers : List BrowseNode := []
  publications : List PublicationNode := []
  facades : List FacadeNode := []
  platforms : List PlatformNode := []
  returned : Answer := .nothing
  /-- The fault that was caught last. -/
  caught : Option Fault := none

/-- Adding members. A session is attached to its registry when it is made. -/
inductive Build where
  | registry
  | platform (platform : PlatformNode)
  | queue (platform registry : Nat) (core : ResolveQueue)
  | browse (platform queue registry : Nat) (receiver : Receiver)
  | publication (platform registry : Nat) (receiver : Receiver)
  /-- A facade brings its own registry and queue where none are given. -/
  | facade (platform : Nat) (queue registry : Option Nat) (callbacks : Callbacks)

inductive Operation where
  | build (build : Build)
  | registry (index : Nat) (operation : ChannelRegistry.Operation)
  | queue (index : Nat) (operation : ResolveQueue.Operation)
  | browse (index : Nat) (operation : BrowseSession.Operation)
  | publication (index : Nat) (operation : PublicationSession.Operation)
  | facade (index : Nat) (operation : Facade.Operation)
  | platform (index : Nat) (operation : Mdns.Platform.Operation)

namespace World

/-- Gives a receiver a token of a registry. -/
def attach (registry : Nat) (receiver : Receiver) (world : World) : Token × World :=
  match world.registries[registry]? with
  | none => (0, world)
  | some found =>
      let (token, after) := found.attach receiver
      (token, { world with registries := world.registries.set registry after })

def addRegistry (world : World) : Nat × World :=
  (world.registries.length, { world with registries := world.registries ++ [{}] })

def addQueue (platform registry : Nat) (core : ResolveQueue) (world : World) : Nat × World :=
  (world.queues.length, { world with queues := world.queues ++ [{ platform, registry, core }] })

def addBrowse (platform queue registry : Nat) (receiver : Receiver) (world : World) :
    Token × World :=
  let (token, world) := world.attach registry receiver
  let node := { platform, queue, registry, core := { token } }
  (token, { world with browsers := world.browsers ++ [node] })

def addPublication (platform registry : Nat) (receiver : Receiver) (world : World) :
    Token × World :=
  let (token, world) := world.attach registry receiver
  let node := { platform, registry, core := { token } }
  (token, { world with publications := world.publications ++ [node] })

/-- Adds a facade with its two sessions. A shared queue must come with its registry. -/
def addFacade (platform : Nat) (queue registry : Option Nat) (callbacks : Callbacks)
    (world : World) : Except Fault (Nat × World) :=
  if queue.isSome && registry.isNone then .error .registryMissing
  else
    let (registry, world) := match registry with
      | some registry => (registry, world)
      | none => world.addRegistry
    let (queue, world) := match queue with
      | some queue => (queue, world)
      | none => world.addQueue platform registry {}
    let facade := world.facades.length
    let browser := world.browsers.length
    let publisher := world.publications.length
    let (_, world) := world.addBrowse platform queue registry (.facade facade)
    let (_, world) := world.addPublication platform registry (.facade facade)
    let node := { queue, browser, publisher, core := { callbacks } }
    .ok (facade, { world with facades := world.facades ++ [node] })

/-- A world with a member at a place. -/
def placed (made : Nat × World) : Int × World :=
  (made.1, made.2)

/-- Adds a member and tells its place, or its token if it is a session. -/
def build : Build → World → Except Fault (Int × World)
  | .registry, world => .ok (placed world.addRegistry)
  | .platform node, world =>
      .ok (world.platforms.length, { world with platforms := world.platforms ++ [node] })
  | .queue platform registry core, world => .ok (placed (world.addQueue platform registry core))
  | .browse platform queue registry receiver, world =>
      .ok (world.addBrowse platform queue registry receiver)
  | .publication platform registry receiver, world =>
      .ok (world.addPublication platform registry receiver)
  | .facade platform queue registry callbacks, world =>
      (world.addFacade platform queue registry callbacks).map placed

end World

end ServiceDiscovery
