import ServiceDiscovery.Event
import ServiceDiscovery.Log.Record

/-!
Tokens that stand for event channels. Whoever reports to a channel holds its token only, and the
registry looks the channel up for each event. Once a token is detached, events for it are dropped.
A channel that fails on an event keeps nobody else from running: the failure is logged and counts as
not delivered.
-/

namespace ServiceDiscovery

/-- Tokens that are given out count from one. Any other whole number is a token of nobody. -/
abbrev Token := Int

/-- Who is behind a channel: a facade of this system, or a channel outside. -/
inductive Receiver where
  | facade (index : Nat)
  | outside (index : Nat)
  deriving DecidableEq, Repr

/-- The channels attached now, and how many tokens were given out so far. -/
structure ChannelRegistry where
  channels : List (Token × Receiver) := []
  issued : Nat := 0
  deriving DecidableEq, Repr

namespace ChannelRegistry

inductive Operation where
  | attach (receiver : Receiver)
  | detach (token : Token)
  | isAttached (token : Token)
  | deliver (token : Token) (event : Event)
  deriving DecidableEq, Repr

inductive Task where
  | call (operation : Operation)
  /-- A channel is being given an event. -/
  | delivering (token : Token) (event : Event)
  deriving DecidableEq, Repr

inductive Effect where
  | own (task : Task)
  | publish (receiver : Receiver) (event : Event)
  | log (record : Log.Record)
  | answerToken (token : Token)
  | answerTruth (b : Bool)
  deriving DecidableEq, Repr

def component : String := "nsdkit.events"

/-- Gives a receiver the next token. Tokens count from one and are never given out twice. -/
def attach (receiver : Receiver) (registry : ChannelRegistry) : Token × ChannelRegistry :=
  let number := registry.issued + 1
  (number, { channels := registry.channels ++ [((number : Token), receiver)], issued := number })

def detach (token : Token) (registry : ChannelRegistry) : ChannelRegistry :=
  { registry with channels := registry.channels.filter (·.1 ≠ token) }

def receiver? (token : Token) (registry : ChannelRegistry) : Option Receiver :=
  (registry.channels.find? (·.1 = token)).map (·.2)

def isAttached (token : Token) (registry : ChannelRegistry) : Bool :=
  registry.channels.any (·.1 = token)

def size (registry : ChannelRegistry) : Nat :=
  registry.channels.length

def dropped (token : Token) (event : Event) : Log.Record :=
  { level := Log.Level.debug
    component
    message := "Dropping " ++ event.text ++ " for detached session " ++ Text.ofInt token
    fault := none }

def channelFailed (token : Token) (event : Event) (fault : Fault) : Log.Record :=
  { level := Log.Level.error
    component
    message := "Event channel for session " ++ Text.ofInt token ++ " failed on " ++ event.text
    fault }

/-- Runs a task. The channel is looked up before it is given the event, so it may detach itself or
others meanwhile. -/
def step : Task → ChannelRegistry → ChannelRegistry × List Effect
  | .call (.attach receiver), registry =>
      let (token, registry) := registry.attach receiver
      (registry, [.answerToken token])
  | .call (.detach token), registry => (registry.detach token, [])
  | .call (.isAttached token), registry => (registry, [.answerTruth (registry.isAttached token)])
  | .call (.deliver token event), registry =>
      match registry.receiver? token with
      | none => (registry, [.log (dropped token event), .answerTruth false])
      | some receiver => (registry, [.publish receiver event, .own (.delivering token event)])
  | .delivering _ _, registry => (registry, [.answerTruth true])

/-- What happens when a fault reaches a task. A failing channel is logged. -/
def recover : Task → Fault → ChannelRegistry → Option (ChannelRegistry × List Effect)
  | .delivering token event, fault, registry =>
      some (registry, [.log (channelFailed token event fault), .answerTruth false])
  | .call _, _, _ => none

end ChannelRegistry

end ServiceDiscovery
