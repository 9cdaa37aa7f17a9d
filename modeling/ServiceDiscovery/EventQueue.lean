import ServiceDiscovery.Event

/-!
A channel that hands events over to an event loop. An event may come from anywhere; it is scheduled,
and stands in the queue only after the loop had a turn. Whoever waits for an event gives the loop as
many turns as it needs.
-/

namespace ServiceDiscovery

structure EventQueue where
  scheduled : List Event := []
  queued : List Event := []
  deriving DecidableEq, Repr

namespace EventQueue

def publish (event : Event) (queue : EventQueue) : EventQueue :=
  { queue with scheduled := queue.scheduled ++ [event] }

/-- The loop gets a turn: all scheduled events enter the queue in their order. -/
def turn (queue : EventQueue) : EventQueue :=
  { scheduled := [], queued := queue.queued ++ queue.scheduled }

def isEmpty (queue : EventQueue) : Bool :=
  queue.queued.isEmpty

/-- Waits for the next event. None comes if none was published. -/
def get (queue : EventQueue) : Option Event × EventQueue :=
  let queue := queue.turn
  (queue.queued.head?, { queue with queued := queue.queued.tail })

end EventQueue

end ServiceDiscovery
