import ServiceDiscovery.ChannelRegistry
import ServiceDiscovery.Number.Double
import ServiceDiscovery.Platform

/-!
A queue in front of a resolver that can work on one request only. Requests wait in the order of
their arrival and are handed to the platform one at a time, each after the outcome of the one
before. A request that finds the resolver busy goes back to the end; any other failure ends it.

The queue is a machine: each task changes the state and asks for effects, which are carried out in
order before whatever was to come next. An effect may lead back into the queue, since a platform may
answer at once and a channel may call whatever it likes, so draining is marked while it goes on:
only the round that set the mark claims requests, and every other attempt to drain ends at once.
-/

namespace ServiceDiscovery

/-- A reference that waits to be resolved, and the session that asked for it. -/
structure ResolveRequest where
  ref : ServiceRef
  session : Token
  deriving DecidableEq, Repr

structure ResolveQueue where
  /-- Skip a request that is waiting or under way for the same session already. -/
  deduplicate : Bool := false
  /-- Seconds to hold off after a busy answer. -/
  retryDelay : Double := .zero
  pending : List ResolveRequest := []
  inFlight : Option ResolveRequest := none
  /-- The timer that ends the present hold-off. -/
  holdOff : Option Nat := none
  draining : Bool := false
  /-- How many timers were made so far. They are numbered from zero. -/
  timers : Nat := 0
  enqueued : Nat := 0
  resolved : Nat := 0
  failed : Nat := 0
  retried : Nat := 0
  skipped : Nat := 0
  deriving DecidableEq, Repr

namespace ResolveQueue

inductive Operation where
  | enqueue (ref : ServiceRef) (session : Token)
  | discard (session : Token)
  | clear
  | outcome (outcome : ResolveOutcome)
  | timerFired (timer : Nat)
  deriving Repr

inductive Task where
  | call (operation : Operation)
  /-- Start to hand out requests, unless that is going on. -/
  | drain
  /-- Hand out the next request, or stop draining. -/
  | next
  /-- The platform is being asked to resolve a reference. -/
  | resolving (ref : ServiceRef)
  deriving Repr

inductive Effect where
  | own (task : Task)
  | resolve (ref : ServiceRef)
  | deliver (session : Token) (event : Event)
  | startTimer (timer : Nat)
  | cancelTimer (timer : Nat)
  | log (record : Log.Record)
  | answerNumber (n : Nat)
  deriving Repr

def component : String := "nsdkit.resolve_queue"

def debug (message : Text.Points) : Effect :=
  .log { level := Log.Level.debug, component, message, fault := none }

def exception (message : Text.Points) (fault : Fault) : Effect :=
  .log { level := Log.Level.error, component, message, fault }

/-- Nothing waits and nothing is under way. -/
def idle (queue : ResolveQueue) : Bool :=
  queue.inFlight.isNone && queue.pending.isEmpty

/-- Is an equal request waiting or under way? -/
def holds (queue : ResolveQueue) (request : ResolveRequest) : Bool :=
  queue.inFlight = some request || queue.pending.contains request

def enqueue (request : ResolveRequest) (queue : ResolveQueue) : ResolveQueue × List Effect :=
  if queue.deduplicate && queue.holds request then
    ({ queue with skipped := queue.skipped + 1 },
      [debug ("Already queued for resolve: " ++ request.ref.text)])
  else
    ({ queue with pending := queue.pending ++ [request], enqueued := queue.enqueued + 1 },
      [debug ("Queued for resolve: " ++ request.ref.text), .own .drain])

/-- Drops the waiting requests of a session. One that is under way is left to finish. -/
def discard (session : Token) (queue : ResolveQueue) : ResolveQueue × List Effect :=
  let kept := queue.pending.filter (·.session ≠ session)
  let removed := queue.pending.length - kept.length
  let report := debug ("Discarded " ++ toString removed ++ " pending resolve(s) of session " ++
    Text.ofInt session)
  ({ queue with pending := kept },
    (if removed = 0 then [] else [report]) ++ [.answerNumber removed])

/-- Drops all waiting requests and gives up on the one under way. Its outcome may still come. -/
def clear (queue : ResolveQueue) : ResolveQueue × List Effect :=
  let cancel := queue.holdOff.toList.map Effect.cancelTimer
  let report := queue.inFlight.toList.map fun request =>
    debug ("Abandoned in-flight resolve of " ++ request.ref.text)
  ({ queue with pending := [], inFlight := none, holdOff := none }, cancel ++ report)

def drain (queue : ResolveQueue) : ResolveQueue × List Effect :=
  if queue.draining then (queue, []) else ({ queue with draining := true }, [.own .next])

/-- Claims the request that waits longest. Draining ends when a request is under way, a hold-off
lasts or nothing waits. -/
def next (queue : ResolveQueue) : ResolveQueue × List Effect :=
  match queue.inFlight, queue.holdOff, queue.pending with
  | none, none, request :: rest =>
      ({ queue with pending := rest, inFlight := some request },
        [debug ("Resolving " ++ request.ref.text), .resolve request.ref,
          .own (.resolving request.ref)])
  | _, _, _ => ({ queue with draining := false }, [])

/-- Releases the request under way if it asks for the reference. -/
def finish (ref : ServiceRef) (queue : ResolveQueue) : Option (ResolveRequest × ResolveQueue) :=
  match queue.inFlight with
  | some request =>
      if request.ref = ref then some (request, { queue with inFlight := none }) else none
  | none => none

/-- The platform refused to resolve a reference. Unless it answered before, or the request was given
up meanwhile, that ends the request. -/
def rejected (ref : ServiceRef) (fault : Fault) (queue : ResolveQueue) :
    ResolveQueue × List Effect :=
  let after := match queue.finish ref with
    | some (_, queue) => { queue with failed := queue.failed + 1 }
    | none => queue
  (after, [exception ("Resolve of " ++ ref.text ++ " was rejected") fault, .own .next])

def serviceResolved (ref : ServiceRef) (answer : ResolveAnswer) (queue : ResolveQueue) :
    ResolveQueue × List Effect :=
  match queue.finish ref with
  | none => (queue, [debug ("Ignoring stale resolve result for " ++ ref.text)])
  | some (request, queue) =>
      match ResolvedService.ofAnswer answer with
      | .error fault =>
          ({ queue with failed := queue.failed + 1 },
            [exception ("Unusable resolve result for " ++ ref.text) fault, .own .drain])
      | .ok service =>
          ({ queue with resolved := queue.resolved + 1 },
            [debug ("Resolved " ++ service.text),
              .deliver request.session (.serviceResolved service), .own .drain])

/-- Puts a request that found the resolver busy back at the end. With a delay nothing is handed out
until the timer fires. -/
def requeue (request : ResolveRequest) (queue : ResolveQueue) : ResolveQueue × List Effect :=
  let queue :=
    { queue with pending := queue.pending ++ [request], retried := queue.retried + 1 }
  let report := debug ("Resolver busy, requeued " ++ request.ref.text)
  if queue.retryDelay.isPositive then
    ({ queue with holdOff := some queue.timers, timers := queue.timers + 1 },
      [report, .startTimer queue.timers])
  else (queue, [report, .own .drain])

def resolveFailed (ref : ServiceRef) (code : Int) (queue : ResolveQueue) :
    ResolveQueue × List Effect :=
  match queue.finish ref with
  | none =>
      (queue,
        [debug ("Ignoring stale resolve failure for " ++ ref.text ++ ": " ++ Text.ofInt code)])
  | some (request, queue) =>
      if code = FailureCode.alreadyActive then queue.requeue request
      else
        ({ queue with failed := queue.failed + 1 },
          [debug ("Resolving failed for " ++ ref.text ++ ": " ++ Text.ofInt code), .own .drain])

/-- Ends the hold-off of a timer. Timers of an earlier hold-off have no effect. -/
def timerFired (timer : Nat) (queue : ResolveQueue) : ResolveQueue × List Effect :=
  if queue.holdOff = some timer then ({ queue with holdOff := none }, [.own .drain])
  else (queue, [])

def call : Operation → ResolveQueue → ResolveQueue × List Effect
  | .enqueue ref session, queue => queue.enqueue { ref, session }
  | .discard session, queue => queue.discard session
  | .clear, queue => queue.clear
  | .outcome (.resolved ref answer), queue => queue.serviceResolved ref answer
  | .outcome (.failed ref code), queue => queue.resolveFailed ref code
  | .timerFired timer, queue => queue.timerFired timer

def step : Task → ResolveQueue → ResolveQueue × List Effect
  | .call operation, queue => queue.call operation
  | .drain, queue => queue.drain
  | .next, queue => queue.next
  | .resolving _, queue => queue.next

/-- What happens when a fault reaches a task: a refused resolve is accounted for, and draining goes
on. -/
def recover : Task → Fault → ResolveQueue → Option (ResolveQueue × List Effect)
  | .resolving ref, fault, queue => some (queue.rejected ref fault)
  | _, _, _ => none

/-- A summary of the queue: how many requests wait, what is under way, and all totals. -/
def status (queue : ResolveQueue) : List (String × Value) :=
  let count (n : Nat) : Value := .int n
  [("pending", count queue.pending.length),
    ("in_flight", (queue.inFlight.map fun r => Value.ofPoints r.ref.text).getD .null),
    ("enqueued", count queue.enqueued), ("resolved", count queue.resolved),
    ("failed", count queue.failed), ("retried", count queue.retried),
    ("skipped", count queue.skipped)]

end ResolveQueue

end ServiceDiscovery
