import ServiceDiscovery.ResolveQueue

/-!
What a single turn of a queue can do. A turn is a task that runs, or the fault of a platform that
refused to resolve. Its deed says which requests it took in, handed out, settled or dropped, and
there is one case for each way that a turn can go, with all that it changes and asks for. Whatever
is said about turns is read off these cases.
-/

namespace ServiceDiscovery.ResolveQueue

/-- What a queue does at once. -/
inductive Turn where
  | run (task : Task)
  /-- A resolve of the reference was refused with a fault. -/
  | refused (ref : ServiceRef) (fault : Fault)
  deriving Repr

def take : Turn → ResolveQueue → ResolveQueue × List Effect
  | .run task, queue => step task queue
  | .refused ref fault, queue => queue.rejected ref fault

/-- What a turn does with requests. -/
inductive Deed where
  | nothing
  | accepted (request : ResolveRequest)
  | skipped (request : ResolveRequest)
  | discarded (session : Token) (dropped : List ResolveRequest)
  | cleared (dropped : List ResolveRequest) (abandoned : Option ResolveRequest)
  | claimed (request : ResolveRequest)
  | resolved (request : ResolveRequest) (service : ResolvedService)
  | failed (request : ResolveRequest)
  /-- The resolver was busy, so the request waits again. -/
  | requeued (request : ResolveRequest)
  deriving DecidableEq, Repr

/-- The request that an outcome for a reference settles. -/
def answered (ref : ServiceRef) (queue : ResolveQueue) : Option ResolveRequest :=
  queue.inFlight.filter (·.ref = ref)

/-- The deed of an enqueue. -/
def intake (request : ResolveRequest) (queue : ResolveQueue) : Deed :=
  if queue.deduplicate && queue.holds request then .skipped request else .accepted request

/-- The deed of handing out the next request, if that is possible. -/
def claim (queue : ResolveQueue) : Deed :=
  match queue.inFlight, queue.holdOff, queue.pending with
  | none, none, request :: _ => .claimed request
  | _, _, _ => .nothing

/-- The deed of an outcome. -/
def settle (outcome : ResolveOutcome) (queue : ResolveQueue) : Deed :=
  match queue.answered outcome.ref, outcome with
  | none, _ => .nothing
  | some request, .resolved _ answer =>
      match ResolvedService.ofAnswer answer with
      | .ok service => .resolved request service
      | .error _ => .failed request
  | some request, .failed _ code =>
      if code = FailureCode.alreadyActive then .requeued request else .failed request

/-- What a turn does with the requests of a queue. -/
def deed : Turn → ResolveQueue → Deed
  | .run (.call (.enqueue ref session)), queue => queue.intake { ref, session }
  | .run (.call (.discard session)), queue =>
      .discarded session (queue.pending.filter (·.session = session))
  | .run (.call .clear), queue => .cleared queue.pending queue.inFlight
  | .run (.call (.outcome outcome)), queue => queue.settle outcome
  | .run (.call (.timerFired _)), _ | .run .drain, _ => .nothing
  | .run .next, queue | .run (.resolving _), queue => queue.claim
  | .refused ref _, queue =>
      match queue.answered ref with
      | some request => .failed request
      | none => .nothing

namespace Deed

/-- What is waiting after a deed. -/
def onPending : Deed → List ResolveRequest → List ResolveRequest
  | accepted request, pending | requeued request, pending => pending ++ [request]
  | discarded session _, pending => pending.filter (·.session ≠ session)
  | cleared _ _, _ => []
  | claimed _, pending => pending.tail
  | nothing, pending | skipped _, pending | resolved _ _, pending | failed _, pending => pending

/-- What is under way after a deed. -/
def onSlot : Deed → Option ResolveRequest → Option ResolveRequest
  | claimed request, _ => some request
  | cleared _ _, _ | resolved _ _, _ | failed _, _ | requeued _, _ => none
  | nothing, slot | accepted _, slot | skipped _, slot | discarded _ _, slot => slot

/-- When a deed is possible. -/
def Allowed (queue : ResolveQueue) : Deed → Prop
  | nothing | accepted _ | skipped _ => True
  | discarded session dropped => dropped = queue.pending.filter (·.session = session)
  | cleared dropped abandoned => dropped = queue.pending ∧ abandoned = queue.inFlight
  | claimed request =>
      queue.inFlight = none ∧ queue.holdOff = none ∧ ∃ rest, queue.pending = request :: rest
  | resolved request _ | failed request | requeued request => queue.inFlight = some request

end Deed

/-- What can become of a request. -/
inductive Fate where
  | accepted
  | skipped
  | claimed
  | resolved
  | failed
  | requeued
  /-- Dropped with the other waiting requests of its session. -/
  | discarded
  /-- Dropped while waiting when the queue was cleared. -/
  | cleared
  /-- Given up while under way when the queue was cleared. -/
  | abandoned
  deriving DecidableEq, Repr

/-- The requests that meet a fate by a deed. -/
def Deed.met : Fate → Deed → List ResolveRequest
  | .accepted, accepted request | .skipped, skipped request | .claimed, claimed request
  | .resolved, resolved request _ | .failed, failed request | .requeued, requeued request =>
      [request]
  | .discarded, discarded _ dropped | .cleared, cleared dropped _ => dropped
  | .abandoned, cleared _ abandoned => abandoned.toList
  | _, _ => []

variable {queue after : ResolveQueue} {ref : ServiceRef} {request : ResolveRequest}
  {turn : Turn} {deed : Deed} {effects : List Effect}

theorem inFlight_of_answered (h : queue.answered ref = some request) :
    queue.inFlight = some request ∧ request.ref = ref := by
  simpa [answered, Option.filter_eq_some_iff] using h

theorem finish_eq_some (h : queue.answered ref = some request) :
    queue.finish ref = some (request, { queue with inFlight := none }) := by
  obtain ⟨hslot, hsame⟩ := inFlight_of_answered h
  simp [finish, hslot, hsame]

theorem finish_eq_none (h : queue.answered ref = none) : queue.finish ref = none := by
  unfold finish
  cases hslot : queue.inFlight with
  | none => rfl
  | some request =>
      have hother : request.ref ≠ ref := by simpa [answered, hslot] using h
      simp [hother]

/-- Is the task one of those that hand out requests? -/
def Task.claims : Task → Bool
  | next | resolving _ => true
  | call _ | drain => false

/-- Are the effects log lines and nothing else? -/
def IsReport (effects : List Effect) : Prop :=
  ∀ effect ∈ effects, ∃ message, effect = debug message

/-- All ways that a turn can go: its deed, the state after it, and what it asks for. -/
inductive Taken (queue : ResolveQueue) : Turn → Deed → ResolveQueue → List Effect → Prop where
  | skipped {ref : ServiceRef} {session : Token} (message : Text.Points)
      (known : (queue.deduplicate && queue.holds { ref, session }) = true) :
      Taken queue (.run (.call (.enqueue ref session))) (.skipped { ref, session })
        { queue with skipped := queue.skipped + 1 } [debug message]
  | accepted {ref : ServiceRef} {session : Token} (message : Text.Points)
      (unknown : (queue.deduplicate && queue.holds { ref, session }) = false) :
      Taken queue (.run (.call (.enqueue ref session))) (.accepted { ref, session })
        { queue with
          pending := queue.pending ++ [{ ref, session }], enqueued := queue.enqueued + 1 }
        [debug message, .own .drain]
  | discarded {session : Token} {report : List Effect} (count : Nat) (plain : IsReport report) :
      Taken queue (.run (.call (.discard session)))
        (.discarded session (queue.pending.filter (·.session = session)))
        { queue with pending := queue.pending.filter (·.session ≠ session) }
        (report ++ [.answerNumber count])
  | cleared {report : List Effect} (free : queue.holdOff = none) (plain : IsReport report) :
      Taken queue (.run (.call .clear)) (.cleared queue.pending queue.inFlight)
        { queue with pending := [], inFlight := none, holdOff := none } report
  | released {timer : Nat} {report : List Effect} (held : queue.holdOff = some timer)
      (plain : IsReport report) :
      Taken queue (.run (.call .clear)) (.cleared queue.pending queue.inFlight)
        { queue with pending := [], inFlight := none, holdOff := none }
        (.cancelTimer timer :: report)
  | stale {outcome : ResolveOutcome} (message : Text.Points)
      (unasked : queue.answered outcome.ref = none) :
      Taken queue (.run (.call (.outcome outcome))) .nothing queue [debug message]
  | resolved {ref : ServiceRef} {answer : ResolveAnswer} {request : ResolveRequest}
      {service : ResolvedService} (message : Text.Points)
      (asked : queue.answered ref = some request)
      (usable : ResolvedService.ofAnswer answer = .ok service) :
      Taken queue (.run (.call (.outcome (.resolved ref answer)))) (.resolved request service)
        { queue with inFlight := none, resolved := queue.resolved + 1 }
        [debug message, .deliver request.session (.serviceResolved service), .own .drain]
  | unusable {ref : ServiceRef} {answer : ResolveAnswer} {request : ResolveRequest} {fault : Fault}
      (message : Text.Points) (asked : queue.answered ref = some request)
      (useless : ResolvedService.ofAnswer answer = .error fault) :
      Taken queue (.run (.call (.outcome (.resolved ref answer)))) (.failed request)
        { queue with inFlight := none, failed := queue.failed + 1 }
        [exception message fault, .own .drain]
  | failed {ref : ServiceRef} {code : Int} {request : ResolveRequest} (message : Text.Points)
      (asked : queue.answered ref = some request) (final : code ≠ FailureCode.alreadyActive) :
      Taken queue (.run (.call (.outcome (.failed ref code)))) (.failed request)
        { queue with inFlight := none, failed := queue.failed + 1 }
        [debug message, .own .drain]
  | requeued {ref : ServiceRef} {request : ResolveRequest} (message : Text.Points)
      (asked : queue.answered ref = some request)
      (prompt : queue.retryDelay.isPositive = false) :
      Taken queue (.run (.call (.outcome (.failed ref FailureCode.alreadyActive))))
        (.requeued request)
        { queue with
          inFlight := none, pending := queue.pending ++ [request], retried := queue.retried + 1 }
        [debug message, .own .drain]
  | held {ref : ServiceRef} {request : ResolveRequest} (message : Text.Points)
      (asked : queue.answered ref = some request) (delayed : queue.retryDelay.isPositive = true) :
      Taken queue (.run (.call (.outcome (.failed ref FailureCode.alreadyActive))))
        (.requeued request)
        { queue with
          inFlight := none, pending := queue.pending ++ [request], retried := queue.retried + 1
          holdOff := some queue.timers, timers := queue.timers + 1 }
        [debug message, .startTimer queue.timers]
  | fired {timer : Nat} (held : queue.holdOff = some timer) :
      Taken queue (.run (.call (.timerFired timer))) .nothing { queue with holdOff := none }
        [.own .drain]
  | unfired {timer : Nat} (other : queue.holdOff ≠ some timer) :
      Taken queue (.run (.call (.timerFired timer))) .nothing queue []
  | draining (busy : queue.draining = true) : Taken queue (.run .drain) .nothing queue []
  | drained (idle : queue.draining = false) :
      Taken queue (.run .drain) .nothing { queue with draining := true } [.own .next]
  | claimed {task : Task} {request : ResolveRequest} {rest : List ResolveRequest}
      (message : Text.Points) (claims : task.claims = true) (unasked : queue.inFlight = none)
      (free : queue.holdOff = none) (first : queue.pending = request :: rest) :
      Taken queue (.run task) (.claimed request)
        { queue with pending := rest, inFlight := some request }
        [debug message, .resolve request.ref, .own (.resolving request.ref)]
  | stopped {task : Task} (claims : task.claims = true)
      (spent : queue.inFlight = none → queue.holdOff = none → queue.pending = []) :
      Taken queue (.run task) .nothing { queue with draining := false } []
  | rejected {ref : ServiceRef} {fault : Fault} {request : ResolveRequest} (message : Text.Points)
      (asked : queue.answered ref = some request) :
      Taken queue (.refused ref fault) (.failed request)
        { queue with inFlight := none, failed := queue.failed + 1 }
        [exception message fault, .own .next]
  | settled {ref : ServiceRef} {fault : Fault} (message : Text.Points)
      (unasked : queue.answered ref = none) :
      Taken queue (.refused ref fault) .nothing queue [exception message fault, .own .next]

theorem enqueue_taken (ref : ServiceRef) (session : Token) (queue : ResolveQueue) :
    Taken queue (.run (.call (.enqueue ref session))) (queue.intake { ref, session })
      (queue.enqueue { ref, session }).1 (queue.enqueue { ref, session }).2 := by
  cases hknown : queue.deduplicate && queue.holds { ref, session } with
  | true =>
      simp only [intake, enqueue, hknown]
      exact .skipped _ hknown
  | false =>
      simp only [intake, enqueue, hknown]
      exact .accepted _ hknown

theorem discard_taken (session : Token) (queue : ResolveQueue) :
    Taken queue (.run (.call (.discard session)))
      (.discarded session (queue.pending.filter (·.session = session)))
      (queue.discard session).1 (queue.discard session).2 := by
  simp only [discard]
  refine .discarded _ fun effect hmem => ?_
  split at hmem
  · cases hmem
  · exact ⟨_, List.mem_singleton.mp hmem⟩

theorem clear_taken (queue : ResolveQueue) :
    Taken queue (.run (.call .clear)) (.cleared queue.pending queue.inFlight) queue.clear.1
      queue.clear.2 := by
  have hplain : IsReport (queue.inFlight.toList.map fun request : ResolveRequest =>
      debug ("Abandoned in-flight resolve of " ++ request.ref.text)) := by
    intro effect hmem
    obtain ⟨request, _, rfl⟩ := List.mem_map.mp hmem
    exact ⟨_, rfl⟩
  cases hhold : queue.holdOff with
  | none =>
      simp only [clear, hhold]
      exact .cleared hhold hplain
  | some timer =>
      simp only [clear, hhold]
      exact .released hhold hplain

theorem outcome_taken (outcome : ResolveOutcome) (queue : ResolveQueue) :
    Taken queue (.run (.call (.outcome outcome))) (queue.settle outcome)
      (queue.call (.outcome outcome)).1 (queue.call (.outcome outcome)).2 := by
  cases hasked : queue.answered outcome.ref with
  | none =>
      have hfinish := finish_eq_none hasked
      simp only [settle, hasked]
      cases outcome with
      | resolved ref answer =>
          change queue.finish ref = none at hfinish
          simp only [call, serviceResolved, hfinish]
          exact .stale _ hasked
      | failed ref code =>
          change queue.finish ref = none at hfinish
          simp only [call, resolveFailed, hfinish]
          exact .stale _ hasked
  | some request =>
      have hfinish := finish_eq_some hasked
      simp only [settle, hasked]
      cases outcome with
      | resolved ref answer =>
          change queue.finish ref = some _ at hfinish
          simp only [call, serviceResolved, hfinish]
          cases husable : ResolvedService.ofAnswer answer with
          | ok service => exact .resolved _ hasked husable
          | error fault => exact .unusable _ hasked husable
      | failed ref code =>
          change queue.finish ref = some _ at hfinish
          simp only [call, resolveFailed, hfinish]
          by_cases hbusy : code = FailureCode.alreadyActive
          · subst hbusy
            cases hdelay : queue.retryDelay.isPositive with
            | true =>
                simp only [↓reduceIte, requeue, hdelay]
                exact .held _ hasked hdelay
            | false =>
                simp only [↓reduceIte, requeue, hdelay]
                exact .requeued _ hasked hdelay
          · simp only [hbusy]
            exact .failed _ hasked hbusy

theorem next_taken {task : Task} (claims : task.claims = true) (queue : ResolveQueue) :
    Taken queue (.run task) queue.claim queue.next.1 queue.next.2 := by
  unfold next
  split
  · rename_i request rest hslot hhold hpending
    have hclaim : queue.claim = .claimed request := by simp only [claim, hslot, hhold, hpending]
    rw [hclaim]
    exact .claimed _ claims hslot hhold hpending
  · rename_i hnot
    have hclaim : queue.claim = .nothing := by
      unfold claim
      split
      · rename_i request rest hslot hhold hpending
        exact absurd hpending (hnot request rest hslot hhold)
      · rfl
    rw [hclaim]
    apply Taken.stopped claims
    intro hslot hhold
    cases hpending : queue.pending with
    | nil => rfl
    | cons request rest => exact absurd hpending (hnot request rest hslot hhold)

theorem refused_taken (ref : ServiceRef) (fault : Fault) (queue : ResolveQueue) :
    Taken queue (.refused ref fault) (ResolveQueue.deed (.refused ref fault) queue)
      (queue.rejected ref fault).1 (queue.rejected ref fault).2 := by
  cases hasked : queue.answered ref with
  | none =>
      simp only [ResolveQueue.deed, hasked, rejected, finish_eq_none hasked]
      exact .settled _ hasked
  | some request =>
      simp only [ResolveQueue.deed, hasked, rejected, finish_eq_some hasked]
      exact .rejected _ hasked

/-- No turn goes any other way. -/
theorem taken (turn : Turn) (queue : ResolveQueue) :
    Taken queue turn (ResolveQueue.deed turn queue) (take turn queue).1 (take turn queue).2 := by
  cases turn with
  | refused ref fault => exact refused_taken ref fault queue
  | run task =>
      cases task with
      | next => exact next_taken rfl queue
      | resolving ref => exact next_taken rfl queue
      | drain =>
          simp only [ResolveQueue.deed, take, step, drain]
          cases hdraining : queue.draining with
          | true => exact .draining hdraining
          | false => exact .drained hdraining
      | call operation =>
          cases operation with
          | enqueue ref session => exact enqueue_taken ref session queue
          | discard session => exact discard_taken session queue
          | clear => exact clear_taken queue
          | outcome outcome => exact outcome_taken outcome queue
          | timerFired timer =>
              simp only [ResolveQueue.deed, take, step, call, timerFired]
              by_cases hhold : queue.holdOff = some timer
              · simp only [hhold]
                exact .fired hhold
              · simp only [hhold]
                exact .unfired hhold

/-- The state after a deed, as far as requests go. -/
structure Deed.Turns (deed : Deed) (before after : ResolveQueue) : Prop where
  allowed : deed.Allowed before
  pending : after.pending = deed.onPending before.pending
  inFlight : after.inFlight = deed.onSlot before.inFlight
  enqueued : after.enqueued = before.enqueued + (deed.met .accepted).length
  resolved : after.resolved = before.resolved + (deed.met .resolved).length
  failed : after.failed = before.failed + (deed.met .failed).length
  retried : after.retried = before.retried + (deed.met .requeued).length

/-- Requests and totals change as the deed says and in no other way. -/
theorem Taken.turns (h : Taken queue turn deed after effects) : deed.Turns queue after := by
  cases h with
  | discarded | cleared | released => exact ⟨by simp [Deed.Allowed], rfl, rfl, rfl, rfl, rfl, rfl⟩
  | resolved _ asked | unusable _ asked | failed _ asked | requeued _ asked | held _ asked
  | rejected _ asked =>
      exact ⟨(inFlight_of_answered asked).1, rfl, rfl, rfl, rfl, rfl, rfl⟩
  | claimed _ _ unasked free first =>
      refine ⟨⟨unasked, free, _, first⟩, ?_, rfl, rfl, rfl, rfl, rfl⟩
      rw [first]
      rfl
  | _ => exact ⟨trivial, rfl, rfl, rfl, rfl, rfl, rfl⟩

/-- Does the effect neither call the platform or a timer, nor wait for the platform? -/
def Effect.isPlain : Effect → Bool
  | log _ | answerNumber _ | deliver _ _ | own .drain | own .next => true
  | _ => false

/-- What a turn asks for. A call stands in front of all that is not a log line, and whoever asks the
platform waits for its return. -/
inductive Batch : List Effect → Prop where
  | plain {effects : List Effect} (h : ∀ effect ∈ effects, effect.isPlain) : Batch effects
  | asking (message : Text.Points) (ref : ServiceRef) :
      Batch [debug message, .resolve ref, .own (.resolving ref)]
  | holding (message : Text.Points) (timer : Nat) : Batch [debug message, .startTimer timer]
  | releasing (timer : Nat) {report : List Effect} (h : IsReport report) :
      Batch (.cancelTimer timer :: report)

theorem Taken.batch (h : Taken queue turn deed after effects) : Batch effects := by
  cases h with
  | claimed message => exact .asking message _
  | held message => exact .holding message _
  | released _ plain => exact .releasing _ plain
  | cleared _ plain =>
      refine .plain fun effect hmem => ?_
      obtain ⟨message, rfl⟩ := plain effect hmem
      rfl
  | discarded count plain =>
      refine .plain fun effect hmem => ?_
      rcases List.mem_append.mp hmem with hreport | hlast
      · obtain ⟨message, rfl⟩ := plain effect hreport
        rfl
      · obtain rfl := List.mem_singleton.mp hlast
        rfl
  | _ => exact .plain (by simp [debug, exception, Effect.isPlain])

/-- The reference of a resolve. -/
def Effect.ref? : Effect → Option ServiceRef
  | resolve ref => some ref
  | _ => none

/-- What is delivered, and to which session. -/
def Effect.delivery? : Effect → Option (Token × Event)
  | deliver session event => some (session, event)
  | _ => none

/-- What a deed has to be told, and whom. -/
def Deed.deliveries : Deed → List (Token × Event)
  | resolved request service => [(request.session, .serviceResolved service)]
  | _ => []

theorem IsReport.filterMap_eq_nil {α : Type} (h : IsReport effects) {part : Effect → Option α}
    (hpart : ∀ message, part (debug message) = none) : effects.filterMap part = [] := by
  refine List.filterMap_eq_nil_iff.mpr fun effect hmem => ?_
  obtain ⟨message, rfl⟩ := h effect hmem
  exact hpart message

/-- A turn asks the platform for just the request that it claims. -/
theorem Taken.resolves (h : Taken queue turn deed after effects) :
    effects.filterMap Effect.ref? = (deed.met .claimed).map (·.ref) := by
  cases h with
  | cleared _ plain => exact plain.filterMap_eq_nil fun _ => rfl
  | released _ plain => exact plain.filterMap_eq_nil fun _ => rfl
  | discarded count plain =>
      rw [List.filterMap_append, plain.filterMap_eq_nil fun _ => rfl]
      rfl
  | _ => rfl

/-- A turn tells just the session whose request it resolves. -/
theorem Taken.delivers (h : Taken queue turn deed after effects) :
    effects.filterMap Effect.delivery? = deed.deliveries := by
  cases h with
  | cleared _ plain => exact plain.filterMap_eq_nil fun _ => rfl
  | released _ plain => exact plain.filterMap_eq_nil fun _ => rfl
  | discarded count plain =>
      rw [List.filterMap_append, plain.filterMap_eq_nil fun _ => rfl]
      rfl
  | _ => rfl

end ServiceDiscovery.ResolveQueue
