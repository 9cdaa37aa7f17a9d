import ServiceDiscovery.Proofs.Receiver.Delivery
import ServiceDiscovery.Proofs.ResolveQueue.HoldOff

/-!
Draining in front of a platform that answers on the spot. Each round hands out the request that
waits longest and settles it, unless the platform is busy: then the request goes back to the end and
no fewer wait than before. So what shrinks from round to round is the number of requests that wait
together with the number of busy answers that are still to come. As long as that number is finite
and nobody calls the queue meanwhile, the call that began to drain returns, and nothing is left.
-/

namespace ServiceDiscovery

variable {ι σ : Type}

namespace ResolveQueue

/-- How a platform meets a resolve: it answers on the spot, or it refuses by a fault. -/
inductive Reply where
  | resolved (answer : ResolveAnswer)
  | failed (code : Int)
  | refused (fault : Fault)
  deriving Repr

namespace Reply

/-- Does the reply say that the resolver is at work on another request? -/
def isBusy : Reply → Bool
  | failed code => code = FailureCode.alreadyActive
  | resolved _ | refused _ => false

/-- What a platform does when it replies to the queue at a place. -/
def move (index : Nat) (ref : ServiceRef) : Reply → Move ι
  | resolved answer => .perform (.queue index (.outcome (.resolved ref answer)))
  | failed code => .perform (.queue index (.outcome (.failed ref code)))
  | refused fault => .raise fault

/-- The turn that the queue takes on a reply. -/
def turn (ref : ServiceRef) : Reply → Turn
  | resolved answer => .run (.call (.outcome (.resolved ref answer)))
  | failed code => .run (.call (.outcome (.failed ref code)))
  | refused fault => .refused ref fault

/-- How the queue goes on after a reply. -/
def resume : Reply → Task
  | resolved _ | failed _ => .drain
  | refused _ => .next

end Reply

/-- How many of so many replies, from a certain one on, are busy. -/
def busy (script : Nat → Reply) (first calls : Nat) : Nat :=
  (List.range' first calls).countP fun number => (script number).isBusy

theorem busy_succ (script : Nat → Reply) (first calls : Nat) :
    busy script first (calls + 1) =
      (if (script first).isBusy then 1 else 0) + busy script (first + 1) calls := by
  rw [busy, List.range'_succ, List.countP_cons, Nat.add_comm]
  rfl

/-- The request that a call takes in. -/
def Operation.intake : Operation → List ResolveRequest
  | .enqueue ref session => [{ ref, session }]
  | _ => []

/-- How many busy answers a call brings. -/
def Operation.busy : Operation → Nat
  | .outcome (.failed _ code) => if code = FailureCode.alreadyActive then 1 else 0
  | _ => 0

/-- The calls that have a queue drained: an enqueue when nothing is held, and the outcome of the
request under way. -/
inductive Wakes (queue : ResolveQueue) : Operation → Prop where
  | enqueue (ref : ServiceRef) (session : Token) (idle : queue.idle = true) :
      Wakes queue (.enqueue ref session)
  | outcome {outcome : ResolveOutcome} {request : ResolveRequest}
      (asked : queue.answered outcome.ref = some request) : Wakes queue (.outcome outcome)

/-- What has become of a queue that was drained, when these requests waited and these were held, so
many were retried before and so many answers were busy already. -/
structure Settles (script : Nat → Reply) (first : Nat) (waiting held : List ResolveRequest)
    (retried given calls : Nat) (record : List Happening) (after : ResolveQueue) : Prop where
  /-- Nothing is held, and nobody drains. -/
  idle : after.idle = true ∧ after.draining = false
  asked : (ResolveQueue.asked record).length = calls
  /-- The platform was asked once for each request that waited and once for each busy answer. -/
  counted : calls = waiting.length + (given + busy script first calls)
  /-- Each request that was held has been resolved or has failed, once. -/
  ended : (met .resolved record ++ met .failed record).Perm held
  /-- Each busy answer has been counted. -/
  retried : after.retried = retried + (given + busy script first calls)

/-- Does the effect only tell of something? -/
def Effect.tells : Effect → Bool
  | log _ | deliver _ _ => true
  | _ => false

/-- What an answer for the request under way makes of a queue that does not hold off. -/
structure Concludes (queue : ResolveQueue) (request : ResolveRequest) (busy : Bool) (deed : Deed)
    (after : ResolveQueue) : Prop where
  inFlight : after.inFlight = none
  pending : after.pending = queue.pending ++ if busy then [request] else []
  retried : after.retried = queue.retried + if busy then 1 else 0
  ended : deed.met .resolved ++ deed.met .failed = if busy then [] else [request]
  draining : after.draining = queue.draining
  holdOff : after.holdOff = queue.holdOff
  retryDelay : after.retryDelay = queue.retryDelay

section

variable {queue after : ResolveQueue} {request : ResolveRequest} {ref : ServiceRef} {reply : Reply}
  {deed : Deed} {effects : List Effect} {operation : Operation}

/-- A reply settles the request under way, unless the resolver is busy: then the request waits
again. -/
theorem Taken.concludes (h : Taken queue (reply.turn ref) deed after effects)
    (asked : queue.answered ref = some request) (prompt : queue.retryDelay.isPositive = false) :
    Concludes queue request reply.isBusy deed after ∧
      ∃ report, effects = report ++ [.own reply.resume] ∧
        ∀ effect ∈ report, effect.tells = true := by
  have hasked {other : ResolveRequest} (h : queue.answered ref = some other) : other = request :=
    Option.some.inj (h.symm.trans asked)
  cases reply with
  | resolved answer =>
      change Taken queue (.run (.call (.outcome (.resolved ref answer)))) deed after effects at h
      cases h with
      | stale message unasked => cases unasked.symm.trans asked
      | resolved message found usable =>
          obtain rfl := hasked found
          refine ⟨⟨rfl, by simp [Reply.isBusy], rfl, rfl, rfl, rfl, rfl⟩, [_, _], rfl, ?_⟩
          simp [debug, Effect.tells]
      | unusable message found useless =>
          obtain rfl := hasked found
          refine ⟨⟨rfl, by simp [Reply.isBusy], rfl, rfl, rfl, rfl, rfl⟩, [_], rfl, ?_⟩
          simp [exception, Effect.tells]
      | claimed message claims | stopped claims => cases claims
  | failed code =>
      change Taken queue (.run (.call (.outcome (.failed ref code)))) deed after effects at h
      cases h with
      | stale message unasked => cases unasked.symm.trans asked
      | failed message found final =>
          obtain rfl := hasked found
          have hbusy : (Reply.failed code).isBusy = false := by simp [Reply.isBusy, final]
          rw [hbusy]
          refine ⟨⟨rfl, by simp, rfl, rfl, rfl, rfl, rfl⟩, [_], rfl, ?_⟩
          simp [debug, Effect.tells]
      | requeued message found =>
          obtain rfl := hasked found
          refine ⟨⟨rfl, rfl, rfl, rfl, rfl, rfl, rfl⟩, [_], rfl, ?_⟩
          simp [debug, Effect.tells]
      | held message found delayed => cases prompt.symm.trans delayed
      | claimed message claims | stopped claims => cases claims
  | refused fault =>
      change Taken queue (.refused ref fault) deed after effects at h
      cases h with
      | rejected message found =>
          obtain rfl := hasked found
          refine ⟨⟨rfl, by simp [Reply.isBusy], rfl, rfl, rfl, rfl, rfl⟩, [_], rfl, ?_⟩
          simp [exception, Effect.tells]
      | settled message unasked => cases unasked.symm.trans asked

/-- What a call that has a queue drained does first. -/
structure Woken (queue : ResolveQueue) (operation : Operation) (deed : Deed)
    (after : ResolveQueue) : Prop where
  inFlight : after.inFlight = none
  waiting : after.pending.length = (queue.pending ++ operation.intake).length + operation.busy
  retried : after.retried = queue.retried + operation.busy
  ended : (deed.met .resolved ++ deed.met .failed ++ after.pending).Perm
    (queue.backlog ++ operation.intake)
  draining : after.draining = queue.draining
  holdOff : after.holdOff = queue.holdOff
  retryDelay : after.retryDelay = queue.retryDelay

theorem Taken.woken (h : Taken queue (.run (.call operation)) deed after effects)
    (wakes : Wakes queue operation) (prompt : queue.retryDelay.isPositive = false) :
    Woken queue operation deed after ∧
      ∃ report, effects = report ++ [.own .drain] ∧ ∀ effect ∈ report, effect.tells = true := by
  cases wakes with
  | enqueue ref session idle =>
      obtain ⟨hslot, hpending⟩ : queue.inFlight = none ∧ queue.pending = [] := by
        simpa [ResolveQueue.idle] using idle
      cases h with
      | skipped message known => simp [holds, hslot, hpending] at known
      | accepted message unknown =>
          refine ⟨⟨hslot, rfl, rfl, ?_, rfl, rfl, rfl⟩, [_], rfl, by simp [debug, Effect.tells]⟩
          simp [Deed.met, backlog, Operation.intake, hslot]
      | claimed message claims | stopped claims => cases claims
  | @outcome outcome request asked =>
      have hslot := (inFlight_of_answered asked).1
      obtain ⟨reply, hturn, hbusy, hresume⟩ : ∃ reply : Reply,
          .run (.call (.outcome outcome)) = reply.turn outcome.ref ∧
          (Operation.outcome outcome).busy = (if reply.isBusy then 1 else 0) ∧
          reply.resume = .drain := by
        cases outcome with
        | resolved ref answer => exact ⟨.resolved answer, rfl, rfl, rfl⟩
        | failed ref code => exact ⟨.failed code, rfl, by simp [Operation.busy, Reply.isBusy], rfl⟩
      rw [hturn] at h
      obtain ⟨hconcludes, hreport⟩ := h.concludes asked prompt
      rw [hresume] at hreport
      refine ⟨⟨hconcludes.inFlight, ?_, ?_, ?_, hconcludes.draining, hconcludes.holdOff,
        hconcludes.retryDelay⟩, hreport⟩
      · rw [hconcludes.pending, hbusy]
        cases reply.isBusy <;> simp [Operation.intake]
      · rw [hconcludes.retried, hbusy]
      · rw [hconcludes.ended, hconcludes.pending, backlog, hslot]
        cases reply.isBusy with
        | false => simp [Operation.intake]
        | true => simp [Operation.intake]

/-- Without a delay a busy answer begins no hold-off. -/
theorem Taken.unheld {turn : Turn} (h : Taken queue turn deed after effects)
    (prompt : queue.retryDelay.isPositive = false) (free : queue.holdOff = none) :
    after.holdOff = none := by
  cases h with
  | held message found delayed => cases prompt.symm.trans delayed
  | cleared | released | fired => rfl
  | _ => exact free

end

/-- A queue without a delay never holds off. -/
theorem Scene.run_unheld {deduplicate : Bool} {delay : Double} {history : List Happening}
    {scene : Scene} (run : Scene.Run (.fresh deduplicate delay) history scene)
    (prompt : delay.isPositive = false) :
    scene.queue.retryDelay = delay ∧ scene.queue.holdOff = none := by
  induction run with
  | start => exact ⟨rfl, rfl⟩
  | step run step ih =>
      obtain ⟨hdelay, hfree⟩ := ih
      have hturn (turn : Turn) {queue : ResolveQueue} (hdelay : queue.retryDelay = delay)
          (hfree : queue.holdOff = none) :
          (take turn queue).1.retryDelay = delay ∧ (take turn queue).1.holdOff = none :=
        ⟨(taken turn queue).retryDelay.trans hdelay,
          (taken turn queue).unheld (hdelay ▸ prompt) hfree⟩
      cases step with
      | called operation => exact hturn _ hdelay hfree
      | ran task => exact hturn _ hdelay hfree
      | refused ref fault => exact hturn _ hdelay hfree
      | made call => exact ⟨hdelay, hfree⟩

theorem take_of_claims {task : Task} (claims : task.claims = true) (queue : ResolveQueue) :
    take (.run task) queue = queue.next := by
  cases task with
  | next | resolving => rfl
  | _ => cases claims

theorem deed_of_claims {task : Task} (claims : task.claims = true) (queue : ResolveQueue) :
    deed (.run task) queue = queue.claim := by
  cases task with
  | next | resolving => rfl
  | _ => cases claims

theorem asked_append (first second : List Happening) :
    asked (first ++ second) = asked first ++ asked second :=
  List.filterMap_append

/-- What ended in two parts of a history, one after the other. -/
theorem ended_append (first second : List Happening) :
    (met .resolved (first ++ second) ++ met .failed (first ++ second)).Perm
      ((met .resolved first ++ met .failed first) ++
        (met .resolved second ++ met .failed second)) := by
  rw [List.perm_iff_count]
  intro request
  simp only [met, List.flatMap_append, List.count_append]
  omega

/-- What comes of a round and of the rounds after it. -/
theorem Settles.round {script : Nat → Reply} {first retried calls : Nat} {request : ResolveRequest}
    {waiting : List ResolveRequest} {record since : List Happening} {after : ResolveQueue}
    (settles : Settles script (first + 1)
      (waiting ++ if (script first).isBusy then [request] else [])
      (waiting ++ if (script first).isBusy then [request] else [])
      (retried + if (script first).isBusy then 1 else 0) 0 calls since after)
    (hasked : (ResolveQueue.asked record).length = 1)
    (hended : met .resolved record ++ met .failed record =
      if (script first).isBusy then [] else [request]) :
    Settles script first (request :: waiting) (request :: waiting) retried 0 (calls + 1)
      (record ++ since) after := by
  obtain ⟨hidle, hsince, hcounted, hrest, hretried⟩ := settles
  have hbusy := busy_succ script first calls
  have hperm := (ended_append record since).trans (hrest.append_left _)
  rw [hended] at hperm
  cases hreply : (script first).isBusy with
  | false =>
      simp only [hreply, Bool.false_eq_true, ↓reduceIte, List.append_nil] at *
      refine ⟨hidle, ?_, ?_, hperm, ?_⟩
      · rw [asked_append, List.length_append, hasked, hsince, Nat.add_comm]
      · rw [List.length_cons]
        omega
      · omega
  | true =>
      simp only [hreply, ↓reduceIte, List.length_append, List.length_singleton] at *
      refine ⟨hidle, ?_, ?_, hperm.trans (by simp), ?_⟩
      · rw [asked_append, List.length_append, hasked, hsince, Nat.add_comm]
      · rw [List.length_cons]
        omega
      · omega

/-- What comes of the call that has the queue drained, and of the drain. -/
theorem Settles.woken {script : Nat → Reply} {first calls : Nat} {operation : Operation}
    {queue changed after : ResolveQueue} {deed : Deed} {record since : List Happening}
    (settles : Settles script first changed.pending changed.pending changed.retried 0 calls since
      after)
    (woken : Woken queue operation deed changed) (hasked : ResolveQueue.asked record = [])
    (hended : met .resolved record ++ met .failed record = deed.met .resolved ++ deed.met .failed) :
    Settles script first (queue.pending ++ operation.intake) (queue.backlog ++ operation.intake)
      queue.retried operation.busy calls (record ++ since) after := by
  obtain ⟨hidle, hsince, hcounted, hrest, hretried⟩ := settles
  have hwaiting := woken.waiting
  have hbefore := woken.retried
  refine ⟨hidle, ?_, by omega, ?_, by omega⟩
  · rw [asked_append, hasked, List.nil_append, hsince]
  · refine (ended_append record since).trans ?_
    rw [hended]
    exact (hrest.append_left _).trans woken.ended

/-- A queue in the middle of its drain, when the next request can be handed out. -/
structure Drains (queue : ResolveQueue) : Prop where
  inFlight : queue.inFlight = none
  holdOff : queue.holdOff = none
  draining : queue.draining = true
  prompt : queue.retryDelay.isPositive = false

end ResolveQueue

open ResolveQueue

/-- The platform at a place replies to each resolve of a queue by a script. The surroundings know
their position in it, and log lines do not change that. -/
structure Surroundings.Replies (surroundings : Surroundings ι σ) (platform index : Nat)
    (script : Nat → Reply) (position : σ → Nat) : Prop where
  moves : ∀ ref world around,
    (surroundings.answer (.request platform (.resolve ref) (.member index)) world around).2 =
      [(script (position around)).move index ref]
  counted : ∀ ref world around,
    position (surroundings.answer (.request platform (.resolve ref) (.member index)) world around).1
      = position around + 1
  logged : ∀ record world around,
    position (surroundings.answer (.log record) world around).1 = position around

/-- A platform that replies to each resolve by a script, and channels that fail on every event. The
state is the number of replies so far. -/
def Surroundings.answering (script : Nat → Reply) : Surroundings ι Nat where
  act _ _ calls := (calls, [])
  answer
    | .request _ (.resolve ref) (.member index), _, calls =>
        (calls + 1, [(script calls).move index ref])
    | .publish _ _, _, calls => (calls, [.raise (.system "broken pipe")])
    | _, _, calls => (calls, [])

theorem Surroundings.answering_quiet (script : Nat → Reply) :
    (answering (ι := ι) script).Quiet where
  log _ _ _ := rfl
  startTimer _ _ _ _ _ := rfl
  cancelTimer _ _ _ _ := rfl

theorem Surroundings.answering_replies (platform index : Nat) (script : Nat → Reply) :
    (answering (ι := ι) script).Replies platform index script id where
  moves _ _ _ := rfl
  counted _ _ _ := rfl
  logged _ _ _ := rfl

theorem Surroundings.answering_passive (script : Nat → Reply) :
    (answering (ι := ι) script).Passive id where
  raises call world calls hears := by
    cases call with
    | publish channel event => exact ⟨[.system "broken pipe"], rfl⟩
    | callback place kind number argument => exact ⟨[], rfl⟩
    | _ => cases hears
  uncounted call world calls hears := by
    cases call with
    | publish | callback | log => rfl
    | _ => cases hears

namespace Configuration

variable {surroundings : Surroundings ι σ} {now middle after : Configuration ι σ}
  {past : List (Configuration ι σ)} {position : σ → Nat} {script : Nat → Reply}
  {index calls : Nat} {node : QueueNode} {queue changed : ResolveQueue} {record : List Happening}
  {behind front rest tasks : List (Work ι)} {ref : ServiceRef} {request : ResolveRequest}

/-- Before a call has ended, each delivery is over before anything else is done, and receivers call
neither the queue at a place nor its platform. -/
def Apart (surroundings : Surroundings ι σ) (position : σ → Nat) (index : Nat)
    (behind : List (Work ι)) (now : Configuration ι σ) : Prop :=
  ∀ past moment, Course surroundings now past moment →
    (∀ earlier ∈ past, earlier.Above behind) → ∀ place session event rest,
      moment.agenda = .registry place (.call (.deliver session event)) :: rest →
      behind <:+ rest → ∃ after, Stretch surroundings position index rest [] 0 moment after ∧
        after.agenda = rest

/-- Deliveries to passive receivers are over before anything else is done. -/
theorem apart_of_passive (quiet : surroundings.Quiet) (passive : surroundings.Passive position)
    (index : Nat) (behind : List (Work ι)) (now : Configuration ι σ) :
    now.Apart surroundings position index behind := by
  intro past moment _ _ place session event rest hagenda _
  exact deliver_stretch quiet passive hagenda

theorem Apart.later (apart : now.Apart surroundings position index behind)
    (stretch : Stretch surroundings position index behind record calls now middle) :
    middle.Apart surroundings position index behind := by
  obtain ⟨past, hadvances, -⟩ := stretch
  intro since moment hcourse habove
  apply apart (past ++ since) moment (hadvances.course.append hcourse)
  exact List.forall_mem_append.mpr ⟨hadvances.above, habove⟩

/-- What is over before some of the work in front is done is on the way to the end of it all. -/
theorem Stretch.of_rest (stretch : Stretch surroundings position index rest record calls now after)
    (hsuffix : behind <:+ rest) (hagenda : after.agenda = rest) :
    Stretch surroundings position index behind record calls now after := by
  obtain ⟨past, hadvances, hrecord, hcalls⟩ := stretch
  obtain ⟨front, rfl⟩ := hsuffix
  exact ⟨past, (hadvances.returns hagenda).advances, hrecord, hcalls⟩

/-- The queue at a place is in a state, with a platform outside and receivers that keep apart, and
this is to be done before what waits behind. -/
structure Poised (surroundings : Surroundings ι σ) (position : σ → Nat) (index : Nat)
    (node : QueueNode) (behind : List (Work ι)) (queue : ResolveQueue) (front : List (Work ι))
    (now : Configuration ι σ) : Prop where
  queue : now.world.queues[index]? = some { node with core := queue }
  platform : now.world.platforms[node.platform]? = some .outside
  apart : now.Apart surroundings position index behind
  agenda : now.agenda = front ++ behind

theorem Poised.onward (poised : Poised surroundings position index node behind queue front now)
    (stretch : Stretch surroundings position index behind record calls now after)
    (hqueue : after.world.queues[index]? = some { node with core := changed })
    (hagenda : after.agenda = tasks ++ behind) :
    Poised surroundings position index node behind changed tasks after where
  queue := hqueue
  platform := stretch.outside poised.platform
  apart := poised.apart.later stretch
  agenda := hagenda

/-- What a turn tells is told, and the queue does not hear of it. -/
theorem Poised.tell (quiet : surroundings.Quiet)
    (replies : surroundings.Replies node.platform index script position) {before : ResolveQueue}
    {report : List Effect} (tells : ∀ effect ∈ report, effect.tells = true)
    (poised : Poised surroundings position index node behind queue
      (report.map (·.work index { node with core := before }) ++ front) now) :
    ∃ after, Stretch surroundings position index behind [] 0 now after ∧
      Poised surroundings position index node behind queue front after := by
  induction report generalizing now with
  | nil => exact ⟨now, .here now, poised⟩
  | cons effect report ih =>
      obtain ⟨htells, hreport⟩ := List.forall_mem_cons.mp tells
      have hsuffix : behind <:+ (report.map (·.work index { node with core := before }) ++ front) ++
          behind := List.suffix_append _ behind
      have hmiddle : ∃ middle, Stretch surroundings position index behind [] 0 now middle ∧
          middle.agenda = (report.map (·.work index { node with core := before }) ++ front) ++
            behind := by
        cases effect with
        | log record =>
            have hcounted := replies.logged record now.world now.around
            refine ⟨_, .call poised.agenda hsuffix rfl hcounted, ?_⟩
            simp [quiet.log]
        | deliver session event =>
            obtain ⟨middle, hstretch, hmiddle⟩ :=
              poised.apart [] now .start (by simp) _ _ _ _ poised.agenda hsuffix
            exact ⟨middle, hstretch.of_rest hsuffix hmiddle, hmiddle⟩
        | _ => cases htells
      obtain ⟨middle, hfirst, hagenda⟩ := hmiddle
      obtain ⟨after, hsecond, hafter⟩ :=
        ih hreport (poised.onward hfirst (hfirst.unconcerned poised.queue) hagenda)
      exact ⟨after, hfirst.trans hsecond, hafter⟩

/-- The queue takes a turn. -/
theorem Poised.turn {task : Task}
    (poised : Poised surroundings position index node behind queue
      (.queue index task :: front) now) :
    ∃ after, Stretch surroundings position index behind [.turn (.run task) queue] 0 now after ∧
      Poised surroundings position index node behind (take (.run task) queue).1
        ((take (.run task) queue).2.map (·.work index { node with core := queue }) ++ front)
        after := by
  have hlt : index < now.world.queues.length := (List.getElem?_eq_some_iff.mp poised.queue).1
  have hstep := @step_queue ι σ surroundings now index _ task _ poised.queue poised.agenda
  have hadvances := Advances.task poised.agenda (List.suffix_append front behind) (by simp) hstep
  have hhappening : now.happening index = some (.turn (.run task) queue) := by
    simp [happening, poised.queue, poised.agenda]
  have hstretch : Stretch surroundings position index behind [.turn (.run task) queue] 0 now _ :=
    .one hadvances (by rw [hhappening, Option.toList_some]) rfl
  refine ⟨_, hstretch, poised.onward hstretch (List.getElem?_set_self hlt) ?_⟩
  simp

/-- The platform is asked to resolve, and replies. -/
theorem Poised.ask (replies : surroundings.Replies node.platform index script position)
    (poised : Poised surroundings position index node behind queue
      (.request node.platform (.resolve ref) (.member index) :: front) now) :
    ∃ after, Stretch surroundings position index behind [.made (.resolve ref)] 1 now after ∧
      Poised surroundings position index node behind queue
        (((script (position now.around)).move index ref).work :: front) after := by
  have hsuffix : behind <:+ front ++ behind := List.suffix_append front behind
  have hstep := @step_inner ι σ surroundings now _ _ rfl poised.agenda
  have hroute : now.world.run (.request (ι := ι) node.platform (.resolve ref) (.member index)) =
      (now.world, [.call (.request node.platform (.resolve ref) (.member index))]) := by
    simp [World.run, World.route, poised.platform]
  have hhappening : now.happening index = some (.made (.resolve ref)) := by
    simp [happening, poised.queue, poised.agenda, Work.part]
  rw [hroute] at hstep
  have hfirst : Stretch surroundings position index behind [.made (.resolve ref)] 0 now _ :=
    .one (.task poised.agenda hsuffix (by simp) hstep) (by rw [hhappening, Option.toList_some]) rfl
  have hsecond := @Stretch.call ι σ surroundings { now with
    agenda := .call (.request node.platform (.resolve ref) (.member index)) :: (front ++ behind) }
    position index behind 1 _ _ rfl hsuffix rfl (replies.counted ref now.world now.around)
  have hstretch := hfirst.trans hsecond
  refine ⟨_, hstretch, poised.onward hstretch poised.queue ?_⟩
  simp [replies.moves]

/-- The platform refuses, and the queue takes the turn that recovers from that. -/
theorem Poised.refuse {fault : Fault}
    (poised : Poised surroundings position index node behind queue
      (.raise fault :: .queue index (.resolving ref) :: front) now) :
    ∃ after, Stretch surroundings position index behind [.turn (.refused ref fault) queue] 0 now
        after ∧
      Poised surroundings position index node behind (take (.refused ref fault) queue).1
        ((take (.refused ref fault) queue).2.map (·.work index { node with core := queue }) ++
          front) after := by
  have hlt : index < now.world.queues.length := (List.getElem?_eq_some_iff.mp poised.queue).1
  have hrecover : World.recover fault (.queue (ι := ι) index (.resolving ref)) now.world =
      some ({ now.world with
        queues := now.world.queues.set index
          { node with core := (take (.refused ref fault) queue).1 } },
        (take (.refused ref fault) queue).2.map (·.work index { node with core := queue })) := by
    simp only [World.recover, World.recoverWith, poised.queue]
    rfl
  have hadvances := @Advances.recovered ι σ surroundings now behind fault [] _ _ _ _ poised.agenda
    (List.suffix_append front behind) (by simp) hrecover
  have hhandler := @World.handler?_eq_some ι fault now.world _ [] (front ++ behind) _ _ (by simp)
    hrecover
  have hhappening : now.happening index = some (.turn (.refused ref fault) queue) := by
    have hagenda : now.agenda = .raise fault :: ([] ++ .queue index (.resolving ref) ::
      (front ++ behind)) := poised.agenda
    simp only [happening, poised.queue, hagenda, hhandler, ↓reduceIte]
  have hstretch : Stretch surroundings position index behind [.turn (.refused ref fault) queue] 0
      now _ := .one hadvances (by rw [hhappening, Option.toList_some]) rfl
  refine ⟨_, hstretch, poised.onward hstretch (List.getElem?_set_self hlt) ?_⟩
  simp

/-- What a turn tells is told before the queue goes on. -/
theorem Poised.resume (quiet : surroundings.Quiet)
    (replies : surroundings.Replies node.platform index script position) {before : ResolveQueue}
    {report effects : List Effect} {task : Task} (heffects : effects = report ++ [.own task])
    (tells : ∀ effect ∈ report, effect.tells = true)
    (poised : Poised surroundings position index node behind queue
      (effects.map (·.work index { node with core := before }) ++ front) now) :
    ∃ after, Stretch surroundings position index behind [] 0 now after ∧
      Poised surroundings position index node behind queue (.queue index task :: front) after := by
  rw [heffects, List.map_append, List.append_assoc] at poised
  exact poised.tell quiet replies tells

/-- While the queue is drained already, nothing comes of another attempt. -/
theorem Poised.skip (draining : queue.draining = true)
    (poised : Poised surroundings position index node behind queue
      (.queue index .drain :: front) now) :
    ∃ after, Stretch surroundings position index behind [.turn (.run .drain) queue] 0 now after ∧
      Poised surroundings position index node behind queue front after := by
  have htake : take (.run .drain) queue = (queue, []) := by
    simp [take, ResolveQueue.step, ResolveQueue.drain, draining]
  have hturn := poised.turn
  rw [htake] at hturn
  exact hturn

/-- The platform has been asked for the request under way, and its reply is taken before the drain
goes on. -/
theorem Poised.reply (quiet : surroundings.Quiet)
    (replies : surroundings.Replies node.platform index script position) {reply : Reply}
    (asked : queue.answered ref = some request) (draining : queue.draining = true)
    (prompt : queue.retryDelay.isPositive = false)
    (poised : Poised surroundings position index node behind queue
      [(reply.move index ref).work, .queue index (.resolving ref)] now) :
    ∃ after changed deed record task, Concludes queue request reply.isBusy deed changed ∧
      Stretch surroundings position index behind record 0 now after ∧
      Poised surroundings position index node behind changed [.queue index task] after ∧
      task.claims = true ∧ ResolveQueue.asked record = [] ∧
      met .resolved record ++ met .failed record = deed.met .resolved ++ deed.met .failed := by
  have htaken := taken (reply.turn ref) queue
  obtain ⟨hconcludes, report, heffects, htells⟩ := htaken.concludes asked prompt
  have hstill : (take (reply.turn ref) queue).1.draining = true :=
    hconcludes.draining.trans draining
  have houtcome {outcome : ResolveOutcome}
      (hturn : reply.turn ref = .run (.call (.outcome outcome)))
      (hmove : (reply.move index ref).work = (Work.queue index (.call (.outcome outcome)) : Work ι))
      (hresume : reply.resume = .drain) :
      ∃ after record, Stretch surroundings position index behind record 0 now after ∧
        Poised surroundings position index node behind (take (reply.turn ref) queue).1
          [.queue index (.resolving ref)] after ∧
        ResolveQueue.asked record = [] ∧ met .resolved record ++ met .failed record =
          (ResolveQueue.deed (reply.turn ref) queue).met .resolved ++
            (ResolveQueue.deed (reply.turn ref) queue).met .failed := by
    rw [hmove] at poised
    obtain ⟨first, hfirst, hpoised⟩ := poised.turn
    rw [← hturn] at hfirst hpoised
    rw [hresume] at heffects
    obtain ⟨second, hsecond, hpoised⟩ := hpoised.resume quiet replies heffects htells
    -- The outcome asks for a drain of its own, inside the one that waits for this reply.
    obtain ⟨third, hthird, hpoised⟩ := hpoised.skip hstill
    refine ⟨third, _, hfirst.trans (hsecond.trans hthird), hpoised, ?_, ?_⟩
    · simp [ResolveQueue.asked]
    · simp [met, Happening.deed, ResolveQueue.deed, Deed.met]
  cases reply with
  | resolved answer =>
      obtain ⟨after, record, hstretch, hpoised, hrecord⟩ := houtcome rfl rfl rfl
      exact ⟨after, _, _, record, _, hconcludes, hstretch, hpoised, rfl, hrecord⟩
  | failed code =>
      obtain ⟨after, record, hstretch, hpoised, hrecord⟩ := houtcome rfl rfl rfl
      exact ⟨after, _, _, record, _, hconcludes, hstretch, hpoised, rfl, hrecord⟩
  | refused fault =>
      obtain ⟨first, hfirst, hpoised⟩ := poised.refuse
      obtain ⟨second, hsecond, hpoised⟩ := hpoised.resume quiet replies heffects htells
      refine ⟨second, _, _, _, _, hconcludes, hfirst.trans hsecond, hpoised, rfl, ?_, ?_⟩
      · simp [ResolveQueue.asked]
      · simp [met, Happening.deed, Reply.turn]

/-- A round of the drain: the request that waits longest is handed out and replied to. -/
theorem Poised.round (quiet : surroundings.Quiet)
    (replies : surroundings.Replies node.platform index script position) {task : Task}
    {waiting : List ResolveRequest} (claims : task.claims = true) (drains : queue.Drains)
    (first : queue.pending = request :: waiting)
    (poised : Poised surroundings position index node behind queue [.queue index task] now) :
    ∃ after changed deed record later,
      Concludes { queue with pending := waiting, inFlight := some request } request
        (script (position now.around)).isBusy deed changed ∧
      Stretch surroundings position index behind record 1 now after ∧
      Poised surroundings position index node behind changed [.queue index later] after ∧
      later.claims = true ∧ (ResolveQueue.asked record).length = 1 ∧
      met .resolved record ++ met .failed record = deed.met .resolved ++ deed.met .failed := by
  have htake : take (.run task) queue =
      ({ queue with pending := waiting, inFlight := some request },
        [debug ("Resolving " ++ request.ref.text)] ++
          [.resolve request.ref, .own (.resolving request.ref)]) := by
    simp [take_of_claims claims, ResolveQueue.next, drains.inFlight, drains.holdOff, first]
  have htells : ∀ effect ∈ [debug ("Resolving " ++ request.ref.text)], effect.tells = true := by
    simp [debug, Effect.tells]
  obtain ⟨claimed, hclaimed, hpoised⟩ := poised.turn
  rw [htake, List.map_append, List.append_assoc] at hpoised
  obtain ⟨told, htold, hpoised⟩ := hpoised.tell quiet replies htells
  have hposition : position told.around = position now.around := (hclaimed.trans htold).counted
  have hasking : ({ queue with pending := waiting, inFlight := some request } :
      ResolveQueue).answered request.ref = some request := by
    simp [answered]
  obtain ⟨called, hcalled, hpoised⟩ := hpoised.ask replies
  rw [hposition] at hpoised
  obtain ⟨after, changed, deed, record, later, hconcludes, hreplied, hpoised, hclaims, hasked,
    hended⟩ := hpoised.reply quiet replies hasking drains.draining drains.prompt
  have hstretch := hclaimed.trans (htold.trans (hcalled.trans hreplied))
  refine ⟨after, changed, deed, _, later, hconcludes, hstretch, hpoised, hclaims, ?_, ?_⟩
  · simpa [ResolveQueue.asked, Effect.ref?] using hasked
  · rw [← hended]
    have hdeed : ResolveQueue.deed (.run task) queue = .claimed request := by
      simp only [deed_of_claims claims, claim, drains.inFlight, drains.holdOff, first]
    simp [met, Happening.deed, hdeed, Deed.met]

/-- When nothing waits any more, the drain is over. -/
theorem Poised.stop {task : Task} (claims : task.claims = true) (drains : queue.Drains)
    (spent : queue.pending = [])
    (poised : Poised surroundings position index node behind queue [.queue index task] now) :
    ∃ after settled record calls,
      Stretch surroundings position index behind record calls now after ∧
      Poised surroundings position index node behind settled [] after ∧
      Settles script (position now.around) queue.pending queue.pending queue.retried 0 calls record
        settled := by
  have htake : take (.run task) queue = ({ queue with draining := false }, []) := by
    simp [take_of_claims claims, ResolveQueue.next, spent]
  obtain ⟨after, hstretch, hpoised⟩ := poised.turn
  rw [htake] at hpoised
  refine ⟨after, _, _, 0, hstretch, hpoised, ⟨?_, rfl⟩, rfl, ?_, ?_, rfl⟩
  · simp [idle, drains.inFlight, spent]
  · rw [spent]
    rfl
  · have hdeed : ResolveQueue.deed (.run task) queue = .nothing := by
      simp only [deed_of_claims claims, claim, drains.inFlight, drains.holdOff, spent]
    simp [met, Happening.deed, hdeed, Deed.met, spent]

/-- Each round brings the end nearer: one request less waits, or one busy answer less is to come. -/
theorem Poised.drain (quiet : surroundings.Quiet)
    (replies : surroundings.Replies node.platform index script position) {task : Task}
    {patience : Nat} (claims : task.claims = true) (drains : queue.Drains)
    (rare : ∀ calls, busy script (position now.around) calls ≤ patience)
    (poised : Poised surroundings position index node behind queue [.queue index task] now) :
    ∃ after settled record calls,
      Stretch surroundings position index behind record calls now after ∧
      Poised surroundings position index node behind settled [] after ∧
      Settles script (position now.around) queue.pending queue.pending queue.retried 0 calls record
        settled := by
  -- A busy answer puts its request back, so the number of requests that wait does not shrink then;
  -- the number of busy answers to come does.
  generalize hmeasure : queue.pending.length + patience = measure
  induction measure generalizing now queue task patience with
  | zero =>
      have hspent : queue.pending = [] := List.length_eq_zero_iff.mp (by omega)
      exact poised.stop claims drains hspent
  | succ measure ih =>
      cases hpending : queue.pending with
      | nil =>
          rw [← hpending]
          exact poised.stop claims drains hpending
      | cons request waiting =>
          obtain ⟨middle, changed, deed, record, later, hconcludes, hround, hpoised, hclaims,
            hasked, hended⟩ := poised.round quiet replies claims drains hpending
          have hposition : position middle.around = position now.around + 1 := hround.counted
          have hdrains : changed.Drains := {
            inFlight := hconcludes.inFlight
            holdOff := hconcludes.holdOff.trans drains.holdOff
            draining := hconcludes.draining.trans drains.draining
            prompt := hconcludes.retryDelay ▸ drains.prompt }
          have hbusy := busy_succ script (position now.around)
          have hrare : ∀ calls, busy script (position middle.around) calls ≤
              patience - if (script (position now.around)).isBusy then 1 else 0 := by
            intro calls
            have hmore := rare (calls + 1)
            rw [hbusy, ← hposition] at hmore
            omega
          have hless : changed.pending.length +
              (patience - if (script (position now.around)).isBusy then 1 else 0) = measure := by
            have hfirst := rare 1
            rw [hbusy] at hfirst
            rw [hpending, List.length_cons] at hmeasure
            rw [hconcludes.pending, List.length_append]
            split at hfirst <;> split <;> simp_all <;> omega
          obtain ⟨after, settled, since, calls, hrest, hsettled, hsettles⟩ :=
            ih hclaims hdrains hrare hpoised hless
          rw [hposition, hconcludes.pending, hconcludes.retried] at hsettles
          rw [hconcludes.ended] at hended
          refine ⟨after, settled, _, _, hround.trans hrest, hsettled, ?_⟩
          rw [Nat.add_comm]
          exact hsettles.round hasked hended

/-- In front of a platform that answers each resolve on the spot, and is busy only so many times, a
call that has the queue drained returns. The platform has then been asked once for each request that
waited and once more for each busy answer, each request that was held has ended once, and nothing is
held any more. -/
theorem drain_settles_all (quiet : surroundings.Quiet)
    (replies : surroundings.Replies node.platform index script position) {deduplicate : Bool}
    {delay : Double} {before : List Happening} {scene : Scene}
    (came : Scene.Run (.fresh deduplicate delay) before scene) (prompt : delay.isPositive = false)
    (resting : scene.queue.draining = false)
    (found : now.world.queues[index]? = some { node with core := scene.queue })
    (outside : now.world.platforms[node.platform]? = some .outside)
    {operation : ResolveQueue.Operation} (wakes : Wakes scene.queue operation)
    (agenda : now.agenda = .queue index (.call operation) :: behind)
    (apart : now.Apart surroundings position index behind) {patience : Nat}
    (rare : ∀ calls, busy script (position now.around) calls ≤ patience) :
    ∃ past after settled calls, Returns surroundings behind now past after ∧
      after.world.queues[index]? = some { node with core := settled } ∧
      position after.around = position now.around + calls ∧
      Settles script (position now.around) (scene.queue.pending ++ operation.intake)
        (scene.queue.backlog ++ operation.intake) scene.queue.retried operation.busy calls
        (history index past) settled := by
  -- The call takes its turn, tells of it, and begins to drain; the rounds follow.
  obtain ⟨hdelay, hfree⟩ := Scene.run_unheld came prompt
  rw [← hdelay] at prompt
  have hpoised : Poised surroundings position index node behind scene.queue
      [.queue index (.call operation)] now := ⟨found, outside, apart, agenda⟩
  obtain ⟨hwoken, report, heffects, htells⟩ :=
    (taken (.run (.call operation)) scene.queue).woken wakes prompt
  obtain ⟨called, hcalled, hpoised⟩ := hpoised.turn
  obtain ⟨told, htold, hpoised⟩ := hpoised.resume quiet replies heffects htells
  have htake : take (.run .drain) (take (.run (.call operation)) scene.queue).1 =
      ({ (take (.run (.call operation)) scene.queue).1 with draining := true }, [.own .next]) := by
    generalize take (.run (.call operation)) scene.queue = result at hwoken
    have hresting : result.1.draining = false := hwoken.draining.trans resting
    simp [take, ResolveQueue.step, ResolveQueue.drain, hresting]
  obtain ⟨begun, hbegun, hpoised⟩ := hpoised.turn
  rw [htake] at hpoised
  have hdrains : Drains { (take (.run (.call operation)) scene.queue).1 with draining := true } := {
    inFlight := hwoken.inFlight
    holdOff := hwoken.holdOff.trans hfree
    draining := rfl
    prompt := hwoken.retryDelay ▸ prompt }
  have hfront := hcalled.trans (htold.trans hbegun)
  have hposition : position begun.around = position now.around := hfront.counted
  rw [← hposition] at rare
  obtain ⟨after, settled, since, calls, hrest, hsettled, hsettles⟩ :=
    hpoised.drain quiet replies rfl hdrains rare
  rw [hposition] at hsettles
  change Settles script _ (take (.run (.call operation)) scene.queue).1.pending
    (take (.run (.call operation)) scene.queue).1.pending
    (take (.run (.call operation)) scene.queue).1.retried 0 calls since settled at hsettles
  obtain ⟨past, hadvances, hrecord, hcalls⟩ := hfront.trans hrest
  refine ⟨past, after, settled, calls, hadvances.returns hsettled.agenda, hsettled.queue, ?_, ?_⟩
  · simpa using hcalls
  · rw [hrecord]
    refine hsettles.woken hwoken ?_ ?_
    · simp [ResolveQueue.asked]
    · simp [met, Happening.deed, ResolveQueue.deed, Deed.met]

/-- Three sessions asked while the platform kept silent. Its first answer is that it is busy, and so
is the second, then it refuses a resolve, and from then on it resolves what it is asked for. -/
theorem drain_settles_all_of_busy :
    let printer : ServiceRef := { name := "Printer", type := "_ipp._tcp" }
    let scanner : ServiceRef := { name := "Scanner", type := "_uscan._tcp" }
    let answer : ResolveAnswer := {
      name := "Printer", type := "_ipp._tcp", hostname := "printer.local", address := "10.0.0.9"
      port := 631, attributes := some [] }
    let script : Nat → Reply
      | 0 => .failed FailureCode.alreadyActive
      | 1 => .refused (.system "network is down")
      | _ => .resolved answer
    let queue : ResolveQueue := {
      inFlight := some { ref := printer, session := 1 }
      pending := [{ ref := scanner, session := 2 }, { ref := printer, session := 3 }]
      enqueued := 3 }
    let asked := alone (ι := Empty) false .zero []
      [.enqueue printer 1, .enqueue scanner 2, .enqueue printer 3]
    let start : Configuration Empty Nat := {
      world := { (run .scripted 20 asked).world with
        registries := [{
          channels := [(1, .outside 0), (2, .outside 1), (3, .outside 2)], issued := 3 }] }
      around := 0
      agenda := [.queue 0 (.call (.outcome (.failed printer FailureCode.alreadyActive)))] }
    start.world.queues = [{ platform := 0, registry := 0, core := queue }] ∧
      ∃ past after settled calls, Returns (.answering script) [] start past after ∧
        after.world.queues[0]? = some { platform := 0, registry := 0, core := settled } ∧
        after.around = 0 + calls ∧
        Settles script 0 (queue.pending ++ []) (queue.backlog ++ []) 0 1 calls (history 0 past)
          settled := by
  intro printer scanner answer script queue asked start
  obtain ⟨⟨held, due⟩, hrun, hshows⟩ :=
    Course.shows Surroundings.scripted_quiet (alone_fresh ..) (course_run .scripted 20 asked)
  obtain rfl : queue = held := congrArg QueueNode.core (Option.some.inj hshows.queue)
  have hwakes : Wakes queue (.outcome (.failed printer FailureCode.alreadyActive)) :=
    @Wakes.outcome queue (.failed printer FailureCode.alreadyActive) _ rfl
  have hrare (calls : Nat) : busy script 0 calls ≤ 1 := by
    cases calls with
    | zero => exact Nat.zero_le 1
    | succ calls =>
        have hlater : busy script 1 calls = 0 := by
          refine List.countP_eq_zero.mpr fun number hmem => ?_
          obtain ⟨hfirst, -⟩ := List.mem_range'_1.mp hmem
          cases number with
          | zero => cases hfirst
          | succ number => cases number <;> simp [script, Reply.isBusy]
        rw [busy_succ, hlater]
        decide
  exact ⟨rfl, drain_settles_all (Surroundings.answering_quiet script)
    (Surroundings.answering_replies 0 0 script) hrun rfl rfl rfl rfl hwakes rfl
    (apart_of_passive (Surroundings.answering_quiet script) (Surroundings.answering_passive script)
      0 [] start) hrare⟩

end Configuration

end ServiceDiscovery
