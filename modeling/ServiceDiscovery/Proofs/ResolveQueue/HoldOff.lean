import ServiceDiscovery.Proofs.ResolveQueue.Record
import ServiceDiscovery.Proofs.ResolveQueue.Wakeup

/-!
Hold-offs. A queue that has a delay makes one timer for each busy answer to the request under way
and starts it, so timers are numbered by the busy answers. A hold-off lasts from there until its own
timer fires or the queue is cleared. As long as it lasts nothing is under way and the platform is
not asked for anything, and a timer that no longer runs has no effect when it fires after all.
-/

namespace ServiceDiscovery

variable {ι σ : Type}

namespace ResolveQueue

/-- The timer that an effect starts. -/
def Effect.started? : Effect → Option Nat
  | startTimer timer => some timer
  | _ => none

/-- The timers that were started, in order. -/
def started (history : List Happening) : List Nat :=
  history.filterMap fun
    | .made call => call.started?
    | .turn _ _ => none

/-- Does the turn end the hold-off of a timer? -/
def Turn.disarms (timer : Nat) : Turn → Bool
  | .run (.call .clear) => true
  | .run (.call (.timerFired other)) => other = timer
  | _ => false

theorem Turn.disarms_of_claims {task : Task} (h : task.claims = true) (timer : Nat) :
    disarms timer (.run task) = false := by
  cases task with
  | call operation => cases h
  | _ => rfl

section

variable {queue after : ResolveQueue} {turn : Turn} {deed : Deed} {effects : List Effect}
  {timer : Nat} {ref : ServiceRef} {request : ResolveRequest}

/-- The settings of a queue stay as they are. -/
theorem Taken.retryDelay (h : Taken queue turn deed after effects) :
    after.retryDelay = queue.retryDelay := by
  cases h <;> rfl

/-- A turn makes a timer for each request that it puts back, and starts it. -/
theorem Taken.starts (h : Taken queue turn deed after effects)
    (delayed : queue.retryDelay.isPositive = true) :
    after.timers = queue.timers + (deed.met .requeued).length ∧
      effects.filterMap Effect.started? =
        List.range' queue.timers (deed.met .requeued).length := by
  cases h with
  | requeued _ _ prompt => cases delayed.symm.trans prompt
  | cleared _ plain => exact ⟨rfl, plain.filterMap_eq_nil fun _ => rfl⟩
  | released _ plain => exact ⟨rfl, plain.filterMap_eq_nil fun _ => rfl⟩
  | discarded count plain =>
      refine ⟨rfl, ?_⟩
      rw [List.filterMap_append, plain.filterMap_eq_nil fun _ => rfl]
      rfl
  | _ => exact ⟨rfl, rfl⟩

/-- Only clearing the queue and the timer itself end a hold-off, and no other takes its place. -/
theorem Taken.disarms (h : Taken queue turn deed after effects)
    (held : queue.holdOff = some timer) (free : queue.inFlight = none) :
    (after.holdOff = none ↔ turn.disarms timer = true) ∧
      ∀ other, after.holdOff = some other → other = timer := by
  have hkept (hsame : after.holdOff = queue.holdOff) (hnot : turn.disarms timer = false) :
      (after.holdOff = none ↔ turn.disarms timer = true) ∧
        ∀ other, after.holdOff = some other → other = timer := by
    rw [hsame, held, hnot]
    exact ⟨by simp, fun other heq => (Option.some.inj heq).symm⟩
  have hended (hnone : after.holdOff = none) (hends : turn.disarms timer = true) :
      (after.holdOff = none ↔ turn.disarms timer = true) ∧
        ∀ other, after.holdOff = some other → other = timer := by
    rw [hnone]
    exact ⟨by simp [hends], fun other heq => by cases heq⟩
  cases h with
  | cleared | released => exact hended rfl rfl
  | @fired other hother =>
      refine hended rfl ?_
      have hsame : other = timer := Option.some.inj (hother.symm.trans held)
      simp [Turn.disarms, hsame]
  | @unfired other hother =>
      refine hkept rfl ?_
      have hne : other ≠ timer := fun heq => hother (heq ▸ held)
      simp [Turn.disarms, hne]
  | held _ asked => cases (inFlight_of_answered asked).1.symm.trans free
  | claimed _ claims | stopped claims => exact hkept rfl (Turn.disarms_of_claims claims timer)
  | _ => exact hkept rfl rfl

/-- A busy answer to the request under way begins a hold-off with a timer of its own. -/
theorem take_busy (asked : queue.answered ref = some request)
    (delayed : queue.retryDelay.isPositive = true) :
    ∃ message, take (.run (.call (.outcome (.failed ref FailureCode.alreadyActive)))) queue =
      ({ queue with
          inFlight := none, pending := queue.pending ++ [request], retried := queue.retried + 1
          holdOff := some queue.timers, timers := queue.timers + 1 },
        [debug message, .startTimer queue.timers]) := by
  refine ⟨"Resolver busy, requeued " ++ request.ref.text, ?_⟩
  simp [take, step, call, resolveFailed, finish_eq_some asked, requeue, delayed]

/-- Any timer but that of the hold-off fires in vain. -/
theorem take_unfired (other : queue.holdOff ≠ some timer) :
    take (.run (.call (.timerFired timer))) queue = (queue, []) := by
  simp [take, step, call, timerFired, other]

end

namespace Scene

variable {scene next : Scene} {happening : Happening} {history : List Happening}

/-- The timers that are about to be started. -/
def starting (scene : Scene) : List Nat :=
  scene.due.filterMap Effect.started?

/-- Timers are numbered by the busy answers, and each is started once and in its turn. -/
structure Numbered (delay : Double) (history : List Happening) (scene : Scene) : Prop where
  delay : scene.queue.retryDelay = delay
  counted : scene.queue.timers = (met .requeued history).length
  numbered : started history ++ scene.starting = List.range scene.queue.timers

/-- A turn is about to start the timers that it makes. -/
theorem turn_numbered {queue : ResolveQueue} {due : List Effect} (turn : Turn)
    (delayed : queue.retryDelay.isPositive = true)
    (counted : queue.timers = (met .requeued history).length)
    (numbered : started history = List.range queue.timers)
    (calm : ∀ effect ∈ due, effect.isOwn) :
    (after turn queue due).Numbered queue.retryDelay (history ++ [.turn turn queue]) := by
  have htaken := taken turn queue
  obtain ⟨htimers, hstarts⟩ := htaken.starts delayed
  change (after turn queue due).queue.timers = _ at htimers
  refine ⟨?_, ?_, ?_⟩
  · exact htaken.retryDelay
  · rw [htimers, counted, met_append, List.length_append]
    rfl
  · have hfront : (after turn queue due).starting =
        List.range' queue.timers ((deed turn queue).met .requeued).length := by
      have hdue (effect : Effect) (h : effect.isDue = false) : effect.started? = none := by
        cases effect <;> first | rfl | cases h
      rw [starting, filterMap_after turn queue calm (fun _ => rfl) hdue, hstarts]
    have hbefore : started (history ++ [.turn turn queue]) = List.range' 0 queue.timers := by
      rw [← List.range_eq_range', ← numbered]
      simp [started]
    rw [hbefore, hfront, htimers, List.range_eq_range']
    have hrange := List.range'_append_1 (s := 0) (m := queue.timers)
      (n := ((deed turn queue).met .requeued).length)
    rwa [Nat.zero_add] at hrange

theorem step_numbered {delay : Double} (delayed : delay.isPositive = true)
    (step : Step scene happening next) (h : scene.Numbered delay history) :
    next.Numbered delay (history ++ [happening]) := by
  obtain ⟨rfl, hcounted, hnumbered⟩ := h
  have hstarted (calm : ∀ effect ∈ scene.due, effect.isOwn) :
      started history = List.range scene.queue.timers := by
    rw [starting, filterMap_of_calm calm fun _ => rfl, List.append_nil] at hnumbered
    exact hnumbered
  cases step with
  | called operation calm => exact turn_numbered _ delayed hcounted (hstarted calm) calm
  | ran task inner calm =>
      have hall := hstarted (List.forall_mem_cons.mpr ⟨rfl, calm⟩)
      exact turn_numbered _ delayed hcounted hall calm
  | refused ref fault calm =>
      have hall := hstarted (List.forall_mem_cons.mpr ⟨rfl, calm⟩)
      exact turn_numbered _ delayed hcounted hall calm
  | @made queue due call outer =>
      refine ⟨rfl, ?_, ?_⟩
      · rw [met_append, List.length_append]
        exact hcounted
      · change started history ++ (call :: due).filterMap Effect.started? =
          List.range queue.timers at hnumbered
        change started (history ++ [.made call]) ++ due.filterMap Effect.started? =
          List.range queue.timers
        rw [← hnumbered]
        cases hcall : call.started? <;> simp [started, hcall]

theorem run_numbered {deduplicate : Bool} {delay : Double} (delayed : delay.isPositive = true)
    (run : Run (fresh deduplicate delay) history scene) : scene.Numbered delay history := by
  induction run with
  | start => exact ⟨rfl, rfl, rfl⟩
  | step _ step ih => exact step_numbered delayed step ih

/-- The platform is asked for the request under way, so no hold-off lasts. -/
theorem Orderly.free_of_asking {ref : ServiceRef} (h : scene.Orderly)
    (hmem : .resolve ref ∈ scene.due) : scene.queue.holdOff = none ∧
      ∃ rest, scene.due = .resolve ref :: rest := by
  cases hdue : scene.due with
  | nil => simp [hdue] at hmem
  | cons effect rest =>
      have hprompt := h.prompt
      rw [hdue] at hmem hprompt
      rcases List.mem_cons.mp hmem with rfl | hlater
      · obtain ⟨hbusy, _⟩ := h.asking ref rest hdue
        refine ⟨?_, rest, rfl⟩
        cases hhold : scene.queue.holdOff with
        | none => rfl
        | some timer => exact absurd (h.held (by simp [hhold])) hbusy
      · cases hprompt _ hlater

/-- No timer runs at the moment when the platform is asked for a reference. -/
theorem running_of_asked {deduplicate : Bool} {retryDelay : Double} {ref : ServiceRef}
    {more : List Happening}
    (run : Run (fresh deduplicate retryDelay) (history ++ .made (.resolve ref) :: more) scene) :
    running history = [] := by
  obtain ⟨middle, after, hrun, hstep⟩ := run.split
  cases hstep with
  | @made queue due call outer =>
      have hfree := (run_orderly hrun).free_of_asking List.mem_cons_self
      have htimers := (run_timed hrun).running
      rw [htimers]
      change queue.holdOff.toList = []
      rw [hfree.1]
      rfl

end Scene

end ResolveQueue

namespace Configuration

open ResolveQueue

variable {surroundings : Surroundings ι σ} {start now after : Configuration ι σ}
  {past : List (Configuration ι σ)} {index : Nat} {node : QueueNode} {scene : Scene}
  {record : List Happening}

/-- What the hold-offs of a queue come to at one moment, in a state of the queue and after all that
happened to it. -/
structure HoldsOff (surroundings : Surroundings ι σ) (index : Nat) (delay : Double)
    (record : List Happening) (now : Configuration ι σ) (core : ResolveQueue) : Prop where
  /-- As many timers were made as requests found the resolver busy. -/
  counted : core.timers = (met .requeued record).length
  /-- Each timer was started once and in its turn, or is about to be started. -/
  numbered : started record ++ (now.due index).filterMap Effect.started? = List.range core.timers
  /-- A busy answer to the request under way comes while no hold-off lasts. It begins one and starts
  its timer with the delay of the queue. -/
  begins : ∀ ref request rest,
    now.agenda = .queue index (.call (.outcome (.failed ref FailureCode.alreadyActive))) :: rest →
    core.answered ref = some request → core.holdOff = none ∧
      ∃ after found line, now.step surroundings = some after ∧
        after.world.queues[index]? = some found ∧ found.core.holdOff = some core.timers ∧
        found.core.timers = core.timers + 1 ∧
        after.agenda =
          .call (.log line) :: .call (.startTimer index core.timers delay) :: rest
  /-- While a hold-off lasts its timer runs and no other, unless it is about to be started. -/
  armed : ∀ timer, core.holdOff = some timer →
    running record = [timer] ∨
      running record = [] ∧ (now.due index).head? = some (.startTimer timer)
  /-- While none lasts no timer runs, unless it is about to be cancelled. -/
  unarmed : core.holdOff = none →
    running record = [] ∨ ∃ timer, running record = [timer] ∧
      (now.due index).head? = some (.cancelTimer timer)
  /-- While a hold-off lasts nothing is under way, and the platform is not being asked. -/
  closed : core.holdOff ≠ none → core.inFlight = none ∧
    ∀ place ref, .request place (.resolve ref) (.member index) ∉ now.agenda
  /-- No timer ran whenever the platform was asked. -/
  asked : ∀ first ref more, record = first ++ .made (.resolve ref) :: more → running first = []
  /-- A step ends a hold-off just in case it clears the queue or fires the timer of the hold-off,
  and no step puts another in its place. -/
  ends : ∀ timer after, core.holdOff = some timer → now.step surroundings = some after →
    ∃ found, after.world.queues[index]? = some found ∧
      (found.core.holdOff = none ↔ ∃ rest, now.agenda = .queue index (.call .clear) :: rest ∨
        now.agenda = .queue index (.call (.timerFired timer)) :: rest) ∧
      ∀ other, found.core.holdOff = some other → other = timer
  /-- A timer that does not run fires in vain: nothing changes and nothing is called. -/
  stale : ∀ timer rest, now.agenda = .queue index (.call (.timerFired timer)) :: rest →
    timer ∉ running record → now.step surroundings = some { now with agenda := rest }

/-- Just the timer of the hold-off runs, but for a call to a timer that is about to be made. -/
theorem armed_of_timed (timed : scene.Timed record) {timer : Nat}
    (held : scene.queue.holdOff = some timer) :
    running record = [timer] ∨
      running record = [] ∧ scene.due.head? = some (.startTimer timer) := by
  have hrunning := timed.running
  unfold Scene.timers at hrunning
  split at hrunning
  · rename_i other rest hdue
    have hsame := timed.starting other rest hdue
    obtain rfl : timer = other := Option.some.inj (held.symm.trans hsame)
    exact Or.inr ⟨hrunning, by rw [hdue]; rfl⟩
  · rename_i other rest hdue
    cases held.symm.trans (timed.cancelling other rest hdue)
  · rw [held] at hrunning
    exact Or.inl hrunning

theorem unarmed_of_timed (timed : scene.Timed record) (free : scene.queue.holdOff = none) :
    running record = [] ∨ ∃ timer, running record = [timer] ∧
      scene.due.head? = some (.cancelTimer timer) := by
  have hrunning := timed.running
  unfold Scene.timers at hrunning
  split at hrunning
  · exact Or.inl hrunning
  · rename_i timer rest hdue
    exact Or.inr ⟨timer, hrunning, by rw [hdue]; rfl⟩
  · rw [free] at hrunning
    exact Or.inl hrunning

/-- Whenever an operation is called, just the timer of the hold-off runs. -/
theorem Shows.running {operation : ResolveQueue.Operation} {rest : List (Work ι)}
    (h : now.Shows index node scene) (timed : scene.Timed record)
    (hagenda : now.agenda = .queue index (.call operation) :: rest) :
    running record = scene.queue.holdOff.toList := by
  have hprompt := h.prompt
  rw [hagenda] at hprompt
  have hdue : rest.filterMap (Work.part index) = scene.due := by
    have hdue := h.due
    rw [Configuration.due, hagenda, List.filterMap_cons] at hdue
    exact hdue
  have hcalm : ∀ effect ∈ scene.due, effect.isOwn := hdue ▸ hprompt
  rw [timed.running, Scene.timers_of_calm fun effect hmem =>
    Effect.not_isTimed_of_isOwn (hcalm effect hmem)]

/-- A queue that asks the platform has that to do. -/
theorem mem_due_of_asking {place : Nat} {ref : ServiceRef}
    (h : .request place (.resolve ref) (.member index) ∈ now.agenda) :
    .resolve ref ∈ now.due index :=
  List.mem_filterMap.mpr ⟨_, h, by simp [Work.part]⟩

/-- A step ends a hold-off just in case it takes a turn that does. -/
theorem Shows.ends (h : now.Shows index node scene) (quiet : surroundings.Quiet)
    (orderly : scene.Orderly) {timer : Nat} (held : scene.queue.holdOff = some timer)
    (hstep : now.step surroundings = some after) :
    ∃ found, after.world.queues[index]? = some found ∧
      (found.core.holdOff = none ↔ ∃ rest, now.agenda = .queue index (.call .clear) :: rest ∨
        now.agenda = .queue index (.call (.timerFired timer)) :: rest) ∧
      ∀ other, found.core.holdOff = some other → other = timer := by
  have hfree : scene.queue.inFlight = none := orderly.held (by simp [held])
  -- An operation at the front of the agenda is a turn of the queue.
  have hturn {operation : ResolveQueue.Operation} {rest : List (Work ι)}
      (hagenda : now.agenda = .queue index (.call operation) :: rest) :
      now.happening index = some (.turn (.run (.call operation)) scene.queue) := by
    simp [happening, h.queue, hagenda]
  rcases h.step quiet hstep with ⟨hnone, hafter⟩ | ⟨happening, next, hsome, hnext, hafter⟩
  · refine ⟨_, hafter.queue, ⟨fun hgone => ?_, ?_⟩, fun other hother => ?_⟩
    · cases held.symm.trans hgone
    · rintro ⟨rest, hagenda | hagenda⟩ <;> cases hnone.symm.trans (hturn hagenda)
    · exact Option.some.inj (hother.symm.trans held)
  · cases happening with
    | made call =>
        have hsame : next.queue = scene.queue := by cases hnext; rfl
        refine ⟨_, hafter.queue, ⟨fun hgone => ?_, ?_⟩, fun other hother => ?_⟩
        · rw [hsame] at hgone
          cases held.symm.trans hgone
        · rintro ⟨rest, hagenda | hagenda⟩ <;> cases hsome.symm.trans (hturn hagenda)
        · rw [hsame] at hother
          exact Option.some.inj (hother.symm.trans held)
    | turn turn queue =>
        obtain rfl := hnext.before
        have hqueue : next.queue = (take turn scene.queue).1 := by cases hnext <;> rfl
        obtain ⟨hiff, hother⟩ := (taken turn scene.queue).disarms held hfree
        refine ⟨_, hafter.queue, ?_, by rwa [hqueue]⟩
        change next.queue.holdOff = none ↔ _
        rw [hqueue, hiff]
        constructor
        · intro hdisarms
          obtain ⟨_, _, _, hcases⟩ := happening_turn hsome
          rcases hcases with ⟨task, rest, hagenda, rfl⟩ | ⟨_, _, _, _, _, rfl⟩
          · refine ⟨rest, ?_⟩
            unfold Turn.disarms at hdisarms
            split at hdisarms
            · rename_i heq
              cases heq
              exact Or.inl hagenda
            · rename_i other heq
              cases heq
              obtain rfl : other = timer := by simpa using hdisarms
              exact Or.inr hagenda
            · cases hdisarms
          · cases hdisarms
        · rintro ⟨rest, hagenda | hagenda⟩
          · cases hsome.symm.trans (hturn hagenda)
            rfl
          · cases hsome.symm.trans (hturn hagenda)
            simp [Turn.disarms]

/-- A busy answer leads to the call that starts its timer, after a line in the log. -/
theorem step_busy {ref : ServiceRef} {request : ResolveRequest} {rest : List (Work ι)}
    (hqueue : now.world.queues[index]? = some node)
    (hagenda : now.agenda =
      .queue index (.call (.outcome (.failed ref FailureCode.alreadyActive))) :: rest)
    (asked : node.core.answered ref = some request)
    (delayed : node.core.retryDelay.isPositive = true) :
    ∃ after found line, now.step surroundings = some after ∧
      after.world.queues[index]? = some found ∧ found.core.holdOff = some node.core.timers ∧
      found.core.timers = node.core.timers + 1 ∧
      after.agenda = .call (.log line) ::
        .call (.startTimer index node.core.timers node.core.retryDelay) :: rest := by
  obtain ⟨message, htake⟩ := take_busy asked delayed
  have hlt : index < now.world.queues.length := (List.getElem?_eq_some_iff.mp hqueue).1
  have hstep : now.step surroundings = some _ := step_queue hqueue hagenda
  rw [htake] at hstep
  exact ⟨_, _, _, hstep, List.getElem?_set_self hlt, rfl, rfl, rfl⟩

/-- At every moment of every run of a queue that has a delay, hold-offs are as they should be. -/
theorem busy_hold_off (quiet : surroundings.Quiet) (fresh : start.Fresh index node)
    (delayed : node.core.retryDelay.isPositive = true)
    (course : Course surroundings start past now) :
    ∃ found, now.world.queues[index]? = some found ∧
      now.HoldsOff surroundings index node.core.retryDelay (history index past) found.core := by
  obtain ⟨scene, hrun, hshows⟩ := course.shows quiet fresh
  have horderly := Scene.run_orderly hrun
  have htimed := Scene.run_timed hrun
  have hnumbered := Scene.run_numbered delayed hrun
  refine ⟨_, hshows.queue, ?_⟩
  constructor
  case counted => exact hnumbered.counted
  case numbered =>
    rw [hshows.due]
    exact hnumbered.numbered
  case begins =>
    intro ref request rest hagenda asked
    have hfree : scene.queue.holdOff = none := by
      cases hhold : scene.queue.holdOff with
      | none => rfl
      | some timer =>
          have hslot := horderly.held (by simp [hhold])
          cases (inFlight_of_answered asked).1.symm.trans hslot
    have hlong : scene.queue.retryDelay.isPositive = true := by rw [hnumbered.delay, delayed]
    refine ⟨hfree, ?_⟩
    rw [← hnumbered.delay]
    exact step_busy hshows.queue hagenda asked hlong
  case armed =>
    intro timer held
    rw [hshows.due]
    exact armed_of_timed htimed held
  case unarmed =>
    intro free
    rw [hshows.due]
    exact unarmed_of_timed htimed free
  case closed =>
    intro held
    refine ⟨horderly.held held, fun place ref hmem => ?_⟩
    have hdue := mem_due_of_asking hmem
    rw [hshows.due] at hdue
    exact held (horderly.free_of_asking hdue).1
  case asked =>
    intro first ref more heq
    rw [heq] at hrun
    exact Scene.running_of_asked hrun
  case ends =>
    intro timer after held hstep
    exact hshows.ends quiet horderly held hstep
  case stale =>
    intro timer rest hagenda hnot
    have hother : scene.queue.holdOff ≠ some timer := by
      intro held
      rw [hshows.running htimed hagenda, held] at hnot
      simp at hnot
    have hsame := List.set_getElem_self (List.getElem?_eq_some_iff.mp hshows.queue).1
    rw [(List.getElem?_eq_some_iff.mp hshows.queue).2] at hsame
    have hstep : now.step surroundings = some _ := step_queue hshows.queue hagenda
    rw [take_unfired hother, hsame] at hstep
    exact hstep

/-- A queue is cleared while it holds off, and its timer fires after all. -/
theorem busy_hold_off_of_late_timer :
    let ref : ServiceRef := { name := "Printer", type := "_ipp._tcp" }
    let busy : Move Empty := .perform (.queue 0 (.outcome (.failed ref FailureCode.alreadyActive)))
    let delay : Double := ⟨0x3FE0000000000000⟩
    let start := alone false delay [[busy]] [.enqueue ref 1, .clear, .timerFired 0]
    let now := run .scripted 13 start
    let record := history 0 (trail .scripted 13 start)
    delay.isPositive = true ∧ now.agenda = [.queue 0 (.call (.timerFired 0))] ∧
      started record = [0] ∧ running record = [] ∧
      ∃ found, now.world.queues[0]? = some found ∧
        now.HoldsOff .scripted 0 delay record found.core :=
  ⟨by decide +kernel, rfl, rfl, rfl,
    busy_hold_off Surroundings.scripted_quiet (alone_fresh ..) (by decide +kernel) (course_run ..)⟩

end Configuration

end ServiceDiscovery
