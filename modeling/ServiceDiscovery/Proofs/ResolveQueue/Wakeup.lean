import ServiceDiscovery.Proofs.ResolveQueue.View

/-!
No request waits for ever. Draining is skipped while somebody drains already, while a request is
under way, while a hold-off lasts and when nothing waits. Each time someone is left who will drain
later, and a hold-off always has a timer that was started and is still to fire.
-/

namespace ServiceDiscovery

variable {ι σ : Type}

namespace ResolveQueue

/-- Does the turn fire a timer? -/
def Turn.fires (timer : Nat) : Turn → Bool
  | .run (.call (.timerFired other)) => other = timer
  | _ => false

theorem Turn.fires_of_claims {task : Task} (h : task.claims = true) (timer : Nat) :
    fires timer (.run task) = false := by
  cases task with
  | call operation => cases h
  | _ => rfl

/-- The timers that run after something happened, given those that ran before. -/
def Happening.onTimers : Happening → List Nat → List Nat
  | .made (.startTimer timer), running => running ++ [timer]
  | .made (.cancelTimer timer), running => running.filter (· ≠ timer)
  | .made _, running => running
  | .turn taken _, running => running.filter fun timer => !taken.fires timer

/-- The timers that were started, and were neither cancelled nor fired since. -/
def running (history : List Happening) : List Nat :=
  history.foldl (fun timers happening => happening.onTimers timers) []

theorem running_append (history : List Happening) (happening : Happening) :
    running (history ++ [happening]) = happening.onTimers (running history) := by
  simp [running]

/-- Is the effect a call to a timer? -/
def Effect.isTimed : Effect → Bool
  | startTimer _ | cancelTimer _ => true
  | _ => false

theorem Effect.not_isTimed_of_isOwn {effect : Effect} (h : effect.isOwn = true) :
    effect.isTimed = false := by
  cases effect with
  | own task => rfl
  | _ => cases h

/-- What a turn can mean for a hold-off. -/
inductive Hold (queue : ResolveQueue) (turn : Turn) (after : ResolveQueue) (effects : List Effect) :
    Prop where
  | kept (holdOff : after.holdOff = queue.holdOff)
      (unfired : ∀ timer, queue.holdOff = some timer → turn.fires timer = false)
      (untimed : ∀ effect ∈ effects, effect.isTimed = false)
  | begun (timer : Nat) (before : queue.holdOff = none) (holdOff : after.holdOff = some timer)
      (unfired : ∀ timer, turn.fires timer = false)
      (due : effects.filter Effect.isDue = [.startTimer timer])
  | ended (timer : Nat) (before : queue.holdOff = some timer) (holdOff : after.holdOff = none)
      (unfired : ∀ timer, turn.fires timer = false)
      (due : effects.filter Effect.isDue = [.cancelTimer timer])
  | fired (timer : Nat) (before : queue.holdOff = some timer) (holdOff : after.holdOff = none)
      (fires : turn = .run (.call (.timerFired timer)))
      (due : effects.filter Effect.isDue = [.own .drain])

variable {queue changed : ResolveQueue} {turn : Turn} {deed : Deed} {effects : List Effect}

theorem IsReport.untimed (h : IsReport effects) : ∀ effect ∈ effects, effect.isTimed = false := by
  intro effect hmem
  obtain ⟨message, rfl⟩ := h effect hmem
  rfl

/-- A busy answer begins a hold-off and starts its timer: the request that it answers was under way,
so no hold-off lasted. Clearing ends a hold-off and cancels its timer, and the timer ends it when it
fires. No other turn touches a hold-off. -/
theorem Taken.hold (h : Taken queue turn deed changed effects)
    (held : queue.holdOff ≠ none → queue.inFlight = none) : Hold queue turn changed effects := by
  cases h with
  | discarded count plain =>
      refine .kept rfl (fun _ _ => rfl) fun effect hmem => ?_
      rcases List.mem_append.mp hmem with hreport | hlast
      · exact plain.untimed effect hreport
      · obtain rfl := List.mem_singleton.mp hlast
        rfl
  | cleared free plain => exact .kept free.symm (fun _ _ => rfl) plain.untimed
  | @released timer report hhold plain =>
      refine .ended timer hhold rfl (fun _ => rfl) ?_
      rw [List.filter_cons_of_pos rfl, plain.filter_isDue]
  | held message asked delayed =>
      have hhold : queue.holdOff = none := by
        cases hhold : queue.holdOff with
        | none => rfl
        | some timer =>
            have hfree : queue.inFlight = none := held (by simp [hhold])
            cases (inFlight_of_answered asked).1.symm.trans hfree
      exact .begun queue.timers hhold rfl (fun _ => rfl) rfl
  | @fired timer hhold => exact .fired timer hhold rfl rfl rfl
  | @unfired timer other =>
      refine .kept rfl (fun later hlater => ?_) (by simp)
      have hne : timer ≠ later := fun heq => other (heq ▸ hlater)
      simp [Turn.fires, hne]
  | claimed _ claims | stopped claims =>
      exact .kept rfl (fun timer _ => Turn.fires_of_claims claims timer)
        (by simp [debug, Effect.isTimed])
  | _ => exact .kept rfl (fun _ _ => rfl) (by simp [debug, exception, Effect.isTimed])

namespace Scene

/-- The timers that run in a scene: the one of the hold-off, unless it is about to be started, and
one that is about to be cancelled. -/
def timers (scene : Scene) : List Nat :=
  match scene.due with
  | .startTimer _ :: _ => []
  | .cancelTimer timer :: _ => [timer]
  | _ => scene.queue.holdOff.toList

/-- The timers that run are those of the hold-off. -/
structure Timed (history : List Happening) (scene : Scene) : Prop where
  running : running history = scene.timers
  starting : ∀ timer rest, scene.due = .startTimer timer :: rest →
    scene.queue.holdOff = some timer
  cancelling : ∀ timer rest, scene.due = .cancelTimer timer :: rest → scene.queue.holdOff = none

variable {due : List Effect} {history : List Happening}

/-- While no call is about to be made, just the timer of the hold-off runs. -/
theorem timers_of_calm {scene : Scene} (calm : ∀ effect ∈ scene.due, effect.isTimed = false) :
    scene.timers = scene.queue.holdOff.toList := by
  unfold timers
  split
  · rename_i timer rest heq
    cases calm (.startTimer timer) (by simp [heq])
  · rename_i timer rest heq
    cases calm (.cancelTimer timer) (by simp [heq])
  · rfl

theorem timed_of_calm {scene : Scene} (calm : ∀ effect ∈ scene.due, effect.isTimed = false)
    (hrunning : ResolveQueue.running history = scene.queue.holdOff.toList) :
    scene.Timed history where
  running := by rw [hrunning, timers_of_calm calm]
  starting := by
    intro timer rest heq
    cases calm (.startTimer timer) (by simp [heq])
  cancelling := by
    intro timer rest heq
    cases calm (.cancelTimer timer) (by simp [heq])

/-- A turn leaves the timers that run to what it makes of the hold-off. -/
theorem turn_timed (turn : Turn) (before : running history = queue.holdOff.toList)
    (held : queue.holdOff ≠ none → queue.inFlight = none)
    (calm : ∀ effect ∈ due, effect.isOwn) :
    (after turn queue due).Timed (history ++ [.turn turn queue]) := by
  have huntimed : ∀ effect ∈ due, effect.isTimed = false :=
    fun effect hmem => Effect.not_isTimed_of_isOwn (calm effect hmem)
  have hrunning : running (history ++ [.turn turn queue]) =
      queue.holdOff.toList.filter fun timer => !turn.fires timer := by
    rw [running_append, before]
    rfl
  have hcalm (hfront : ∀ effect ∈ (take turn queue).2, effect.isTimed = false) :
      ∀ effect ∈ (after turn queue due).due, effect.isTimed = false := by
    intro effect hmem
    rcases List.mem_append.mp hmem with hnew | hold
    · exact hfront effect (List.mem_filter.mp hnew).1
    · exact huntimed effect hold
  cases (taken turn queue).hold held with
  | kept holdOff unfired untimed =>
      refine timed_of_calm (hcalm untimed) ?_
      rw [hrunning]
      change _ = (take turn queue).1.holdOff.toList
      rw [holdOff]
      cases hhold : queue.holdOff with
      | none => rfl
      | some timer => simp [unfired timer hhold]
  | begun timer before holdOff unfired hdue =>
      have hnone : running (history ++ [.turn turn queue]) = [] := by
        rw [hrunning, before]
        rfl
      have hafter : (after turn queue due).due = .startTimer timer :: due := by
        simp [after, hdue]
      refine ⟨?_, ?_, ?_⟩
      · rw [hnone, timers, hafter]
      · intro other rest heq
        rw [hafter] at heq
        cases heq
        exact holdOff
      · intro other rest heq
        rw [hafter] at heq
        cases heq
  | ended timer before holdOff unfired hdue =>
      have hone : running (history ++ [.turn turn queue]) = [timer] := by
        rw [hrunning, before]
        simp [unfired timer]
      have hafter : (after turn queue due).due = .cancelTimer timer :: due := by
        simp [after, hdue]
      refine ⟨?_, ?_, ?_⟩
      · rw [hone, timers, hafter]
      · intro other rest heq
        rw [hafter] at heq
        cases heq
      · intro other rest heq
        exact holdOff
  | fired timer before holdOff fires hdue =>
      have hafter : (after turn queue due).due = .own .drain :: due := by
        simp [after, hdue]
      refine timed_of_calm ?_ ?_
      · intro effect hmem
        rw [hafter] at hmem
        rcases List.mem_cons.mp hmem with rfl | hold
        · rfl
        · exact huntimed effect hold
      · rw [hrunning, before]
        change _ = (take turn queue).1.holdOff.toList
        rw [holdOff, fires]
        simp [Turn.fires]

/-- A timer that is started runs from then on, and one that is cancelled no more. -/
theorem made_timed {call : Effect} (h : Timed history ⟨queue, call :: due⟩)
    (calm : ∀ effect ∈ due, effect.isOwn) : Timed (history ++ [.made call]) ⟨queue, due⟩ := by
  have huntimed : ∀ effect ∈ due, effect.isTimed = false :=
    fun effect hmem => Effect.not_isTimed_of_isOwn (calm effect hmem)
  refine timed_of_calm huntimed ?_
  have hrunning := h.running
  rw [running_append, hrunning]
  cases call with
  | startTimer timer =>
      have hhold : queue.holdOff = some timer := h.starting timer due rfl
      simp [timers, Happening.onTimers, hhold]
  | cancelTimer timer =>
      have hhold : queue.holdOff = none := h.cancelling timer due rfl
      simp [timers, Happening.onTimers, hhold]
  | _ => rfl

theorem step_timed {scene next : Scene} {happening : Happening} (step : Step scene happening next)
    (orderly : scene.Orderly) (h : scene.Timed history) :
    next.Timed (history ++ [happening]) := by
  have hbefore (calm : ∀ effect ∈ scene.due, effect.isOwn) :
      running history = scene.queue.holdOff.toList := by
    rw [h.running, timers_of_calm fun effect hmem =>
      Effect.not_isTimed_of_isOwn (calm effect hmem)]
  cases step with
  | called operation calm => exact turn_timed _ (hbefore calm) orderly.held calm
  | ran task inner calm =>
      exact turn_timed _ (hbefore (List.forall_mem_cons.mpr ⟨rfl, calm⟩)) orderly.held calm
  | refused ref fault calm =>
      exact turn_timed _ (hbefore (List.forall_mem_cons.mpr ⟨rfl, calm⟩)) orderly.held calm
  | made call outer => exact made_timed h orderly.prompt

theorem run_timed {deduplicate : Bool} {retryDelay : Double} {scene : Scene}
    (run : Run (fresh deduplicate retryDelay) history scene) : scene.Timed history := by
  induction run with
  | start => exact timed_of_calm (by simp [fresh]) rfl
  | step run step ih => exact step_timed step (run_orderly run) ih

end Scene

end ResolveQueue

namespace Configuration

open ResolveQueue

variable {surroundings : Surroundings ι σ} {start now : Configuration ι σ}
  {past : List (Configuration ι σ)} {index : Nat} {node : QueueNode}

/-- Whenever no call of a queue is under way, nobody drains it, and if requests wait in it then one
is being resolved or the timer that was started for the present hold-off still runs. -/
theorem no_lost_wakeup (quiet : surroundings.Quiet) (fresh : start.Fresh index node)
    (course : Course surroundings start past now) (idle : now.due index = []) :
    ∃ found, now.world.queues[index]? = some found ∧ found.core.draining = false ∧
      (found.core.pending ≠ [] → found.core.inFlight.isSome ∨
        ∃ timer, found.core.holdOff = some timer ∧ running (history index past) = [timer]) := by
  obtain ⟨scene, hrun, hshows⟩ := course.shows quiet fresh
  have horderly := Scene.run_orderly hrun
  have hdue : scene.due = [] := hshows.due.symm.trans idle
  have hidle : scene.queue.draining = false := by
    have howner := horderly.owner
    rw [hdue] at howner
    cases hdraining : scene.queue.draining with
    | false => rfl
    | true => simp [hdraining] at howner
  refine ⟨_, hshows.queue, hidle, fun hpending => ?_⟩
  cases hslot : scene.queue.inFlight with
  | some request => exact Or.inl rfl
  | none =>
      cases hhold : scene.queue.holdOff with
      | some timer =>
          refine Or.inr ⟨timer, rfl, ?_⟩
          rw [(Scene.run_timed hrun).running, Scene.timers_of_calm (by simp [hdue]), hhold]
          rfl
      | none =>
          have hwoken := horderly.woken hslot hhold hidle hpending
          simp [hdue] at hwoken

/-- A queue whose platform was busy keeps the request, and the timer of the hold-off runs. -/
theorem no_lost_wakeup_of_busy :
    let ref : ServiceRef := { name := "Printer", type := "_ipp._tcp" }
    let busy : Move Empty := .perform (.queue 0 (.outcome (.failed ref FailureCode.alreadyActive)))
    let start := alone false ⟨0x3FE0000000000000⟩ [[busy]] [.enqueue ref 1]
    let now := run .scripted 20 start
    now.due 0 = [] ∧ ∃ found, now.world.queues[0]? = some found ∧ found.core.draining = false ∧
      (found.core.pending ≠ [] → found.core.inFlight.isSome ∨
        ∃ timer, found.core.holdOff = some timer ∧
          running (history 0 (trail .scripted 20 start)) = [timer]) :=
  ⟨rfl, no_lost_wakeup Surroundings.scripted_quiet (alone_fresh ..) (course_run ..) rfl⟩

end Configuration

end ServiceDiscovery
