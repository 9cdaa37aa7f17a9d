import ServiceDiscovery.Proofs.Mdns.Answer
import ServiceDiscovery.Proofs.ResolveQueue.View

/-!
A queue and the resolver that it alone uses. Each of them has a slot of its own, and they give it
back at different moments: the platform before it tells the queue of an outcome, the queue when it
hears of it. In between the request is on its way. So the queue asks only while the resolver is
free, and is never told that it is busy. A request for a malformed name takes both slots for ever.
-/

namespace ServiceDiscovery

open Mdns Mdns.Platform

variable {ι σ : Type}

/-- Does work belong to what passes between the queue at a place and the resolver of the platform at
another? That is a request on its way there, an outcome on its way back, the task that waits while
the platform is asked, and clearing the queue, by which it forgets what it asked for. -/
def Work.passes (index place : Nat) : Work ι → Bool
  | .request other (.resolve _) _ | .platform other (.call (.request (.resolve _) _)) =>
      other = place
  | .notify (.member other) (.resolve _) | .queue other (.call (.outcome _))
  | .queue other (.call .clear) | .queue other (.resolving _) => other = index
  | _ => false

/-- The errand that a request of the queue at a place becomes when the resolver is free. -/
def ResolveQueue.errand (index : Nat) (request : ResolveRequest) : Errand where
  ref := request.ref
  listener := .member index
  busy := false

section

variable {index place : Nat} {world : World} {source brought : Work ι}

theorem Work.passes_of_platform {other : Nat} {effect : Effect} (hother : other ≠ place)
    (hnotice : ∀ outcome, effect ≠ .notify (.member index) (.resolve outcome)) :
    (effect.work (ι := ι) other).passes index place = false := by
  cases effect with
  | own task =>
      cases task with
      | call operation =>
          cases operation with
          | request request listener => cases request <;> simp [Effect.work, passes, hother]
          | _ => rfl
      | _ => rfl
  | notify listener notice =>
      cases notice with
      | resolve outcome =>
          cases listener with
          | outside label => rfl
          | member queue =>
              have hqueue : queue ≠ index := fun heq => hnotice outcome (by rw [heq])
              simp [Effect.work, passes, hqueue]
      | _ => cases listener <;> rfl
  | _ => rfl

theorem Work.passes_of_request {node : Nat} {request : Request} {listener : Listener}
    (h : ∀ ref, request ≠ .resolve ref) :
    (Work.request (ι := ι) node request listener).passes index place = false := by
  cases request with
  | resolve ref => exact absurd rfl (h ref)
  | _ => rfl

/-- Nothing passes unless the queue or the platform brings it about, as long as no other queue asks
the platform and no other platform answers the queue. -/
theorem Brings.not_passes (h : Brings world source brought)
    (off : source.passes index place = false) (hqueue : ∀ task, source ≠ .queue index task)
    (hplatform : ∀ task, source ≠ .platform place task)
    (sole : ∀ other node, world.queues[other]? = some node → node.platform = place →
      other = index)
    (silent : ∀ other task core outcome, source = .platform other task →
      world.platforms[other]? = some (.mdns core) →
      .notify (.member index) (.resolve outcome) ∉ (Platform.step task core).2) :
    brought.passes index place = false := by
  cases h with
  | @registry other task registry effect found yields =>
      cases effect with
      | publish receiver event => cases receiver <;> rfl
      | _ => rfl
  | @queue other task node effect found yields =>
      have hother : other ≠ index := fun heq => hqueue task (by rw [heq])
      cases effect with
      | own brought =>
          cases brought with
          | call operation =>
              cases operation <;> simp [ResolveQueue.Effect.work, Work.passes, hother]
          | _ => simp [ResolveQueue.Effect.work, Work.passes, hother]
      | resolve ref =>
          have hplace : node.platform ≠ place := fun heq => hother (sole other node found heq)
          simp [ResolveQueue.Effect.work, Work.passes, hplace]
      | _ => rfl
  | @browse other task node effect found yields =>
      cases effect with
      | request asked =>
          refine Work.passes_of_request ?_
          rintro ref rfl
          have hasked := BrowseSession.asked_of_yields yields
          simp at hasked
      | _ => rfl
  | @publication other task node effect found yields =>
      cases effect with
      | request asked =>
          refine Work.passes_of_request ?_
          rintro ref rfl
          have hasked := PublicationSession.asked_of_yields yields
          simp at hasked
      | _ => rfl
  | @facade other task node effect found yields => cases effect <;> rfl
  | @platform other task core effect found yields =>
      refine Work.passes_of_platform (fun heq => hplatform task (by rw [heq])) ?_
      rintro outcome rfl
      rcases yields with hstep | ⟨fault, after, hrecover, hmem⟩
      · exact silent other task core outcome rfl found hstep
      · cases task with
        | turning =>
            cases hrecover
            cases hmem
        | _ => cases hrecover
  | routed platform request listener =>
      simp only [World.route]
      split
      · cases request <;> exact off
      · rfl
  | notified listener notice =>
      cases listener with
      | outside label => rfl
      | member queue => cases notice <;> exact off
  | _ => rfl

end

namespace ResolveQueue

variable {index place : Nat} {queue : ResolveQueue} {node : QueueNode}

/-- A turn that no outcome and no clearing brings about either claims a request, and is about to ask
for it, or leaves the slot alone. -/
theorem turn_passes {task : Task}
    (off : (Work.queue (ι := ι) index task).passes index place = false) (queue : ResolveQueue)
    (node : QueueNode) :
    (take (.run task) queue).1.retried = queue.retried ∧
      ((∃ request message, queue.inFlight = none ∧
          (take (.run task) queue).1.inFlight = some request ∧
          (take (.run task) queue).2 =
            [debug message, .resolve request.ref, .own (.resolving request.ref)]) ∨
        (take (.run task) queue).1.inFlight = queue.inFlight ∧
          ∀ work ∈ (take (.run task) queue).2.map (·.work (ι := ι) index node),
            work.passes index place = false) := by
  have htaken := taken (.run task) queue
  generalize take (.run task) queue = result at htaken ⊢
  generalize ResolveQueue.deed (.run task) queue = deed at htaken
  obtain ⟨changed, effects⟩ := result
  have hshut : (decide (index = index)) ≠ false := by simp
  cases htaken with
  | claimed message claims unasked => exact ⟨rfl, Or.inl ⟨_, message, unasked, rfl, rfl⟩⟩
  | discarded count plain =>
      refine ⟨rfl, Or.inr ⟨rfl, fun work hmem => ?_⟩⟩
      obtain ⟨effect, heffect, rfl⟩ := List.mem_map.mp hmem
      rcases List.mem_append.mp heffect with hreport | hlast
      · obtain ⟨message, rfl⟩ := plain effect hreport
        rfl
      · obtain rfl := List.mem_singleton.mp hlast
        rfl
  | cleared | released | stale | resolved | unusable | failed | requeued | held =>
      exact absurd off hshut
  | _ =>
      refine ⟨rfl, Or.inr ⟨rfl, ?_⟩⟩
      simp [debug, Effect.work, Work.passes]

/-- Any outcome for the request under way but a busy answer ends it. -/
theorem outcome_passes {outcome : ResolveOutcome} {request : ResolveRequest}
    (asked : queue.inFlight = some request) (same : outcome.ref = request.ref)
    (final : ∀ ref, outcome ≠ .failed ref FailureCode.alreadyActive) (node : QueueNode) :
    (take (.run (.call (.outcome outcome))) queue).1.retried = queue.retried ∧
      (take (.run (.call (.outcome outcome))) queue).1.inFlight = none ∧
      ∀ work ∈ (take (.run (.call (.outcome outcome))) queue).2.map (·.work (ι := ι) index node),
        work.passes index place = false := by
  have hanswered : queue.answered outcome.ref = some request := by
    simp [answered, asked, same, Option.filter]
  have htaken := taken (.run (.call (.outcome outcome))) queue
  generalize take (.run (.call (.outcome outcome))) queue = result at htaken ⊢
  generalize ResolveQueue.deed (.run (.call (.outcome outcome))) queue = deed at htaken
  obtain ⟨changed, effects⟩ := result
  cases htaken with
  | stale message unasked => cases unasked.symm.trans hanswered
  | requeued | held => exact absurd rfl (final _)
  | resolved | unusable | failed =>
      refine ⟨rfl, rfl, ?_⟩
      simp [debug, exception, Effect.work, Work.passes]
  | claimed _ claims | stopped claims => cases claims

/-- While a request is under way nothing more is handed out. -/
theorem resolving_passes {ref : ServiceRef} {request : ResolveRequest}
    (asked : queue.inFlight = some request) :
    take (.run (.resolving ref)) queue = ({ queue with draining := false }, []) := by
  simp [take, step, next, asked]

/-- A refusal ends the request under way. -/
theorem refused_passes {fault : Fault} {request : ResolveRequest}
    (asked : queue.inFlight = some request) (node : QueueNode) :
    (take (.refused request.ref fault) queue).1.retried = queue.retried ∧
      (take (.refused request.ref fault) queue).1.inFlight = none ∧
      ∀ work ∈ (take (.refused request.ref fault) queue).2.map (·.work (ι := ι) index node),
        work.passes index place = false := by
  simp [take, rejected, finish, asked, exception, Effect.work, Work.passes]

end ResolveQueue

namespace Configuration

/-- Nothing passes between the queue at a place and the resolver of the platform at another. -/
def Off (index place : Nat) (agenda : List (Work ι)) : Prop :=
  ∀ work ∈ agenda, work.passes index place = false

/-- Where a request can be while nothing passes: nowhere, with the platform, or lost. -/
inductive Rests (index : Nat) : Option ResolveRequest → List Errand → List Errand → Prop where
  | free : Rests index none [] []
  | working (request : ResolveRequest) :
      Rests index (some request) [ResolveQueue.errand index request] []
  | lost (request : ResolveRequest) (errand : Errand) : Rests index (some request) [] [errand]

/-- How far a request got, by the agenda, the slot of the queue, the errands that are under way on
the platform and those that it lost. -/
inductive Stage (index place : Nat) :
    List (Work ι) → Option ResolveRequest → List Errand → List Errand → Prop where
  | resting {agenda : List (Work ι)} {slot : Option ResolveRequest} {errands lost : List Errand}
      (rests : Rests index slot errands lost) (off : Off index place agenda) :
      Stage index place agenda slot errands lost
  | asking {lines rest : List (Work ι)} (request : ResolveRequest)
      (logged : ∀ line ∈ lines, line.isLine) (off : Off index place rest) :
      Stage index place
        (lines ++ .request place (.resolve request.ref) (.member index) ::
          .queue index (.resolving request.ref) :: rest) (some request) [] []
  | calling {rest : List (Work ι)} (request : ResolveRequest) (off : Off index place rest) :
      Stage index place
        (.platform place (.call (.request (.resolve request.ref) (.member index))) ::
          .queue index (.resolving request.ref) :: rest) (some request) [] []
  | refused {rest : List (Work ι)} (request : ResolveRequest) (fault : Fault)
      (off : Off index place rest) :
      Stage index place (.raise fault :: .queue index (.resolving request.ref) :: rest)
        (some request) [] []
  | returning {rest : List (Work ι)} (request : ResolveRequest) (off : Off index place rest) :
      Stage index place (.queue index (.resolving request.ref) :: rest) (some request)
        [ResolveQueue.errand index request] []
  | answering {lines rest : List (Work ι)} (request : ResolveRequest) (outcome : ResolveOutcome)
      (same : outcome.ref = request.ref)
      (final : ∀ ref, outcome ≠ .failed ref FailureCode.alreadyActive)
      (logged : ∀ line ∈ lines, line.isLine) (off : Off index place rest) :
      Stage index place (lines ++ .notify (.member index) (.resolve outcome) :: rest)
        (some request) [] []
  | hearing {rest : List (Work ι)} (request : ResolveRequest) (outcome : ResolveOutcome)
      (same : outcome.ref = request.ref)
      (final : ∀ ref, outcome ≠ .failed ref FailureCode.alreadyActive)
      (off : Off index place rest) :
      Stage index place (.queue index (.call (.outcome outcome)) :: rest) (some request) [] []

/-- Nobody but the queue at a place asks the platform at another to resolve or gives up the queue's
request, and nobody but that platform answers the queue, as far as the next step goes. -/
structure Exclusive (surroundings : Surroundings ι σ) (index place : Nat)
    (now : Configuration ι σ) : Prop where
  moves : ∀ move ∈ now.moves surroundings, move.work.passes index place = false
  queues : ∀ other node, now.world.queues[other]? = some node → node.platform = place →
    other = index
  answers : ∀ other, other ≠ place → ∀ answer ∈ now.answers other, answer.1 ≠ .member index

/-- A queue and its resolver at a time in a run: how far the request under way got, and that no
request ever found the resolver busy. -/
structure Linked (index : Nat) (node : QueueNode) (past : List (Configuration ι σ))
    (now : Configuration ι σ) (scene : ResolveQueue.Scene) (core : Mdns.Platform) : Prop where
  shows : now.Shows index node scene
  accounts : Accounts node.platform past now core
  stage : Stage index node.platform now.agenda scene.queue.inFlight
    (now.unfinished node.platform) (errandsLost (reports node.platform past))
  retried : scene.queue.retried = 0
  served : ∀ errand ∈ errandsAccepted (reports node.platform past), errand.busy = false
  final : ∀ answer ∈ past.flatMap (answers node.platform), ∀ ref,
    answer.2 ≠ .failed ref FailureCode.alreadyActive

section

variable {surroundings : Surroundings ι σ} {start now after : Configuration ι σ}
  {past : List (Configuration ι σ)} {index place : Nat} {node : QueueNode}
  {scene : ResolveQueue.Scene} {core : Mdns.Platform} {rest : List (Work ι)}

/-- A queue takes no turn in a step unless a task of its own is in front, or a fault reaches the one
that waits for the platform. -/
theorem Shows.spared (h : now.Shows index node scene) (quiet : surroundings.Quiet)
    (hstep : now.step surroundings = some after)
    (hqueue : ∀ task rest, now.agenda ≠ .queue index task :: rest)
    (hfault : ∀ fault rest ref, now.agenda = .raise fault :: rest →
      World.handler? fault rest now.world ≠ some (.queue index (.resolving ref))) :
    ∃ next, after.Shows index node next ∧ next.queue = scene.queue := by
  rcases h.step quiet hstep with ⟨_, hafter⟩ | ⟨happening, next, hsome, hnext, hafter⟩
  · exact ⟨scene, hafter, rfl⟩
  · refine ⟨next, hafter, ?_⟩
    cases hnext with
    | made call => rfl
    | _ =>
        obtain ⟨_, _, _, hcases⟩ := happening_turn hsome
        rcases hcases with ⟨task, rest, hagenda, _⟩ | ⟨fault, rest, ref, hagenda, hhandler, _⟩
        · exact absurd hagenda (hqueue task rest)
        · exact absurd hhandler (hfault fault rest ref hagenda)

theorem Shows.went {task : ResolveQueue.Task} (h : now.Shows index node scene)
    (quiet : surroundings.Quiet) (hagenda : now.agenda = .queue index task :: rest)
    (hstep : now.step surroundings = some after) :
    ∃ next, after.Shows index node next ∧
      next.queue = (ResolveQueue.take (.run task) scene.queue).1 ∧
      after.agenda = (ResolveQueue.take (.run task) scene.queue).2.map
        (·.work index { node with core := scene.queue }) ++ rest := by
  obtain ⟨next, hnext, hafter⟩ := h.turn quiet hagenda hstep
  refine ⟨next, hafter, ?_, ?_⟩
  · cases hnext <;> rfl
  · obtain rfl := Option.some.inj (hstep.symm.trans (step_queue h.queue hagenda))
    rfl

/-- A step that does no task of a platform leaves its errands as they are. -/
theorem Accounts.spared (h : Accounts place past now core)
    (hstep : now.step surroundings = some after)
    (hplatform : ∀ task rest, now.agenda ≠ .platform place task :: rest) :
    Accounts place (past ++ [now]) after core ∧
      after.unfinished place = now.unfinished place ∧
      reports place (past ++ [now]) = reports place past ∧ now.answers place = [] := by
  rcases h.toKeeps.step hstep with ⟨task, hdoing, _⟩ | ⟨hdoing, hkeeps, hsame⟩
  · obtain ⟨rest, hagenda, _⟩ := agenda_of_doing hdoing
    exact absurd hagenda (hplatform task rest)
  · obtain ⟨changed, haccounts⟩ := h.step hstep
    cases hkeeps.found.symm.trans haccounts.found
    exact ⟨haccounts, hsame, by simp [reports_append, hdoing],
      by simp [Configuration.answers, hdoing]⟩

/-- In a task of a platform, what was under way and what it takes on is told, lost or under way
afterwards. -/
theorem Accounts.went {task : Platform.Task} (h : Accounts place past now core)
    (hagenda : now.agenda = .platform place task :: rest)
    (hstep : now.step surroundings = some after) :
    Accounts place (past ++ [now]) after (Platform.step task core).1 ∧
      after.agenda = (Platform.step task core).2.map (·.work place) ++ rest ∧
      reports place (past ++ [now]) = reports place past ++ (report? task core).toList ∧
      now.answers place = (Platform.step task core).2.filterMap Effect.answer? ∧
      (errandsAccepted (report? task core).toList ++ now.unfinished place).Perm
        (errandsTold (report? task core).toList ++ errandsLost (report? task core).toList ++
          after.unfinished place) := by
  have hdoing : now.doing? place = some (task, core) := by simp [doing?, hagenda, h.found]
  have hafter := Option.some.inj (hstep.symm.trans (step_own h.found hagenda))
  rcases h.toKeeps.step hstep with
    ⟨next, hnext, hfits, hkeeps, hbefore, hunfinished⟩ | ⟨hnone, _⟩
  · cases hdoing.symm.trans hnext
    obtain ⟨changed, haccounts⟩ := h.step hstep
    cases hkeeps.found.symm.trans haccounts.found
    refine ⟨haccounts, by rw [hafter], by simp [reports_append, hdoing],
      by simp [Configuration.answers, hdoing], ?_⟩
    rw [hbefore, hunfinished]
    exact (turned hfits core).perm h.tidy
  · cases hdoing.symm.trans hnone

/-- Only errands that were taken on are told of an outcome. -/
theorem Accounts.accepted_of_told (h : Accounts place past now core) {errand : Errand}
    (hmem : errand ∈ errandsTold (reports place past)) :
    errand ∈ errandsAccepted (reports place past) := by
  have hbalance := h.balance (· == errand)
  simp only [← List.count_eq_countP] at hbalance
  have htold := List.count_pos_iff.mpr hmem
  exact List.count_pos_iff.mp (by omega)

/-- The resolver is free when no errand is under way and none was lost. -/
theorem Accounts.free (h : Accounts place past now core) (hdone : now.unfinished place = [])
    (hlost : errandsLost (reports place past) = []) : core.resolving = none := by
  cases hslot : core.resolving with
  | none => rfl
  | some holder =>
      have hcount := h.slot holder
      simp [hdone, hlost, hslot] at hcount

/-- A fault that comes up right in front of the task that waits for the platform reaches it. -/
theorem step_refusal (surroundings : Surroundings ι σ) {ref : ServiceRef} {fault : Fault}
    (hqueue : now.world.queues[index]? = some node)
    (hagenda : now.agenda = .raise fault :: .queue index (.resolving ref) :: rest) :
    now.step surroundings = some { now with
      world := { now.world with
        queues := now.world.queues.set index
          { node with core := (ResolveQueue.take (.refused ref fault) node.core).1 } }
      agenda := (ResolveQueue.take (.refused ref fault) node.core).2.map (·.work index node) ++
        rest } := by
  obtain ⟨world, around, agenda⟩ := now
  obtain rfl : agenda = _ := hagenda
  simp only [step, World.unwind, World.recover, World.recoverWith, hqueue]
  rfl

theorem Shows.refusal {ref : ServiceRef} {fault : Fault} (h : now.Shows index node scene)
    (quiet : surroundings.Quiet)
    (hagenda : now.agenda = .raise fault :: .queue index (.resolving ref) :: rest)
    (hstep : now.step surroundings = some after) :
    ∃ next, after.Shows index node next ∧
      next.queue = (ResolveQueue.take (.refused ref fault) scene.queue).1 ∧
      after.agenda = (ResolveQueue.take (.refused ref fault) scene.queue).2.map
        (·.work index { node with core := scene.queue }) ++ rest := by
  have hafter := Option.some.inj (hstep.symm.trans (step_refusal surroundings h.queue hagenda))
  have hlt : index < now.world.queues.length := (List.getElem?_eq_some_iff.mp h.queue).1
  have hchanged : after.world.queues[index]? = some
      { node with core := (ResolveQueue.take (.refused ref fault) scene.queue).1 } := by
    rw [hafter]
    exact List.getElem?_set_self hlt
  rcases h.step quiet hstep with ⟨_, hshows⟩ | ⟨happening, next, _, _, hshows⟩
  · exact ⟨scene, hshows, congrArg QueueNode.core
      (Option.some.inj (hshows.queue.symm.trans hchanged)), by rw [hafter]⟩
  · exact ⟨next, hshows, congrArg QueueNode.core
      (Option.some.inj (hshows.queue.symm.trans hchanged)), by rw [hafter]⟩

/-- What comes up while nothing passes, and is no task of the queue or of the platform, does not
pass either. -/
theorem Off.step {work : Work ι} (off : Off index place now.agenda)
    (exclusive : now.Exclusive surroundings index place)
    (hagenda : now.agenda = work :: rest) (hqueue : ∀ task, work ≠ .queue index task)
    (hplatform : ∀ task, work ≠ .platform place task)
    (hstep : now.step surroundings = some after) : Off index place after.agenda := by
  rw [hagenda] at off
  obtain ⟨hwork, hrest⟩ := List.forall_mem_cons.mp off
  refine off_of_step hstep hagenda hrest exclusive.moves (fun brought hbrings => ?_)
    fun fault source changed tasks hsource hrecover brought hmem => ?_
  · refine hbrings.not_passes hwork hqueue hplatform exclusive.queues ?_
    rintro other task core outcome rfl hfound hmem
    have hother : other ≠ place := fun heq => hplatform task (by rw [heq])
    refine exclusive.answers other hother (.member index, outcome) ?_ rfl
    have hdoing : now.doing? other = some (task, core) := by simp [doing?, hagenda, hfound]
    simp only [answers, hdoing]
    exact List.mem_filterMap.mpr ⟨_, hmem, rfl⟩
  · by_cases hown : ∃ other task, source = .platform other task
    · obtain ⟨other, task, rfl⟩ := hown
      rw [(World.recover_platforms hrecover).2 other task rfl] at hmem
      cases hmem
    · have hbrings := World.brings_of_recover hrecover hmem
      refine hbrings.not_passes (hrest source hsource) ?_ (fun task heq => hown ⟨place, task, heq⟩)
        exclusive.queues fun other task _ _ heq => absurd ⟨other, task, heq⟩ hown
      rintro task rfl
      have hwaits := hrest _ hsource
      simp only [World.recover] at hrecover
      obtain ⟨_, _, _, _, hnode, _, _⟩ := World.recoverWith_eq_some hrecover
      obtain ⟨_, hresolving, _⟩ := Option.map_eq_some_iff.mp hnode
      cases task with
      | resolving ref => simp [Work.passes] at hwaits
      | _ => cases hresolving

/-- An effect of a platform passes only if it tells the queue of an outcome. -/
theorem off_of_untold {before changed : Platform.Ledger} {task : Platform.Task}
    {report : Option Report} {effects : List Effect}
    (turned : Turned before task report changed effects)
    (untold : effects.filterMap Effect.answer? = []) (index place : Nat) :
    Off (ι := ι) index place (effects.map (·.work place)) := by
  intro work hmem
  obtain ⟨effect, heffect, rfl⟩ := List.mem_map.mp hmem
  have hnone := List.filterMap_eq_nil_iff.mp untold effect heffect
  cases effect with
  | own task =>
      cases task with
      | call operation => exact absurd heffect (turned.not_call operation)
      | _ => rfl
  | notify listener notice =>
      cases notice with
      | resolve outcome => cases hnone
      | _ => cases listener <;> rfl
  | _ => rfl

theorem request_of_accepted {task : Platform.Task} {core : Mdns.Platform} {errand : Errand}
    (h : report? task core = some (.accepted errand)) :
    ∃ ref listener, task = .call (.request (.resolve ref) listener) := by
  unfold report? at h
  split at h
  · exact ⟨_, _, rfl⟩
  · cases h
  · split at h
    · cases h
    · split at h <;> cases h
  · cases h
  · cases h

/-- While nothing passes the errand of the request stays with the platform, or the queue is told of
it, or it is lost. -/
theorem Rests.turned {slot : Option ResolveRequest} {errands lost errands' : List Errand}
    {report : Option Report} (rests : Rests index slot errands lost)
    (declined : ∀ errand, report ≠ some (.accepted errand))
    (hperm : (errandsAccepted report.toList ++ errands).Perm
      (errandsTold report.toList ++ errandsLost report.toList ++ errands')) :
    (errandsTold report.toList = [] ∧
        Rests index slot errands' (lost ++ errandsLost report.toList)) ∨
      ∃ request outcome, slot = some request ∧ lost = [] ∧ errands' = [] ∧
        report = some (.told (ResolveQueue.errand index request) outcome) := by
  cases report with
  | none =>
      obtain hsame : errands.Perm errands' := by
        simpa [errandsAccepted, errandsTold, errandsLost] using hperm
      cases rests with
      | free =>
          obtain rfl := List.nil_perm.mp hsame
          exact Or.inl ⟨rfl, .free⟩
      | working request =>
          obtain rfl := List.singleton_perm.mp hsame
          exact Or.inl ⟨rfl, .working request⟩
      | lost request errand =>
          obtain rfl := List.nil_perm.mp hsame
          exact Or.inl ⟨rfl, .lost request errand⟩
  | some report =>
      cases report with
      | accepted errand => exact absurd rfl (declined errand)
      | told errand outcome =>
          have hsame : errands.Perm (errand :: errands') := by
            simpa [errandsAccepted, errandsTold, errandsLost] using hperm
          cases rests with
          | working request =>
              obtain ⟨rfl, rfl⟩ := List.cons.inj (List.singleton_perm.mp hsame)
              exact Or.inr ⟨request, outcome, rfl, rfl, rfl, rfl⟩
          | free | lost => cases List.nil_perm.mp hsame
      | lost errand =>
          have hsame : errands.Perm (errand :: errands') := by
            simpa [errandsAccepted, errandsTold, errandsLost] using hperm
          cases rests with
          | working request =>
              obtain ⟨rfl, rfl⟩ := List.cons.inj (List.singleton_perm.mp hsame)
              exact Or.inl ⟨rfl, .lost request _⟩
          | free | lost => cases List.nil_perm.mp hsame

theorem Rests.nothing {errands lost : List Errand} (rests : Rests index none errands lost) :
    errands = [] ∧ lost = [] := by
  cases rests with
  | free => exact ⟨rfl, rfl⟩

namespace Linked

variable (h : Linked index node past now scene core) (quiet : surroundings.Quiet)
  (hstep : now.step surroundings = some after)

include h hstep

/-- A step that does no task of the platform leaves its errands where they are. -/
theorem spared {next : ResolveQueue.Scene} (hshows : after.Shows index node next)
    (retried : next.queue.retried = scene.queue.retried)
    (hplatform : ∀ task rest, now.agenda ≠ .platform node.platform task :: rest)
    (stage : Stage index node.platform after.agenda next.queue.inFlight
      (now.unfinished node.platform) (errandsLost (reports node.platform past))) :
    ∃ next changed, Linked index node (past ++ [now]) after next changed := by
  obtain ⟨haccounts, hunfinished, hreports, hanswers⟩ := h.accounts.spared hstep hplatform
  refine ⟨next, core, hshows, haccounts, ?_, retried.trans h.retried, ?_, ?_⟩
  · rw [hunfinished, hreports]
    exact stage
  · rw [hreports]
    exact h.served
  · simpa [hanswers] using h.final

include quiet

/-- A task of the platform leaves the slot of the queue as it is. -/
theorem worked {task : Platform.Task} (hagenda : now.agenda = .platform node.platform task :: rest)
    (served : ∀ errand ∈ errandsAccepted (report? task core).toList, errand.busy = false)
    (stage : ∀ errands, (errandsAccepted (report? task core).toList ++
        now.unfinished node.platform).Perm (errandsTold (report? task core).toList ++
          errandsLost (report? task core).toList ++ errands) →
      Stage index node.platform
        ((Platform.step task core).2.map (·.work node.platform) ++ rest) scene.queue.inFlight
        errands (errandsLost (reports node.platform past) ++
          errandsLost (report? task core).toList)) :
    ∃ next changed, Linked index node (past ++ [now]) after next changed := by
  obtain ⟨next, hshows, hsame⟩ := h.shows.spared quiet hstep (by simp [hagenda])
    (by simp [hagenda])
  obtain ⟨haccounts, hafter, hreports, hanswers, hperm⟩ := h.accounts.went hagenda hstep
  have hturned := turned (h.accounts.fits task (by simp [hagenda])) core
  have hserved : ∀ errand ∈ errandsAccepted (reports node.platform (past ++ [now])),
      errand.busy = false := by
    rw [hreports, errandsAccepted_append]
    exact fun errand hmem => (List.mem_append.mp hmem).elim (h.served errand) (served errand)
  refine ⟨next, _, hshows, haccounts, ?_, ?_, ?_, ?_⟩
  · rw [hsame, hreports, errandsLost_append, hafter]
    exact stage _ hperm
  · rw [hsame]
    exact h.retried
  · exact hserved
  · intro answer hmem ref
    rw [List.flatMap_append, List.mem_append] at hmem
    rcases hmem with hold | hnew
    · exact h.final answer hold ref
    · rw [List.flatMap_singleton, hanswers] at hnew
      obtain ⟨errand, hreport⟩ := hturned.told_of_answer hnew
      refine not_busy_of_told hreport (hserved errand (haccounts.accepted_of_told ?_)) ref
      simp [hreports, errandsTold, hreport]

/-- While nothing passes, the queue may claim a request and the platform may come to the end of one.
All else leaves things as they are. -/
theorem rests (rests : Rests index scene.queue.inFlight (now.unfinished node.platform)
      (errandsLost (reports node.platform past)))
    (off : Off index node.platform now.agenda)
    (exclusive : now.Exclusive surroundings index node.platform) :
    ∃ next changed, Linked index node (past ++ [now]) after next changed := by
  obtain ⟨work, rest, hagenda, -⟩ := step_cases hstep
  have hall := off
  rw [hagenda] at hall
  obtain ⟨hwork, hrest⟩ := List.forall_mem_cons.mp hall
  by_cases hqueue : ∃ task, work = .queue index task
  · obtain ⟨task, rfl⟩ := hqueue
    obtain ⟨next, hshows, hnext, hafter⟩ := h.shows.went quiet hagenda hstep
    obtain ⟨hretried, hcases⟩ :=
      ResolveQueue.turn_passes hwork scene.queue { node with core := scene.queue }
    refine h.spared hstep hshows (by rw [hnext, hretried]) (by simp [hagenda]) ?_
    rw [hafter, hnext]
    rcases hcases with ⟨request, message, hfree, hslot, heffects⟩ | ⟨hslot, hoff⟩
    · rw [hfree] at rests
      obtain ⟨hnone, hlost⟩ := rests.nothing
      rw [hslot, heffects, hnone, hlost]
      exact @Stage.asking _ _ _ [.call (.log _)] _ request (by simp [Work.isLine]) hrest
    · rw [hslot]
      exact .resting rests (List.forall_mem_append.mpr ⟨hoff, hrest⟩)
  · by_cases hplatform : ∃ task, work = .platform node.platform task
    · obtain ⟨task, rfl⟩ := hplatform
      have hturned := turned (h.accounts.fits task (by simp [hagenda])) core
      have hdeclined (errand : Errand) : report? task core ≠ some (.accepted errand) := by
        intro hreport
        obtain ⟨ref, listener, rfl⟩ := request_of_accepted hreport
        simp [Work.passes] at hwork
      refine h.worked quiet hstep hagenda ?_ fun errands hperm => ?_
      · intro errand hmem
        cases hreport : report? task core with
        | none => simp [hreport, errandsAccepted] at hmem
        | some report =>
            cases report with
            | accepted errand => exact absurd hreport (hdeclined errand)
            | _ => simp [hreport, errandsAccepted] at hmem
      · rcases rests.turned hdeclined hperm with
          ⟨huntold, hrests⟩ | ⟨request, outcome, hslot, hlost, rfl, hreport⟩
        · have hanswers := hturned.answers
          rw [huntold, List.map_nil, List.map_eq_nil_iff] at hanswers
          have hoff := off_of_untold (ι := ι) hturned hanswers index node.platform
          exact .resting hrests (List.forall_mem_append.mpr ⟨hoff, hrest⟩)
        · rw [hreport] at hturned
          obtain ⟨hsame, lines, hlogged, heffects⟩ := hturned.tells
          rw [hslot, hlost, hreport, heffects, List.map_append, List.append_assoc]
          exact .answering request outcome hsame (not_busy_of_told hreport rfl)
            (Work.isLine_of_lines hlogged _) hrest
    · have hqueue' := not_exists.mp hqueue
      have hplatform' := not_exists.mp hplatform
      obtain ⟨next, hshows, hsame⟩ := h.shows.spared quiet hstep
        (by simp [hagenda, hqueue']) (fun fault behind ref heq hhandler => by
          obtain ⟨-, rfl⟩ := List.cons.inj (hagenda.symm.trans heq)
          simpa [Work.passes] using hrest _ (List.mem_of_find?_eq_some hhandler))
      refine h.spared hstep hshows (by rw [hsame]) (by simp [hagenda, hplatform']) ?_
      rw [hsame]
      exact .resting rests (off.step exclusive hagenda hqueue' hplatform' hstep)

/-- A step that takes neither a task of the queue nor one of the platform nor a fault in front. -/
theorem passes_on {work : Work ι} (hagenda : now.agenda = work :: rest)
    (hqueue : ∀ task, work ≠ .queue index task)
    (hplatform : ∀ task, work ≠ .platform node.platform task)
    (hfault : ∀ fault, work ≠ .raise fault)
    (stage : Stage index node.platform after.agenda scene.queue.inFlight
      (now.unfinished node.platform) (errandsLost (reports node.platform past))) :
    ∃ next changed, Linked index node (past ++ [now]) after next changed := by
  obtain ⟨next, hshows, hsame⟩ := h.shows.spared quiet hstep (by simp [hagenda, hqueue])
    (by simp [hagenda, hfault])
  refine h.spared hstep hshows (by rw [hsame]) (by simp [hagenda, hplatform]) ?_
  rw [hsame]
  exact stage

/-- A line in front is written, and nothing else comes of it. -/
theorem writes {line : Work ι} (logged : line.isLine) (hagenda : now.agenda = line :: rest)
    (stage : Stage index node.platform rest scene.queue.inFlight
      (now.unfinished node.platform) (errandsLost (reports node.platform past))) :
    ∃ next changed, Linked index node (past ++ [now]) after next changed := by
  obtain ⟨record, rfl⟩ := Work.eq_of_isLine logged
  refine h.passes_on quiet hstep hagenda (by simp) (by simp) (by simp) ?_
  rw [agenda_of_line quiet logged hagenda hstep]
  exact stage

/-- The platform is asked while its resolver is free. It takes the resolve on, or refuses it as long
as it is not started. -/
theorem calls {request : ResolveRequest}
    (hagenda : now.agenda =
      .platform node.platform (.call (.request (.resolve request.ref) (.member index))) ::
        .queue index (.resolving request.ref) :: rest)
    (hslot : scene.queue.inFlight = some request) (hdone : now.unfinished node.platform = [])
    (hlost : errandsLost (reports node.platform past) = [])
    (off : Off index node.platform rest) :
    ∃ next changed, Linked index node (past ++ [now]) after next changed := by
  have hfree : core.resolving = none := h.accounts.free hdone hlost
  cases hstarted : core.started with
  | true =>
      have hreport : report? (.call (.request (.resolve request.ref) (.member index))) core =
          some (.accepted (ResolveQueue.errand index request)) := by
        simp [report?, requestResolve, hfree, hstarted, ResolveQueue.errand]
      have heffects : (Platform.step
          (.call (.request (.resolve request.ref) (.member index))) core).2 = [] := by
        simp [Platform.step, Platform.call, handle, requestResolve, hfree, hstarted]
      refine h.worked quiet hstep hagenda ?_ fun errands hperm => ?_
      · simp [hreport, errandsAccepted, ResolveQueue.errand]
      · rw [hreport, hdone] at hperm
        obtain rfl : [ResolveQueue.errand index request] = errands := by
          simpa [errandsAccepted, errandsTold, errandsLost] using hperm
        rw [hslot, heffects, hlost, hreport]
        exact .returning request off
  | false =>
      have hreport : report? (.call (.request (.resolve request.ref) (.member index))) core =
          none := by
        simp [report?, requestResolve, hfree, hstarted, Effect.isRaise]
      have heffects : (Platform.step
          (.call (.request (.resolve request.ref) (.member index))) core).2 =
            [.raise .notStarted] := by
        simp [Platform.step, Platform.call, handle, requestResolve, hfree, hstarted]
      refine h.worked quiet hstep hagenda ?_ fun errands hperm => ?_
      · simp [hreport, errandsAccepted]
      · rw [hreport, hdone] at hperm
        obtain rfl : errands = [] := by
          simpa [errandsAccepted, errandsTold, errandsLost] using hperm
        rw [hslot, heffects, hlost, hreport]
        exact .refused request .notStarted off

/-- Each stage leads on to the next. -/
theorem step (exclusive : now.Exclusive surroundings index node.platform) :
    ∃ next changed, Linked index node (past ++ [now]) after next changed := by
  have hstage := h.stage
  generalize hagenda : now.agenda = agenda at hstage
  generalize hslot : scene.queue.inFlight = slot at hstage
  generalize herrands : now.unfinished node.platform = errands at hstage
  generalize hlost : errandsLost (reports node.platform past) = lost at hstage
  have hleads (stage : Stage index node.platform after.agenda slot errands lost) :
      Stage index node.platform after.agenda scene.queue.inFlight
        (now.unfinished node.platform) (errandsLost (reports node.platform past)) := by
    rw [hslot, herrands, hlost]
    exact stage
  cases hstage with
  | resting rests off =>
      subst hagenda hslot herrands hlost
      exact h.rests quiet hstep rests off exclusive
  | @asking lines rest request logged off =>
      cases lines with
      | nil =>
          have hafter := Option.some.inj
            (hstep.symm.trans (step_request h.accounts.found hagenda))
          refine h.passes_on quiet hstep hagenda (by simp) (by simp) (by simp) (hleads ?_)
          rw [hafter]
          exact .calling request off
      | cons line lines =>
          obtain ⟨hline, hlines⟩ := List.forall_mem_cons.mp logged
          refine h.writes quiet hstep hline hagenda ?_
          rw [hslot, herrands, hlost]
          exact .asking request hlines off
  | @calling rest request off => exact h.calls quiet hstep hagenda hslot herrands hlost off
  | @refused rest request fault off =>
      obtain ⟨next, hshows, hnext, hafter⟩ := h.shows.refusal quiet hagenda hstep
      obtain ⟨hretried, hfree, hoff⟩ :=
        ResolveQueue.refused_passes hslot { node with core := scene.queue }
      refine h.spared hstep hshows (by rw [hnext, hretried]) (by simp [hagenda]) ?_
      rw [hnext, hfree, hafter, herrands, hlost]
      exact .resting .free (List.forall_mem_append.mpr ⟨hoff, off⟩)
  | @returning rest request off =>
      obtain ⟨next, hshows, hnext, hafter⟩ := h.shows.went quiet hagenda hstep
      rw [ResolveQueue.resolving_passes hslot] at hnext hafter
      refine h.spared hstep hshows (by rw [hnext]) (by simp [hagenda]) ?_
      rw [hnext, hafter, hslot, herrands, hlost]
      exact .resting (.working request) off
  | @answering lines rest request outcome same final logged off =>
      cases lines with
      | nil =>
          have hafter := Option.some.inj (hstep.symm.trans (step_notify hagenda))
          refine h.passes_on quiet hstep hagenda (by simp) (by simp) (by simp) (hleads ?_)
          rw [hafter]
          exact .hearing request outcome same final off
      | cons line lines =>
          obtain ⟨hline, hlines⟩ := List.forall_mem_cons.mp logged
          refine h.writes quiet hstep hline hagenda ?_
          rw [hslot, herrands, hlost]
          exact .answering request outcome same final hlines off
  | @hearing rest request outcome same final off =>
      obtain ⟨next, hshows, hnext, hafter⟩ := h.shows.went quiet hagenda hstep
      obtain ⟨hretried, hfree, hoff⟩ :=
        ResolveQueue.outcome_passes hslot same final { node with core := scene.queue }
      refine h.spared hstep hshows (by rw [hnext, hretried]) (by simp [hagenda]) ?_
      rw [hnext, hfree, hafter, herrands, hlost]
      exact .resting .free (List.forall_mem_append.mpr ⟨hoff, off⟩)

end Linked

theorem Course.linked (quiet : surroundings.Quiet) (fresh : start.Fresh index node)
    (idle : start.Idle node.platform) (off : Off index node.platform start.agenda)
    (course : Course surroundings start past now)
    (exclusive : ∀ moment ∈ past, moment.Exclusive surroundings index node.platform) :
    ∃ scene core, Linked index node past now scene core := by
  induction course with
  | start =>
      obtain ⟨core, haccounts⟩ := idle.accounts
      obtain ⟨_, _, _, hnone⟩ := idle.keeps
      refine ⟨_, core, fresh.shows, haccounts, .resting ?_ off, rfl, ?_, ?_⟩
      · rw [hnone]
        exact .free
      · simp [reports, errandsAccepted]
      · simp
  | @step past now after course step ih =>
      obtain ⟨scene, core, hlinked⟩ := ih fun moment hmem =>
        exclusive moment (List.mem_append_left _ hmem)
      exact hlinked.step quiet step (exclusive now (by simp))

/-- A resolve that is on its way to the platform is the queue's, and finds the resolver free. -/
theorem Linked.free (h : Linked index node past now scene core) {ref : ServiceRef}
    {asker : Listener}
    (hasks : .request node.platform (.resolve ref) asker ∈ now.agenda ∨
      .platform node.platform (.call (.request (.resolve ref) asker)) ∈ now.agenda) :
    asker = .member index ∧ core.resolving = none := by
  have hstage := h.stage
  generalize hagenda : now.agenda = agenda at hstage hasks
  generalize hslot : scene.queue.inFlight = slot at hstage
  generalize herrands : now.unfinished node.platform = errands at hstage
  generalize hlost : errandsLost (reports node.platform past) = lost at hstage
  have hoff {behind : List (Work ι)} (off : Off index node.platform behind) :
      .request node.platform (.resolve ref) asker ∉ behind ∧
        .platform node.platform (.call (.request (.resolve ref) asker)) ∉ behind :=
    ⟨fun hmem => by simpa [Work.passes] using off _ hmem,
      fun hmem => by simpa [Work.passes] using off _ hmem⟩
  have hlines {lines : List (Work ι)} (logged : ∀ line ∈ lines, line.isLine) :
      .request node.platform (.resolve ref) asker ∉ lines ∧
        .platform node.platform (.call (.request (.resolve ref) asker)) ∉ lines :=
    ⟨fun hmem => absurd (logged _ hmem) (by simp [Work.isLine]),
      fun hmem => absurd (logged _ hmem) (by simp [Work.isLine])⟩
  cases hstage with
  | resting rests off => exact absurd hasks (not_or.mpr (hoff off))
  | asking request logged off =>
      have hsame : ref = request.ref ∧ asker = .member index := by
        simpa [hlines logged, hoff off] using hasks
      exact ⟨hsame.2, h.accounts.free herrands hlost⟩
  | calling request off =>
      have hsame : ref = request.ref ∧ asker = .member index := by
        simpa [hoff off] using hasks
      exact ⟨hsame.2, h.accounts.free herrands hlost⟩
  | refused request fault off => simp [hoff off] at hasks
  | returning request off => simp [hoff off] at hasks
  | answering request outcome same final logged off => simp [hlines logged, hoff off] at hasks
  | hearing request outcome same final off => simp [hoff off] at hasks

/-- Whenever a queue that has a platform to itself and is never cleared asks it to resolve, the
resolver is free. So the platform never answers that it is busy, and no request is tried again. The
platform may be started and closed at any time, and names may be malformed. -/
theorem resolver_free_when_asked (quiet : surroundings.Quiet) (fresh : start.Fresh index node)
    (idle : start.Idle node.platform) (off : Off index node.platform start.agenda)
    (course : Course surroundings start past now)
    (exclusive : ∀ moment ∈ past, moment.Exclusive surroundings index node.platform) :
    ∃ found core, now.world.queues[index]? = some found ∧
      now.world.platforms[node.platform]? = some (.mdns core) ∧
      (∀ ref asker, .request node.platform (.resolve ref) asker ∈ now.agenda ∨
        .platform node.platform (.call (.request (.resolve ref) asker)) ∈ now.agenda →
          asker = .member index ∧ core.resolving = none) ∧
      (∀ errand ∈ errandsAccepted (reports node.platform past), errand.busy = false) ∧
      (∀ answer ∈ past.flatMap (answers node.platform), ∀ ref,
        answer.2 ≠ .failed ref FailureCode.alreadyActive) ∧
      found.core.retried = 0 := by
  obtain ⟨scene, core, hlinked⟩ := course.linked quiet fresh idle off exclusive
  exact ⟨_, core, hlinked.shows.queue, hlinked.accounts.found, fun ref asker => hlinked.free,
    hlinked.served, hlinked.final, hlinked.retried⟩

end

/-- A new queue with a platform of its own that is not started yet, and what is to be asked of
both. -/
def paired (operations : List Operation) : Configuration ι (List (List (Move ι))) where
  world := {
    registries := [{}]
    queues := [{ platform := 0, registry := 0, core := {} }]
    platforms := (lonePlatform (ι := ι) []).world.platforms }
  around := []
  agenda := operations.map Operation.work

/-- Where there is one queue and one platform, and nobody acts, they have each other to
themselves. -/
theorem exclusive_of_one {surroundings : Surroundings ι σ} {now : Configuration ι σ}
    (hmoves : (now.moves surroundings).length = 0) (hqueues : now.world.queues.length = 1)
    (hplatforms : now.world.platforms.length = 1) : now.Exclusive surroundings 0 0 where
  moves := by
    rw [List.length_eq_zero_iff.mp hmoves]
    exact fun move hmem => by cases hmem
  queues := by
    intro other node hnode _
    have hlt := (List.getElem?_eq_some_iff.mp hnode).1
    omega
  answers := by
    intro other hother answer hmem
    unfold answers at hmem
    split at hmem
    · obtain ⟨_, _, hfound⟩ := agenda_of_doing ‹_›
      have hlt := (List.getElem?_eq_some_iff.mp hfound).1
      omega
    · cases hmem

/-- A queue asks while its platform is not started, and again when it is. A service that is not
found makes way for the next one. -/
theorem resolver_free_when_asked_of_two :
    let printer : ServiceRef := { name := "Printer", type := "_ipp._tcp" }
    let scanner : ServiceRef := { name := "Scanner", type := "_ipp._tcp" }
    let start : Configuration Empty (List (List (Move Empty))) := paired [
      .queue 0 (.enqueue printer 1), .platform 0 .start, .queue 0 (.enqueue printer 1),
      .queue 0 (.enqueue scanner 1), .platform 0 .turn, .platform 0 .turn,
      .platform 0 (.reply 0 .notFound)]
    let now := run .scripted 40 start
    let past := trail .scripted 40 start
    (now.unfinished 0).map (·.ref) = [scanner] ∧
    ∃ found core, now.world.queues[0]? = some found ∧
      now.world.platforms[0]? = some (.mdns core) ∧
      (∀ ref asker, .request 0 (.resolve ref) asker ∈ now.agenda ∨
        .platform 0 (.call (.request (.resolve ref) asker)) ∈ now.agenda →
          asker = .member 0 ∧ core.resolving = none) ∧
      (∀ errand ∈ errandsAccepted (reports 0 past), errand.busy = false) ∧
      (∀ answer ∈ past.flatMap (answers 0), ∀ ref,
        answer.2 ≠ .failed ref FailureCode.alreadyActive) ∧
      found.core.retried = 0 := by
  intro printer scanner start now past
  have hmoments : ∀ moment ∈ past, (moment.moves .scripted).length = 0 ∧
      moment.world.queues.length = 1 ∧ moment.world.platforms.length = 1 := by
    decide +kernel
  have hfresh : start.Fresh 0 { platform := 0, registry := 0, core := {} } :=
    ⟨rfl, rfl, by simp [start, paired, Operation.work, Work.part]⟩
  have hidle : start.Idle 0 := ⟨_, rfl, rfl, rfl, rfl, fun _ => Operation.not_job_of_mem⟩
  have hoff : Off 0 0 start.agenda := by simp [Off, start, paired, Operation.work, Work.passes]
  have hcourse : Course .scripted start past now := course_run .scripted 40 start
  have hexclusive : ∀ moment ∈ past, moment.Exclusive .scripted 0 0 := fun moment hmem =>
    exclusive_of_one (hmoments moment hmem).1 (hmoments moment hmem).2.1 (hmoments moment hmem).2.2
  have hfree := resolver_free_when_asked Surroundings.scripted_quiet hfresh hidle hoff hcourse
    hexclusive
  exact ⟨by decide +kernel, hfree⟩

end Configuration

end ServiceDiscovery
