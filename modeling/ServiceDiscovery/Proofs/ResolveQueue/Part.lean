import ServiceDiscovery.Proofs.Machine.Origin
import ServiceDiscovery.Proofs.Machine.Shelter
import ServiceDiscovery.Proofs.ResolveQueue.Scene

/-!
Whose work is what on the agenda. The tasks of a queue are its own, and so are its calls to timers
and to its platform. Only the queue itself brings about any of them: nobody else starts its timers
or asks to resolve on its behalf.
-/

namespace ServiceDiscovery

variable {ι : Type}

/-- What work on the agenda is to the queue at a place: one of its tasks or calls, or nothing. -/
def Work.part (index : Nat) : Work ι → Option ResolveQueue.Effect
  | .queue _ (.call _) => none
  | .queue place task => if place = index then some (.own task) else none
  | .request _ (.resolve ref) (.member place) =>
      if place = index then some (.resolve ref) else none
  | .call (.startTimer place timer _) => if place = index then some (.startTimer timer) else none
  | .call (.cancelTimer place timer) => if place = index then some (.cancelTimer timer) else none
  | _ => none

namespace Work

variable {index : Nat}

theorem part_queue_other {place : Nat} (hother : place ≠ index) (task : ResolveQueue.Task) :
    (Work.queue (ι := ι) place task).part index = none := by
  cases task <;> simp [part, hother]

/-- What work for a queue is, unless it is a task of the queue, is a call. -/
theorem outer_of_part {work : Work ι} {call : ResolveQueue.Effect}
    (h : work.part index = some call) (hforeign : ∀ task, work ≠ .queue index task) :
    call.isOwn = false := by
  cases work with
  | queue place task =>
      by_cases hplace : place = index
      · exact absurd (hplace ▸ rfl) (hforeign task)
      · rw [part_queue_other hplace] at h
        cases h
  | request platform request listener =>
      cases request with
      | resolve ref =>
          cases listener with
          | member place =>
              simp only [part] at h
              split at h
              · exact Option.some.inj h ▸ rfl
              · cases h
          | outside label => cases h
      | _ => cases h
  | call made =>
      cases made with
      | startTimer place timer delay =>
          simp only [part] at h
          split at h
          · exact Option.some.inj h ▸ rfl
          · cases h
      | cancelTimer place timer =>
          simp only [part] at h
          split at h
          · exact Option.some.inj h ▸ rfl
          · cases h
      | _ => cases h
  | _ => cases h

/-- Of what stops faults, only the queue's own task is its concern. -/
theorem part_of_catches {work : Work ι} {world : World} (h : work.catches world = true)
    (hforeign : ∀ task, work ≠ .queue index task) : work.part index = none := by
  unfold catches at h
  split at h
  · rfl
  · rename_i place ref
    exact part_queue_other (fun hplace => hforeign (.resolving ref) (by rw [hplace])) _
  · cases h

theorem part_effect_other {effect : ResolveQueue.Effect} {place : Nat} (hother : place ≠ index)
    (node : QueueNode) : (effect.work (ι := ι) place node).part index = none := by
  cases effect with
  | own task => exact part_queue_other hother task
  | _ => simp [ResolveQueue.Effect.work, part, hother]

theorem part_registry_effect (effect : ChannelRegistry.Effect) (place : Nat) :
    (effect.work (ι := ι) place).part index = none := by
  cases effect with
  | publish receiver event => cases receiver <;> rfl
  | _ => rfl

theorem part_facade_effect (effect : Facade.Effect) (place : Nat) (node : FacadeNode) :
    (effect.work (ι := ι) place node).part index = none := by
  cases effect <;> rfl

theorem part_platform_effect (effect : Mdns.Platform.Effect) (place : Nat) :
    (effect.work (ι := ι) place).part index = none := by
  cases effect <;> rfl

/-- A session never asks to resolve. -/
theorem part_browse_effect {effect : BrowseSession.Effect} (place : Nat) (node : BrowseNode)
    (hasks : ∀ ref, effect ≠ .request (.resolve ref)) :
    (effect.work (ι := ι) place node).part index = none := by
  cases effect with
  | request asked =>
      cases asked with
      | resolve ref => exact absurd rfl (hasks ref)
      | _ => rfl
  | _ => rfl

theorem part_publication_effect {effect : PublicationSession.Effect} (place : Nat)
    (node : PublicationNode) (hasks : ∀ ref, effect ≠ .request (.resolve ref)) :
    (effect.work (ι := ι) place node).part index = none := by
  cases effect with
  | request asked =>
      cases asked with
      | resolve ref => exact absurd rfl (hasks ref)
      | _ => rfl
  | _ => rfl

theorem part_move (move : Move ι) : move.work.part index = none := by
  cases move with
  | perform operation => cases operation <;> rfl
  | _ => rfl

theorem part_notice (listener : Listener) (notice : Notice) :
    (World.deliverNotice (ι := ι) listener notice).part index = none := by
  cases listener with
  | outside label => rfl
  | member place => cases notice <;> rfl

theorem part_route (world : World) (platform : Nat) (request : Request) (listener : Listener) :
    (world.route (ι := ι) platform request listener).part index = none := by
  unfold World.route
  split <;> rfl

end Work

/-- Sessions that browse ask a platform for nothing else. -/
theorem BrowseSession.asked_of_yields {task : BrowseSession.Task} {session : BrowseSession}
    {asked : Request}
    (h : Yields BrowseSession.step BrowseSession.recover task session (.request asked)) :
    (∃ type, asked = .discover type) ∨ asked = .stopDiscovery := by
  rcases h with hstep | ⟨fault, after, hrecover, hmem⟩
  · revert hstep
    cases task with
    | starting type => simp [step, log]
    | closing => simp [step]
    | call operation =>
        cases operation with
        | start type =>
            simp only [step, call, start]
            split
            · simp
            · split <;> simp +contextual [log, report]
        | stop =>
            simp only [step, call, stop]
            split <;> simp +contextual [report]
        | close =>
            simp only [step, call, close]
            split
            · simp
            · split <;> simp
        | notice notice =>
            cases notice with
            | found found =>
                simp only [step, call, hear]
                split <;> simp [log]
            | _ => simp [step, call, hear, failed, log, report]
  · revert hmem
    cases task with
    | starting type =>
        obtain rfl := Option.some.inj hrecover
        simp only [startRefused]
        split <;> simp [log, report]
    | call operation => cases hrecover
    | closing => cases hrecover

/-- Sessions that publish ask a platform for nothing else. -/
theorem PublicationSession.asked_of_yields {task : PublicationSession.Task}
    {session : PublicationSession} {asked : Request}
    (h : Yields PublicationSession.step PublicationSession.recover task session (.request asked)) :
    (∃ name type port txt, asked = .register name type port txt) ∨ asked = .unregister := by
  rcases h with hstep | ⟨fault, after, hrecover, hmem⟩
  · revert hstep
    cases task with
    | registering name => simp [step]
    | closing => simp [step, finishClose]
    | call operation =>
        cases operation with
        | register name type port txt =>
            simp only [step, call, register]
            split
            · simp
            · split <;> simp +contextual [log, report]
        | unregister =>
            simp only [step, call, unregister]
            split <;> simp +contextual [report]
        | close =>
            simp only [step, call, close]
            split
            · simp
            · split <;> simp
        | notice notice =>
            cases notice with
            | registered name type =>
                simp only [step, call, hear, registered]
                split
                · simp
                · split <;> simp [log, report]
            | _ => simp [step, call, hear, log, report]
  · revert hmem
    cases task with
    | registering name =>
        obtain rfl := Option.some.inj hrecover
        simp only [registerRefused]
        split
        · split <;> simp [log, report]
        · simp
    | closing =>
        simp only [recover] at hrecover
        split at hrecover
        · obtain rfl := Option.some.inj hrecover
          simp [finishClose, log]
        · cases hrecover
    | call operation => cases hrecover

namespace World

variable {index : Nat}

theorem part_of_map {ε : Type} {effects : List ε} {toWork : ε → Work ι}
    (h : ∀ effect ∈ effects, (toWork effect).part index = none) :
    ∀ w ∈ effects.map toWork, w.part index = none := by
  intro w hmem
  obtain ⟨effect, heffect, rfl⟩ := List.mem_map.mp hmem
  exact h effect heffect

end World

/-- Only a queue's own tasks bring about work of that queue. -/
theorem Brings.part {world : World} {source brought : Work ι} {index : Nat}
    (h : Brings world source brought) (hforeign : ∀ task, source ≠ .queue index task) :
    brought.part index = none := by
  cases h with
  | @registry place task registry effect => exact Work.part_registry_effect effect place
  | @queue place task node effect =>
      have hother : place ≠ index := fun h => hforeign task (h ▸ rfl)
      exact Work.part_effect_other hother node
  | @browse place task node effect found yields =>
      refine Work.part_browse_effect place node ?_
      rintro ref rfl
      have hasked := BrowseSession.asked_of_yields yields
      simp at hasked
  | @publication place task node effect found yields =>
      refine Work.part_publication_effect place node ?_
      rintro ref rfl
      have hasked := PublicationSession.asked_of_yields yields
      simp at hasked
  | @facade place task node effect => exact Work.part_facade_effect effect place node
  | @platform place task core effect => exact Work.part_platform_effect effect place
  | routed platform request listener => exact Work.part_route world platform request listener
  | notified listener notice => exact Work.part_notice listener notice
  | _ => rfl

end ServiceDiscovery
