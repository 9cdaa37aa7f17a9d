import ServiceDiscovery.Proofs.Machine.Origin
import ServiceDiscovery.Proofs.Machine.Place
import ServiceDiscovery.Proofs.Mdns.Errand

/-!
A platform in a running world. It changes by tasks of its own only, and only those bring up its
jobs: neither the surroundings nor other members do. Faults leave it as it is.
-/

namespace ServiceDiscovery

open Mdns

variable {ι σ : Type}

namespace World

variable {world after : World} {work : Work ι} {tasks : List (Work ι)} {place : Nat}
  {node : PlatformNode}

/-- The platform at a place, if it is one for multicast DNS. -/
def mdns? (place : Nat) (world : World) : Option Mdns.Platform :=
  match world.platforms[place]? with
  | some (.mdns core) => some core
  | _ => none

theorem mdns?_eq_some {core : Mdns.Platform} (found : world.platforms[place]? = some (.mdns core)) :
    world.mdns? place = some core := by
  simp [mdns?, found]

/-- Faults change no platform, and no platform goes on with anything because of them. -/
theorem recover_platforms {fault : Fault} (h : recover fault work world = some (after, tasks)) :
    after.platforms = world.platforms ∧ ∀ index task, work = .platform index task → tasks = [] := by
  cases work with
  | platform index task =>
      simp only [recover] at h
      split at h
      · rename_i core hfound
        obtain ⟨result, hrecover, heq⟩ := Option.map_eq_some_iff.mp h
        cases heq
        cases task with
        | turning =>
            cases hrecover
            obtain ⟨hlt, hcore⟩ := List.getElem?_eq_some_iff.mp hfound
            rw [← hcore]
            exact ⟨List.set_getElem_self hlt, fun _ _ _ => rfl⟩
        | _ => cases hrecover
      · cases h
  | registry | queue | browse | publication | facade =>
      simp only [recover] at h
      obtain ⟨_, _, _, _, _, rfl, _⟩ := recoverWith_eq_some h
      exact ⟨rfl, by simp⟩
  | watch instruction =>
      cases h
      exact ⟨rfl, by simp⟩
  | _ => cases h

end World

/-- A job comes from a task of the same platform. -/
theorem Brings.job {world : World} {source brought : Work ι} {place : Nat}
    {task : Platform.Task} (h : Brings world source brought)
    (hbrought : brought = .platform place task) (hjob : task.isJob = true) :
    ∃ before, source = .platform place before := by
  cases h with
  | @platform index before core effect found yields =>
      cases effect with
      | own next =>
          cases hbrought
          exact ⟨before, rfl⟩
      | _ => cases hbrought
  | routed platform request listener =>
      simp only [World.route] at hbrought
      split at hbrought <;> cases hbrought
      cases hjob
  | notified listener notice =>
      cases listener with
      | outside label => cases hbrought
      | member index => cases notice <;> cases hbrought
  | @registry index task registry effect found yields =>
      cases effect with
      | publish receiver event => cases receiver <;> cases hbrought
      | _ => cases hbrought
  | @queue index task node effect found yields => cases effect <;> cases hbrought
  | @browse index task node effect found yields => cases effect <;> cases hbrought
  | @publication index task node effect found yields => cases effect <;> cases hbrought
  | @facade index task node effect found yields => cases effect <;> cases hbrought
  | _ => cases hbrought

/-- Operations are calls and no jobs. -/
theorem Operation.not_job {operation : Operation} {place : Nat} {task : Platform.Task}
    (h : operation.work (ι := ι) = .platform place task) : task.isJob = false := by
  cases operation with
  | platform index operation =>
      cases h
      rfl
  | _ => cases h

theorem Operation.not_job_of_mem {operations : List Operation} {place : Nat}
    {task : Platform.Task} (h : .platform place task ∈ operations.map (Operation.work (ι := ι))) :
    task.isJob = false := by
  obtain ⟨operation, -, heq⟩ := List.mem_map.mp h
  exact Operation.not_job heq

/-- The surroundings make operations. -/
theorem Move.not_job {move : Move ι} {place : Nat} {task : Platform.Task}
    (h : move.work = .platform place task) : task.isJob = false := by
  cases move with
  | perform operation => exact Operation.not_job h
  | _ => cases h

namespace Configuration

variable {surroundings : Surroundings ι σ} {now after : Configuration ι σ} {place : Nat}
  {core : Mdns.Platform}

theorem Becomes.spares_platform {world changed : World} {work : Work ι} {tasks : List (Work ι)}
    {node : PlatformNode} (becomes : Becomes surroundings world work changed tasks)
    (found : world.platforms[place]? = some node)
    (hforeign : ∀ task, work ≠ .platform place task) :
    changed.platforms[place]? = some node ∧
      ∀ task, .platform place task ∈ tasks → task.isJob = false := by
  cases becomes with
  | called | acted =>
      refine ⟨found, fun task hmem => ?_⟩
      obtain ⟨move, -, hmove⟩ := List.mem_map.mp hmem
      exact Move.not_job hmove
  | watched => exact ⟨found, by simp⟩
  | ran work =>
      refine ⟨(World.touches_of_run work world).platform_eq found hforeign, fun task hmem =>
        Bool.eq_false_iff.mpr fun hjob => ?_⟩
      obtain ⟨before, hsource⟩ := (World.brings_of_run hmem).job rfl hjob
      exact hforeign before hsource

theorem step_own {task : Platform.Task} {rest : List (Work ι)}
    (found : now.world.platforms[place]? = some (.mdns core))
    (hagenda : now.agenda = .platform place task :: rest) :
    now.step surroundings = some { now with
      world := { now.world with
        platforms := now.world.platforms.set place (.mdns (Platform.step task core).1) }
      agenda := (Platform.step task core).2.map (·.work place) ++ rest } := by
  obtain ⟨world, around, agenda⟩ := now
  obtain rfl : agenda = _ := hagenda
  have hrun : world.run (.platform place task : Work ι) =
      ({ world with platforms := world.platforms.set place (.mdns (Platform.step task core).1) },
        (Platform.step task core).2.map (·.work place)) := by
    simp only [World.run, World.runPlatform, found]
  simp only [step, hrun]

theorem step_request {request : Request} {listener : Listener} {rest : List (Work ι)}
    (hfound : now.world.platforms[place]? = some (.mdns core))
    (hagenda : now.agenda = .request place request listener :: rest) :
    now.step surroundings = some { now with
      agenda := .platform place (.call (.request request listener)) :: rest } := by
  obtain ⟨world, around, agenda⟩ := now
  obtain rfl : agenda = _ := hagenda
  change world.platforms[place]? = _ at hfound
  simp [step, World.run, World.route, hfound]

theorem step_notify {listener : Listener} {notice : Notice} {rest : List (Work ι)}
    (hagenda : now.agenda = .notify listener notice :: rest) :
    now.step surroundings = some { now with
      agenda := World.deliverNotice listener notice :: rest } := by
  obtain ⟨world, around, agenda⟩ := now
  obtain rfl : agenda = _ := hagenda
  rfl

/-- A step is a task of the platform at a place, and changes that platform by the task, or else it
leaves the platform alone and takes some work in front for other work with no jobs of it. -/
theorem step_platform (h : now.step surroundings = some after)
    (found : now.world.platforms[place]? = some (.mdns core)) :
    (∃ task rest, now.agenda = .platform place task :: rest ∧
      after.world.platforms[place]? = some (.mdns (Platform.step task core).1) ∧
      after.agenda = (Platform.step task core).2.map (·.work place) ++ rest) ∨
    ((∀ task rest, now.agenda ≠ .platform place task :: rest) ∧
      after.world.platforms[place]? = some (.mdns core) ∧
      ∃ tasks kept, kept <:+ now.agenda.tail ∧ after.agenda = tasks ++ kept ∧
        ∀ task, .platform place task ∈ tasks → task.isJob = false) := by
  by_cases hown : ∃ task rest, now.agenda = .platform place task :: rest
  · obtain ⟨task, rest, hagenda⟩ := hown
    have hlt := (List.getElem?_eq_some_iff.mp found).1
    obtain rfl := Option.some.inj (h.symm.trans (step_own found hagenda))
    exact Or.inl ⟨task, rest, hagenda, List.getElem?_set_self hlt, rfl⟩
  · have hforeign (task : Platform.Task) (rest : List (Work ι)) :
        now.agenda ≠ .platform place task :: rest := fun h => hown ⟨task, rest, h⟩
    refine Or.inr ⟨hforeign, ?_⟩
    obtain ⟨work, rest, hagenda, hcases⟩ := step_cases h
    rcases hcases with ⟨tasks, hbecomes, htasks⟩ | ⟨fault, rfl, hunwind⟩
    · have hwork (task : Platform.Task) : work ≠ .platform place task := by
        rintro rfl
        exact hforeign task rest hagenda
      obtain ⟨hplatform, hjobs⟩ := hbecomes.spares_platform found hwork
      exact ⟨hplatform, tasks, rest, by simp [hagenda], htasks, hjobs⟩
    · obtain ⟨hworld, htasks⟩ := Prod.mk.inj hunwind
      rw [hworld, htasks, hagenda, List.tail_cons]
      rcases World.unwind_cases fault now.world rest with
        ⟨dropped, task, kept, changed, tasks, rfl, -, hrecover, heq⟩ | ⟨-, heq⟩
      · obtain ⟨hplatforms, hnil⟩ := World.recover_platforms hrecover
        rw [heq]
        refine ⟨hplatforms ▸ found, tasks, kept, ?_, rfl, fun next hmem =>
          Bool.eq_false_iff.mpr fun hjob => ?_⟩
        · exact (List.suffix_cons ..).trans (List.suffix_append ..)
        · obtain ⟨before, hsource⟩ := (World.brings_of_recover hrecover hmem).job rfl hjob
          rw [hnil place before hsource] at hmem
          cases hmem
      · rw [heq]
        exact ⟨found, [], [], List.nil_suffix, rfl, by simp⟩

end Configuration

end ServiceDiscovery
