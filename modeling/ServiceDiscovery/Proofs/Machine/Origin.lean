import ServiceDiscovery.Proofs.Machine.Course

/-!
Where work comes from. Whatever a step puts on the agenda is a move of the surroundings, or comes
from work that was on the agenda before: it is an effect of the member whose task that was, or it is
that work on its way to where it goes. So what never stands in an effect and is no move never comes
up.
-/

namespace ServiceDiscovery

variable {ι σ : Type}

/-- A member has an effect, by running a task or by recovering from a fault that reached it. -/
def Yields {τ α ε : Type} (step : τ → α → α × List ε)
    (recover : τ → Fault → α → Option (α × List ε)) (task : τ) (member : α) (effect : ε) : Prop :=
  effect ∈ (step task member).2 ∨
    ∃ fault after, recover task fault member = some after ∧ effect ∈ after.2

/-- Some work brings about other work in a world. -/
inductive Brings (world : World) : Work ι → Work ι → Prop where
  | registry {index : Nat} {task : ChannelRegistry.Task} {registry : ChannelRegistry}
      {effect : ChannelRegistry.Effect} (found : world.registries[index]? = some registry)
      (yields : Yields ChannelRegistry.step ChannelRegistry.recover task registry effect) :
      Brings world (.registry index task) (effect.work index)
  | queue {index : Nat} {task : ResolveQueue.Task} {node : QueueNode}
      {effect : ResolveQueue.Effect} (found : world.queues[index]? = some node)
      (yields : Yields ResolveQueue.step ResolveQueue.recover task node.core effect) :
      Brings world (.queue index task) (effect.work index node)
  | browse {index : Nat} {task : BrowseSession.Task} {node : BrowseNode}
      {effect : BrowseSession.Effect} (found : world.browsers[index]? = some node)
      (yields : Yields BrowseSession.step BrowseSession.recover task node.core effect) :
      Brings world (.browse index task) (effect.work index node)
  | publication {index : Nat} {task : PublicationSession.Task} {node : PublicationNode}
      {effect : PublicationSession.Effect} (found : world.publications[index]? = some node)
      (yields : Yields PublicationSession.step PublicationSession.recover task node.core effect) :
      Brings world (.publication index task) (effect.work index node)
  | facade {index : Nat} {task : Facade.Task} {node : FacadeNode} {effect : Facade.Effect}
      (found : world.facades[index]? = some node)
      (yields : Yields Facade.step Facade.recover task node.core effect) :
      Brings world (.facade index task) (effect.work index node)
  | platform {index : Nat} {task : Mdns.Platform.Task} {core : Mdns.Platform}
      {effect : Mdns.Platform.Effect} (found : world.platforms[index]? = some (.mdns core))
      (yields : Yields Mdns.Platform.step Mdns.Platform.recover task core effect) :
      Brings world (.platform index task) (effect.work index)
  | built (made : Build) (answer : Answer) : Brings world (.build made) (.answer answer)
  | unbuilt (made : Build) (fault : Fault) : Brings world (.build made) (.raise fault)
  | routed (platform : Nat) (request : Request) (listener : Listener) :
      Brings world (.request platform request listener) (world.route platform request listener)
  | notified (listener : Listener) (notice : Notice) :
      Brings world (.notify listener notice) (World.deliverNotice listener notice)
  | watched (instruction : ι) : Brings world (.watch instruction) (.outside instruction)

namespace World

variable {world after : World} {work brought : Work ι} {tasks : List (Work ι)} {fault : Fault}

/-- What a task turns into comes from it. -/
theorem brings_of_run (h : brought ∈ (world.run work).2) : Brings world work brought := by
  cases work with
  | build made =>
      simp only [run] at h
      split at h
      · obtain rfl := List.mem_singleton.mp h
        exact .built made _
      · obtain rfl := List.mem_singleton.mp h
        exact .unbuilt made _
  | request platform request listener =>
      obtain rfl := List.mem_singleton.mp h
      exact .routed platform request listener
  | notify listener notice =>
      obtain rfl := List.mem_singleton.mp h
      exact .notified listener notice
  | registry index task =>
      simp only [run, runRegistry] at h
      split at h
      · cases h
      · obtain ⟨effect, hmem, rfl⟩ := List.mem_map.mp h
        exact .registry ‹_› (Or.inl hmem)
  | queue index task =>
      simp only [run, runQueue] at h
      split at h
      · cases h
      · obtain ⟨effect, hmem, rfl⟩ := List.mem_map.mp h
        exact .queue ‹_› (Or.inl hmem)
  | browse index task =>
      simp only [run, runBrowse] at h
      split at h
      · cases h
      · obtain ⟨effect, hmem, rfl⟩ := List.mem_map.mp h
        exact .browse ‹_› (Or.inl hmem)
  | publication index task =>
      simp only [run, runPublication] at h
      split at h
      · cases h
      · obtain ⟨effect, hmem, rfl⟩ := List.mem_map.mp h
        exact .publication ‹_› (Or.inl hmem)
  | facade index task =>
      simp only [run, runFacade] at h
      split at h
      · cases h
      · obtain ⟨effect, hmem, rfl⟩ := List.mem_map.mp h
        exact .facade ‹_› (Or.inl hmem)
  | platform index task =>
      simp only [run, runPlatform] at h
      split at h
      · obtain ⟨effect, hmem, rfl⟩ := List.mem_map.mp h
        exact .platform ‹_› (Or.inl hmem)
      · cases h
  | _ => cases h

/-- What a task asks for when it recovers from a fault comes from it. -/
theorem brings_of_recover (h : recover fault work world = some (after, tasks))
    (hmem : brought ∈ tasks) : Brings world work brought := by
  cases work with
  | watch instruction =>
      cases h
      obtain rfl := List.mem_singleton.mp hmem
      exact .watched instruction
  | registry index task =>
      simp only [recover] at h
      obtain ⟨registry, _, effects, hfound, hrecover, _, rfl⟩ := recoverWith_eq_some h
      obtain ⟨effect, heffect, rfl⟩ := List.mem_map.mp hmem
      exact .registry hfound (Or.inr ⟨fault, _, hrecover, heffect⟩)
  | queue index task =>
      simp only [recover] at h
      obtain ⟨_, _, _, hfound, hnode, _, rfl⟩ := recoverWith_eq_some h
      obtain ⟨result, hresult, heq⟩ := Option.map_eq_some_iff.mp hnode
      cases heq
      obtain ⟨effect, heffect, rfl⟩ := List.mem_map.mp hmem
      exact .queue hfound (Or.inr ⟨fault, result, hresult, heffect⟩)
  | browse index task =>
      simp only [recover] at h
      obtain ⟨_, _, _, hfound, hnode, _, rfl⟩ := recoverWith_eq_some h
      obtain ⟨result, hresult, heq⟩ := Option.map_eq_some_iff.mp hnode
      cases heq
      obtain ⟨effect, heffect, rfl⟩ := List.mem_map.mp hmem
      exact .browse hfound (Or.inr ⟨fault, result, hresult, heffect⟩)
  | publication index task =>
      simp only [recover] at h
      obtain ⟨_, _, _, hfound, hnode, _, rfl⟩ := recoverWith_eq_some h
      obtain ⟨result, hresult, heq⟩ := Option.map_eq_some_iff.mp hnode
      cases heq
      obtain ⟨effect, heffect, rfl⟩ := List.mem_map.mp hmem
      exact .publication hfound (Or.inr ⟨fault, result, hresult, heffect⟩)
  | facade index task =>
      simp only [recover] at h
      obtain ⟨_, _, _, hfound, hnode, _, rfl⟩ := recoverWith_eq_some h
      obtain ⟨result, hresult, heq⟩ := Option.map_eq_some_iff.mp hnode
      cases heq
      obtain ⟨effect, heffect, rfl⟩ := List.mem_map.mp hmem
      exact .facade hfound (Or.inr ⟨fault, result, hresult, heffect⟩)
  | platform index task =>
      simp only [recover] at h
      split at h
      · obtain ⟨result, hresult, heq⟩ := Option.map_eq_some_iff.mp h
        cases heq
        obtain ⟨effect, heffect, rfl⟩ := List.mem_map.mp hmem
        exact .platform ‹_› (Or.inr ⟨fault, result, hresult, heffect⟩)
      · cases h
  | _ => cases h

end World

namespace Configuration

variable {surroundings : Surroundings ι σ} {now after : Configuration ι σ}

/-- The moves that the surroundings are about to make: their answer to the call in front, or what
they do of their own. -/
def moves (surroundings : Surroundings ι σ) (now : Configuration ι σ) : List (Move ι) :=
  match now.agenda with
  | .call call :: _ => (surroundings.answer call now.world now.around).2
  | .outside instruction :: _ => (surroundings.act instruction now.world now.around).2
  | _ => []

theorem agenda_of_call {call : Call} {rest : List (Work ι)}
    (hagenda : now.agenda = .call call :: rest) (h : now.step surroundings = some after) :
    after.agenda = (now.moves surroundings).map Move.work ++ rest := by
  obtain ⟨world, around, agenda⟩ := now
  obtain rfl : agenda = _ := hagenda
  cases h
  rfl

theorem world_of_call {call : Call} {rest : List (Work ι)}
    (hagenda : now.agenda = .call call :: rest) (h : now.step surroundings = some after) :
    after.world = now.world := by
  obtain ⟨world, around, agenda⟩ := now
  obtain rfl : agenda = _ := hagenda
  cases h
  rfl

/-- What the task in front turns into are moves, or comes from it. -/
theorem front_sources {work : Work ι} {tasks rest : List (Work ι)}
    (h : now.step surroundings = some after) (hagenda : now.agenda = work :: rest)
    (hraise : ∀ fault, work ≠ .raise fault) (htasks : after.agenda = tasks ++ rest) :
    ∀ brought ∈ tasks, (∃ move ∈ now.moves surroundings, brought = move.work) ∨
      Brings now.world work brought := by
  obtain ⟨world, around, agenda⟩ := now
  obtain rfl : agenda = _ := hagenda
  intro brought hmem
  cases work with
  | call call =>
      cases h
      rw [← List.append_cancel_right htasks] at hmem
      obtain ⟨move, hmove, rfl⟩ := List.mem_map.mp hmem
      exact Or.inl ⟨move, hmove, rfl⟩
  | outside instruction =>
      cases h
      rw [← List.append_cancel_right htasks] at hmem
      obtain ⟨move, hmove, rfl⟩ := List.mem_map.mp hmem
      exact Or.inl ⟨move, hmove, rfl⟩
  | watch instruction =>
      cases h
      obtain rfl : [.outside instruction] = tasks := List.append_cancel_right htasks
      rw [List.mem_singleton.mp hmem]
      exact Or.inr (.watched instruction)
  | raise fault => exact absurd rfl (hraise fault)
  | _ =>
      cases h
      rw [← List.append_cancel_right htasks] at hmem
      exact Or.inr (World.brings_of_run hmem)

/-- A step leaves some of the work behind the front, and puts in front of it what the surroundings
do, or what comes from the task in front or from one that recovers from a fault. -/
theorem step_sources (h : now.step surroundings = some after) :
    ∃ work rest tasks kept, now.agenda = work :: rest ∧ kept <:+ rest ∧
      after.agenda = tasks ++ kept ∧
      ∀ brought ∈ tasks, (∃ move ∈ now.moves surroundings, brought = move.work) ∨
        Brings now.world work brought ∨
        ∃ fault source changed recovered, work = .raise fault ∧ source ∈ rest ∧
          World.recover fault source now.world = some (changed, recovered) ∧
          brought ∈ recovered := by
  obtain ⟨work, rest, hagenda, hcases⟩ := step_cases h
  refine ⟨work, rest, ?_⟩
  rcases hcases with ⟨tasks, hbecomes, htasks⟩ | ⟨fault, rfl, hunwind⟩
  · refine ⟨tasks, rest, hagenda, List.suffix_refl _, htasks, fun brought hmem => ?_⟩
    exact (front_sources h hagenda hbecomes.ne_raise htasks brought hmem).imp_right Or.inl
  · have hafter : after.agenda = (now.world.unwind fault rest).2 := congrArg Prod.snd hunwind
    rcases World.unwind_cases fault now.world rest with
      ⟨dropped, task, kept, changed, tasks, rfl, -, hrecover, heq⟩ | ⟨-, heq⟩
    · rw [heq] at hafter
      refine ⟨tasks, kept, hagenda, (List.suffix_cons ..).trans (List.suffix_append ..), hafter,
        fun brought hmem => Or.inr (Or.inr ?_)⟩
      exact ⟨fault, task, changed, tasks, rfl, by simp, hrecover, hmem⟩
    · rw [heq] at hafter
      exact ⟨[], [], hagenda, List.nil_suffix, hafter, by simp⟩

/-- Whatever a step puts on the agenda is a move or comes from work that was there. -/
theorem step_brings (h : now.step surroundings = some after) :
    ∃ work rest tasks kept, now.agenda = work :: rest ∧ kept <:+ rest ∧
      after.agenda = tasks ++ kept ∧
      ∀ brought ∈ tasks, (∃ move ∈ now.moves surroundings, brought = move.work) ∨
        ∃ source ∈ now.agenda, Brings now.world source brought := by
  obtain ⟨work, rest, tasks, kept, hagenda, hkept, hafter, htasks⟩ := step_sources h
  refine ⟨work, rest, tasks, kept, hagenda, hkept, hafter, fun brought hmem => ?_⟩
  rcases htasks brought hmem with
    hmove | hfront | ⟨fault, source, changed, recovered, -, hsource, hrecover, hbrought⟩
  · exact Or.inl hmove
  · exact Or.inr ⟨work, by simp [hagenda], hfront⟩
  · exact Or.inr ⟨source, by simp [hagenda, hsource], World.brings_of_recover hrecover hbrought⟩

/-- Work of a kind stays off the agenda if none is left behind the front, the surroundings make no
such move, and neither the task in front nor one that recovers from a fault brings any about. -/
theorem off_of_step {hot : Work ι → Bool} {work : Work ι} {rest : List (Work ι)}
    (h : now.step surroundings = some after) (hagenda : now.agenda = work :: rest)
    (off : ∀ other ∈ rest, hot other = false)
    (hmoves : ∀ move ∈ now.moves surroundings, hot move.work = false)
    (hfront : ∀ brought, Brings now.world work brought → hot brought = false)
    (hrecover : ∀ fault source changed tasks, source ∈ rest →
      World.recover fault source now.world = some (changed, tasks) →
      ∀ brought ∈ tasks, hot brought = false) :
    ∀ other ∈ after.agenda, hot other = false := by
  obtain ⟨first, others, tasks, kept, hfirst, hkept, hafter, htasks⟩ := step_sources h
  obtain ⟨rfl, rfl⟩ := List.cons.inj (hfirst.symm.trans hagenda)
  intro other hmem
  rw [hafter] at hmem
  rcases List.mem_append.mp hmem with hnew | hold
  · rcases htasks other hnew with
      ⟨move, hmove, rfl⟩ | hbrings | ⟨fault, source, changed, recovered, -, hsource, hfault, hin⟩
    · exact hmoves move hmove
    · exact hfront other hbrings
    · exact hrecover fault source changed recovered hsource hfault other hin
  · exact off other (hkept.mem hold)

end Configuration

end ServiceDiscovery
