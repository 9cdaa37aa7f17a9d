import ServiceDiscovery.Machine

/-!
Runs that keep their past, and what one step of a run can be. Either the task in front turns into
other tasks, which take its place, or a fault takes tasks off the agenda until one recovers from it.
Whatever happens, no registry and no queue goes away, and tasks that are not a queue's own leave
that queue as it was.
-/

namespace ServiceDiscovery

variable {ι σ : Type}

namespace World

/-- What an agenda makes of a fault: the first task that recovers from it takes it, and everything
in front of that task is gone. -/
theorem unwind_cases (fault : Fault) (world : World) (agenda : List (Work ι)) :
    (∃ dropped task kept after tasks, agenda = dropped ++ task :: kept ∧
      (∀ work ∈ dropped, recover fault work world = none) ∧
      recover fault task world = some (after, tasks) ∧
      unwind fault world agenda = (after, tasks ++ kept)) ∨
    ((∀ work ∈ agenda, recover fault work world = none) ∧
      unwind fault world agenda = ({ world with caught := some fault }, [])) := by
  induction agenda with
  | nil => exact Or.inr ⟨by simp, rfl⟩
  | cons work rest ih =>
      cases hrecover : recover fault work world with
      | some result =>
          obtain ⟨after, tasks⟩ := result
          exact Or.inl
            ⟨[], work, rest, after, tasks, rfl, by simp, hrecover, by simp [unwind, hrecover]⟩
      | none =>
          have hunwind : unwind fault world (work :: rest) = unwind fault world rest := by
            simp [unwind, hrecover]
          rw [hunwind]
          rcases ih with ⟨dropped, task, kept, after, tasks, hrest, hdropped, htask, heq⟩ |
            ⟨hnone, heq⟩
          · refine Or.inl
              ⟨work :: dropped, task, kept, after, tasks, by simp [hrest], ?_, htask, heq⟩
            intro other hmem
            rcases List.mem_cons.mp hmem with rfl | hother
            · exact hrecover
            · exact hdropped other hother
          · refine Or.inr ⟨?_, heq⟩
            intro other hmem
            rcases List.mem_cons.mp hmem with rfl | hother
            · exact hrecover
            · exact hnone other hother

/-- The task that a fault reaches. -/
def handler? (fault : Fault) (agenda : List (Work ι)) (world : World) : Option (Work ι) :=
  agenda.find? fun task => (recover fault task world).isSome

theorem handler?_eq_some {fault : Fault} {world after : World} {dropped kept tasks : List (Work ι)}
    {task : Work ι} (hdropped : ∀ work ∈ dropped, recover fault work world = none)
    (htask : recover fault task world = some (after, tasks)) :
    handler? fault (dropped ++ task :: kept) world = some task := by
  have hfront : dropped.find? (fun work => (recover fault work world).isSome) = none := by
    rw [List.find?_eq_none]
    intro work hmem
    simp [hdropped work hmem]
  simp [handler?, List.find?_append, hfront, htask]

theorem handler?_eq_none {fault : Fault} {world : World} {agenda : List (Work ι)}
    (h : ∀ work ∈ agenda, recover fault work world = none) :
    handler? fault agenda world = none := by
  rw [handler?, List.find?_eq_none]
  intro work hmem
  simp [h work hmem]

/-- A relation that takes in each way in which a member is added to a world. -/
structure Additive (related : World → World → Prop) : Prop where
  trans : ∀ {first second third}, related first second → related second third →
    related first third
  registry : ∀ world, related world world.addRegistry.2
  queue : ∀ platform registry core world,
    related world (world.addQueue platform registry core).2
  browse : ∀ platform queue registry receiver world,
    related world (world.addBrowse platform queue registry receiver).2
  publication : ∀ platform registry receiver world,
    related world (world.addPublication platform registry receiver).2
  facade : ∀ (world : World) node, related world { world with facades := world.facades ++ [node] }
  platform : ∀ (world : World) node,
    related world { world with platforms := world.platforms ++ [node] }

/-- A facade is put together from a registry, a queue and two sessions, each added in its turn. -/
theorem Additive.addFacade {related : World → World → Prop} (additive : Additive related)
    {platform place : Nat} {queue registry : Option Nat} {callbacks : Callbacks}
    {world after : World}
    (h : world.addFacade platform queue registry callbacks = .ok (place, after)) :
    related world after := by
  have hsessions (middle : World) (platform queue registry facade : Nat) (node : FacadeNode) :
      let browsing := (middle.addBrowse platform queue registry (.facade facade)).2
      let publishing := (browsing.addPublication platform registry (.facade facade)).2
      related middle { publishing with facades := publishing.facades ++ [node] } :=
    additive.trans (additive.trans (additive.browse ..) (additive.publication ..))
      (additive.facade ..)
  unfold World.addFacade at h
  split at h
  · cases h
  · cases registry with
    | some registry =>
        cases queue with
        | some queue =>
            cases h
            exact hsessions world platform queue registry _ _
        | none =>
            cases h
            exact additive.trans (additive.queue platform registry {} world)
              (hsessions _ platform _ registry _ _)
    | none =>
        cases queue with
        | some queue =>
            cases h
            exact additive.trans (additive.registry world) (hsessions _ platform queue _ _ _)
        | none =>
            cases h
            exact additive.trans (additive.registry world)
              (additive.trans (additive.queue platform _ {} _) (hsessions _ platform _ _ _ _))

theorem Additive.build {related : World → World → Prop} (additive : Additive related)
    {made : Build} {place : Int} {world after : World}
    (h : world.build made = .ok (place, after)) : related world after := by
  cases made with
  | registry =>
      cases h
      exact additive.registry world
  | platform node =>
      cases h
      exact additive.platform world node
  | queue platform registry core =>
      cases h
      exact additive.queue platform registry core world
  | browse platform queue registry receiver =>
      cases h
      exact additive.browse platform queue registry receiver world
  | publication platform registry receiver =>
      cases h
      exact additive.publication platform registry receiver world
  | facade platform queue registry callbacks =>
      cases hadd : world.addFacade platform queue registry callbacks with
      | error fault => simp [World.build, hadd, Except.map] at h
      | ok made =>
          simp only [World.build, hadd, Except.map, placed, Except.ok.injEq, Prod.mk.injEq] at h
          exact h.2 ▸ additive.addFacade hadd

/-- One world comes from another without losing a registry or a queue. -/
structure Grows (world after : World) : Prop where
  registries : world.registries.length ≤ after.registries.length
  queues : world.queues.length ≤ after.queues.length

/-- One world comes from another, and the queue at a place is left alone. -/
structure Spares (index : Nat) (world after : World) : Prop extends Grows world after where
  node : ∀ node, world.queues[index]? = some node → after.queues[index]? = some node

theorem Spares.of_eq {index : Nat} {world after : World}
    (registries : after.registries.length = world.registries.length)
    (queues : after.queues = world.queues) : Spares index world after where
  registries := Nat.le_of_eq registries.symm
  queues := by simp [queues]
  node := fun node h => queues ▸ h

theorem Spares.refl (index : Nat) (world : World) : Spares index world world :=
  .of_eq rfl rfl

theorem Spares.trans {index : Nat} {first second third : World} (h : Spares index first second)
    (h' : Spares index second third) : Spares index first third where
  registries := Nat.le_trans h.registries h'.registries
  queues := Nat.le_trans h.queues h'.queues
  node := fun node found => h'.node node (h.node node found)

theorem attach_spares (index registry : Nat) (receiver : Receiver) (world : World) :
    Spares index world (world.attach registry receiver).2 := by
  unfold attach
  split
  · exact .refl index world
  · exact .of_eq (by simp) rfl

theorem addRegistry_spares (index : Nat) (world : World) :
    Spares index world world.addRegistry.2 where
  registries := by simp [addRegistry]
  queues := Nat.le_refl _
  node := fun _ h => h

theorem addQueue_spares (index platform registry : Nat) (core : ResolveQueue) (world : World) :
    Spares index world (world.addQueue platform registry core).2 where
  registries := Nat.le_refl _
  queues := by simp [addQueue]
  node := by
    intro node h
    have hlt : index < world.queues.length := (List.getElem?_eq_some_iff.mp h).1
    simp only [addQueue]
    rw [List.getElem?_append_left hlt]
    exact h

theorem addBrowse_spares (index platform queue registry : Nat) (receiver : Receiver)
    (world : World) : Spares index world (world.addBrowse platform queue registry receiver).2 :=
  (attach_spares index registry receiver world).trans (.of_eq rfl rfl)

theorem addPublication_spares (index platform registry : Nat) (receiver : Receiver)
    (world : World) : Spares index world (world.addPublication platform registry receiver).2 :=
  (attach_spares index registry receiver world).trans (.of_eq rfl rfl)

theorem additive_spares (index : Nat) : Additive (Spares index) where
  trans := Spares.trans
  registry := addRegistry_spares index
  queue := addQueue_spares index
  browse := addBrowse_spares index
  publication := addPublication_spares index
  facade _ _ := .of_eq rfl rfl
  platform _ _ := .of_eq rfl rfl

/-- A queue that takes its place again leaves all other queues alone. -/
theorem setQueue_spares {index place : Nat} (hother : place ≠ index) (node : QueueNode)
    (world : World) :
    Spares index world { world with queues := world.queues.set place node } where
  registries := Nat.le_refl _
  queues := by simp
  node := by
    intro found h
    rw [List.getElem?_set_ne hother]
    exact h

theorem recoverWith_eq_some {α ε : Type} {found : Option α} {recover : α → Option (α × List ε)}
    {put : α → World} {work : α → ε → Work ι} {after : World} {tasks : List (Work ι)}
    (h : recoverWith found recover put work = some (after, tasks)) :
    ∃ member changed effects, found = some member ∧ recover member = some (changed, effects) ∧
      after = put changed ∧ tasks = effects.map (work member) := by
  unfold recoverWith at h
  split at h
  · cases h
  · rename_i member
    obtain ⟨⟨changed, effects⟩, hrecover, heq⟩ := Option.map_eq_some_iff.mp h
    cases heq
    exact ⟨member, changed, effects, rfl, hrecover, rfl, rfl⟩

/-- A call that has not begun recovers from no fault. -/
theorem recover_operation (operation : Operation) (fault : Fault) (world : World) :
    recover fault (operation.work : Work ι) world = none := by
  cases operation with
  | build made => rfl
  | registry index operation =>
      simp only [Operation.work, recover, recoverWith, ChannelRegistry.recover, Option.map_none]
      split <;> rfl
  | queue index operation =>
      simp only [Operation.work, recover, recoverWith, ResolveQueue.recover, Option.map_none]
      split <;> rfl
  | browse index operation =>
      simp only [Operation.work, recover, recoverWith, BrowseSession.recover, Option.map_none]
      split <;> rfl
  | publication index operation =>
      simp only [Operation.work, recover, recoverWith, PublicationSession.recover, Option.map_none]
      split <;> rfl
  | facade index operation =>
      simp only [Operation.work, recover, recoverWith, Facade.recover, Option.map_none]
      split <;> rfl
  | platform index operation =>
      simp only [Operation.work, recover, Mdns.Platform.recover, Option.map_none]
      split <;> rfl

/-- A member becomes another one, by running a task or by recovering from a fault. -/
def Makes {τ α ε : Type} (step : τ → α → α × List ε)
    (recover : τ → Fault → α → Option (α × List ε)) (task : τ) (member changed : α) : Prop :=
  changed = (step task member).1 ∨
    ∃ fault effects, recover task fault member = some (changed, effects)

/-- All that some work can do to a world, by being run or by recovering from a fault: members are
added, or the one member whose task it is changes. -/
inductive Touches (world : World) : Work ι → World → Prop where
  | nothing (work : Work ι) (returned : Answer) (caught : Option Fault) :
      Touches world work { world with returned, caught }
  | built {made : Build} {place : Int} {after : World}
      (added : world.build made = .ok (place, after)) : Touches world (.build made) after
  | registry {index : Nat} {task : ChannelRegistry.Task} {registry changed : ChannelRegistry}
      (found : world.registries[index]? = some registry)
      (makes : Makes ChannelRegistry.step ChannelRegistry.recover task registry changed) :
      Touches world (.registry index task)
        { world with registries := world.registries.set index changed }
  | queue {index : Nat} {task : ResolveQueue.Task} {node : QueueNode} {core : ResolveQueue}
      (found : world.queues[index]? = some node)
      (makes : Makes ResolveQueue.step ResolveQueue.recover task node.core core) :
      Touches world (.queue index task)
        { world with queues := world.queues.set index { node with core } }
  | browse {index : Nat} {task : BrowseSession.Task} {node : BrowseNode} {core : BrowseSession}
      (found : world.browsers[index]? = some node)
      (makes : Makes BrowseSession.step BrowseSession.recover task node.core core) :
      Touches world (.browse index task)
        { world with browsers := world.browsers.set index { node with core } }
  | publication {index : Nat} {task : PublicationSession.Task} {node : PublicationNode}
      {core : PublicationSession} (found : world.publications[index]? = some node)
      (makes : Makes PublicationSession.step PublicationSession.recover task node.core core) :
      Touches world (.publication index task)
        { world with publications := world.publications.set index { node with core } }
  | facade {index : Nat} {task : Facade.Task} {node : FacadeNode} {core : Facade}
      (found : world.facades[index]? = some node)
      (makes : Makes Facade.step Facade.recover task node.core core) :
      Touches world (.facade index task)
        { world with facades := world.facades.set index { node with core } }
  | platform {index : Nat} {task : Mdns.Platform.Task} {core changed : Mdns.Platform}
      (found : world.platforms[index]? = some (.mdns core))
      (makes : Makes Mdns.Platform.step Mdns.Platform.recover task core changed) :
      Touches world (.platform index task)
        { world with platforms := world.platforms.set index (.mdns changed) }

theorem touches_of_run (work : Work ι) (world : World) : Touches world work (world.run work).1 := by
  cases work with
  | build made =>
      simp only [run]
      split
      · exact .built ‹_›
      · exact .nothing ..
  | registry index task =>
      simp only [run, runRegistry]
      split
      · exact .nothing ..
      · exact .registry ‹_› (Or.inl rfl)
  | queue index task =>
      simp only [run, runQueue]
      split
      · exact .nothing ..
      · exact .queue ‹_› (Or.inl rfl)
  | browse index task =>
      simp only [run, runBrowse]
      split
      · exact .nothing ..
      · exact .browse ‹_› (Or.inl rfl)
  | publication index task =>
      simp only [run, runPublication]
      split
      · exact .nothing ..
      · exact .publication ‹_› (Or.inl rfl)
  | facade index task =>
      simp only [run, runFacade]
      split
      · exact .nothing ..
      · exact .facade ‹_› (Or.inl rfl)
  | platform index task =>
      simp only [run, runPlatform]
      split
      · exact .platform ‹_› (Or.inl rfl)
      · exact .nothing ..
  | _ => exact .nothing ..

theorem touches_of_recover {fault : Fault} {work : Work ι} {world after : World}
    {tasks : List (Work ι)} (h : recover fault work world = some (after, tasks)) :
    Touches world work after := by
  cases work with
  | registry index task =>
      simp only [recover] at h
      obtain ⟨_, _, _, hfound, hrecover, rfl, _⟩ := recoverWith_eq_some h
      exact .registry hfound (Or.inr ⟨fault, _, hrecover⟩)
  | queue index task =>
      simp only [recover] at h
      obtain ⟨_, _, _, hfound, hnode, rfl, _⟩ := recoverWith_eq_some h
      obtain ⟨_, hrecover, heq⟩ := Option.map_eq_some_iff.mp hnode
      cases heq
      exact .queue hfound (Or.inr ⟨fault, _, hrecover⟩)
  | browse index task =>
      simp only [recover] at h
      obtain ⟨_, _, _, hfound, hnode, rfl, _⟩ := recoverWith_eq_some h
      obtain ⟨_, hrecover, heq⟩ := Option.map_eq_some_iff.mp hnode
      cases heq
      exact .browse hfound (Or.inr ⟨fault, _, hrecover⟩)
  | publication index task =>
      simp only [recover] at h
      obtain ⟨_, _, _, hfound, hnode, rfl, _⟩ := recoverWith_eq_some h
      obtain ⟨_, hrecover, heq⟩ := Option.map_eq_some_iff.mp hnode
      cases heq
      exact .publication hfound (Or.inr ⟨fault, _, hrecover⟩)
  | facade index task =>
      simp only [recover] at h
      obtain ⟨_, _, _, hfound, hnode, rfl, _⟩ := recoverWith_eq_some h
      obtain ⟨_, hrecover, heq⟩ := Option.map_eq_some_iff.mp hnode
      cases heq
      exact .facade hfound (Or.inr ⟨fault, _, hrecover⟩)
  | platform index task =>
      simp only [recover] at h
      split at h
      · obtain ⟨_, hrecover, heq⟩ := Option.map_eq_some_iff.mp h
        cases heq
        exact .platform ‹_› (Or.inr ⟨fault, _, hrecover⟩)
      · cases h
  | watch instruction =>
      cases h
      exact .nothing ..
  | _ => cases h

/-- Work leaves a queue alone unless it is a task of that queue. -/
theorem Touches.spares {index : Nat} {work : Work ι} {world after : World}
    (touches : Touches world work after) (hforeign : ∀ task, work ≠ .queue index task) :
    Spares index world after := by
  cases touches with
  | built added => exact (additive_spares index).build added
  | @queue place task node core found makes =>
      have hother : place ≠ index := fun h => hforeign task (h ▸ rfl)
      exact setQueue_spares hother _ world
  | registry => exact .of_eq (by simp) rfl
  | _ => exact .of_eq rfl rfl

theorem Touches.grows {work : Work ι} {world after : World}
    (touches : Touches world work after) : world.Grows after := by
  by_cases hqueue : ∃ place task, work = .queue place task
  · obtain ⟨place, task, rfl⟩ := hqueue
    cases touches with
    | nothing => exact ⟨Nat.le_refl _, Nat.le_refl _⟩
    | queue => exact ⟨Nat.le_refl _, by simp⟩
  · have hspares : Spares 0 world after :=
      touches.spares fun task h => hqueue ⟨0, task, h⟩
    exact hspares.toGrows

end World

namespace Configuration

/-- What a task other than a fault turns into: a world, and the tasks that take its place. -/
inductive Becomes (surroundings : Surroundings ι σ) (world : World) :
    Work ι → World → List (Work ι) → Prop where
  | called (call : Call) (around : σ) :
      Becomes surroundings world (.call call) world
        ((surroundings.answer call world around).2.map Move.work)
  | acted (instruction : ι) (around : σ) :
      Becomes surroundings world (.outside instruction) world
        ((surroundings.act instruction world around).2.map Move.work)
  | watched (instruction : ι) :
      Becomes surroundings world (.watch instruction) { world with caught := none }
        [.outside instruction]
  | ran (work : Work ι) (hinner : ∀ fault, work ≠ .raise fault)
      (hown : (∀ call, work ≠ .call call) ∧ (∀ instruction, work ≠ .outside instruction) ∧
        ∀ instruction, work ≠ .watch instruction) :
      Becomes surroundings world work (world.run work).1 (world.run work).2

theorem Becomes.grows {surroundings : Surroundings ι σ} {world after : World} {work : Work ι}
    {tasks : List (Work ι)} (becomes : Becomes surroundings world work after tasks) :
    world.Grows after := by
  cases becomes with
  | called | acted | watched => exact ⟨Nat.le_refl _, Nat.le_refl _⟩
  | ran work => exact (World.touches_of_run work world).grows

theorem Becomes.ne_raise {surroundings : Surroundings ι σ} {world after : World} {work : Work ι}
    {tasks : List (Work ι)} (becomes : Becomes surroundings world work after tasks)
    (fault : Fault) : work ≠ .raise fault := by
  cases becomes with
  | called | acted | watched => simp
  | ran work hinner => exact hinner fault

/-- A step takes the task in front: it turns into others, or it is a fault. -/
theorem step_cases {surroundings : Surroundings ι σ} {now after : Configuration ι σ}
    (h : now.step surroundings = some after) :
    ∃ work rest, now.agenda = work :: rest ∧
      ((∃ tasks, Becomes surroundings now.world work after.world tasks ∧
          after.agenda = tasks ++ rest) ∨
        ∃ fault, work = .raise fault ∧
          (after.world, after.agenda) = now.world.unwind fault rest) := by
  obtain ⟨world, around, agenda⟩ := now
  cases agenda with
  | nil => cases h
  | cons work rest =>
      refine ⟨work, rest, rfl, ?_⟩
      cases work with
      | call call =>
          cases h
          exact Or.inl ⟨_, .called call around, rfl⟩
      | outside instruction =>
          cases h
          exact Or.inl ⟨_, .acted instruction around, rfl⟩
      | watch instruction =>
          cases h
          exact Or.inl ⟨_, .watched instruction, rfl⟩
      | raise fault =>
          cases h
          exact Or.inr ⟨fault, rfl, rfl⟩
      | _ =>
          cases h
          exact Or.inl ⟨_, .ran _ (by simp) (by simp), rfl⟩

/-- A run with all configurations that it passed through, in order, before it came to the present
one. -/
inductive Course (surroundings : Surroundings ι σ) (start : Configuration ι σ) :
    List (Configuration ι σ) → Configuration ι σ → Prop where
  | start : Course surroundings start [] start
  | step {past : List (Configuration ι σ)} {now after : Configuration ι σ}
      (course : Course surroundings start past now) (step : now.step surroundings = some after) :
      Course surroundings start (past ++ [now]) after

theorem Course.reaches {surroundings : Surroundings ι σ} {start now : Configuration ι σ}
    {past : List (Configuration ι σ)} (course : Course surroundings start past now) :
    Reaches surroundings start now := by
  induction course with
  | start => exact .refl start
  | step _ step ih => exact .tail ih step

theorem Course.head {surroundings : Surroundings ι σ} {first start now : Configuration ι σ}
    {past : List (Configuration ι σ)} (step : first.step surroundings = some start)
    (course : Course surroundings start past now) :
    Course surroundings first (first :: past) now := by
  induction course with
  | start => exact Course.start.step step
  | step _ next ih => exact ih.step next

/-- Each configuration of the past was come to on the same course, and gone on from. -/
theorem Course.before {surroundings : Surroundings ι σ} {start now moment : Configuration ι σ}
    {past : List (Configuration ι σ)} (course : Course surroundings start past now)
    (hmem : moment ∈ past) : ∃ earlier after, Course surroundings start earlier moment ∧
      moment.step surroundings = some after := by
  induction course with
  | start => cases hmem
  | step course step ih =>
      rcases List.mem_append.mp hmem with hold | hlast
      · exact ih hold
      · obtain rfl := List.mem_singleton.mp hlast
        exact ⟨_, _, course, step⟩

/-- The configurations that a run passes through before its last one. -/
def trail (surroundings : Surroundings ι σ) : Nat → Configuration ι σ → List (Configuration ι σ)
  | 0, _ => []
  | steps + 1, now =>
      match now.step surroundings with
      | none => []
      | some after => now :: trail surroundings steps after

theorem course_run (surroundings : Surroundings ι σ) (steps : Nat) (now : Configuration ι σ) :
    Course surroundings now (trail surroundings steps now) (run surroundings steps now) := by
  induction steps generalizing now with
  | zero => exact .start
  | succ steps ih =>
      unfold trail run
      cases h : now.step surroundings with
      | none => exact .start
      | some after => exact (ih after).head h

end Configuration

end ServiceDiscovery
