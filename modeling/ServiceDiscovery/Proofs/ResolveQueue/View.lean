import ServiceDiscovery.Proofs.ResolveQueue.Part

/-!
A queue seen from within a running world. Of all the work on the agenda only some belongs to the
queue, and a step of the world is either no concern of the queue or one happening to it. So the
course of a world shows each of its queues a run of scenes, whatever the surroundings and all other
members do, as long as log lines and timers are taken without a word.
-/

namespace ServiceDiscovery

variable {ι σ : Type}

namespace Configuration

/-- What the queue at a place still has to do, in order: the part of the call stack that is its
own. -/
def due (index : Nat) (now : Configuration ι σ) : List ResolveQueue.Effect :=
  now.agenda.filterMap (Work.part index)

/-- What the next step is to the queue at a place, if it concerns it at all. -/
def happening (index : Nat) (now : Configuration ι σ) : Option ResolveQueue.Happening :=
  match now.world.queues[index]?, now.agenda with
  | some node, .queue place task :: _ =>
      if place = index then some (.turn (.run task) node.core) else none
  | some node, .raise fault :: rest =>
      match World.handler? fault rest now.world with
      | some (.queue place (.resolving ref)) =>
          if place = index then some (.turn (.refused ref fault) node.core) else none
      | _ => none
  | some _, work :: _ => (work.part index).map .made
  | _, _ => none

/-- All that happened to the queue at a place so far. -/
def history (index : Nat) (past : List (Configuration ι σ)) : List ResolveQueue.Happening :=
  past.filterMap (happening index)

/-- A new queue stands at a place, and no call of it is under way. -/
structure Fresh (index : Nat) (node : QueueNode) (now : Configuration ι σ) : Prop where
  found : now.world.queues[index]? = some node
  core : node.core = {
    deduplicate := node.core.deduplicate
    retryDelay := node.core.retryDelay }
  idle : ∀ work ∈ now.agenda, work.part index = none

end Configuration

namespace ResolveQueue

variable {index : Nat} {effects : List Effect} {rest : List (Work ι)}

/-- Nothing that the queue at a place still has to do is a call. -/
def Calm (index : Nat) (agenda : List (Work ι)) : Prop :=
  ∀ effect ∈ agenda.filterMap (Work.part index), effect.isOwn

/-- The calls of the queue at a place come before everything that is answered. -/
def Prompt (index : Nat) : List (Work ι) → Prop
  | [] => True
  | work :: rest => if work.isQuiet then Prompt index rest else Calm index rest

theorem prompt_of_calm {agenda : List (Work ι)} (h : Calm index agenda) : Prompt index agenda := by
  induction agenda with
  | nil => trivial
  | cons work rest ih =>
      have hrest : Calm index rest := by
        intro effect hmem
        refine h effect ?_
        simp only [List.mem_filterMap] at hmem ⊢
        obtain ⟨w, hw, hpart⟩ := hmem
        exact ⟨w, List.mem_cons_of_mem _ hw, hpart⟩
      unfold Prompt
      split
      · exact ih hrest
      · exact hrest

theorem calm_append {first : List (Work ι)} (h : ∀ w ∈ first, w.part index = none)
    (hrest : Calm index rest) : Calm index (first ++ rest) := by
  have hnone : first.filterMap (Work.part index) = [] := List.filterMap_eq_nil_iff.mpr h
  simpa [Calm, List.filterMap_append, hnone] using hrest

theorem Batch.not_call (batch : Batch effects) (operation : Operation) :
    .own (.call operation) ∉ effects := by
  intro hmem
  cases batch with
  | plain h => cases h _ hmem
  | asking message ref => simp [debug] at hmem
  | holding message timer => simp [debug] at hmem
  | releasing timer h =>
      rcases List.mem_cons.mp hmem with heq | hreport
      · cases heq
      · obtain ⟨_, heq⟩ := h _ hreport
        cases heq

/-- What a queue has to do of what it asked for. -/
theorem Batch.parts (batch : Batch effects) (node : QueueNode) :
    (effects.map (·.work (ι := ι) index node)).filterMap (Work.part index) =
      effects.filter Effect.isDue := by
  have hpart : ∀ effect ∈ effects, (effect.work (ι := ι) index node).part index =
      if effect.isDue then some effect else none := by
    intro effect hmem
    cases effect with
    | own task =>
        cases task with
        | call operation => exact absurd hmem (batch.not_call operation)
        | _ => simp [Effect.work, Work.part]
    | deliver session event => rfl
    | log record => rfl
    | answerNumber n => rfl
    | _ => simp [Effect.work, Work.part]
  clear batch
  induction effects with
  | nil => rfl
  | cons effect rest ih =>
      have hrest := ih fun other hmem => hpart other (List.mem_cons_of_mem _ hmem)
      rw [List.map_cons, List.filterMap_cons, hpart effect List.mem_cons_self, hrest,
        List.filter_cons]
      cases effect.isDue <;> rfl

theorem Batch.prompt (batch : Batch effects) (node : QueueNode) (hrest : Calm index rest) :
    Prompt index (effects.map (·.work index node) ++ rest) := by
  have hcalm (hown : ∀ effect ∈ effects.filter Effect.isDue, effect.isOwn) :
      Prompt index (effects.map (·.work index node) ++ rest) := by
    refine prompt_of_calm ?_
    intro effect hmem
    rw [List.filterMap_append, batch.parts node] at hmem
    rcases List.mem_append.mp hmem with hfirst | hsecond
    · exact hown effect hfirst
    · exact hrest effect hsecond
  cases batch with
  | plain h =>
      refine hcalm fun effect hmem => ?_
      obtain ⟨hmem, hdue⟩ := List.mem_filter.mp hmem
      have hplain := h effect hmem
      cases effect with
      | own task => rfl
      | deliver session event => cases hdue
      | log record => cases hdue
      | answerNumber n => cases hdue
      | _ => cases hplain
  | asking message ref =>
      change Calm index (Work.queue index (.resolving ref) :: rest)
      intro effect hmem
      rw [List.filterMap_cons] at hmem
      simp only [Work.part, ↓reduceIte, List.mem_cons] at hmem
      rcases hmem with rfl | hmem
      · rfl
      · exact hrest effect hmem
  | holding message timer =>
      change Prompt index rest
      exact prompt_of_calm hrest
  | @releasing timer report h =>
      change Prompt index (report.map (·.work index node) ++ rest)
      refine prompt_of_calm (calm_append ?_ hrest)
      intro w hmem
      obtain ⟨effect, hreport, rfl⟩ := List.mem_map.mp hmem
      obtain ⟨message, rfl⟩ := h effect hreport
      rfl

end ResolveQueue

namespace Configuration

open ResolveQueue

variable {surroundings : Surroundings ι σ} {now after : Configuration ι σ} {index : Nat}
  {node : QueueNode} {scene : Scene}

/-- Is the work a part of the queue at a place? -/
def isPart (index : Nat) (work : Work ι) : Bool :=
  (work.part index).isSome

/-- A configuration shows a scene of the queue at a place. -/
structure Shows (index : Nat) (node : QueueNode) (now : Configuration ι σ) (scene : Scene) :
    Prop where
  queue : now.world.queues[index]? = some { node with core := scene.queue }
  due : now.due index = scene.due
  sheltered : now.world.Shelters (isPart index) false now.agenda
  prompt : Prompt index now.agenda

theorem Fresh.shows (h : now.Fresh index node) :
    now.Shows index node (Scene.fresh node.core.deduplicate node.core.retryDelay) := by
  refine ⟨?_, ?_, ?_, ?_⟩
  · rw [h.found, Scene.fresh, ← h.core]
  · exact List.filterMap_eq_nil_iff.mpr h.idle
  · exact World.shelters_of_not_keep fun work hmem => by simp [isPart, h.idle work hmem]
  · refine prompt_of_calm fun effect hmem => ?_
    rw [List.filterMap_eq_nil_iff.mpr h.idle] at hmem
    cases hmem

/-- What a turn of the queue leaves behind shows the scene that it leads to. -/
theorem shows_turn {turn : Turn} {queue : ResolveQueue} {rest : List (Work ι)}
    (hqueue : after.world.queues[index]? = some { node with core := (take turn queue).1 })
    (hagenda : after.agenda = (take turn queue).2.map
      (·.work index { node with core := queue }) ++ rest)
    (hsheltered : after.world.Shelters (isPart index) false after.agenda)
    (hcalm : Calm index rest) :
    after.Shows index node (Scene.after turn queue (rest.filterMap (Work.part index))) where
  queue := hqueue
  due := by
    rw [Configuration.due, hagenda, List.filterMap_append, (taken turn queue).batch.parts]
    rfl
  sheltered := hsheltered
  prompt := by
    rw [hagenda]
    exact (taken turn queue).batch.prompt _ hcalm

/-- A task of the queue puts what it asks for in front of all other work. -/
theorem step_queue {task : Task} {rest : List (Work ι)}
    (hqueue : now.world.queues[index]? = some node)
    (hagenda : now.agenda = .queue index task :: rest) :
    now.step surroundings = some { now with
      world := { now.world with
        queues := now.world.queues.set index
          { node with core := (take (.run task) node.core).1 } }
      agenda := (take (.run task) node.core).2.map (·.work index node) ++ rest } := by
  obtain ⟨world, around, agenda⟩ := now
  change agenda = _ at hagenda
  change world.queues[index]? = _ at hqueue
  subst hagenda
  simp only [step, World.run, World.runQueue, hqueue]
  rfl

/-- Of a queue's own tasks only the one that waits for the platform recovers from a fault. -/
theorem recover_queue {task : Task} {fault : Fault} {world changed : World}
    {tasks : List (Work ι)} (hqueue : world.queues[index]? = some node)
    (h : World.recover fault (.queue index task) world = some (changed, tasks)) :
    ∃ ref, task = .resolving ref ∧
      changed.queues[index]? =
        some { node with core := (take (.refused ref fault) node.core).1 } ∧
      tasks = (take (.refused ref fault) node.core).2.map (·.work index node) := by
  simp only [World.recover] at h
  obtain ⟨member, core, effects, hfound, htake, rfl, rfl⟩ := World.recoverWith_eq_some h
  obtain rfl := Option.some.inj (hqueue.symm.trans hfound)
  cases task with
  | resolving ref =>
      cases htake
      have hlt : index < world.queues.length := (List.getElem?_eq_some_iff.mp hfound).1
      exact ⟨ref, rfl, List.getElem?_set_self hlt, rfl⟩
  | call operation => cases htake
  | drain => cases htake
  | next => cases htake

/-- What a turn that recovers from a fault asks for takes the place of all that was in front. -/
theorem step_refused (surroundings : Surroundings ι σ) {ref : ServiceRef} {fault : Fault}
    {rest : List (Work ι)} (hqueue : now.world.queues[index]? = some node)
    (hagenda : now.agenda = .raise fault :: rest)
    (hhandler : World.handler? fault rest now.world = some (.queue index (.resolving ref))) :
    ∃ after kept, now.step surroundings = some after ∧ kept <:+ rest ∧
      after.agenda = (take (.refused ref fault) node.core).2.map (·.work index node) ++ kept := by
  obtain ⟨world, around, agenda⟩ := now
  change agenda = _ at hagenda
  change world.queues[index]? = _ at hqueue
  subst hagenda
  rcases World.unwind_cases fault world rest with
    ⟨dropped, task, kept, changed, tasks, rfl, hdropped, hrecover, hunwind⟩ | ⟨hnone, _⟩
  · obtain rfl : task = .queue index (.resolving ref) :=
      Option.some.inj ((World.handler?_eq_some hdropped hrecover).symm.trans hhandler)
    obtain ⟨_, heq, _, rfl⟩ := recover_queue hqueue hrecover
    cases heq
    refine ⟨{ world := changed, around, agenda := _ ++ kept }, kept, ?_, ?_, rfl⟩
    · simp only [step, hunwind]
    · exact (List.suffix_cons ..).trans (List.suffix_append ..)
  · cases (World.handler?_eq_none hnone).symm.trans hhandler

/-- A log line is written and nothing comes of it. -/
theorem step_log {record : Log.Record} {rest : List (Work ι)} (quiet : surroundings.Quiet)
    (hagenda : now.agenda = .call (.log record) :: rest) :
    ∃ after, now.step surroundings = some after ∧ after.agenda = rest := by
  obtain ⟨world, around, agenda⟩ := now
  change agenda = _ at hagenda
  subst hagenda
  refine ⟨_, rfl, ?_⟩
  simp [quiet.log]

/-- A task of the queue itself is a turn. -/
theorem Shows.turn {task : Task} {rest : List (Work ι)} (h : now.Shows index node scene)
    (quiet : surroundings.Quiet) (hagenda : now.agenda = .queue index task :: rest)
    (hstep : now.step surroundings = some after) :
    ∃ next, Scene.Step scene (.turn (.run task) scene.queue) next ∧
      after.Shows index node next := by
  have hqueue := h.queue
  have hlt : index < now.world.queues.length := (List.getElem?_eq_some_iff.mp hqueue).1
  have hcalm : Calm index rest := by
    have hprompt := h.prompt
    rw [hagenda] at hprompt
    exact hprompt
  have hafter := Option.some.inj (hstep.symm.trans (step_queue hqueue hagenda))
  have hshelter : after.world.Shelters (isPart index) false after.agenda := by
    obtain ⟨work, others, hwork, hcases⟩ := step_cases hstep
    obtain ⟨rfl, rfl⟩ := List.cons.inj (hwork.symm.trans hagenda)
    rcases hcases with ⟨tasks, hbecomes, htasks⟩ | ⟨fault, hfault, _⟩
    · have hsheltered := h.sheltered
      rw [hagenda] at hsheltered
      have hnew : tasks = (take (.run task) scene.queue).2.map
          (·.work index { node with core := scene.queue }) := by
        rw [hafter] at htasks
        exact (List.append_cancel_right htasks).symm
      rw [htasks]
      refine hbecomes.shelters quiet hsheltered ?_
      rw [hnew]
      exact (World.risk_of_batch _ (by simpa [hafter] using hlt) _
        (taken (.run task) scene.queue).batch).2
    · cases hfault
  refine ⟨Scene.after (.run task) scene.queue (rest.filterMap (Work.part index)), ?_,
    shows_turn (by simp [hafter, hlt]) (by simp [hafter]) hshelter hcalm⟩
  have hdue := h.due
  obtain ⟨queue, due⟩ := scene
  rw [Configuration.due, hagenda, List.filterMap_cons] at hdue
  cases task with
  | call operation =>
      have hrest : rest.filterMap (Work.part index) = due := hdue
      rw [hrest]
      exact .called operation (hrest ▸ hcalm)
  | _ =>
      simp only [Work.part, ↓reduceIte] at hdue
      rw [← hdue]
      exact .ran _ (by simp) hcalm

/-- Work that is not a task of the queue brings about none for it, and leaves its state alone. -/
theorem Becomes.foreign {world changed : World} {work : Work ι} {tasks : List (Work ι)}
    (hbecomes : Becomes surroundings world work changed tasks)
    (hforeign : ∀ task, work ≠ .queue index task) :
    (∀ w ∈ tasks, w.part index = none) ∧ World.Spares index world changed := by
  cases hbecomes with
  | called call around =>
      exact ⟨World.part_of_map fun move _ => Work.part_move move, .refl index world⟩
  | acted instruction around =>
      exact ⟨World.part_of_map fun move _ => Work.part_move move, .refl index world⟩
  | watched instruction => exact ⟨by simp [Work.part], .of_eq rfl rfl⟩
  | ran work =>
      exact ⟨fun _ hmem => (World.brings_of_run hmem).part hforeign,
        (World.touches_of_run work world).spares hforeign⟩

/-- Work that is not a task of the queue leaves it as it was, but if it is a call that the queue was
about to make, the call is made. -/
theorem Shows.becomes {work : Work ι} {tasks rest : List (Work ι)}
    (h : now.Shows index node scene) (quiet : surroundings.Quiet)
    (hagenda : now.agenda = work :: rest) (hforeign : ∀ task, work ≠ .queue index task)
    (hbecomes : Becomes surroundings now.world work after.world tasks)
    (htasks : after.agenda = tasks ++ rest) :
    (work.part index = none ∧ after.Shows index node scene) ∨
      ∃ call next, work.part index = some call ∧ Scene.Step scene (.made call) next ∧
        after.Shows index node next := by
  obtain ⟨hparts, hspares⟩ := hbecomes.foreign hforeign
  have hprompt : Prompt index after.agenda := by
    have hbefore := h.prompt
    rw [hagenda, Prompt] at hbefore
    rw [htasks]
    split at hbefore
    · rw [hbecomes.nil_of_quiet quiet ‹_›]
      exact hbefore
    · exact prompt_of_calm (calm_append hparts hbefore)
  have hshow : after.Shows index node ⟨scene.queue, rest.filterMap (Work.part index)⟩ := {
    queue := hspares.node _ h.queue
    due := by
      rw [Configuration.due, htasks, List.filterMap_append, List.filterMap_eq_nil_iff.mpr hparts]
      rfl
    sheltered := by
      have hbefore := h.sheltered
      rw [hagenda] at hbefore
      rw [htasks]
      refine hbecomes.shelters quiet hbefore (World.shelters_of_not_keep fun w hmem => ?_)
      simp [isPart, hparts w hmem]
    prompt := hprompt }
  have hdue := h.due
  rw [Configuration.due, hagenda, List.filterMap_cons] at hdue
  obtain ⟨queue, due⟩ := scene
  cases hpart : work.part index with
  | none =>
      rw [hpart] at hdue
      change rest.filterMap (Work.part index) = due at hdue
      exact Or.inl ⟨rfl, hdue ▸ hshow⟩
  | some call =>
      rw [hpart] at hdue
      change call :: rest.filterMap (Work.part index) = due at hdue
      have houter : call.isOwn = false := Work.outer_of_part hpart hforeign
      exact Or.inr ⟨call, _, rfl, hdue ▸ .made call houter, hshow⟩

/-- Of the queue's own tasks only the one that waits for the platform recovers from faults, and that
is a turn. -/
theorem Shows.refused {task : Task} {fault : Fault} {tasks kept : List (Work ι)}
    (h : now.Shows index node scene)
    (hrecover : World.recover fault (.queue index task) now.world = some (after.world, tasks))
    (hagenda : after.agenda = tasks ++ kept)
    (hdue : (Work.queue index task :: kept).filterMap (Work.part index) = scene.due)
    (hcalm : Calm index kept)
    (hkept : after.world.Shelters (isPart index) false tasks →
      after.world.Shelters (isPart index) false (tasks ++ kept)) :
    ∃ ref next, task = .resolving ref ∧
      Scene.Step scene (.turn (.refused ref fault) scene.queue) next ∧
      after.Shows index node next := by
  obtain ⟨ref, rfl, hqueue, rfl⟩ := recover_queue h.queue hrecover
  have hlt : index < after.world.queues.length := (List.getElem?_eq_some_iff.mp hqueue).1
  have hshelter : after.world.Shelters (isPart index) false after.agenda := by
    rw [hagenda]
    apply hkept
    apply (World.risk_of_batch _ _ _ (taken (.refused ref fault) scene.queue).batch).2
    exact hlt
  have hshows := @shows_turn ι σ after index node _ _ _ hqueue hagenda hshelter hcalm
  refine ⟨ref, _, rfl, ?_, hshows⟩
  obtain ⟨queue, due⟩ := scene
  simp only [List.filterMap_cons, Work.part, ↓reduceIte] at hdue
  rw [← hdue]
  exact .refused ref fault hcalm

/-- What others do about a fault is no concern of the queue. -/
theorem Shows.recovered {work : Work ι} {fault : Fault} {tasks kept : List (Work ι)}
    (h : now.Shows index node scene) (hforeign : ∀ task, work ≠ .queue index task)
    (hrecover : World.recover fault work now.world = some (after.world, tasks))
    (hagenda : after.agenda = tasks ++ kept)
    (hdue : kept.filterMap (Work.part index) = scene.due) (hcalm : Calm index kept)
    (hkept : after.world.Shelters (isPart index) false tasks →
      after.world.Shelters (isPart index) false (tasks ++ kept)) :
    after.Shows index node scene := by
  have hparts : ∀ work ∈ tasks, work.part index = none :=
    fun _ hmem => (World.brings_of_recover hrecover hmem).part hforeign
  constructor
  · exact ((World.touches_of_recover hrecover).spares hforeign).node _ h.queue
  · rw [Configuration.due, hagenda, List.filterMap_append, List.filterMap_eq_nil_iff.mpr hparts]
    exact hdue
  · rw [hagenda]
    apply hkept
    apply World.shelters_of_not_keep
    intro w hmem
    simp [isPart, hparts w hmem]
  · rw [hagenda]
    exact prompt_of_calm (calm_append hparts hcalm)

/-- A fault that comes up takes nothing of the queue off the agenda. If it reaches a task of the
queue, that is a turn. -/
theorem Shows.raise {fault : Fault} {rest : List (Work ι)} (h : now.Shows index node scene)
    (hagenda : now.agenda = .raise fault :: rest)
    (hunwind : (after.world, after.agenda) = now.world.unwind fault rest) :
    ((∀ ref, World.handler? fault rest now.world ≠ some (.queue index (.resolving ref))) ∧
        after.Shows index node scene) ∨
      ∃ ref next, World.handler? fault rest now.world = some (.queue index (.resolving ref)) ∧
        Scene.Step scene (.turn (.refused ref fault) scene.queue) next ∧
        after.Shows index node next := by
  have hcalm : Calm index rest := by
    have hprompt := h.prompt
    rw [hagenda] at hprompt
    exact hprompt
  have hdue : rest.filterMap (Work.part index) = scene.due := by
    have hdue := h.due
    rw [Configuration.due, hagenda, List.filterMap_cons] at hdue
    exact hdue
  have hsheltered := h.sheltered
  rw [hagenda] at hsheltered
  rcases World.unwind_shelters hsheltered with
    ⟨dropped, work, kept, world, tasks, rfl, hdropped, hcatches, hrecover, heq, hkept⟩ |
    ⟨hlost, heq⟩
  · rw [heq] at hunwind
    obtain ⟨hworld, hafter⟩ := Prod.mk.inj hunwind
    subst hworld
    have hhandler : World.handler? fault (dropped ++ work :: kept) now.world = some work :=
      World.handler?_eq_some (fun w hmem => (hdropped w hmem).2) hrecover
    -- Nothing that is dropped on the way is the queue's.
    have hnone : dropped.filterMap (Work.part index) = [] := by
      apply List.filterMap_eq_nil_iff.mpr
      intro w hmem
      simpa [isPart] using (hdropped w hmem).1
    rw [List.filterMap_append, hnone, List.nil_append] at hdue
    have hcalm' : Calm index kept := by
      intro effect hmem
      obtain ⟨w, hw, hpart⟩ := List.mem_filterMap.mp hmem
      apply hcalm effect
      exact List.mem_filterMap.mpr ⟨w, List.mem_append_right _ (List.mem_cons_of_mem _ hw), hpart⟩
    by_cases hown : ∃ task, work = .queue index task
    · obtain ⟨task, rfl⟩ := hown
      obtain ⟨ref, next, rfl, hnext, hshows⟩ := h.refused hrecover hafter hdue hcalm' hkept
      exact Or.inr ⟨ref, next, hhandler, hnext, hshows⟩
    · have hforeign : ∀ task, work ≠ .queue index task := fun task h => hown ⟨task, h⟩
      -- A call that the queue is about to make is sheltered, so no fault reaches it.
      have hpart : work.part index = none := by
        cases hpart : work.part index with
        | none => rfl
        | some call =>
            have hstops := hcatches (by simp [isPart, hpart])
            exact hpart.symm.trans (Work.part_of_catches hstops hforeign)
      rw [List.filterMap_cons, hpart] at hdue
      refine Or.inl ⟨fun ref h => ?_, h.recovered hforeign hrecover hafter hdue hcalm' hkept⟩
      exact hforeign _ (Option.some.inj (hhandler.symm.trans h))
  · rw [heq] at hunwind
    obtain ⟨hworld, hafter⟩ := Prod.mk.inj hunwind
    have hnone : ∀ work ∈ rest, work.part index = none := by
      intro work hmem
      simpa [isPart] using (hlost work hmem).1
    rw [List.filterMap_eq_nil_iff.mpr hnone] at hdue
    refine Or.inl ⟨fun ref h => ?_, ?_, ?_, ?_, ?_⟩
    · rw [World.handler?_eq_none fun work hmem => (hlost work hmem).2] at h
      cases h
    · rw [hworld]
      exact h.queue
    · rw [Configuration.due, hafter, ← hdue]
      rfl
    · rw [hafter]
      trivial
    · rw [hafter]
      trivial

/-- Work of others in front is at most a call that the queue makes. -/
theorem happening_of_foreign {work : Work ι} {rest : List (Work ι)}
    (hqueue : now.world.queues[index]? = some node) (hagenda : now.agenda = work :: rest)
    (hforeign : ∀ task, work ≠ .queue index task) (hraise : ∀ fault, work ≠ .raise fault) :
    now.happening index = (work.part index).map .made := by
  cases work with
  | queue place task =>
      have hother : place ≠ index := fun h => hforeign task (by rw [h])
      simp [happening, hqueue, hagenda, hother, Work.part_queue_other hother]
  | raise fault => exact absurd rfl (hraise fault)
  | _ => simp [happening, hqueue, hagenda]

/-- A fault that others recover from is no concern of the queue. -/
theorem happening_of_recovered {fault : Fault} {task : Work ι} {rest : List (Work ι)}
    (hqueue : now.world.queues[index]? = some node) (hagenda : now.agenda = .raise fault :: rest)
    (hhandler : World.handler? fault rest now.world = some task)
    (hforeign : ∀ other, task ≠ .queue index other) : now.happening index = none := by
  simp only [happening, hqueue, hagenda, hhandler]
  split
  · rename_i place ref heq
    obtain rfl := Option.some.inj heq
    exact if_neg fun hplace => hforeign (.resolving ref) (by rw [hplace])
  · rfl

/-- One step of the world is no concern of the queue, or one happening to it. -/
theorem Shows.step (h : now.Shows index node scene) (quiet : surroundings.Quiet)
    (hstep : now.step surroundings = some after) :
    (now.happening index = none ∧ after.Shows index node scene) ∨
      ∃ happening next, now.happening index = some happening ∧ Scene.Step scene happening next ∧
        after.Shows index node next := by
  have hqueue := h.queue
  obtain ⟨work, rest, hagenda, hcases⟩ := step_cases hstep
  rcases hcases with ⟨tasks, hbecomes, htasks⟩ | ⟨fault, rfl, hunwind⟩
  · by_cases hown : ∃ task, work = .queue index task
    · obtain ⟨task, rfl⟩ := hown
      obtain ⟨next, hnext, hshows⟩ := h.turn quiet hagenda hstep
      exact Or.inr ⟨_, next, by simp [happening, hqueue, hagenda], hnext, hshows⟩
    · have hforeign : ∀ task, work ≠ .queue index task := fun task h => hown ⟨task, h⟩
      have hhappening := happening_of_foreign hqueue hagenda hforeign hbecomes.ne_raise
      rcases h.becomes quiet hagenda hforeign hbecomes htasks with
        ⟨hpart, hshows⟩ | ⟨call, next, hpart, hnext, hshows⟩
      · exact Or.inl ⟨by rw [hhappening, hpart]; rfl, hshows⟩
      · exact Or.inr ⟨_, next, by rw [hhappening, hpart]; rfl, hnext, hshows⟩
  · rcases h.raise hagenda hunwind with ⟨hnot, hshows⟩ | ⟨ref, next, hhandler, hnext, hshows⟩
    · refine Or.inl ⟨?_, hshows⟩
      simp only [happening, hqueue, hagenda]
      split
      · split
        · rename_i ref hhandler hplace
          exact absurd (hplace ▸ hhandler) (hnot ref)
        · rfl
      · rfl
    · exact Or.inr ⟨_, next, by simp [happening, hqueue, hagenda, hhandler], hnext, hshows⟩

/-- A turn is a task of the queue, or a fault that reaches the task that waits for the platform. -/
theorem happening_turn {turn : Turn} {queue : ResolveQueue}
    (h : now.happening index = some (.turn turn queue)) :
    ∃ node, now.world.queues[index]? = some node ∧ node.core = queue ∧
      ((∃ task rest, now.agenda = .queue index task :: rest ∧ turn = .run task) ∨
        ∃ fault rest ref, now.agenda = .raise fault :: rest ∧
          World.handler? fault rest now.world = some (.queue index (.resolving ref)) ∧
          turn = .refused ref fault) := by
  unfold happening at h
  split at h
  · rename_i found place task rest hqueue hagenda
    split at h
    · rename_i hplace
      cases h
      exact ⟨found, hqueue, rfl, Or.inl ⟨task, rest, hplace ▸ hagenda, rfl⟩⟩
    · cases h
  · rename_i found fault rest hqueue hagenda
    split at h
    · rename_i place ref hhandler
      split at h
      · rename_i hplace
        cases h
        exact ⟨found, hqueue, rfl, Or.inr ⟨fault, rest, ref, hagenda, hplace ▸ hhandler, rfl⟩⟩
      · cases h
    · cases h
  · rename_i work rest _ _ _ _
    cases hpart : work.part index with
    | none => simp [hpart] at h
    | some call => simp [hpart] at h
  · cases h

theorem history_append (past : List (Configuration ι σ)) (now : Configuration ι σ) :
    history index (past ++ [now]) = history index past ++ (now.happening index).toList := by
  rw [history, List.filterMap_append]
  cases hhappening : now.happening index <;> simp [history, hhappening]

/-- On every course, whatever else goes on, a queue runs through scenes by what happens to it. -/
theorem Shows.run {start : Configuration ι σ} {past : List (Configuration ι σ)}
    (h : start.Shows index node scene) (quiet : surroundings.Quiet)
    (course : Course surroundings start past now) :
    ∃ next, Scene.Run scene (history index past) next ∧ now.Shows index node next := by
  induction course with
  | start => exact ⟨scene, .start, h⟩
  | step course step ih =>
      obtain ⟨middle, hrun, hshows⟩ := ih
      rw [history_append]
      rcases hshows.step quiet step with ⟨hnone, hafter⟩ | ⟨happening, next, hsome, hnext, hafter⟩
      · rw [hnone, Option.toList_none, List.append_nil]
        exact ⟨middle, hrun, hafter⟩
      · rw [hsome]
        exact ⟨next, hrun.step hnext, hafter⟩

theorem Course.shows {start : Configuration ι σ} {past : List (Configuration ι σ)}
    (quiet : surroundings.Quiet) (fresh : start.Fresh index node)
    (course : Course surroundings start past now) :
    ∃ scene, Scene.Run (Scene.fresh node.core.deduplicate node.core.retryDelay)
      (history index past) scene ∧ now.Shows index node scene :=
  fresh.shows.run quiet course

/-- A new queue with nothing around it but an empty registry and a platform outside, a script for
that platform, and what is to be asked of the queue. -/
def alone (deduplicate : Bool) (retryDelay : Double) (script : List (List (Move ι)))
    (operations : List ResolveQueue.Operation) : Configuration ι (List (List (Move ι))) where
  world := {
    registries := [{}]
    queues := [{ platform := 0, registry := 0, core := { deduplicate, retryDelay } }]
    platforms := [.outside] }
  around := script
  agenda := operations.map fun operation => .queue 0 (.call operation)

theorem alone_fresh (deduplicate : Bool) (retryDelay : Double) (script : List (List (Move ι)))
    (operations : List ResolveQueue.Operation) :
    (alone deduplicate retryDelay script operations).Fresh 0
      { platform := 0, registry := 0, core := { deduplicate, retryDelay } } where
  found := rfl
  core := rfl
  idle := World.part_of_map fun _ _ => rfl

end Configuration

end ServiceDiscovery
