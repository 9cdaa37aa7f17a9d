import ServiceDiscovery.Proofs.Machine.Course
import ServiceDiscovery.Proofs.ResolveQueue.Turn

/-!
Where faults stop. A registry that delivers and a queue that asks its platform recover from every
fault, and the calls of registries and queues themselves raise none. So walking down an agenda, a
fault may be on its way behind work that could raise one, until there is a task that stops it. Work
that no fault can be on its way to is sheltered: it is never taken off the agenda, however the work
in front of it goes on.
-/

namespace ServiceDiscovery

variable {ι σ : Type}

/-- Log lines and timers are taken without a word: nobody calls back because of them or fails. -/
structure Surroundings.Quiet (surroundings : Surroundings ι σ) : Prop where
  log : ∀ record world around, (surroundings.answer (.log record) world around).2 = []
  startTimer : ∀ queue timer delay world around,
    (surroundings.answer (.startTimer queue timer delay) world around).2 = []
  cancelTimer : ∀ queue timer world around,
    (surroundings.answer (.cancelTimer queue timer) world around).2 = []

/-- Surroundings that meet each resolve with the next moves of a script, and all else with none. -/
def Surroundings.scripted : Surroundings ι (List (List (Move ι))) where
  act _ _ script := (script, [])
  answer
    | .request _ (.resolve _) _, _, script => (script.tail, script.headD [])
    | _, _, script => (script, [])

theorem Surroundings.scripted_quiet : (scripted (ι := ι)).Quiet where
  log _ _ _ := rfl
  startTimer _ _ _ _ _ := rfl
  cancelTimer _ _ _ _ := rfl

/-- Surroundings that take log lines and timers without a word, and meet each other call with the
next moves of a script. -/
def Surroundings.staged : Surroundings ι (List (List (Move ι))) where
  act _ _ script := (script, [])
  answer
    | .log _, _, script | .startTimer _ _ _, _, script | .cancelTimer _ _, _, script => (script, [])
    | _, _, script => (script.tail, script.headD [])

theorem Surroundings.staged_quiet : (staged (ι := ι)).Quiet where
  log _ _ _ := rfl
  startTimer _ _ _ _ _ := rfl
  cancelTimer _ _ _ _ := rfl

namespace Work

/-- Is the work a call that nobody answers? -/
def isQuiet : Work ι → Bool
  | .call (.log _) | .call (.startTimer _ _ _) | .call (.cancelTimer _ _) => true
  | _ => false

/-- Is the work one that lets no fault out? -/
def isHarmless : Work ι → Bool
  | .registry _ _ | .queue _ _ | .answer _ => true
  | work => work.isQuiet

/-- Does the work stop every fault that reaches it? -/
def catches (world : World) : Work ι → Bool
  | .registry place (.delivering _ _) => place < world.registries.length
  | .queue place (.resolving _) => place < world.queues.length
  | _ => false

/-- Can a fault be on its way behind the work, given whether one can be before it? -/
def risk (world : World) (work : Work ι) (before : Bool) : Bool :=
  !work.catches world && (before || !work.isHarmless)

end Work

namespace World

/-- Can a fault be on its way behind all of this work? -/
def risk (world : World) : Bool → List (Work ι) → Bool
  | before, [] => before
  | before, work :: rest => risk world (work.risk world before) rest

/-- No fault can reach the work that is to be kept, unless that work stops it. -/
def Shelters (world : World) (keep : Work ι → Bool) : Bool → List (Work ι) → Prop
  | _, [] => True
  | before, work :: rest =>
      (keep work → work.catches world = false → before = false) ∧
        Shelters world keep (work.risk world before) rest

variable {world after : World} {keep : Work ι → Bool} {before : Bool}

theorem shelters_append (first second : List (Work ι)) (before : Bool) :
    world.Shelters keep before (first ++ second) ↔
      world.Shelters keep before first ∧
        world.Shelters keep (world.risk before first) second := by
  induction first generalizing before with
  | nil => simp [Shelters, risk]
  | cons work rest ih => simp [Shelters, risk, ih, and_assoc]

theorem catches_mono (h : world.Grows after) {work : Work ι}
    (hcatches : work.catches world = true) : work.catches after = true := by
  unfold Work.catches at hcatches ⊢
  split at hcatches
  · have := h.registries
    simp only [decide_eq_true_eq] at hcatches ⊢
    omega
  · have := h.queues
    simp only [decide_eq_true_eq] at hcatches ⊢
    omega
  · cases hcatches

/-- A world that grows shelters as much as before, and so does less risk. -/
theorem Shelters.mono (h : world.Grows after) {agenda : List (Work ι)} {less : Bool}
    (hless : less = true → before = true) (hshelters : world.Shelters keep before agenda) :
    after.Shelters keep less agenda := by
  induction agenda generalizing before less with
  | nil => trivial
  | cons work rest ih =>
      obtain ⟨hkept, hrest⟩ := hshelters
      constructor
      · intro hkeep hnot
        have hnot' : work.catches world = false := by
          cases hcatches : work.catches world with
          | false => rfl
          | true => exact absurd (catches_mono h hcatches) (by simp [hnot])
        cases less with
        | false => rfl
        | true => exact (hless rfl).symm.trans (hkept hkeep hnot')
      · refine ih ?_ hrest
        unfold Work.risk
        intro hrisk
        simp only [Bool.and_eq_true, Bool.not_eq_true', Bool.or_eq_true] at hrisk ⊢
        refine ⟨?_, hrisk.2.imp_left hless⟩
        cases hcatches : work.catches world with
        | false => rfl
        | true => exact absurd (catches_mono h hcatches) (by simp [hrisk.1])

/-- Where nothing is to be kept, nothing needs shelter. -/
theorem shelters_of_not_keep {agenda : List (Work ι)} (h : ∀ w ∈ agenda, keep w = false) :
    world.Shelters keep before agenda := by
  induction agenda generalizing before with
  | nil => trivial
  | cons first rest ih =>
      refine ⟨fun hkeep => ?_, ih fun w hmem => h w (List.mem_cons_of_mem _ hmem)⟩
      simp [h first List.mem_cons_self] at hkeep

/-- Harmless work puts nothing behind it at risk. -/
theorem risk_of_harmless {agenda : List (Work ι)} (h : ∀ w ∈ agenda, w.isHarmless) :
    world.risk false agenda = false := by
  induction agenda with
  | nil => rfl
  | cons first rest ih =>
      have hfirst : first.risk world false = false := by
        simp [Work.risk, h first List.mem_cons_self]
      simpa [risk, hfirst] using ih fun w hmem => h w (List.mem_cons_of_mem _ hmem)

theorem shelters_of_harmless {agenda : List (Work ι)} (h : ∀ w ∈ agenda, w.isHarmless) :
    world.Shelters keep false agenda := by
  induction agenda with
  | nil => trivial
  | cons first rest ih =>
      have hfirst : first.risk world false = false := by
        simp [Work.risk, h first List.mem_cons_self]
      refine ⟨fun _ _ => rfl, ?_⟩
      rw [hfirst]
      exact ih fun w hmem => h w (List.mem_cons_of_mem _ hmem)

theorem harmless_of_catches {work : Work ι} (h : work.catches world = true) : work.isHarmless := by
  unfold Work.catches at h
  split at h <;> first | rfl | cases h

/-- What stops faults recovers from each of them. -/
theorem recover_of_catches (fault : Fault) {work : Work ι} (h : work.catches world = true) :
    ∃ after tasks, recover fault work world = some (after, tasks) ∧ ∀ w ∈ tasks, w.isHarmless := by
  unfold Work.catches at h
  split at h
  · rename_i place token event
    have hlt : place < world.registries.length := by simpa using h
    have hfound : world.registries[place]? = some world.registries[place] :=
      List.getElem?_eq_getElem hlt
    refine ⟨_, _, by simp only [recover, recoverWith, hfound]; rfl, ?_⟩
    intro w hmem
    simp [ChannelRegistry.Effect.work] at hmem
    rcases hmem with rfl | rfl <;> rfl
  · rename_i place ref
    have hlt : place < world.queues.length := by simpa using h
    have hfound : world.queues[place]? = some world.queues[place] :=
      List.getElem?_eq_getElem hlt
    refine ⟨_, _, by simp only [recover, recoverWith, hfound]; rfl, ?_⟩
    intro w hmem
    simp [ResolveQueue.rejected, ResolveQueue.exception, ResolveQueue.Effect.work] at hmem
    rcases hmem with rfl | rfl <;> rfl
  · cases h

/-- What recovers from nothing stops nothing, so all of it stays at risk and is not to be kept. -/
theorem not_keep_of_lost {fault : Fault} {lost : List (Work ι)}
    (hnone : ∀ work ∈ lost, recover fault work world = none)
    (hsheltered : world.Shelters keep true lost) :
    (∀ work ∈ lost, keep work = false) ∧ world.risk true lost = true := by
  induction lost with
  | nil => exact ⟨by simp, rfl⟩
  | cons work rest ih =>
      have hnot : work.catches world = false := by
        cases hcatches : work.catches world with
        | false => rfl
        | true =>
            obtain ⟨_, _, hsome, _⟩ := recover_of_catches fault hcatches
            rw [hnone work List.mem_cons_self] at hsome
            cases hsome
      have hbehind : work.risk world true = true := by simp [Work.risk, hnot]
      obtain ⟨hkept, hrest⟩ := hsheltered
      rw [hbehind] at hrest
      obtain ⟨hothers, hrisky⟩ := ih (fun w hmem => hnone w (List.mem_cons_of_mem _ hmem)) hrest
      refine ⟨?_, by simpa [risk, hbehind] using hrisky⟩
      intro other hmem
      rcases List.mem_cons.mp hmem with rfl | hother
      · cases hkeep : keep other with
        | false => rfl
        | true => cases hkept hkeep hnot
      · exact hothers other hother

/-- A fault that comes up reaches nothing that is to be kept, but perhaps work that stops it. What
is left is sheltered again. -/
theorem unwind_shelters {fault : Fault} {agenda : List (Work ι)}
    (h : world.Shelters keep false (.raise fault :: agenda)) :
    (∃ dropped task kept after tasks, agenda = dropped ++ task :: kept ∧
      (∀ work ∈ dropped, keep work = false ∧ recover fault work world = none) ∧
      (keep task → task.catches world = true) ∧
      recover fault task world = some (after, tasks) ∧
      unwind fault world agenda = (after, tasks ++ kept) ∧
      (after.Shelters keep false tasks → after.Shelters keep false (tasks ++ kept))) ∨
    ((∀ work ∈ agenda, keep work = false ∧ recover fault work world = none) ∧
      unwind fault world agenda = ({ world with caught := some fault }, [])) := by
  have hrisk : world.Shelters keep true agenda := h.2
  rcases unwind_cases fault world agenda with
    ⟨dropped, task, kept, after, tasks, rfl, hnone, htask, hunwind⟩ | ⟨hnone, hunwind⟩
  · obtain ⟨hdropped, hcaught, hkept⟩ := (shelters_append dropped (task :: kept) true).mp hrisk
    obtain ⟨hothers, hrisky⟩ := not_keep_of_lost hnone hdropped
    rw [hrisky] at hcaught hkept
    have hcatches : keep task → task.catches world = true := by
      intro hkeep
      cases hcatches : task.catches world with
      | true => rfl
      | false => cases hcaught hkeep hcatches
    refine Or.inl ⟨dropped, task, kept, after, tasks, rfl,
      fun work hmem => ⟨hothers work hmem, hnone work hmem⟩, hcatches, htask, hunwind, ?_⟩
    intro htasks
    refine (shelters_append tasks kept false).mpr ⟨htasks, ?_⟩
    cases hstops : task.catches world with
    | true =>
        -- Work that stopped the fault goes on without one, and so does all behind it.
        obtain ⟨_, _, hsome, hharmless⟩ := recover_of_catches fault hstops
        obtain ⟨-, rfl⟩ := Prod.mk.inj (Option.some.inj (htask.symm.trans hsome))
        rw [risk_of_harmless hharmless]
        refine hkept.mono (touches_of_recover htask).grows ?_
        simp
    | false =>
        have hbehind : task.risk world true = true := by simp [Work.risk, hstops]
        rw [hbehind] at hkept
        exact hkept.mono (touches_of_recover htask).grows fun _ => rfl
  · obtain ⟨hothers, _⟩ := not_keep_of_lost hnone hrisk
    exact Or.inr ⟨fun work hmem => ⟨hothers work hmem, hnone work hmem⟩, hunwind⟩

/-- A queue that waits for its platform stops what the platform raises; nothing else that it asks
for can raise anything. -/
theorem risk_of_batch (keep : Work ι → Bool) {place : Nat} (hplace : place < world.queues.length)
    (node : QueueNode) {effects : List ResolveQueue.Effect} (batch : ResolveQueue.Batch effects) :
    world.risk false (effects.map (·.work (ι := ι) place node)) = false ∧
      world.Shelters keep false (effects.map (·.work (ι := ι) place node)) := by
  have hharmless (effects : List ResolveQueue.Effect)
      (h : ∀ effect ∈ effects, (effect.work (ι := ι) place node).isHarmless) :
      world.risk false (effects.map (·.work (ι := ι) place node)) = false ∧
        world.Shelters keep false (effects.map (·.work (ι := ι) place node)) := by
    have hall : ∀ w ∈ effects.map (·.work (ι := ι) place node), w.isHarmless := by
      intro w hmem
      obtain ⟨effect, heffect, rfl⟩ := List.mem_map.mp hmem
      exact h effect heffect
    exact ⟨risk_of_harmless hall, shelters_of_harmless hall⟩
  cases batch with
  | plain hplain =>
      refine hharmless _ fun effect hmem => ?_
      cases effect with
      | resolve ref => cases hplain _ hmem
      | _ => rfl
  | asking message ref =>
      simp [risk, Shelters, Work.risk, Work.catches, Work.isHarmless, Work.isQuiet, hplace,
        ResolveQueue.debug, ResolveQueue.Effect.work]
  | holding message timer =>
      refine hharmless _ fun effect hmem => ?_
      simp only [List.mem_cons, List.not_mem_nil, or_false] at hmem
      rcases hmem with rfl | rfl <;> rfl
  | releasing timer hreport =>
      refine hharmless _ fun effect hmem => ?_
      rcases List.mem_cons.mp hmem with rfl | hmem
      · rfl
      · obtain ⟨message, rfl⟩ := hreport effect hmem
        rfl

/-- A registry stops what the channel raises that it gives an event to. -/
theorem risk_of_registry (place : Nat) (task : ChannelRegistry.Task) (world : World) :
    (world.run (.registry (ι := ι) place task)).1.risk false
      (world.run (.registry (ι := ι) place task)).2 = false := by
  simp only [run, runRegistry]
  split
  · rfl
  · rename_i registry hfound
    have hplace : place < world.registries.length := (List.getElem?_eq_some_iff.mp hfound).1
    cases task with
    | delivering token event => rfl
    | call operation =>
        cases operation with
        | deliver token event =>
            simp only [ChannelRegistry.step]
            split
            · rfl
            · simp [risk, Work.risk, Work.catches, ChannelRegistry.Effect.work, hplace]
        | _ => rfl

end World

namespace Configuration

variable {surroundings : Surroundings ι σ} {world after : World} {work : Work ι}
  {tasks rest : List (Work ι)} {keep : Work ι → Bool}

theorem Becomes.nil_of_quiet (quiet : surroundings.Quiet)
    (becomes : Becomes surroundings world work after tasks) (h : work.isQuiet) : tasks = [] := by
  cases becomes with
  | called call around =>
      unfold Work.isQuiet at h
      split at h
      · cases ‹Work.call _ = _›
        simp [quiet.log]
      · cases ‹Work.call _ = _›
        simp [quiet.startTimer]
      · cases ‹Work.call _ = _›
        simp [quiet.cancelTimer]
      · cases h
  | acted | watched => cases h
  | ran work hinner hown =>
      unfold Work.isQuiet at h
      split at h
      · exact absurd rfl (hown.1 _)
      · exact absurd rfl (hown.1 _)
      · exact absurd rfl (hown.1 _)
      · cases h

/-- What harmless work turns into lets no fault out either. -/
theorem Becomes.risk_of_harmless (quiet : surroundings.Quiet)
    (becomes : Becomes surroundings world work after tasks) (h : work.isHarmless) :
    after.risk false tasks = false := by
  by_cases hquiet : work.isQuiet
  · rw [becomes.nil_of_quiet quiet hquiet]
    rfl
  · cases becomes with
    | called call around => exact absurd h (by simpa [Work.isHarmless] using hquiet)
    | acted | watched => cases h
    | ran work hinner hown =>
        cases work with
        | registry place task => exact World.risk_of_registry place task world
        | queue place task =>
            simp only [World.run, World.runQueue]
            split
            · rfl
            · rename_i node hfound
              have hplace : place < world.queues.length := (List.getElem?_eq_some_iff.mp hfound).1
              exact (World.risk_of_batch (fun _ => false) (by simpa using hplace) node
                (ResolveQueue.taken (.run task) node.core).batch).1
        | answer answer => rfl
        | call call => exact absurd rfl (hown.1 call)
        | _ => cases h

/-- What is sheltered stays sheltered, whatever the work in front turns into. -/
theorem Becomes.shelters (quiet : surroundings.Quiet)
    (becomes : Becomes surroundings world work after tasks)
    (h : world.Shelters keep false (work :: rest)) (htasks : after.Shelters keep false tasks) :
    after.Shelters keep false (tasks ++ rest) := by
  refine (World.shelters_append tasks rest false).mpr ⟨htasks, ?_⟩
  by_cases hharmless : work.isHarmless
  · rw [becomes.risk_of_harmless quiet hharmless]
    exact h.2.mono becomes.grows (by simp)
  · have hnot : work.catches world = false := by
      cases hcatches : work.catches world with
      | false => rfl
      | true => exact absurd (World.harmless_of_catches hcatches) hharmless
    have hrisk : work.risk world false = true := by simp [Work.risk, hnot, hharmless]
    exact h.2.mono becomes.grows fun _ => hrisk

end Configuration

end ServiceDiscovery
