import ServiceDiscovery.Proofs.Machine.Origin
import ServiceDiscovery.Proofs.Machine.Place

/-!
A facade in a running world. It changes by tasks in front only: a callback that fails leaves it as
it is, and no other task of it recovers from a fault.
-/

namespace ServiceDiscovery

variable {ι σ : Type}

theorem Callbacks.count_add (callbacks : Callbacks) (kind other : CallbackKind) :
    (callbacks.add kind).count other = callbacks.count other + if other = kind then 1 else 0 := by
  cases kind <;> cases other <;> rfl

namespace Facade

/-- Callbacks are only ever added. -/
theorem count_le_step (task : Task) (facade : Facade) (kind : CallbackKind) :
    facade.callbacks.count kind ≤ (step task facade).1.callbacks.count kind := by
  have hadd (other : CallbackKind) :
      facade.callbacks.count kind ≤ (facade.callbacks.add other).count kind := by
    rw [Callbacks.count_add]
    exact Nat.le_add_right ..
  cases task with
  | telling | calling | closing => exact Nat.le_refl _
  | call operation =>
      cases operation with
      | register other => exact hadd other
      | publish event =>
          cases event with
          | serviceResolved service =>
              simp only [step, call, receive, serviceResolved]
              split <;> exact Nat.le_refl _
          | serviceRemoved name =>
              simp only [step, call, receive, serviceRemoved]
              split <;> exact Nat.le_refl _
          | _ => exact Nat.le_refl _
      | _ => exact Nat.le_refl _

/-- A facade recovers from a failed callback only, by a log line, and stays as it is. -/
theorem recover_eq_some {task : Task} {fault : Fault} {facade after : Facade}
    {effects : List Effect} (h : recover task fault facade = some (after, effects)) :
    (∃ kind, task = .calling kind) ∧ after = facade ∧ ∃ record, effects = [.log record] := by
  cases task with
  | calling kind =>
      cases h
      exact ⟨⟨kind, rfl⟩, rfl, _, rfl⟩
  | call operation => cases h
  | telling kind argument number => cases h
  | closing => cases h

/-- All that can be in telling the callback that is next: it runs, it is protected, and those after
it are to be told. -/
theorem mem_tell {kind : CallbackKind} {argument : CallbackArgument} {number : Nat}
    {facade : Facade} {effect : Effect} (h : effect ∈ facade.tell kind argument number) :
    number < facade.callbacks.count kind ∧ (effect = .callback kind number argument ∨
      effect = .own (.calling kind) ∨ effect = .own (.telling kind argument (number + 1))) := by
  unfold tell at h
  split at h
  · rename_i hnumber
    exact ⟨hnumber, by simpa using h⟩
  · cases h

/-- A facade has its callbacks told by the effect, or writes a line. -/
def Effect.isTelling : Effect → Bool
  | .own (.telling _ _ _) | .log _ => true
  | _ => false

theorem emit_telling (kind : CallbackKind) (argument : CallbackArgument) :
    ∀ effect ∈ emit kind argument, effect.isTelling = true := by
  intro effect hmem
  rw [List.mem_singleton.mp hmem]
  rfl

/-- A facade that hears of an event does nothing but have its callbacks told. -/
theorem receive_telling (event : Event) (facade : Facade) :
    ∀ effect ∈ (receive event facade).2, effect.isTelling = true := by
  have htold (record : Log.Record) (kind : CallbackKind) (argument : CallbackArgument) :
      ∀ effect ∈ .log record :: emit kind argument, effect.isTelling = true := by
    intro effect hmem
    rcases List.mem_cons.mp hmem with rfl | hcalled
    · rfl
    · exact emit_telling kind argument effect hcalled
  have hmaybe (b : Bool) (kind : CallbackKind) (argument : CallbackArgument) :
      ∀ effect ∈ (if b then emit kind argument else []), effect.isTelling = true := by
    cases b with
    | true => exact emit_telling kind argument
    | false => simp
  cases event with
  | serviceResolved service =>
      simp only [receive, serviceResolved]
      split <;> exact htold _ _ _
  | serviceRemoved name =>
      simp only [receive, serviceRemoved]
      split
      · simp
      · exact htold _ _ _
  | browserState running error => exact hmaybe error _ _
  | publisherState running error =>
      intro effect hmem
      rcases List.mem_append.mp hmem with hpublished | herror
      · exact hmaybe running _ _ effect hpublished
      · exact hmaybe error _ _ effect herror
  | serviceRenamed name => exact emit_telling _ _
  | unknown => simp [receive]

section

variable {task : Task} {facade : Facade} {kind : CallbackKind} {number : Nat}
  {argument : CallbackArgument}

/-- A facade calls a callback when those of its kind are being told, and at no other time. -/
theorem telling_of_yields (h : Yields step recover task facade (.callback kind number argument)) :
    task = .telling kind argument number := by
  rcases h with hstep | ⟨fault, after, hrecover, hmem⟩
  · cases task with
    | telling other given place =>
        obtain ⟨-, heq | heq | heq⟩ := mem_tell hstep <;> cases heq
        rfl
    | calling kind => cases hstep
    | closing => simp [step, log] at hstep
    | call operation =>
        cases operation with
        | publish event => cases receive_telling event facade _ hstep
        | _ => simp [step, call] at hstep
  · obtain ⟨-, -, record, heffects⟩ := recover_eq_some hrecover
    rw [heffects] at hmem
    cases List.mem_singleton.mp hmem

/-- Callbacks are to be told since the facade hears of an event, or the one before was called. -/
theorem hearing_of_yields
    (h : Yields step recover task facade (.own (.telling kind argument number))) :
    (∃ event, task = .call (.publish event)) ∨
      ∃ before, number = before + 1 ∧ task = .telling kind argument before := by
  rcases h with hstep | ⟨fault, after, hrecover, hmem⟩
  · cases task with
    | telling other given place =>
        obtain ⟨-, heq | heq | heq⟩ := mem_tell hstep <;> cases heq
        exact Or.inr ⟨place, rfl, rfl⟩
    | calling kind => cases hstep
    | closing => simp [step, log] at hstep
    | call operation =>
        cases operation with
        | publish event => exact Or.inl ⟨event, rfl⟩
        | _ => simp [step, call] at hstep
  · obtain ⟨-, -, record, heffects⟩ := recover_eq_some hrecover
    rw [heffects] at hmem
    cases List.mem_singleton.mp hmem

end

end Facade

theorem World.recover_facade {world after : World} {place : Nat} {fault : Fault}
    {task : Facade.Task} {tasks : List (Work ι)}
    (h : recover fault (.facade place task) world = some (after, tasks)) :
    (∃ kind, task = .calling kind) ∧ after.facades[place]? = world.facades[place]? ∧
      ∃ record, tasks = [.call (.log record)] := by
  simp only [recover] at h
  obtain ⟨node, changed, effects, found, hnode, rfl, htasks⟩ := recoverWith_eq_some h
  obtain ⟨result, hrecover, heq⟩ := Option.map_eq_some_iff.mp hnode
  obtain ⟨hcalling, hcore, record, heffects⟩ := Facade.recover_eq_some hrecover
  obtain ⟨hchanged, hresult⟩ := Prod.mk.inj heq
  have hlt : place < world.facades.length := (List.getElem?_eq_some_iff.mp found).1
  have hsame : changed = node := by rw [← hchanged, hcore]
  refine ⟨hcalling, ?_, record, ?_⟩
  · rw [hsame, found]
    exact List.getElem?_set_self hlt
  · rw [htasks, ← hresult, heffects]
    rfl

/-- Only a facade calls its callbacks. -/
theorem Brings.of_callback {world : World} {source : Work ι} {place number : Nat}
    {kind : CallbackKind} {argument : CallbackArgument}
    (h : Brings world source (.call (.callback place kind number argument))) :
    ∃ task node, source = .facade place task ∧ world.facades[place]? = some node ∧
      Yields Facade.step Facade.recover task node.core (.callback kind number argument) := by
  generalize hbrought : Work.call (.callback place kind number argument) = brought at h
  cases h with
  | @facade place task node effect found yields =>
      cases effect with
      | callback kind place argument =>
          cases hbrought
          exact ⟨task, node, rfl, found, yields⟩
      | _ => cases hbrought
  | @registry place task registry effect found yields =>
      cases effect with
      | publish receiver event => cases receiver <;> cases hbrought
      | _ => cases hbrought
  | routed platform request listener =>
      simp only [World.route] at hbrought
      split at hbrought <;> cases hbrought
  | notified listener notice =>
      cases listener with
      | outside label => cases hbrought
      | member place => cases notice <;> cases hbrought
  | @queue place task node effect found yields => cases effect <;> cases hbrought
  | @browse place task node effect found yields => cases effect <;> cases hbrought
  | @publication place task node effect found yields => cases effect <;> cases hbrought
  | @platform place task core effect found yields => cases effect <;> cases hbrought
  | _ => cases hbrought

/-- A callback that is called is registered. -/
theorem Brings.registered {world : World} {source : Work ι} {place number : Nat}
    {kind : CallbackKind} {argument : CallbackArgument} {node : FacadeNode}
    (h : Brings world source (.call (.callback place kind number argument)))
    (found : world.facades[place]? = some node) : number < node.core.callbacks.count kind := by
  obtain ⟨task, other, -, hother, yields⟩ := h.of_callback
  obtain rfl := Option.some.inj (found.symm.trans hother)
  obtain rfl := Facade.telling_of_yields yields
  rcases yields with hstep | ⟨fault, after, hrecover, -⟩
  · exact (Facade.mem_tell hstep).1
  · cases hrecover

/-- Only a facade has its callbacks told. -/
theorem Brings.of_telling {world : World} {source : Work ι} {place number : Nat}
    {kind : CallbackKind} {argument : CallbackArgument}
    (h : Brings world source (.facade place (.telling kind argument number))) :
    ∃ task node, source = .facade place task ∧ world.facades[place]? = some node ∧
      Yields Facade.step Facade.recover task node.core
        (.own (.telling kind argument number)) := by
  generalize hbrought : Work.facade place (.telling kind argument number) = brought at h
  cases h with
  | @facade place task node effect found yields =>
      cases effect with
      | own task =>
          cases hbrought
          exact ⟨_, node, rfl, found, yields⟩
      | _ => cases hbrought
  | @registry place task registry effect found yields =>
      cases effect with
      | publish receiver event => cases receiver <;> cases hbrought
      | _ => cases hbrought
  | routed platform request listener =>
      simp only [World.route] at hbrought
      split at hbrought <;> cases hbrought
  | notified listener notice =>
      cases listener with
      | outside label => cases hbrought
      | member place => cases notice <;> cases hbrought
  | @queue place task node effect found yields => cases effect <;> cases hbrought
  | @browse place task node effect found yields => cases effect <;> cases hbrought
  | @publication place task node effect found yields => cases effect <;> cases hbrought
  | @platform place task core effect found yields => cases effect <;> cases hbrought
  | _ => cases hbrought

namespace Configuration

variable {surroundings : Surroundings ι σ} {start now after : Configuration ι σ}
  {past : List (Configuration ι σ)} {place : Nat} {node : FacadeNode} {rest : List (Work ι)}

theorem step_facade {task : Facade.Task} (found : now.world.facades[place]? = some node)
    (hagenda : now.agenda = .facade place task :: rest) :
    now.step surroundings = some { now with
      world := { now.world with
        facades := now.world.facades.set place
          { node with core := (Facade.step task node.core).1 } }
      agenda := (Facade.step task node.core).2.map (·.work place node) ++ rest } := by
  obtain ⟨world, around, agenda⟩ := now
  obtain rfl : agenda = _ := hagenda
  change world.facades[place]? = _ at found
  simp only [step, World.run, World.runFacade, found]

/-- A facade stays as it is in a step that does no task of it. -/
theorem step_spares_facade (h : now.step surroundings = some after)
    (found : now.world.facades[place]? = some node)
    (hforeign : ∀ task rest, now.agenda ≠ .facade place task :: rest) :
    after.world.facades[place]? = some node := by
  obtain ⟨work, htouches, hwork⟩ := step_touches h
  by_cases hown : ∃ task, work = .facade place task
  · obtain ⟨task, rfl⟩ := hown
    rcases hwork with ⟨rest, hagenda⟩ | ⟨fault, rest, tasks, kept, -, -, hrecover, -⟩
    · exact absurd hagenda (hforeign task rest)
    · rw [(World.recover_facade hrecover).2.1]
      exact found
  · apply htouches.facade_eq found
    intro task heq
    exact hown ⟨task, heq⟩

/-- A facade keeps its callbacks. -/
theorem step_callbacks (h : now.step surroundings = some after)
    (found : now.world.facades[place]? = some node) :
    ∃ later, after.world.facades[place]? = some later ∧
      ∀ kind, node.core.callbacks.count kind ≤ later.core.callbacks.count kind := by
  by_cases hown : ∃ task rest, now.agenda = .facade place task :: rest
  · obtain ⟨task, rest, hagenda⟩ := hown
    have hlt := (List.getElem?_eq_some_iff.mp found).1
    obtain rfl := Option.some.inj (h.symm.trans (step_facade found hagenda))
    exact ⟨_, List.getElem?_set_self hlt, Facade.count_le_step task node.core⟩
  · refine ⟨node, step_spares_facade h found ?_, fun kind => Nat.le_refl _⟩
    exact fun task rest hagenda => hown ⟨task, rest, hagenda⟩

theorem Course.callbacks (course : Course surroundings start past now)
    (found : start.world.facades[place]? = some node) (kind : CallbackKind) :
    ∃ later, now.world.facades[place]? = some later ∧
      node.core.callbacks.count kind ≤ later.core.callbacks.count kind := by
  induction course with
  | start => exact ⟨node, found, Nat.le_refl _⟩
  | step _ step ih =>
      obtain ⟨middle, hmiddle, hmore⟩ := ih
      obtain ⟨later, hlater, hstep⟩ := step_callbacks step hmiddle
      exact ⟨later, hlater, Nat.le_trans hmore (hstep kind)⟩

end Configuration

end ServiceDiscovery
