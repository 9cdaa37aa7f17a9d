import ServiceDiscovery.Proofs.ChannelRegistry.Record
import ServiceDiscovery.Proofs.Receiver.Guard

/-!
Tokens of a registry in a running world. Whoever calls the registry, and however deep its calls
nest, it agrees with the record of all that was done with it: tokens are given out once, events go
to the one who holds their token when they are passed, and answers say no more and no less than the
record.
-/

namespace ServiceDiscovery

variable {ι σ : Type}

namespace World

/-- The registry at a place, a new one as long as nobody is there. -/
def registryAt (place : Nat) (world : World) : ChannelRegistry :=
  world.registries[place]?.getD {}

theorem registryAt_eq {place : Nat} {world : World} {registry : ChannelRegistry}
    (found : world.registries[place]? = some registry) : world.registryAt place = registry := by
  rw [registryAt, found, Option.getD_some]

end World

/-- Who is given a token of the registry at a place when a member is built. -/
def Build.joins (place : Nat) (world : World) : Build → List Receiver
  | .registry | .platform _ | .queue _ _ _ | .facade _ (some _) none _ => []
  | .browse _ _ home receiver | .publication _ home receiver =>
      if home = place && place < world.registries.length then [receiver] else []
  | .facade _ _ (some home) _ =>
      if home = place && place < world.registries.length then
        List.replicate 2 (.facade world.facades.length)
      else []
  | .facade _ none none _ =>
      if world.registries.length = place then List.replicate 2 (.facade world.facades.length)
      else []

/-- What goes into the record by a call. -/
def ChannelRegistry.Operation.entries (registry : ChannelRegistry) :
    ChannelRegistry.Operation → List ChannelRegistry.Entry
  | .attach receiver => joining [receiver] registry
  | .detach token => [.detached token]
  | .isAttached _ => []
  | .deliver token event => [.delivered token event]

namespace Work

/-- What goes into the record of the registry at a place when some work is done. -/
def entries (place : Nat) (world : World) : Work ι → List ChannelRegistry.Entry
  | .build made => ChannelRegistry.joining (made.joins place world) (world.registryAt place)
  | .registry index (.call operation) =>
      if index = place && place < world.registries.length then
        operation.entries (world.registryAt place)
      else []
  | _ => []

/-- Who is to be given which event. -/
def heard? : Work ι → Option (Receiver × Event)
  | .facade index (.call (.publish event)) => some (.facade index, event)
  | .call (.publish channel event) => some (.outside channel, event)
  | _ => none

end Work

/-- The receiver is to be given an event. -/
def Receiver.hears (event : Event) : Receiver → Work ι
  | .facade index => .facade index (.call (.publish event))
  | .outside channel => .call (.publish channel event)

namespace Configuration

/-- What goes into the record of the registry at a place in the next step. -/
def entries (place : Nat) (now : Configuration ι σ) : List ChannelRegistry.Entry :=
  match now.agenda with
  | work :: _ => work.entries place now.world
  | [] => []

/-- All that was done with the registry at a place. -/
def record (place : Nat) (past : List (Configuration ι σ)) : List ChannelRegistry.Entry :=
  past.flatMap (entries place)

/-- The task that the registry at a place does in the next step, and what it puts on the agenda. -/
def turn? (place : Nat) (now : Configuration ι σ) :
    Option (ChannelRegistry.Task × List (Work ι)) :=
  match now.agenda with
  | .registry index task :: _ =>
      if index = place then some (task, (now.world.run (.registry index task)).2) else none
  | .raise fault :: rest =>
      match World.handler? fault rest now.world with
      | some (.registry index task) =>
          if index = place then
            (World.recover fault (.registry index task) now.world).map fun after => (task, after.2)
          else none
      | _ => none
  | _ => none

/-- What the registry at a place gives to receivers in the next step. -/
def given (place : Nat) (now : Configuration ι σ) : List ChannelRegistry.Gift :=
  match now.turn? place with
  | some (task, tasks) => tasks.filterMap fun work =>
      work.heard?.map fun heard => { task, receiver := heard.1, event := heard.2 }
  | none => []

/-- All that the registry at a place gave to receivers. -/
def gifts (place : Nat) (past : List (Configuration ι σ)) : List ChannelRegistry.Gift :=
  past.flatMap (given place)

/-- A call is about to return an answer, after log lines at most. -/
def Answers (rest : List (Work ι)) (answer : Answer) (now : Configuration ι σ) : Prop :=
  ∃ lines, now.agenda = lines ++ .answer answer :: rest ∧ ∀ line ∈ lines, line.isLog = true

end Configuration

open ChannelRegistry

namespace World

variable {place : Nat} {world after : World}

theorem attach_registryAt (registry : Nat) (receiver : Receiver) (world : World) :
    (world.attach registry receiver).2.registryAt place =
      if registry = place && place < world.registries.length then
        ((world.registryAt place).attach receiver).2
      else world.registryAt place := by
  cases hfound : world.registries[registry]? with
  | none =>
      have hge := List.getElem?_eq_none_iff.mp hfound
      have hafter : (world.attach registry receiver).2 = world := by simp only [attach, hfound]
      rw [hafter, if_neg]
      simp only [Bool.and_eq_true, decide_eq_true_eq]
      omega
  | some found =>
      have hlt := (List.getElem?_eq_some_iff.mp hfound).1
      rw [attach_eq hfound]
      by_cases hsame : registry = place
      · subst hsame
        rw [registryAt_eq (List.getElem?_set_self hlt), registryAt_eq hfound]
        simp [hlt]
      · simp [registryAt, hsame]

theorem attach_length (registry : Nat) (receiver : Receiver) (world : World) :
    (world.attach registry receiver).2.registries.length = world.registries.length := by
  unfold attach
  split
  · rfl
  · simp

theorem addRegistry_registryAt (world : World) :
    world.addRegistry.2.registryAt place = world.registryAt place := by
  simp only [registryAt, addRegistry, List.getElem?_append]
  split
  · rfl
  · rename_i hge
    rw [List.getElem?_eq_none (Nat.le_of_not_lt hge), List.getElem?_singleton]
    split <;> rfl

/-- Two sessions that are added report to the same receiver. -/
theorem sessions_registryAt (platform queue registry : Nat) (receiver : Receiver) (world : World) :
    ((world.addBrowse platform queue registry receiver).2.addPublication platform registry
        receiver).2.registryAt place =
      if registry = place && place < world.registries.length then
        (world.registryAt place).attachAll (List.replicate 2 receiver)
      else world.registryAt place := by
  have hbrowse : (world.addBrowse platform queue registry receiver).2.registryAt place =
      (world.attach registry receiver).2.registryAt place := rfl
  have hlength : (world.addBrowse platform queue registry receiver).2.registries.length =
      world.registries.length := attach_length registry receiver world
  refine (attach_registryAt registry receiver _).trans ?_
  rw [hbrowse, hlength, attach_registryAt]
  split <;> rfl

theorem addFacade_registryAt {platform index : Nat} {queue registry : Option Nat}
    {callbacks : Callbacks} (h : world.addFacade platform queue registry callbacks =
      .ok (index, after)) : after.registryAt place = (world.registryAt place).attachAll
      ((Build.facade platform queue registry callbacks).joins place world) := by
  cases registry with
  | some registry =>
      cases queue with
      | some queue =>
          cases h
          refine (sessions_registryAt platform queue registry _ world).trans ?_
          simp only [Build.joins]
          split <;> rfl
      | none =>
          cases h
          refine (sessions_registryAt platform _ registry _ _).trans ?_
          simp only [Build.joins]
          split <;> rfl
  | none =>
      cases queue with
      | some queue => cases h
      | none =>
          cases h
          let home := world.registries.length
          let housed := (world.addRegistry.2.addQueue platform home {}).2
          have hlength : housed.registries.length = home + 1 := List.length_append
          have hsame : housed.registryAt place = world.registryAt place :=
            world.addRegistry_registryAt
          have hsessions := @sessions_registryAt place platform world.queues.length home
            (.facade world.facades.length) housed
          rw [hlength, hsame] at hsessions
          refine hsessions.trans ?_
          by_cases hplace : home = place
          · subst hplace
            simp [Build.joins, home]
          · simp [Build.joins, home, hplace, attachAll]

theorem build_registryAt {made : Build} {value : Int} (h : world.build made = .ok (value, after)) :
    after.registryAt place = (world.registryAt place).attachAll (made.joins place world) := by
  cases made with
  | registry =>
      cases h
      exact world.addRegistry_registryAt
  | platform node =>
      cases h
      rfl
  | queue platform registry core =>
      cases h
      rfl
  | browse platform queue registry receiver =>
      cases h
      refine (attach_registryAt registry receiver world).trans ?_
      rw [Build.joins]
      split <;> rfl
  | publication platform registry receiver =>
      cases h
      refine (attach_registryAt registry receiver world).trans ?_
      rw [Build.joins]
      split <;> rfl
  | facade platform queue registry callbacks =>
      cases hadd : world.addFacade platform queue registry callbacks with
      | error fault => simp [build, hadd, Except.map] at h
      | ok made =>
          simp only [build, hadd, Except.map, placed, Except.ok.injEq, Prod.mk.injEq] at h
          exact h.2 ▸ addFacade_registryAt hadd

theorem joins_of_error {made : Build} {fault : Fault} (h : world.build made = .error fault) :
    made.joins place world = [] := by
  cases made with
  | facade platform queue registry callbacks =>
      cases registry with
      | some registry =>
          simp [build, addFacade, Except.map] at h
      | none =>
          cases queue with
          | none => simp [build, addFacade, Except.map] at h
          | some queue => rfl
  | _ => cases h

/-- Who recovers from a fault leaves all registries as they are. -/
theorem registries_of_recover {fault : Fault} {work : Work ι} {tasks : List (Work ι)}
    (h : recover fault work world = some (after, tasks)) :
    after.registries = world.registries := by
  cases work with
  | registry index task =>
      simp only [recover] at h
      obtain ⟨registry, changed, _, hfound, hrecover, rfl, -⟩ := recoverWith_eq_some h
      rw [recover_fst hrecover]
      exact set_of_getElem? hfound
  | build made => cases h
  | _ =>
      have htouches := touches_of_recover h
      cases htouches <;> rfl

/-- What a registry recovers with is given to nobody. -/
theorem unheard_of_recover {fault : Fault} {index : Nat} {task : ChannelRegistry.Task}
    {tasks : List (Work ι)}
    (h : recover fault (.registry index task) world = some (after, tasks)) :
    ∀ work ∈ tasks, work.heard? = none := by
  simp only [recover] at h
  obtain ⟨registry, changed, effects, -, hrecover, -, rfl⟩ := recoverWith_eq_some h
  cases task with
  | call operation => cases hrecover
  | delivering token event =>
      obtain ⟨-, rfl⟩ := Prod.mk.inj (Option.some.inj hrecover)
      simp [ChannelRegistry.Effect.work, Work.heard?]

/-- The registry at a place runs a task. -/
theorem run_registry {registry : ChannelRegistry} (found : world.registries[place]? = some registry)
    (task : ChannelRegistry.Task) : (world.run (ι := ι) (.registry place task)) =
      ({ world with registries := world.registries.set place (registry.step task).1 },
        (registry.step task).2.map (·.work place)) := by
  simp only [run, runRegistry, found]

end World

namespace Configuration

variable {surroundings : Surroundings ι σ} {start now after : Configuration ι σ}
  {past : List (Configuration ι σ)} {place : Nat}

theorem record_append (place : Nat) (past : List (Configuration ι σ)) (now : Configuration ι σ) :
    record place (past ++ [now]) = record place past ++ now.entries place := by
  simp [record]

theorem gifts_append (place : Nat) (past : List (Configuration ι σ)) (now : Configuration ι σ) :
    gifts place (past ++ [now]) = gifts place past ++ now.given place := by
  simp [gifts]

theorem entries_eq {work : Work ι} {rest : List (Work ι)} (hagenda : now.agenda = work :: rest) :
    now.entries place = work.entries place now.world := by
  rw [entries, hagenda]

/-- An event goes into the record when it is passed. -/
theorem agenda_of_delivered {token : Token} {event : Event}
    (h : now.entries place = [.delivered token event]) :
    ∃ rest, now.agenda = .registry place (.call (.deliver token event)) :: rest := by
  unfold entries at h
  split at h
  · rename_i work rest hagenda
    rw [hagenda]
    unfold Work.entries at h
    split at h
    · rename_i made
      cases hjoins : made.joins place now.world <;> simp [hjoins, joining] at h
    · rename_i index operation
      split at h
      · rename_i hplace
        obtain ⟨rfl, -⟩ : index = place ∧ place < now.world.registries.length := by
          simpa using hplace
        cases operation with
        | attach receiver => simp [ChannelRegistry.Operation.entries, joining] at h
        | deliver other given =>
            obtain ⟨rfl, rfl⟩ : other = token ∧ given = event := by
              simpa [ChannelRegistry.Operation.entries] using h
            exact ⟨rest, rfl⟩
        | _ => simp [ChannelRegistry.Operation.entries] at h
      · cases h
    · cases h
  · cases h

/-- A registry gives an event to whom the token leads when it is to deliver it, and nothing at any
other task. -/
theorem given_of_run {registry : ChannelRegistry} {task : ChannelRegistry.Task}
    {rest : List (Work ι)} (found : now.world.registries[place]? = some registry)
    (hagenda : now.agenda = .registry place task :: rest) : now.given place =
      match task with
      | .call (.deliver token event) => registry.gives token event
      | _ => [] := by
  have hturn : now.turn? place =
      some (task, (registry.step task).2.map (ChannelRegistry.Effect.work place)) := by
    simp [turn?, hagenda, World.run_registry found]
  rw [given, hturn]
  cases task with
  | delivering token event => rfl
  | call operation =>
      cases operation with
      | deliver token event =>
          simp only [ChannelRegistry.step, gives]
          cases hreceiver : registry.receiver? token with
          | none => rfl
          | some receiver => cases receiver <;> rfl
      | _ => rfl

/-- Nothing is given in a step that no registry at the place has a part in, or in which it recovers
from a fault. -/
theorem given_of_foreign {work : Work ι} {rest : List (Work ι)}
    (hagenda : now.agenda = work :: rest)
    (hforeign : ∀ task, work = .registry place task → now.world.registries[place]? = none) :
    now.given place = [] := by
  cases work with
  | registry index task =>
      by_cases hplace : index = place
      · subst hplace
        simp [given, turn?, hagenda, World.run, World.runRegistry, hforeign task rfl]
      · simp [given, turn?, hagenda, hplace]
  | raise fault =>
      simp only [given, turn?, hagenda]
      cases hhandler : World.handler? fault rest now.world with
      | none => rfl
      | some source =>
          cases source with
          | registry index task =>
              by_cases hplace : index = place
              · simp only [hplace, if_true]
                cases hrecover : World.recover fault (.registry place task) now.world with
                | none => rfl
                | some result =>
                    apply List.filterMap_eq_nil_iff.mpr
                    intro brought hmem
                    rw [World.unheard_of_recover hrecover brought hmem]
                    rfl
              · simp only [hplace, if_false]
          | _ => rfl
  | _ => simp [given, turn?, hagenda]

/-- The registry at a place agrees with all that was done with it. -/
structure Agrees (place : Nat) (past : List (Configuration ι σ)) (now : Configuration ι σ) :
    Prop where
  keeps : (now.world.registryAt place).Keeps (record place past)
  routes : Routes (record place past) (gifts place past)

/-- A step that does nothing with a registry leaves it as it was. -/
theorem Agrees.idle (agrees : now.Agrees place past)
    (hregistry : after.world.registryAt place = now.world.registryAt place)
    (hentries : now.entries place = []) (hgiven : now.given place = []) :
    after.Agrees place (past ++ [now]) := by
  constructor
  · rw [record_append, hentries, List.append_nil, hregistry]
    exact agrees.keeps
  · rw [record_append, gifts_append, hentries, hgiven, List.append_nil, List.append_nil]
    exact agrees.routes

theorem Agrees.step_build {made : Build} {rest : List (Work ι)} (agrees : now.Agrees place past)
    (hagenda : now.agenda = .build made :: rest) (h : now.step surroundings = some after) :
    after.Agrees place (past ++ [now]) := by
  obtain rfl := Option.some.inj (h.symm.trans (step_inner rfl hagenda))
  have hgiven : now.given place = [] := given_of_foreign hagenda fun task htask => by cases htask
  have hregistry : (now.world.run (ι := ι) (.build made)).1.registryAt place =
      (now.world.registryAt place).attachAll (made.joins place now.world) := by
    simp only [World.run]
    cases hbuild : now.world.build made with
    | error fault => rw [World.joins_of_error hbuild, attachAll]
    | ok built => exact World.build_registryAt hbuild
  constructor
  · rw [record_append, entries_eq hagenda]
    exact hregistry ▸ agrees.keeps.attachAll _
  · rw [record_append, gifts_append, entries_eq hagenda, hgiven, List.append_nil]
    exact agrees.routes.attachAll agrees.keeps _

theorem Agrees.step_call {operation : ChannelRegistry.Operation} {registry : ChannelRegistry}
    {rest : List (Work ι)} (agrees : now.Agrees place past)
    (found : now.world.registries[place]? = some registry)
    (hagenda : now.agenda = .registry place (.call operation) :: rest)
    (h : now.step surroundings = some after) : after.Agrees place (past ++ [now]) := by
  obtain rfl := Option.some.inj (h.symm.trans (step_inner rfl hagenda))
  obtain ⟨keeps, routes⟩ := agrees
  have hlt := (List.getElem?_eq_some_iff.mp found).1
  have hgiven := given_of_run found hagenda
  have hentries : now.entries place = operation.entries registry := by
    simp [entries_eq hagenda, Work.entries, hlt, World.registryAt_eq found]
  have hregistry : (now.world.run (ι := ι) (.registry place (.call operation))).1.registryAt place =
      (registry.step (.call operation)).1 := by
    rw [World.run_registry found]
    exact World.registryAt_eq (List.getElem?_set_self hlt)
  rw [World.registryAt_eq found] at keeps
  suffices hboth : (registry.step (.call operation)).1.Keeps
        (record place past ++ operation.entries registry) ∧
      Routes (record place past ++ operation.entries registry)
        (gifts place past ++ now.given place) by
    constructor
    · rw [record_append, hentries, hregistry]
      exact hboth.1
    · rw [record_append, gifts_append, hentries]
      exact hboth.2
  rw [hgiven]
  cases operation with
  | attach receiver =>
      rw [List.append_nil]
      exact ⟨keeps.attach receiver, routes.attach keeps receiver⟩
  | detach token =>
      rw [List.append_nil]
      exact ⟨keeps.detach token, routes.detach token⟩
  | isAttached token =>
      rw [ChannelRegistry.Operation.entries, List.append_nil, List.append_nil]
      exact ⟨keeps, routes⟩
  | deliver token event =>
      have hsame : (registry.step (.call (.deliver token event))).1 = registry := by
        simp only [ChannelRegistry.step]
        split <;> rfl
      rw [hsame]
      exact ⟨keeps.deliver token event, routes.deliver keeps token event⟩

/-- Registries change when members are built and when they are called, and never otherwise. -/
theorem registryAt_of_step {work : Work ι} {rest : List (Work ι)}
    (hagenda : now.agenda = work :: rest) (h : now.step surroundings = some after)
    (hbuild : ∀ made, work ≠ .build made)
    (hcall : ∀ operation, work = .registry place (.call operation) →
      now.world.registries[place]? = none) :
    after.world.registryAt place = now.world.registryAt place := by
  unfold World.registryAt
  obtain ⟨first, others, hfront, ⟨tasks, hbecomes, -⟩ | ⟨fault, rfl, hunwind⟩⟩ := step_cases h
  · obtain ⟨rfl, rfl⟩ := List.cons.inj (hagenda.symm.trans hfront)
    have htouches := hbecomes.touches
    generalize after.world = world at htouches
    cases htouches with
    | built => exact absurd rfl (hbuild _)
    | @registry index task registry changed found makes =>
        by_cases hplace : index = place
        · subst hplace
          cases task with
          | call operation => cases (hcall operation rfl).symm.trans found
          | delivering token event =>
              have hsame : changed = registry := by
                rcases makes with rfl | ⟨fault, effects, hrecover⟩
                · rfl
                · exact recover_fst hrecover
              rw [hsame, World.set_of_getElem? found]
        · rw [List.getElem?_set_ne hplace]
    | _ => rfl
  · have hworld : after.world = (now.world.unwind fault others).1 := congrArg Prod.fst hunwind
    rw [hworld]
    rcases World.unwind_cases fault now.world others with
      ⟨_, _, _, _, _, _, _, hrecover, heq⟩ | ⟨-, heq⟩
    · rw [heq, World.registries_of_recover hrecover]
    · rw [heq]

/-- Whatever happens, the registry goes on agreeing with what was done with it. -/
theorem Agrees.step (agrees : now.Agrees place past) (h : now.step surroundings = some after) :
    after.Agrees place (past ++ [now]) := by
  obtain ⟨work, rest, hagenda, -⟩ := step_cases h
  cases work with
  | build made => exact agrees.step_build hagenda h
  | registry index task =>
      by_cases hhere : index = place ∧ (now.world.registries[place]?).isSome = true
      · obtain ⟨rfl, hsome⟩ := hhere
        obtain ⟨registry, found⟩ := Option.isSome_iff_exists.mp hsome
        cases task with
        | call operation => exact agrees.step_call found hagenda h
        | delivering token event =>
            apply agrees.idle
            · exact registryAt_of_step hagenda h (by simp) (by simp)
            · exact entries_eq hagenda
            · exact given_of_run found hagenda
      · have hnone (heq : index = place) : now.world.registries[place]? = none := by
          simpa [heq] using hhere
        apply agrees.idle
        · apply registryAt_of_step hagenda h (by simp)
          intro operation heq
          exact hnone (Work.registry.inj heq).1
        · rw [entries_eq hagenda]
          cases task with
          | delivering token event => rfl
          | call operation =>
              rw [Work.entries, if_neg]
              simp only [Bool.and_eq_true, decide_eq_true_eq]
              rintro ⟨heq, hlt⟩
              exact absurd (hnone heq) (by simp [hlt])
        · apply given_of_foreign hagenda
          intro other heq
          exact hnone (Work.registry.inj heq).1
  | _ =>
      apply agrees.idle
      · exact registryAt_of_step hagenda h (by simp) (by simp)
      · exact entries_eq hagenda
      · exact given_of_foreign hagenda (by simp)

theorem Course.agrees (course : Course surroundings start past now)
    (fresh : start.world.registryAt place = {}) : now.Agrees place past := by
  induction course with
  | start =>
      refine ⟨?_, .new⟩
      rw [fresh]
      exact .new
  | step _ step ih => exact ih.step step

/-- What a call of the registry at a place leads to if this is what was done with it before. -/
def Responds (surroundings : Surroundings ι σ) (place : Nat) (record : List Entry)
    (rest : List (Work ι)) (now after : Configuration ι σ) : ChannelRegistry.Operation → Prop
  | .attach receiver => ∃ token, (∀ tenant ∈ tenants record, tenant.1 ≠ token) ∧
      now.entries place = [.attached token receiver] ∧
      after.Answers rest (.number token)
  | .detach token => now.entries place = [.detached token] ∧ after.agenda = rest
  | .isAttached token => now.entries place = [] ∧
      after.Answers rest (.truth (isHeld token record))
  | .deliver token event => now.entries place = [.delivered token event] ∧
      (isHeld token record = false → after.Answers rest (.truth false)) ∧
      ∀ receiver, (token, receiver) ∈ tenants record → isHeld token record = true →
        let guard := .registry place (.delivering token event)
        after.agenda = receiver.hears event :: guard :: rest ∧
        ∀ fault since ended, Ends surroundings (guard :: rest) fault after since ended →
          ∃ final, ended.step surroundings = some final ∧
            final.Answers rest (.truth fault.isNone)

theorem responds {operation : ChannelRegistry.Operation} {registry : ChannelRegistry}
    {rest : List (Work ι)} (agrees : now.Agrees place past)
    (found : now.world.registries[place]? = some registry)
    (hagenda : now.agenda = .registry place (.call operation) :: rest)
    (h : now.step surroundings = some after) :
    Responds surroundings place (record place past) rest now after operation := by
  obtain rfl := Option.some.inj (h.symm.trans (step_inner rfl hagenda))
  have keeps := agrees.keeps
  rw [World.registryAt_eq found] at keeps
  have hlt := (List.getElem?_eq_some_iff.mp found).1
  have hentries : now.entries place = operation.entries registry := by
    simp [entries_eq hagenda, Work.entries, hlt, World.registryAt_eq found]
  have hrun := @World.run_registry ι place now.world registry found (.call operation)
  rw [hrun]
  cases operation with
  | attach receiver => exact ⟨_, keeps.fresh, hentries, [], rfl, by simp⟩
  | detach token => exact ⟨hentries, rfl⟩
  | isAttached token =>
      refine ⟨hentries, [], ?_, by simp⟩
      rw [← keeps.isAttached]
      rfl
  | deliver token event =>
      refine ⟨hentries, ?_, ?_⟩
      · intro unheld
        have hreceiver := keeps.receiver?_of_unheld unheld
        refine ⟨[.call (.log (dropped token event))], ?_, ?_⟩
        · simp [ChannelRegistry.step, hreceiver, ChannelRegistry.Effect.work]
        · simp [Work.isLog, Call.isLog]
      · intro receiver tenant held guard
        have hreceiver := keeps.receiver?_of_held tenant held
        have hguards : guard.guards (now.world.run (ι := ι) (.registry place
            (.call (.deliver token event)))).1 = true := by
          simp [guard, hrun, Work.guards, hlt]
        constructor
        · simp only [ChannelRegistry.step, hreceiver]
          cases receiver <;> rfl
        · intro fault since ended ends
          rw [← hrun] at ends
          obtain ⟨lines, hstep, hlines⟩ := ends.left.resumes (ends.course.guards hguards)
          exact ⟨_, hstep, lines, rfl, hlines⟩

/-- In every run, with whatever calls within calls, a registry gives out no token twice. Whoever was
given a token is given the events that were passed with it from then until it was detached, each
once and in the order of the calls, and nobody is given anything else. Its size, whether a token is
attached, and the answer of each call agree with what was done so far: an event counts as delivered
if the token was held when it was passed and the receiver did not fail on it. -/
theorem tokens_route_events (fresh : start.world.registryAt place = {})
    (course : Course surroundings start past now) :
    let record := record place past
    ((tenants record).map (·.1)).Nodup ∧
    (∀ tenant ∈ tenants record,
      (gifts place past).filter (·.under tenant.1) =
        (between tenant.1 record).map (Gift.of tenant)) ∧
    (∀ gift ∈ gifts place past, ∃ tenant ∈ tenants record, gift = Gift.of tenant gift.event) ∧
    ∀ registry, now.world.registries[place]? = some registry →
      registry.size = ((tenants record).filter fun tenant => isHeld tenant.1 record).length ∧
      ∀ operation rest after, now.agenda = .registry place (.call operation) :: rest →
        now.step surroundings = some after →
        Responds surroundings place record rest now after operation := by
  have agrees := course.agrees fresh
  refine ⟨agrees.keeps.nodup, agrees.routes.theirs, agrees.routes.others, ?_⟩
  intro registry found
  have keeps := agrees.keeps
  rw [World.registryAt_eq found] at keeps
  refine ⟨keeps.size, ?_⟩
  intro operation rest after hagenda h
  exact responds agrees found hagenda h

/-- A facade founds the registry, and one channel is attached under two tokens. When it hears of the
first event, it has an event passed with its other token, detaches itself, has one passed in vain,
attaches another channel, and fails. -/
theorem tokens_route_events_of_nested :
    let removed (name : Text.Points) : Event := .serviceRemoved name
    let deliver (token : Token) (name : Text.Points) : Operation :=
      .registry 0 (.deliver token (removed name))
    let start : Configuration Empty (List (List (Move Empty))) := {
      world := { platforms := [.outside] }
      around := [[.perform (deliver 4 "Scanner"),
          .perform (.registry 0 (.detach 3)),
          .perform (deliver 3 "Plotter"),
          .perform (.registry 0 (.attach (.outside 8))),
          .raise (.outside .value "bad channel")],
        [.perform (.registry 0 (.isAttached 3))]]
      agenda := [.build (.facade 0 none none {}),
        .registry 0 (.call (.attach (.outside 7))),
        .registry 0 (.call (.attach (.outside 7))),
        (deliver 3 "Printer").work,
        (deliver 1 "Desk").work,
        (deliver 5 "Lamp").work] }
    let now := run .staged 27 start
    let past := trail .staged 27 start
    tenants (record 0 past) = [(1, .facade 0), (2, .facade 0), (3, .outside 7), (4, .outside 7),
        (5, .outside 8)] ∧
      (gifts 0 past).map (fun gift => (gift.receiver, gift.event)) =
        [(.outside 7, removed "Printer"), (.outside 7, removed "Scanner"),
          (.facade 0, removed "Desk")] ∧
      between 3 (record 0 past) = [removed "Printer"] ∧
      (gifts 0 past).filter (·.under 3) =
        (between 3 (record 0 past)).map (Gift.of (3, .outside 7)) ∧
      ∃ registry rest, now.world.registries[0]? = some registry ∧ registry.size = 4 ∧
        now.agenda = .registry 0 (.call (.deliver 5 (removed "Lamp"))) :: rest ∧
        ∀ after, now.step .staged = some after →
          Responds .staged 0 (record 0 past) rest now after (.deliver 5 (removed "Lamp")) := by
  intro removed deliver start now past
  have hcourse : Course .staged start past now := course_run ..
  obtain ⟨-, theirs, -, hcalls⟩ := @tokens_route_events _ _ _ start now past 0 rfl hcourse
  have htenants : tenants (record 0 past) = [(1, .facade 0), (2, .facade 0), (3, .outside 7),
      (4, .outside 7), (5, .outside 8)] := by decide +kernel
  have hsize : now.world.registries[0]?.any (·.size = 4) = true := by decide +kernel
  have hentries : now.entries 0 = [.delivered 5 (removed "Lamp")] := by decide +kernel
  refine ⟨htenants, by decide +kernel, by decide +kernel, ?_, ?_⟩
  · exact theirs (3, .outside 7) (by rw [htenants]; decide)
  · obtain ⟨registry, found, hfour⟩ := (Option.any_eq_true ..).mp hsize
    obtain ⟨rest, hagenda⟩ := agenda_of_delivered hentries
    refine ⟨registry, rest, found, of_decide_eq_true hfour, hagenda, ?_⟩
    intro after hstep
    exact (hcalls registry found).2 _ rest after hagenda hstep

end Configuration

end ServiceDiscovery
