import ServiceDiscovery.Proofs.Facade.Chronicle
import ServiceDiscovery.Proofs.Facade.Place
import ServiceDiscovery.Proofs.Machine.Shelter

/-!
The cache of a facade and the callbacks that hear of it. The cache changes first and the first
callback of the kind is called right after, with nothing but a log line in between, so nobody sees a
cache that these callbacks have not heard of. Callbacks may do what they like meanwhile, also to
this very cache, may fail, and more of them may be registered at any time: whoever replays what the
first ones heard, in the order in which they were called, has the cache. Those that were registered
later may hear of changes in another order, since the first one may make the next change.
-/

namespace ServiceDiscovery

variable {ι σ : Type}

/-- There is a callback for each way in which the cache can change. -/
structure Callbacks.Attentive (callbacks : Callbacks) : Prop where
  added : 0 < callbacks.added
  updated : 0 < callbacks.updated
  removed : 0 < callbacks.removed

theorem Callbacks.Attentive.mono {callbacks later : Callbacks} (attentive : callbacks.Attentive)
    (more : ∀ kind, callbacks.count kind ≤ later.count kind) : later.Attentive where
  added := attentive.added.trans_le (more .added)
  updated := attentive.updated.trans_le (more .updated)
  removed := attentive.removed.trans_le (more .removed)

namespace Facade

variable {facade : Facade} {change : Change} {log : List Change}

theorem lookup_insertService (service : ResolvedService)
    (services : List (Text.Points × ResolvedService)) (name : Text.Points) :
    (insertService service services).lookup name =
      if name = service.name then some service else services.lookup name := by
  induction services with
  | nil => exact lookup_entry_cons service.name service [] name
  | cons entry rest ih =>
      obtain ⟨owner, known⟩ := entry
      by_cases howner : owner = service.name
      · simp only [insertService, howner, if_true, lookup_entry_cons]
        split <;> rfl
      · simp only [insertService, howner, if_false, lookup_entry_cons, ih]
        by_cases h : name = owner
        · simp [h, howner]
        · simp [h]

theorem mem_insertService {service : ResolvedService}
    {services : List (Text.Points × ResolvedService)} {name : Text.Points}
    (h : name ∈ (insertService service services).map (·.1)) :
    name = service.name ∨ name ∈ services.map (·.1) := by
  induction services with
  | nil => exact Or.inl (List.mem_singleton.mp h)
  | cons entry rest ih =>
      obtain ⟨owner, known⟩ := entry
      by_cases howner : owner = service.name
      · simp only [insertService, howner, if_true, List.map_cons, List.mem_cons] at h ⊢
        exact h.imp_right Or.inr
      · simp only [insertService, howner, if_false, List.map_cons, List.mem_cons] at h ⊢
        rcases h with hfirst | hrest
        · exact Or.inr (Or.inl hfirst)
        · exact (ih hrest).imp_right Or.inr

/-- No name stands twice. -/
theorem nodup_insertService (service : ResolvedService)
    {services : List (Text.Points × ResolvedService)} (h : (services.map (·.1)).Nodup) :
    ((insertService service services).map (·.1)).Nodup := by
  induction services with
  | nil => exact List.nodup_singleton _
  | cons entry rest ih =>
      obtain ⟨owner, known⟩ := entry
      obtain ⟨hfresh, hrest⟩ := List.nodup_cons.mp h
      by_cases howner : owner = service.name
      · simp only [insertService, howner, if_true, List.map_cons]
        exact List.nodup_cons.mpr ⟨howner ▸ hfresh, hrest⟩
      · simp only [insertService, howner, if_false, List.map_cons]
        refine List.nodup_cons.mpr ⟨?_, ih hrest⟩
        intro hmem
        rcases mem_insertService hmem with hsame | hold
        · exact howner hsame
        · exact hfresh hold

/-- The change that the first callback of a kind is to hear of by the task. -/
def Task.change? : Task → Option Change
  | .telling kind (.service service) 0 => some ⟨kind, service⟩
  | _ => none

/-- The change that the first callback of a kind hears of by the effect, or is to hear of. -/
def Effect.change? : Effect → Option Change
  | .callback kind 0 (.service service) => some ⟨kind, service⟩
  | .own task => task.change?
  | _ => none

/-- All that a task can do about the cache. It changes the cache once and has the callbacks told of
that change, after a log line; or else it leaves the cache alone and tells of no change. -/
inductive Caches (facade : Facade) : Facade → List Effect → Prop where
  | kept {after : Facade} {effects : List Effect} (services : after.services = facade.services)
      (hushed : ∀ effect ∈ effects, effect.change? = none) : Caches facade after effects
  | changed {services : List (Text.Points × ResolvedService)} (change : Change)
      (record : Log.Record)
      (follows : change.Follows (facade.service? ·))
      (known : (services.lookup ·) = change.apply (facade.service? ·))
      (distinct : (facade.services.map (·.1)).Nodup → (services.map (·.1)).Nodup) :
      Caches facade { facade with services }
        (.log record :: emit change.kind (.service change.service))

theorem emit_hushed {argument : CallbackArgument} (h : ∀ service, argument ≠ .service service)
    (kind : CallbackKind) : ∀ effect ∈ emit kind argument, effect.change? = none := by
  intro effect hmem
  rw [List.mem_singleton.mp hmem]
  cases argument with
  | service service => exact absurd rfl (h service)
  | _ => rfl

/-- Where the first callback is told of no change, none is told of, whoever is next. -/
theorem tell_hushed {kind : CallbackKind} {argument : CallbackArgument} {number : Nat}
    (untold : (Task.telling kind argument number).change? = none) :
    ∀ effect ∈ facade.tell kind argument number, effect.change? = none := by
  intro effect hmem
  obtain ⟨-, rfl | rfl | rfl⟩ := mem_tell hmem
  · cases number with
    | succ number => rfl
    | zero => cases argument <;> first | rfl | cases untold
  · rfl
  · cases argument <;> rfl

theorem serviceResolved_caches (service : ResolvedService) (facade : Facade) :
    Caches facade (facade.serviceResolved service).1 (facade.serviceResolved service).2 := by
  have hlookup : ((insertService service facade.services).lookup ·) =
      Function.update (facade.service? ·) service.name (some service) := by
    funext name
    rw [lookup_insertService, Function.update_apply]
    rfl
  have hdistinct : (facade.services.map (·.1)).Nodup →
      ((insertService service facade.services).map (·.1)).Nodup := nodup_insertService service
  unfold serviceResolved
  cases hknown : facade.service? service.name with
  | some present =>
      apply Caches.changed ⟨.updated, service⟩ _ _ hlookup hdistinct
      show facade.service? service.name ≠ none
      simp [hknown]
  | none => exact Caches.changed ⟨.added, service⟩ _ hknown hlookup hdistinct

theorem serviceRemoved_caches (name : Text.Points)
    (named : ∀ service, facade.service? name = some service → service.name = name) :
    Caches facade (facade.serviceRemoved name).1 (facade.serviceRemoved name).2 := by
  unfold serviceRemoved
  cases hknown : facade.service? name with
  | none => exact .kept rfl (by simp)
  | some service =>
      have hname : service.name = name := named service hknown
      have hlookup : ((facade.services.filter (·.1 ≠ name)).lookup ·) =
          Function.update (facade.service? ·) service.name none := by
        funext other
        rw [lookup_filter_ne, hname, Function.update_apply]
        rfl
      have hdistinct : (facade.services.map (·.1)).Nodup →
          ((facade.services.filter (·.1 ≠ name)).map (·.1)).Nodup := by
        intro h
        exact h.sublist (List.filter_sublist.map _)
      apply Caches.changed ⟨.removed, service⟩ _ _ hlookup hdistinct
      show facade.service? service.name = some service
      rw [hname]
      exact hknown

theorem step_caches (named : ∀ name service, facade.service? name = some service →
    service.name = name) {task : Task} (untold : task.change? = none) :
    Caches facade (step task facade).1 (step task facade).2 := by
  cases task with
  | telling kind argument number => exact .kept rfl (tell_hushed untold)
  | calling kind => exact .kept rfl (by simp [step])
  | closing => exact .kept rfl (by simp [step, Facade.log, Effect.change?])
  | call operation =>
      cases operation with
      | publish event =>
          cases event with
          | serviceResolved service => exact serviceResolved_caches service facade
          | serviceRemoved name => exact serviceRemoved_caches name (named name)
          | browserState running error =>
              refine .kept rfl ?_
              simp only [step, call, receive]
              split
              · exact emit_hushed (by simp) _
              · simp
          | publisherState running error =>
              refine .kept rfl ?_
              intro effect hmem
              simp only [step, call, receive] at hmem
              rcases List.mem_append.mp hmem with hpublished | herror
              · split at hpublished
                · exact emit_hushed (by simp) _ _ hpublished
                · cases hpublished
              · split at herror
                · exact emit_hushed (by simp) _ _ herror
                · cases herror
          | serviceRenamed name => exact .kept rfl (emit_hushed (by simp) _)
          | unknown => exact .kept rfl (by simp [step, call, receive])
      | _ => exact .kept rfl (by simp [step, call, Effect.change?, Task.change?])

/-- Of a change a callback hears. -/
theorem tell_change (attentive : facade.callbacks.Attentive)
    {known : Text.Points → Option ResolvedService} (follows : change.Follows known)
    (argument : CallbackArgument) :
    facade.tell change.kind argument 0 =
      [.callback change.kind 0 argument, .own (.calling change.kind),
        .own (.telling change.kind argument 1)] := by
  have hcount : 0 < facade.callbacks.count change.kind := by
    unfold Change.Follows at follows
    cases hkind : change.kind with
    | added => exact attentive.added
    | updated => exact attentive.updated
    | removed => exact attentive.removed
    | published | renamed | error =>
        rw [hkind] at follows
        exact absurd follows id
  simp [tell, hcount]

/-- The cache is what the log says, each name in it stands once, and there is a callback for each
change. -/
structure Holds (log : List Change) (facade : Facade) : Prop where
  attentive : facade.callbacks.Attentive
  distinct : (facade.services.map (·.1)).Nodup
  known : (facade.service? ·) = replay log

theorem Holds.of_kept {after : Facade} (holds : facade.Holds log)
    (services : after.services = facade.services)
    (more : ∀ kind, facade.callbacks.count kind ≤ after.callbacks.count kind) :
    after.Holds log where
  attentive := holds.attentive.mono more
  distinct := services ▸ holds.distinct
  known := by
    rw [← holds.known]
    funext name
    simp only [service?, services]

theorem Holds.named (holds : facade.Holds log) (chronicle : Chronicle log) (name : Text.Points)
    (service : ResolvedService) (h : facade.service? name = some service) :
    service.name = name := by
  apply chronicle.name_of_replay
  rw [← holds.known]
  exact h

end Facade

/-- The change that the first callback of a kind of the facade at a place is called for. -/
def Work.entry? (index : Nat) : Work ι → Option Change
  | .call (.callback place kind 0 (.service service)) =>
      if place = index then some ⟨kind, service⟩ else none
  | _ => none

/-- The change that the first callback of a kind of the facade at a place is called for, or is about
to be. -/
def Work.change? (index : Nat) : Work ι → Option Change
  | .facade place task => if place = index then task.change? else none
  | work => work.entry? index

/-- The change that a callback of the facade at a place is called for, whichever callback it is. -/
def Work.hearing? (index : Nat) : Work ι → Option Change
  | .call (.callback place kind _ (.service service)) =>
      if place = index then some ⟨kind, service⟩ else none
  | _ => none

/-- Is a callback of the facade at a place called for a change, or are some to be told of one? -/
def Work.spreads (index : Nat) : Work ι → Bool
  | .call (.callback place _ _ (.service _)) | .facade place (.telling _ (.service _) _) =>
      place = index
  | _ => false

section

variable {index : Nat} {change : Change}

theorem Work.eq_of_entry {work : Work ι} (h : work.entry? index = some change) :
    work = .call (.callback index change.kind 0 (.service change.service)) := by
  unfold entry? at h
  split at h
  · split at h
    · rename_i place kind service hplace
      obtain rfl := hplace
      cases h
      rfl
    · cases h
  · cases h

theorem Work.eq_of_change {work : Work ι} (h : work.change? index = some change) :
    work = .call (.callback index change.kind 0 (.service change.service)) ∨
      work = .facade index (.telling change.kind (.service change.service) 0) := by
  unfold change? at h
  split at h
  · rename_i place task
    split at h
    · rename_i hplace
      obtain rfl := hplace
      unfold Facade.Task.change? at h
      split at h
      · cases h
        exact Or.inr rfl
      · cases h
    · cases h
  · exact Or.inl (Work.eq_of_entry h)

theorem Work.eq_of_hearing {work : Work ι} (h : work.hearing? index = some change) :
    ∃ number, work = .call (.callback index change.kind number (.service change.service)) := by
  unfold hearing? at h
  split at h
  · rename_i place kind number service
    obtain ⟨rfl, hchange⟩ := Option.ite_none_right_eq_some.mp h
    cases hchange
    exact ⟨number, rfl⟩
  · cases h

theorem Work.change_of_not_spreads {work : Work ι} (h : work.spreads index = false) :
    work.change? index = none := by
  cases hchange : work.change? index with
  | none => rfl
  | some change =>
      rcases Work.eq_of_change hchange with rfl | rfl <;> simp [spreads] at h

/-- Only a facade tells its callbacks of changes. -/
theorem Brings.of_change {world : World} {source brought : Work ι} (h : Brings world source brought)
    (hchange : brought.change? index = some change) : ∃ task, source = .facade index task := by
  rcases Work.eq_of_change hchange with rfl | rfl
  · obtain ⟨task, -, hsource, -⟩ := h.of_callback
    exact ⟨task, hsource⟩
  · obtain ⟨task, -, hsource, -⟩ := h.of_telling
    exact ⟨task, hsource⟩

theorem Work.change_of_effect (index : Nat) (node : FacadeNode) (effect : Facade.Effect) :
    (effect.work (ι := ι) index node).change? index = effect.change? := by
  cases effect with
  | own task => simp [Facade.Effect.work, change?, Facade.Effect.change?]
  | callback kind number argument =>
      cases number <;> cases argument <;>
        simp [Facade.Effect.work, change?, entry?, Facade.Effect.change?]
  | _ => rfl

theorem Work.change_of_move (index : Nat) (move : Move ι) : move.work.change? index = none := by
  cases move with
  | perform operation =>
      cases operation with
      | facade place operation =>
          simp only [Move.work, Operation.work, change?]
          split <;> rfl
      | _ => rfl
  | _ => rfl

/-- Whoever recovers from a fault tells of no change. -/
theorem World.recover_hushed {world after : World} {source : Work ι} {fault : Fault}
    {tasks : List (Work ι)} (h : recover fault source world = some (after, tasks)) :
    ∀ brought ∈ tasks, brought.change? index = none := by
  intro brought hmem
  cases hchange : brought.change? index with
  | none => rfl
  | some change =>
      obtain ⟨task, rfl⟩ := (brings_of_recover h hmem).of_change hchange
      obtain ⟨-, -, record, rfl⟩ := recover_facade h
      rw [List.mem_singleton.mp hmem] at hchange
      cases hchange

end

namespace Configuration

variable {surroundings : Surroundings ι σ} {start now after : Configuration ι σ}
  {past : List (Configuration ι σ)} {index : Nat} {node : FacadeNode}
  {log pending : List Change}

/-- The change that the first callback of a kind is being called for. -/
def entered? (index : Nat) (now : Configuration ι σ) : Option Change :=
  now.agenda.head?.bind (Work.entry? index)

/-- The change that a callback is being called for, whichever it is. -/
def hearing? (index : Nat) (now : Configuration ι σ) : Option Change :=
  now.agenda.head?.bind (Work.hearing? index)

/-- The changes that the first callbacks of a facade were called for, in order. -/
def changes (index : Nat) (past : List (Configuration ι σ)) : List Change :=
  past.filterMap (entered? index)

/-- A facade is changing its cache: the cache is changed already, and it calls the callback that
hears of it next, or after a log line. -/
def Changing (index : Nat) (now : Configuration ι σ) : Prop :=
  ∃ work rest, work.change? index ≠ none ∧ (now.agenda = work :: rest ∨
    ∃ record, now.agenda = .call (.log record) :: work :: rest)

/-- How far a change of the cache is: there is none, or it is to be logged and then told, or it is
being told. -/
inductive Underway (index : Nat) : List Change → List (Work ι) → Prop where
  | calm {agenda : List (Work ι)} (untold : ∀ work ∈ agenda, work.change? index = none) :
      Underway index [] agenda
  | noted {work : Work ι} {rest : List (Work ι)} {change : Change} (record : Log.Record)
      (hchange : work.change? index = some change)
      (untold : ∀ other ∈ rest, other.change? index = none) :
      Underway index [change] (.call (.log record) :: work :: rest)
  | telling {work : Work ι} {rest : List (Work ι)} {change : Change}
      (hchange : work.change? index = some change)
      (untold : ∀ other ∈ rest, other.change? index = none) :
      Underway index [change] (work :: rest)

/-- The cache holds what callbacks heard, and what they are about to hear. -/
structure Mirrored (index : Nat) (log pending : List Change) (now : Configuration ι σ) : Prop where
  stage : Underway index pending now.agenda
  chronicle : Chronicle (log ++ pending)
  holds : ∃ node, now.world.facades[index]? = some node ∧ node.core.Holds (log ++ pending)

theorem changes_append (index : Nat) (past : List (Configuration ι σ)) (now : Configuration ι σ) :
    changes index (past ++ [now]) = changes index past ++ (now.entered? index).toList := by
  simp only [changes, List.filterMap_append]
  cases h : now.entered? index <;> simp [h]

theorem entered_of_front {work : Work ι} {rest : List (Work ι)}
    (hagenda : now.agenda = work :: rest) : now.entered? index = work.entry? index := by
  rw [entered?, hagenda]
  rfl

/-- While no change is on its way, a task of the facade brings about one at most, and no other work
brings about any. -/
theorem Mirrored.of_calm (mirrored : now.Mirrored index log [])
    (untold : ∀ work ∈ now.agenda, work.change? index = none)
    (h : now.step surroundings = some after) : ∃ pending, after.Mirrored index log pending := by
  obtain ⟨-, hchronicle, node, found, holds⟩ := mirrored
  simp only [List.append_nil] at hchronicle holds
  have hlt : index < now.world.facades.length := (List.getElem?_eq_some_iff.mp found).1
  by_cases hown : ∃ task rest, now.agenda = .facade index task :: rest
  · obtain ⟨task, rest, hagenda⟩ := hown
    obtain rfl := Option.some.inj (h.symm.trans (step_facade found hagenda))
    have hrest : ∀ work ∈ rest, work.change? index = none := by
      intro work hmem
      apply untold
      rw [hagenda]
      exact List.mem_cons_of_mem _ hmem
    have htask : task.change? = none := by
      have hfront := untold (.facade index task) (by simp [hagenda])
      simpa [Work.change?] using hfront
    have hcaches := Facade.step_caches (holds.named hchronicle) htask
    have hmore := Facade.count_le_step task node.core
    generalize Facade.step task node.core = result at hcaches hmore ⊢
    obtain ⟨core, effects⟩ := result
    generalize hcore : node.core = facade at hcaches holds hmore
    cases hcaches with
    | kept services hushed =>
        refine ⟨[], ⟨.calm ?_, by simpa using hchronicle, _, List.getElem?_set_self hlt, ?_⟩⟩
        · intro work hmem
          rcases List.mem_append.mp hmem with hnew | hold
          · obtain ⟨effect, heffect, rfl⟩ := List.mem_map.mp hnew
            rw [Work.change_of_effect]
            exact hushed effect heffect
          · exact hrest work hold
        · simpa using holds.of_kept services hmore
    | @changed services change record follows known distinct =>
        have hfollows : change.Follows (replay log) := holds.known ▸ follows
        refine ⟨[change], ⟨.noted record ?_ hrest, .snoc hchronicle hfollows, _,
          List.getElem?_set_self hlt, ?_⟩⟩
        · exact Work.change_of_effect index node (.own (.telling change.kind _ 0))
        · constructor
          · exact holds.attentive
          · exact distinct holds.distinct
          · rw [replay_append, ← holds.known, ← known]
            rfl
  · have hforeign : ∀ task rest, now.agenda ≠ .facade index task :: rest := by
      intro task rest hagenda
      exact hown ⟨task, rest, hagenda⟩
    have hfound := step_spares_facade h found hforeign
    refine ⟨[], ⟨.calm ?_, by simpa using hchronicle, node, hfound, by simpa using holds⟩⟩
    obtain ⟨work, rest, tasks, kept, hagenda, hkept, hafter, htasks⟩ := step_sources h
    intro brought hmem
    rw [hafter] at hmem
    rcases List.mem_append.mp hmem with hnew | hold
    · rcases htasks brought hnew with
        ⟨move, -, rfl⟩ | hfront | ⟨fault, source, changed, recovered, -, -, hrecover, hin⟩
      · exact Work.change_of_move index move
      · cases hchange : brought.change? index with
        | none => rfl
        | some change =>
            obtain ⟨task, rfl⟩ := hfront.of_change hchange
            exact absurd hagenda (hforeign task rest)
      · exact World.recover_hushed hrecover brought hin
    · apply untold
      rw [hagenda]
      exact List.mem_cons_of_mem _ (hkept.mem hold)

/-- A facade that is to tell of a change calls the first callback of the kind, and leaves the others
for later. -/
theorem step_tells {change : Change} {rest : List (Work ι)}
    {known : Text.Points → Option ResolvedService}
    (attentive : node.core.callbacks.Attentive) (follows : change.Follows known)
    (found : now.world.facades[index]? = some node)
    (hagenda : now.agenda =
      .facade index (.telling change.kind (.service change.service) 0) :: rest)
    (h : now.step surroundings = some after) :
    after.agenda = .call (.callback index change.kind 0 (.service change.service)) ::
        .facade index (.calling change.kind) ::
        .facade index (.telling change.kind (.service change.service) 1) :: rest ∧
      after.world.facades[index]? = some node := by
  have hlt := (List.getElem?_eq_some_iff.mp found).1
  obtain rfl := Option.some.inj (h.symm.trans (step_facade found hagenda))
  constructor
  · simp only [Facade.step, Facade.tell_change attentive follows]
    rfl
  · exact List.getElem?_set_self hlt

/-- A step calls the callback that the change in front is for, and the cache goes on as the
callbacks are told. -/
theorem Mirrored.step
    (hlog : ∀ record world around, (surroundings.answer (.log record) world around).2 = [])
    (mirrored : now.Mirrored index log pending) (h : now.step surroundings = some after) :
    ∃ pending, after.Mirrored index (log ++ (now.entered? index).toList) pending := by
  obtain ⟨hstage, hchronicle, node, found, holds⟩ := mirrored
  have hcall {call : Call} {rest : List (Work ι)} (hagenda : now.agenda = .call call :: rest) :
      after.world.facades[index]? = some node := by
    apply step_spares_facade h found
    intro task rest heq
    rw [hagenda] at heq
    cases heq
  generalize hagenda : now.agenda = agenda at hstage
  cases hstage with
  | calm untold =>
      have hnone : now.entered? index = none := by
        cases agenda with
        | nil =>
            rw [entered?, hagenda]
            rfl
        | cons work rest =>
            rw [entered_of_front hagenda]
            cases hentry : work.entry? index with
            | none => rfl
            | some change =>
                obtain rfl := Work.eq_of_entry hentry
                cases hentry.symm.trans (untold _ List.mem_cons_self)
      subst hagenda
      have hcalm : now.Mirrored index log [] := ⟨.calm untold, hchronicle, node, found, holds⟩
      rw [hnone]
      simpa using hcalm.of_calm untold h
  | @noted work rest change record hchange untold =>
      have hnone : now.entered? index = none := entered_of_front hagenda
      have hafter : after.agenda = work :: rest := by
        rw [agenda_of_call hagenda h]
        simp [moves, hagenda, hlog]
      refine ⟨[change], ?_, ?_, node, hcall hagenda, ?_⟩
      · rw [hafter]
        exact .telling hchange untold
      · simpa [hnone] using hchronicle
      · simpa [hnone] using holds
  | @telling work rest change hchange untold =>
      rcases Work.eq_of_change hchange with rfl | rfl
      · have hentered : now.entered? index = some change :=
          (entered_of_front hagenda).trans hchange
        refine ⟨[], .calm ?_, ?_, node, hcall hagenda, ?_⟩
        · intro work hmem
          rw [agenda_of_call hagenda h] at hmem
          rcases List.mem_append.mp hmem with hmove | hold
          · obtain ⟨move, -, rfl⟩ := List.mem_map.mp hmove
            exact Work.change_of_move index move
          · exact untold work hold
        · simpa [hentered] using hchronicle
        · simpa [hentered] using holds
      · -- The facade looks for the first callback, and there is one.
        have hnone : now.entered? index = none := entered_of_front hagenda
        obtain ⟨hafter, hsame⟩ :=
          step_tells holds.attentive hchronicle.follows_last found hagenda h
        refine ⟨[change], ?_, ?_, node, hsame, ?_⟩
        · rw [hafter]
          apply Underway.telling
          · simp [Work.change?, Work.entry?]
          · intro work hmem
            rcases List.mem_cons.mp hmem with rfl | hothers
            · simp [Work.change?, Facade.Task.change?]
            · rcases List.mem_cons.mp hothers with rfl | hold
              · simp [Work.change?, Facade.Task.change?]
              · exact untold work hold
        · simpa [hnone] using hchronicle
        · simpa [hnone] using holds

theorem Course.mirrored
    (hlog : ∀ record world around, (surroundings.answer (.log record) world around).2 = [])
    (course : Course surroundings start past now) (begins : start.Mirrored index [] []) :
    ∃ pending, now.Mirrored index (changes index past) pending := by
  induction course with
  | start => exact ⟨[], begins⟩
  | step course step ih =>
      obtain ⟨pending, hmirrored⟩ := ih
      rw [changes_append]
      exact hmirrored.step hlog step

/-- Callbacks that are called for a change are among those that are registered in the end. -/
theorem Course.registered (found : start.world.facades[index]? = some node)
    (unspread : ∀ work ∈ start.agenda, work.spreads index = false)
    (course : Course surroundings start past now) :
    ∃ present, now.world.facades[index]? = some present ∧
      ∀ moment ∈ past ++ [now], ∀ kind number service,
        .call (.callback index kind number (.service service)) ∈ moment.agenda →
          number < present.core.callbacks.count kind := by
  induction course with
  | start =>
      refine ⟨node, found, fun moment hmoment kind number service hmem => ?_⟩
      obtain rfl := List.mem_singleton.mp hmoment
      have hspread := unspread _ hmem
      simp [Work.spreads] at hspread
  | @step past now after course step ih =>
      obtain ⟨present, hpresent, hnumbers⟩ := ih
      obtain ⟨later, hlater, hmore⟩ := step_callbacks step hpresent
      refine ⟨later, hlater, fun moment hmoment kind number service hmem => ?_⟩
      refine Nat.lt_of_lt_of_le ?_ (hmore kind)
      rcases List.mem_append.mp hmoment with hearlier | hlast
      · exact hnumbers moment hearlier kind number service hmem
      · obtain rfl := List.mem_singleton.mp hlast
        obtain ⟨work, rest, tasks, kept, hagenda, hkept, hafter, htasks⟩ := step_brings step
        rw [hafter] at hmem
        rcases List.mem_append.mp hmem with hnew | hold
        · rcases htasks _ hnew with ⟨move, -, hmove⟩ | ⟨source, -, hbrings⟩
          · cases move with
            | perform operation => cases operation <;> cases hmove
            | _ => cases hmove
          · exact hbrings.registered hpresent
        · apply hnumbers now (by simp) kind number service
          rw [hagenda]
          exact List.mem_cons_of_mem _ (hkept.mem hold)

/-- The first callbacks of their kinds hear of each service from its addition through its updates to
its removal, and of the removal with the service as it was last. Whenever the cache is not just
changing, it is what they were told. And where there is one callback for a kind of change, it is the
first: nobody else hears of such changes. -/
theorem cache_replays_callbacks
    (hlog : ∀ record world around, (surroundings.answer (.log record) world around).2 = [])
    (found : start.world.facades[index]? = some node) (empty : node.core.services = [])
    (attentive : node.core.callbacks.Attentive)
    (unspread : ∀ work ∈ start.agenda, work.spreads index = false)
    (course : Course surroundings start past now) :
    (∀ name, ∃ more, told name (changes index past) ++ more ∈ lives) ∧
      (∀ earlier service later,
        changes index past = earlier ++ ⟨.removed, service⟩ :: later →
          latest service.name earlier = some service) ∧
      ∃ present, now.world.facades[index]? = some present ∧
        (present.core.services.map (·.1)).Nodup ∧
        (¬ now.Changing index →
          ∀ name, present.core.service? name = replay (changes index past) name) ∧
        ∀ moment ∈ past, ∀ change, moment.hearing? index = some change →
          present.core.callbacks.count change.kind = 1 →
            moment.entered? index = some change := by
  have hempty : node.core.Holds [] := by
    constructor
    · exact attentive
    · simp [empty]
    · funext name
      simp [Facade.service?, empty, replay]
  have hbegins : start.Mirrored index [] [] :=
    ⟨.calm fun work hmem => Work.change_of_not_spreads (unspread work hmem), .nil, node, found,
      hempty⟩
  obtain ⟨pending, hstage, hchronicle, present, hpresent, holds⟩ := course.mirrored hlog hbegins
  have htold : Chronicle (changes index past) := hchronicle.of_prefix (List.prefix_append _ _)
  refine ⟨htold.prefix_of_lives, ?_, present, hpresent, holds.distinct, ?_, ?_⟩
  · intro earlier service later hsplit
    rw [hsplit] at htold
    exact htold.latest_of_removed
  · intro hsteady name
    generalize hagenda : now.agenda = agenda at hstage
    cases hstage with
    | calm =>
        have hknown := congrFun holds.known name
        simpa using hknown
    | noted record hchange untold =>
        exact absurd ⟨_, _, by simp [hchange], Or.inr ⟨record, hagenda⟩⟩ hsteady
    | telling hchange untold =>
        exact absurd ⟨_, _, by simp [hchange], Or.inl hagenda⟩ hsteady
  · intro moment hmem change hhearing single
    obtain ⟨other, hother, hnumbers⟩ := course.registered found unspread
    obtain rfl := Option.some.inj (hpresent.symm.trans hother)
    obtain ⟨work, hfront, hwork⟩ := Option.bind_eq_some_iff.mp hhearing
    obtain ⟨number, rfl⟩ := Work.eq_of_hearing hwork
    have hnumber := hnumbers moment (List.mem_append_left _ hmem) change.kind number change.service
      (List.mem_of_mem_head? hfront)
    obtain rfl : number = 0 := by omega
    rw [entered?, hfront, Option.bind_some]
    simp [Work.entry?]

/-- A callback that hears of a new service registers one for errors, reports the service as lost
before it returns, and then fails. The service is resolved once more. -/
theorem cache_replays_callbacks_of_nested :
    let service : ResolvedService := {
      name := "Printer", type := "_ipp._tcp", hostname := "printer.local", address := "10.0.0.7"
      port := 631, txt := [] }
    let callbacks : Callbacks := { added := 1, updated := 1, removed := 1 }
    let lost : Operation := .registry 0 (.deliver 1 (.serviceRemoved service.name))
    let found : Work Empty := .registry 0 (.call (.deliver 1 (.serviceResolved service)))
    let start : Configuration Empty (List (List (Move Empty))) := run .staged 2 {
      world := { platforms := [.outside] }
      around := [[.perform (.facade 0 (.register .error)), .perform lost, .raise .browseClosed]]
      agenda := [.build (.facade 0 none none callbacks), found, found] }
    let past := trail .staged 50 start
    let now := run .staged 50 start
    changes 0 past = [⟨.added, service⟩, ⟨.removed, service⟩, ⟨.added, service⟩] ∧
      now.world.facades.map (·.core.callbacks) = [{ callbacks with error := 1 }] ∧
      (∀ name, ∃ more, told name (changes 0 past) ++ more ∈ lives) ∧
      (∀ earlier service later, changes 0 past = earlier ++ ⟨.removed, service⟩ :: later →
        latest service.name earlier = some service) ∧
      ∃ present, now.world.facades[0]? = some present ∧
        (present.core.services.map (·.1)).Nodup ∧
        (¬ now.Changing 0 →
          ∀ name, present.core.service? name = replay (changes 0 past) name) ∧
        ∀ moment ∈ past, ∀ change, moment.hearing? 0 = some change →
          present.core.callbacks.count change.kind = 1 → moment.entered? 0 = some change := by
  intro service callbacks lost found start past now
  have hfound : start.world.facades[0]? =
      some { queue := 0, browser := 0, publisher := 0, core := { callbacks } } := rfl
  have hunspread : ∀ work ∈ start.agenda, work.spreads 0 = false := by decide +kernel
  have hcourse : Course .staged start past now := course_run ..
  refine ⟨by decide +kernel, by decide +kernel, ?_⟩
  have hattentive : callbacks.Attentive := by constructor <;> decide
  exact cache_replays_callbacks Surroundings.staged_quiet.log hfound rfl hattentive hunspread
    hcourse

end Configuration

end ServiceDiscovery
