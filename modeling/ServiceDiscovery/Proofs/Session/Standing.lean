import ServiceDiscovery.Proofs.Machine.Place
import ServiceDiscovery.Proofs.ResolveQueue.Part

/-!
Browse sessions and publication sessions, as far as they are alike. A session of either kind asks
its platform to start, hears from it, and reports to its channel whether it runs. What a task of a
session can be is said once for both kinds: what happens to the session by it, how the session
stands afterwards, and what it reports.
-/

namespace ServiceDiscovery

variable {ι σ : Type}

inductive SessionKind where
  | browse
  | publication
  deriving DecidableEq, Repr

/-- Where a session reports to, and how it stands: whether it has a state, whether that state runs,
and whether the session is active or closed. -/
structure Standing where
  registry : Nat
  token : Token
  known : Bool
  running : Bool
  active : Bool
  closed : Bool
  deriving DecidableEq, Repr

def BrowseNode.standing (node : BrowseNode) : Standing where
  registry := node.registry
  token := node.core.token
  known := node.core.state.isSome
  running := node.core.running
  active := node.core.active
  closed := node.core.closed

def PublicationNode.standing (node : PublicationNode) : Standing where
  registry := node.registry
  token := node.core.token
  known := node.core.state.isSome
  running := node.core.running
  active := node.core.active
  closed := node.core.closed

/-- How the session of a kind at a place stands. -/
def World.standing? (kind : SessionKind) (index : Nat) (world : World) : Option Standing :=
  match kind with
  | .browse => world.browsers[index]?.map (·.standing)
  | .publication => world.publications[index]?.map (·.standing)

namespace SessionKind

/-- The report of a session of this kind. -/
def state : SessionKind → Bool → Bool → Event
  | .browse => .browserState
  | .publication => .publisherState

end SessionKind

/-- Is the event the report of a session? -/
@[simp] def Event.isState : Event → Bool
  | .browserState _ _ | .publisherState _ _ => true
  | _ => false

theorem SessionKind.isState_state (kind : SessionKind) (running error : Bool) :
    (kind.state running error).isState = true := by
  cases kind <;> rfl

/-- What happens to a session. -/
inductive Act where
  /-- It asks its platform to start. -/
  | asked
  /-- The call that asked has returned. -/
  | returned
  /-- The call that asked has raised. -/
  | raised
  /-- The platform says that it started. -/
  | confirmed
  /-- The platform says that it came to an end. -/
  | ended
  /-- The platform says anything else. -/
  | told
  /-- Its closing is completed. -/
  | closed
  deriving DecidableEq, Repr

/-- How many calls have come back by this. -/
def Act.leaves : Option Act → Nat
  | some .returned | some .raised => 1
  | _ => 0

namespace BrowseSession.Task

def act? : Task → Option Act
  | .starting _ => some .returned
  | .closing => some .closed
  | .call (.notice (.started _)) => some .confirmed
  | .call (.notice (.found _)) | .call (.notice (.lost _)) => some .told
  | .call (.notice _) => some .ended
  | .call _ => none

/-- What happens when a fault reaches the task. -/
def caught? : Task → Option Act
  | .starting _ => some .raised
  | _ => none

end BrowseSession.Task

namespace PublicationSession.Task

def act? : Task → Option Act
  | .registering _ => some .returned
  | .closing => some .closed
  | .call (.notice (.registered _ _)) => some .confirmed
  | .call (.notice (.unregistrationFailed _)) => some .told
  | .call (.notice _) => some .ended
  | .call _ => none

/-- What happens when a fault reaches the task. -/
def caught? : Task → Option Act
  | .registering _ => some .raised
  | .closing => some .closed
  | .call _ => none

end PublicationSession.Task

namespace Work

/-- Is the work a task of the session? -/
def isOf (kind : SessionKind) (index : Nat) : Work ι → Bool
  | .browse place _ => kind = .browse && place = index
  | .publication place _ => kind = .publication && place = index
  | _ => false

/-- Does the work ask a platform to start in the name of the session? -/
def asks (kind : SessionKind) (index : Nat) : Work ι → Bool
  | .request _ (.discover _) (.member place) => kind = .browse && place = index
  | .request _ (.register _ _ _ _) (.member place) => kind = .publication && place = index
  | _ => false

/-- Does the work wait, in the name of the session, for the call to return that asks the platform to
start? -/
def waits (kind : SessionKind) (index : Nat) : Work ι → Bool
  | .browse place (.starting _) => kind = .browse && place = index
  | .publication place (.registering _) => kind = .publication && place = index
  | _ => false

/-- Does the work report the state of a session? -/
def reports : Work ι → Bool
  | .registry _ (.call (.deliver _ event)) => event.isState
  | _ => false

/-- What happens to the session when the work is done. -/
def act? (kind : SessionKind) (index : Nat) (work : Work ι) : Option Act :=
  if work.isOf kind index then
    match work with
    | .browse _ task => task.act?
    | .publication _ task => task.act?
    | _ => none
  else if work.asks kind index then some .asked
  else none

/-- What happens to the session when a fault reaches the work. -/
def caught? (kind : SessionKind) (index : Nat) (work : Work ι) : Option Act :=
  if work.isOf kind index then
    match work with
    | .browse _ task => task.caught?
    | .publication _ task => task.caught?
    | _ => none
  else none

/-- Work that neither asks and waits in the name of the session nor reports any state. -/
structure Plain (kind : SessionKind) (index : Nat) (work : Work ι) : Prop where
  asks : work.asks kind index = false
  waits : work.waits kind index = false
  reports : work.reports = false

end Work

namespace Standing

variable {kind : SessionKind} {index : Nat} {s after : Standing} {report : Option Bool}
  {tasks : List (Work ι)}

/-- What the tasks of a session report: whether it runs, behind log lines only; or nothing. -/
inductive Says (kind : SessionKind) (index : Nat) (s : Standing) :
    Option Bool → List (Work ι) → Prop where
  | nothing {tasks : List (Work ι)} (plain : ∀ work ∈ tasks, work.Plain kind index) :
      Says kind index s none tasks
  | state {lines others : List (Work ι)} (running error : Bool)
      (hlines : ∀ line ∈ lines, ∃ record, line = .call (.log record))
      (plain : ∀ work ∈ others, work.Plain kind index) :
      Says kind index s (some running)
        (lines ++ .registry s.registry (.call (.deliver s.token (kind.state running error))) ::
          others)

/-- Whatever is reported, nobody asks or waits because of it. -/
theorem Says.calm (tells : Says kind index s report tasks) :
    ∀ work ∈ tasks, work.asks kind index = false ∧ work.waits kind index = false := by
  cases tells with
  | nothing plain =>
      intro work hmem
      exact ⟨(plain work hmem).asks, (plain work hmem).waits⟩
  | state running error hlines plain =>
      intro work hmem
      rcases List.mem_append.mp hmem with hline | hrest
      · obtain ⟨record, rfl⟩ := hlines work hline
        exact ⟨rfl, rfl⟩
      · rcases List.mem_cons.mp hrest with rfl | hother
        · exact ⟨rfl, rfl⟩
        · exact ⟨(plain work hother).asks, (plain work hother).waits⟩

/-- A report right away, without a log line. -/
theorem Says.now (running error : Bool) : Says kind index s (some running)
    [(.registry s.registry (.call (.deliver s.token (kind.state running error))) : Work ι)] := by
  apply @Says.state ι kind index s [] []
  · intro line hmem
    cases hmem
  · intro work hmem
    cases hmem

/-- A report after one log line. -/
theorem Says.logged (record : Log.Record) (running error : Bool) : Says kind index s (some running)
    [(.call (.log record) : Work ι),
      .registry s.registry (.call (.deliver s.token (kind.state running error)))] := by
  apply @Says.state ι kind index s [.call (.log record)] []
  · intro line hmem
    exact ⟨record, List.mem_singleton.mp hmem⟩
  · intro work hmem
    cases hmem

/-- All that a task of a session, or its recovery from a fault, can be: what happens by it, how the
session stands afterwards, and what tasks come of it. -/
inductive Turns (kind : SessionKind) (index : Nat) (s : Standing) :
    Option Act → Standing → List (Work ι) → Prop where
  /-- Nothing changes and nothing is reported. -/
  | rested {act : Option Act} {tasks : List (Work ι)}
      (hact : act = none ∨ act = some .returned ∨ act = some .told)
      (tells : Says kind index s none tasks) : Turns kind index s act s tasks
  /-- The session asks its platform to start. -/
  | began {platform : Nat} {request : Request} {waiting : Work ι} (unclosed : s.closed = false)
      (idle : s.active = false)
      (hasks : (Work.request (ι := ι) platform request (.member index)).asks kind index = true)
      (hwaiting : waiting.waits kind index = true) :
      Turns kind index s none { s with known := true, running := false, active := true }
        [.request platform request (.member index), waiting]
  /-- A second start is rejected, and how the session stands is reported. -/
  | rejected {tasks : List (Work ι)} (active : s.active = true)
      (tells : Says kind index s (some s.running) tasks) : Turns kind index s none s tasks
  /-- There is nothing to stop. -/
  | unneeded {tasks : List (Work ι)} (idle : s.active = false)
      (tells : Says kind index s (some false) tasks) : Turns kind index s none s tasks
  /-- The platform refused to start. -/
  | refused {report : Option Bool} {tasks : List (Work ι)} (hreport : ∀ b ∈ report, b = false)
      (tells : Says kind index s report tasks) :
      Turns kind index s (some .raised) { s with active := false } tasks
  | confirmed {tasks : List (Work ι)} (known : s.known = true)
      (tells : Says kind index s (some true) tasks) :
      Turns kind index s (some .confirmed) { s with running := true } tasks
  /-- A start is confirmed of which the session knows nothing. -/
  | strayed {report : Option Bool} {tasks : List (Work ι)} (unknown : s.known = false)
      (tells : Says kind index s report tasks) : Turns kind index s (some .confirmed) s tasks
  | ended {tasks : List (Work ι)} (known : Bool) (tells : Says kind index s (some false) tasks) :
      Turns kind index s (some .ended) { s with known, running := false, active := false } tasks
  /-- What was running may be running still, and the session takes it that it is not. -/
  | faltered {tasks : List (Work ι)} (tells : Says kind index s (some false) tasks) :
      Turns kind index s (some .told) { s with running := false } tasks
  | closed {tasks : List (Work ι)} (tells : Says kind index s none tasks) :
      Turns kind index s (some .closed) { s with closed := true } tasks

/-- A session goes on with its wires, and if it was closed it stays so. -/
theorem Turns.goes {act : Option Act} (turns : Turns kind index s act after tasks) :
    after.registry = s.registry ∧ after.token = s.token ∧
      (s.closed = true → after.closed = true) := by
  cases turns with
  | closed tells => exact ⟨rfl, rfl, fun _ => rfl⟩
  | _ => exact ⟨rfl, rfl, id⟩

end Standing

open Standing

/-! What a browse session does, task by task. -/

namespace BrowseSession

variable {index : Nat}

/-- What a browse session asks for without reporting or asking its platform to browse. -/
theorem says_nothing (node : BrowseNode) {effects : List Effect}
    (hrequest : ∀ type, .request (.discover type) ∉ effects)
    (hwaiting : ∀ type, .own (.starting type) ∉ effects)
    (hdeliver : ∀ event, .deliver event ∈ effects → event.isState = false) :
    Says .browse index node.standing none (effects.map (·.work (ι := ι) index node)) := by
  apply Says.nothing
  intro work hmem
  obtain ⟨effect, heffect, rfl⟩ := List.mem_map.mp hmem
  constructor
  · cases effect with
    | request request =>
        cases request with
        | discover type => exact absurd heffect (hrequest type)
        | _ => rfl
    | _ => rfl
  · cases effect with
    | own task =>
        cases task with
        | starting type => exact absurd heffect (hwaiting type)
        | _ => rfl
    | _ => rfl
  · cases effect with
    | deliver event => exact hdeliver event heffect
    | _ => rfl

theorem hear_turns (node : BrowseNode) (notice : BrowseNotice) :
    Turns .browse index node.standing (Task.call (.notice notice)).act?
      { node with core := (hear notice node.core).1 }.standing
      ((hear notice node.core).2.map (·.work (ι := ι) index node)) := by
  obtain ⟨platform, queue, registry, token, state, active, closed⟩ := node
  cases notice with
  | started type =>
      cases state with
      | none => exact .strayed rfl (.now true false)
      | some state => exact .confirmed rfl (.now true false)
  | found ref =>
      cases closed with
      | true => refine .rested (Or.inr (Or.inr rfl)) (says_nothing _ ?_ ?_ ?_) <;> simp [hear]
      | false => refine .rested (Or.inr (Or.inr rfl)) (says_nothing _ ?_ ?_ ?_) <;> simp [hear, log]
  | lost ref => refine .rested (Or.inr (Or.inr rfl)) (says_nothing _ ?_ ?_ ?_) <;> simp [hear, log]
  | stopped type => cases state <;> exact .ended _ (.logged _ false false)
  | startFailed type code => cases state <;> exact .ended _ (.logged _ false true)
  | stopFailed type code => cases state <;> exact .ended _ (.logged _ false true)

theorem turns (node : BrowseNode) (task : Task) :
    Turns .browse index node.standing task.act?
      { node with core := (step task node.core).1 }.standing
      ((step task node.core).2.map (·.work (ι := ι) index node)) := by
  cases task with
  | starting type =>
      refine .rested (Or.inr (Or.inl rfl)) (says_nothing node ?_ ?_ ?_) <;> simp [step, log]
  | closing =>
      refine .closed (says_nothing node ?_ ?_ ?_) <;> simp [step]
  | call operation =>
      cases operation with
      | start type =>
          show Turns .browse index node.standing none _ _
          simp only [step, call, start]
          by_cases hclosed : node.core.closed
          · simp only [if_pos hclosed]
            refine .rested (Or.inl rfl) (says_nothing node ?_ ?_ ?_) <;> simp
          · by_cases hactive : node.core.active
            · simp only [if_neg hclosed, if_pos hactive]
              exact .rejected hactive (.logged _ _ true)
            · simp only [if_neg hclosed, if_neg hactive]
              apply Turns.began
              · exact Bool.eq_false_iff.mpr hclosed
              · exact Bool.eq_false_iff.mpr hactive
              · simp [Work.asks]
              · simp [Effect.work, Work.waits]
      | stop =>
          show Turns .browse index node.standing none _ _
          simp only [step, call, stop]
          by_cases hactive : node.core.active
          · simp only [if_pos hactive]
            refine .rested (Or.inl rfl) (says_nothing node ?_ ?_ ?_) <;> simp
          · simp only [if_neg hactive]
            exact .unneeded (Bool.eq_false_iff.mpr hactive) (.now false false)
      | close =>
          show Turns .browse index node.standing none _ _
          simp only [step, call, close]
          split
          · exact .rested (Or.inl rfl) (says_nothing node (by simp) (by simp) (by simp))
          · refine .rested (Or.inl rfl) (says_nothing node ?_ ?_ ?_) <;> split <;> simp
      | notice notice => exact hear_turns node notice

theorem recover_turns (node : BrowseNode) {task : Task} {fault : Fault} {changed : BrowseSession}
    {effects : List Effect} (h : recover task fault node.core = some (changed, effects)) :
    Turns .browse index node.standing task.caught? { node with core := changed }.standing
      (effects.map (·.work (ι := ι) index node)) := by
  cases task with
  | call operation => cases h
  | closing => cases h
  | starting type =>
      have hresult : node.core.startRefused type fault = (changed, effects) := Option.some.inj h
      unfold startRefused at hresult
      by_cases hmalformed : fault.isMalformed
      · simp only [if_pos hmalformed] at hresult
        obtain ⟨rfl, rfl⟩ := Prod.mk.inj hresult
        obtain ⟨platform, queue, registry, token, state, active, closed⟩ := node
        have hreport : ∀ b ∈ some false, b = false := by simp
        cases state <;> exact .refused hreport (.logged _ false true)
      · simp only [if_neg hmalformed] at hresult
        obtain ⟨rfl, rfl⟩ := Prod.mk.inj hresult
        have hreport : ∀ b ∈ (none : Option Bool), b = false := by simp
        exact .refused hreport (says_nothing node (by simp) (by simp) (by simp))

end BrowseSession

/-! What a publication session does, task by task. -/

namespace PublicationSession

variable {index : Nat}

/-- What a publication session asks for without reporting or asking its platform to register. -/
theorem says_nothing (node : PublicationNode) {effects : List Effect}
    (hrequest : ∀ name type port txt, .request (.register name type port txt) ∉ effects)
    (hwaiting : ∀ name, .own (.registering name) ∉ effects)
    (hdeliver : ∀ event, .deliver event ∈ effects → event.isState = false) :
    Says .publication index node.standing none (effects.map (·.work (ι := ι) index node)) := by
  apply Says.nothing
  intro work hmem
  obtain ⟨effect, heffect, rfl⟩ := List.mem_map.mp hmem
  constructor
  · cases effect with
    | request request =>
        cases request with
        | register name type port txt => exact absurd heffect (hrequest name type port txt)
        | _ => rfl
    | _ => rfl
  · cases effect with
    | own task =>
        cases task with
        | registering name => exact absurd heffect (hwaiting name)
        | _ => rfl
    | _ => rfl
  · cases effect with
    | deliver event => exact hdeliver event heffect
    | _ => rfl

theorem hear_turns (node : PublicationNode) (notice : RegistrationNotice) :
    Turns .publication index node.standing (Task.call (.notice notice)).act?
      { node with core := (hear notice node.core).1 }.standing
      ((hear notice node.core).2.map (·.work (ι := ι) index node)) := by
  obtain ⟨platform, registry, token, state, active, closed⟩ := node
  cases notice with
  | registered name type =>
      cases state with
      | none =>
          apply Turns.strayed rfl
          exact .nothing (by simp [hear, registered])
      | some state =>
          apply Turns.confirmed rfl
          simp only [hear, registered, List.map_cons, List.cons_append, List.nil_append]
          apply @Says.state ι .publication index _ [.call (.log _)]
          · intro line hmem
            exact ⟨_, List.mem_singleton.mp hmem⟩
          · intro work hmem
            split at hmem
            · cases hmem
            · simp only [List.map_cons, List.map_nil, List.mem_cons, List.not_mem_nil,
                or_false] at hmem
              rcases hmem with rfl | rfl
              · exact ⟨rfl, rfl, rfl⟩
              · exact ⟨rfl, rfl, by rfl⟩
  | failed code => cases state <;> exact .ended _ (.logged _ false true)
  | unregistered => exact .ended _ (.logged _ false false)
  | unregistrationFailed code => cases state <;> exact .faltered (.logged _ false true)

theorem turns (node : PublicationNode) (task : Task) :
    Turns .publication index node.standing task.act?
      { node with core := (step task node.core).1 }.standing
      ((step task node.core).2.map (·.work (ι := ι) index node)) := by
  cases task with
  | registering name =>
      refine .rested (Or.inr (Or.inl rfl)) (says_nothing node ?_ ?_ ?_) <;> simp [step]
  | closing =>
      refine .closed (says_nothing node ?_ ?_ ?_) <;> simp [step, finishClose]
  | call operation =>
      cases operation with
      | register name type port txt =>
          show Turns .publication index node.standing none _ _
          simp only [step, call, register]
          by_cases hclosed : node.core.closed
          · simp only [if_pos hclosed]
            refine .rested (Or.inl rfl) (says_nothing node ?_ ?_ ?_) <;> simp
          · by_cases hactive : node.core.active
            · simp only [if_neg hclosed, if_pos hactive]
              exact .rejected hactive (.logged _ _ true)
            · simp only [if_neg hclosed, if_neg hactive]
              apply Turns.began
              · exact Bool.eq_false_iff.mpr hclosed
              · exact Bool.eq_false_iff.mpr hactive
              · simp [Work.asks]
              · simp [Effect.work, Work.waits]
      | unregister =>
          show Turns .publication index node.standing none _ _
          simp only [step, call, unregister]
          by_cases hactive : node.core.active
          · simp only [if_pos hactive]
            refine .rested (Or.inl rfl) (says_nothing node ?_ ?_ ?_) <;> simp
          · simp only [if_neg hactive]
            exact .unneeded (Bool.eq_false_iff.mpr hactive) (.now false false)
      | close =>
          show Turns .publication index node.standing none _ _
          simp only [step, call, close]
          split
          · exact .rested (Or.inl rfl) (says_nothing node (by simp) (by simp) (by simp))
          · refine .rested (Or.inl rfl) (says_nothing node ?_ ?_ ?_) <;> split <;> simp
      | notice notice => exact hear_turns node notice

theorem recover_turns (node : PublicationNode) {task : Task} {fault : Fault}
    {changed : PublicationSession} {effects : List Effect}
    (h : recover task fault node.core = some (changed, effects)) :
    Turns .publication index node.standing task.caught? { node with core := changed }.standing
      (effects.map (·.work (ι := ι) index node)) := by
  have hnone : ∀ b ∈ (none : Option Bool), b = false := by simp
  cases task with
  | call operation => cases h
  | closing =>
      by_cases hown : fault.isOwn
      · simp only [recover, if_pos hown, finishClose] at h
        obtain ⟨rfl, rfl⟩ := Prod.mk.inj (Option.some.inj h)
        refine .closed (says_nothing node ?_ ?_ ?_) <;> simp [log]
      · simp only [recover, if_neg hown] at h
        cases h
  | registering name =>
      have hresult : node.core.registerRefused name fault = (changed, effects) :=
        Option.some.inj h
      obtain ⟨platform, registry, token, state, active, closed⟩ := node
      unfold registerRefused at hresult
      by_cases hmalformed : fault.isMalformed
      · simp only [if_pos hmalformed] at hresult
        cases state with
        | none =>
            obtain ⟨rfl, rfl⟩ := Prod.mk.inj hresult
            refine .refused hnone (says_nothing _ ?_ ?_ ?_) <;> simp [log]
        | some state =>
            obtain ⟨rfl, rfl⟩ := Prod.mk.inj hresult
            have hreport : ∀ b ∈ some false, b = false := by simp
            exact .refused hreport (.logged _ false true)
      · simp only [if_neg hmalformed] at hresult
        obtain ⟨rfl, rfl⟩ := Prod.mk.inj hresult
        exact .refused hnone (says_nothing _ (by simp) (by simp) (by simp))

end PublicationSession

/-! Sessions in a running world. -/

section

variable {world after : World} {work source brought : Work ι} {kind : SessionKind} {index : Nat}
  {s : Standing} {tasks : List (Work ι)}

/-- A session stands as it did unless a task is its own. -/
theorem World.Touches.standing_eq (touches : Touches world work after)
    (found : world.standing? kind index = some s) (hforeign : work.isOf kind index = false) :
    after.standing? kind index = some s := by
  cases kind with
  | browse =>
      obtain ⟨node, hnode, rfl⟩ := Option.map_eq_some_iff.mp found
      have hsame := touches.browse_eq hnode (by
        rintro task rfl
        simp [Work.isOf] at hforeign)
      simp [standing?, hsame]
  | publication =>
      obtain ⟨node, hnode, rfl⟩ := Option.map_eq_some_iff.mp found
      have hsame := touches.publication_eq hnode (by
        rintro task rfl
        simp [Work.isOf] at hforeign)
      simp [standing?, hsame]

theorem Work.eq_of_isOf (h : work.isOf kind index = true) :
    (kind = .browse ∧ ∃ task, work = .browse index task) ∨
      (kind = .publication ∧ ∃ task, work = .publication index task) := by
  unfold isOf at h
  split at h
  · rename_i place task
    simp only [Bool.and_eq_true, decide_eq_true_eq] at h
    obtain ⟨hkind, rfl⟩ := h
    exact Or.inl ⟨hkind, task, rfl⟩
  · rename_i place task
    simp only [Bool.and_eq_true, decide_eq_true_eq] at h
    obtain ⟨hkind, rfl⟩ := h
    exact Or.inr ⟨hkind, task, rfl⟩
  · cases h

/-- Sessions go on with their wires, and those that are closed stay closed. -/
theorem World.Touches.standing_goes (touches : Touches world work after)
    (found : world.standing? kind index = some s) :
    ∃ later, after.standing? kind index = some later ∧ later.registry = s.registry ∧
      later.token = s.token ∧ (s.closed = true → later.closed = true) := by
  cases hown : work.isOf kind index with
  | false => exact ⟨s, touches.standing_eq found hown, rfl, rfl, id⟩
  | true =>
      rcases Work.eq_of_isOf hown with ⟨rfl, task, rfl⟩ | ⟨rfl, task, rfl⟩
      · obtain ⟨node, hnode, rfl⟩ := Option.map_eq_some_iff.mp found
        cases touches with
        | nothing => exact ⟨_, found, rfl, rfl, id⟩
        | @browse _ _ member core hmember makes =>
            have hlt : index < world.browsers.length := (List.getElem?_eq_some_iff.mp hnode).1
            obtain rfl := Option.some.inj (hnode.symm.trans hmember)
            refine ⟨{ node with core }.standing, by simp [standing?, hlt], ?_⟩
            rcases makes with rfl | ⟨fault, effects, hrecover⟩
            · exact (@BrowseSession.turns ι index node task).goes
            · exact (@BrowseSession.recover_turns ι index node _ _ _ _ hrecover).goes
      · obtain ⟨node, hnode, rfl⟩ := Option.map_eq_some_iff.mp found
        cases touches with
        | nothing => exact ⟨_, found, rfl, rfl, id⟩
        | @publication _ _ member core hmember makes =>
            have hlt : index < world.publications.length := (List.getElem?_eq_some_iff.mp hnode).1
            obtain rfl := Option.some.inj (hnode.symm.trans hmember)
            refine ⟨{ node with core }.standing, by simp [standing?, hlt], ?_⟩
            rcases makes with rfl | ⟨fault, effects, hrecover⟩
            · exact (@PublicationSession.turns ι index node task).goes
            · exact (@PublicationSession.recover_turns ι index node _ _ _ _ hrecover).goes

/-- Unless something is built there are no new sessions. -/
theorem World.Touches.standing_back {later : Standing} (touches : Touches world work after)
    (hbuild : ∀ made, work ≠ .build made) (found : after.standing? kind index = some later) :
    ∃ s, world.standing? kind index = some s := by
  have hlengths : after.browsers.length = world.browsers.length ∧
      after.publications.length = world.publications.length := by
    cases touches with
    | @built made => exact absurd rfl (hbuild made)
    | _ => exact ⟨by simp, by simp⟩
  cases kind with
  | browse =>
      obtain ⟨node, hnode, -⟩ := Option.map_eq_some_iff.mp found
      have hlt : index < world.browsers.length :=
        hlengths.1 ▸ (List.getElem?_eq_some_iff.mp hnode).1
      exact ⟨world.browsers[index].standing, by simp [standing?, hlt]⟩
  | publication =>
      obtain ⟨node, hnode, -⟩ := Option.map_eq_some_iff.mp found
      have hlt : index < world.publications.length :=
        hlengths.2 ▸ (List.getElem?_eq_some_iff.mp hnode).1
      exact ⟨world.publications[index].standing, by simp [standing?, hlt]⟩

theorem World.run_turns (found : world.standing? kind index = some s)
    (hown : work.isOf kind index = true) :
    ∃ later, (world.run work).1.standing? kind index = some later ∧
      Turns kind index s (work.act? kind index) later (world.run work).2 := by
  rcases Work.eq_of_isOf hown with ⟨rfl, task, rfl⟩ | ⟨rfl, task, rfl⟩
  · obtain ⟨node, hnode, rfl⟩ := Option.map_eq_some_iff.mp found
    have hlt : index < world.browsers.length := (List.getElem?_eq_some_iff.mp hnode).1
    have hact : (Work.browse (ι := ι) index task).act? .browse index = task.act? := by
      simp [Work.act?, Work.isOf]
    rw [hact]
    refine ⟨{ node with core := (BrowseSession.step task node.core).1 }.standing, ?_, ?_⟩
    · simp only [run, runBrowse, hnode, standing?, List.getElem?_set_self hlt]
      rfl
    · simp only [run, runBrowse, hnode]
      exact BrowseSession.turns node task
  · obtain ⟨node, hnode, rfl⟩ := Option.map_eq_some_iff.mp found
    have hlt : index < world.publications.length := (List.getElem?_eq_some_iff.mp hnode).1
    have hact : (Work.publication (ι := ι) index task).act? .publication index = task.act? := by
      simp [Work.act?, Work.isOf]
    rw [hact]
    refine ⟨{ node with core := (PublicationSession.step task node.core).1 }.standing, ?_, ?_⟩
    · simp only [run, runPublication, hnode, standing?, List.getElem?_set_self hlt]
      rfl
    · simp only [run, runPublication, hnode]
      exact PublicationSession.turns node task

theorem World.recover_turns {fault : Fault} (found : world.standing? kind index = some s)
    (hown : work.isOf kind index = true) (h : recover fault work world = some (after, tasks)) :
    ∃ later, after.standing? kind index = some later ∧
      Turns kind index s (work.caught? kind index) later tasks := by
  rcases Work.eq_of_isOf hown with ⟨rfl, task, rfl⟩ | ⟨rfl, task, rfl⟩
  · obtain ⟨node, hnode, rfl⟩ := Option.map_eq_some_iff.mp found
    have hlt : index < world.browsers.length := (List.getElem?_eq_some_iff.mp hnode).1
    have hcaught : (Work.browse (ι := ι) index task).caught? .browse index = task.caught? := by
      simp [Work.caught?, Work.isOf]
    rw [hcaught]
    simp only [recover] at h
    obtain ⟨member, changed, effects, hmember, hrecover, rfl, rfl⟩ := recoverWith_eq_some h
    obtain rfl := Option.some.inj (hnode.symm.trans hmember)
    obtain ⟨⟨core, asked⟩, hcore, heq⟩ := Option.map_eq_some_iff.mp hrecover
    obtain ⟨rfl, rfl⟩ := Prod.mk.inj heq
    refine ⟨{ node with core }.standing, ?_, BrowseSession.recover_turns node hcore⟩
    simp [standing?, hlt]
  · obtain ⟨node, hnode, rfl⟩ := Option.map_eq_some_iff.mp found
    have hlt : index < world.publications.length := (List.getElem?_eq_some_iff.mp hnode).1
    have hcaught : (Work.publication (ι := ι) index task).caught? .publication index =
        task.caught? := by
      simp [Work.caught?, Work.isOf]
    rw [hcaught]
    simp only [recover] at h
    obtain ⟨member, changed, effects, hmember, hrecover, rfl, rfl⟩ := recoverWith_eq_some h
    obtain rfl := Option.some.inj (hnode.symm.trans hmember)
    obtain ⟨⟨core, asked⟩, hcore, heq⟩ := Option.map_eq_some_iff.mp hrecover
    obtain ⟨rfl, rfl⟩ := Prod.mk.inj heq
    refine ⟨{ node with core }.standing, ?_, PublicationSession.recover_turns node hcore⟩
    simp [standing?, hlt]

/-- Only a session asks its platform to start in its name, and waits for the answer. -/
theorem Brings.calm (h : Brings world source brought) (hforeign : source.isOf kind index = false) :
    brought.asks kind index = false ∧ brought.waits kind index = false := by
  cases h with
  | @browse place task node effect found yields =>
      cases effect with
      | request request =>
          refine ⟨?_, rfl⟩
          rcases BrowseSession.asked_of_yields yields with ⟨type, rfl⟩ | rfl
          · exact hforeign
          · rfl
      | own task =>
          cases task with
          | starting type => exact ⟨rfl, hforeign⟩
          | _ => exact ⟨rfl, rfl⟩
      | _ => exact ⟨rfl, rfl⟩
  | @publication place task node effect found yields =>
      cases effect with
      | request request =>
          refine ⟨?_, rfl⟩
          rcases PublicationSession.asked_of_yields yields with ⟨name, type, port, txt, rfl⟩ | rfl
          · exact hforeign
          · rfl
      | own task =>
          cases task with
          | registering name => exact ⟨rfl, hforeign⟩
          | _ => exact ⟨rfl, rfl⟩
      | _ => exact ⟨rfl, rfl⟩
  | @registry place task registry effect found yields =>
      cases effect with
      | publish receiver event => cases receiver <;> exact ⟨rfl, rfl⟩
      | _ => exact ⟨rfl, rfl⟩
  | @queue place task node effect found yields => cases effect <;> exact ⟨rfl, rfl⟩
  | @facade place task node effect found yields => cases effect <;> exact ⟨rfl, rfl⟩
  | @platform place task core effect found yields => cases effect <;> exact ⟨rfl, rfl⟩
  | routed platform request listener =>
      simp only [World.route]
      split <;> exact ⟨rfl, rfl⟩
  | notified listener notice =>
      cases listener with
      | outside label => exact ⟨rfl, rfl⟩
      | member place => cases notice <;> exact ⟨rfl, rfl⟩
  | _ => exact ⟨rfl, rfl⟩

theorem Work.calm_of_move (move : Move ι) :
    move.work.asks kind index = false ∧ move.work.waits kind index = false := by
  cases move with
  | perform operation => cases operation <;> exact ⟨rfl, rfl⟩
  | _ => exact ⟨rfl, rfl⟩

/-- What asks is on its way to a platform and no task of the session. -/
theorem Work.of_asks (hasks : work.asks kind index = true) :
    work.isOf kind index = false ∧ work.waits kind index = false ∧
      ∃ platform request, work = .request platform request (.member index) := by
  unfold asks at hasks
  split at hasks
  · simp only [Bool.and_eq_true, decide_eq_true_eq] at hasks
    obtain ⟨-, rfl⟩ := hasks
    exact ⟨rfl, rfl, _, _, rfl⟩
  · simp only [Bool.and_eq_true, decide_eq_true_eq] at hasks
    obtain ⟨-, rfl⟩ := hasks
    exact ⟨rfl, rfl, _, _, rfl⟩
  · cases hasks

theorem Work.isOf_of_waits (hwaits : work.waits kind index = true) :
    work.isOf kind index = true := by
  unfold waits at hwaits
  split at hwaits
  · exact hwaits
  · exact hwaits
  · cases hwaits

/-- What a session reports is its own state, under its own token. -/
theorem Standing.Says.of_report {report : Option Bool}
    (tells : Says kind index s report tasks) (hmem : brought ∈ tasks)
    (hreports : brought.reports = true) : ∃ running error, brought =
      .registry s.registry (.call (.deliver s.token (kind.state running error))) := by
  have hplain {others : List (Work ι)} (plain : ∀ work ∈ others, work.Plain kind index) :
      brought ∉ others := by
    intro hother
    cases (plain brought hother).reports.symm.trans hreports
  cases tells with
  | nothing plain => exact absurd hmem (hplain plain)
  | @state lines others running error hlines plain =>
      rcases List.mem_append.mp hmem with hline | hrest
      · obtain ⟨record, rfl⟩ := hlines brought hline
        cases hreports
      · rcases List.mem_cons.mp hrest with hreport | hother
        · exact ⟨running, error, hreport⟩
        · exact absurd hother (hplain plain)

/-- Whatever a task of a session reports is its own state. -/
theorem Standing.Turns.of_report {act : Option Act} {later : Standing}
    (turns : Turns kind index s act later tasks) (hmem : brought ∈ tasks)
    (hreports : brought.reports = true) : ∃ running error, brought =
      .registry s.registry (.call (.deliver s.token (kind.state running error))) := by
  cases turns with
  | began unclosed idle hasks hwaiting =>
      simp only [List.mem_cons, List.not_mem_nil, or_false] at hmem
      rcases hmem with rfl | rfl
      · cases hreports
      · have hown := Work.isOf_of_waits hwaiting
        rcases Work.eq_of_isOf hown with ⟨-, task, rfl⟩ | ⟨-, task, rfl⟩ <;> cases hreports
  | rested hact tells => exact tells.of_report hmem hreports
  | rejected active tells => exact tells.of_report hmem hreports
  | unneeded idle tells => exact tells.of_report hmem hreports
  | refused hreport tells => exact tells.of_report hmem hreports
  | confirmed known tells => exact tells.of_report hmem hreports
  | strayed unknown tells => exact tells.of_report hmem hreports
  | ended known tells => exact tells.of_report hmem hreports
  | faltered tells => exact tells.of_report hmem hreports
  | closed tells => exact tells.of_report hmem hreports

/-- A session that waits is done waiting when the task is run, and otherwise no call has returned.
-/
theorem Work.leaves_act (work : Work ι) :
    Act.leaves (work.act? kind index) = if work.waits kind index then 1 else 0 := by
  cases hown : work.isOf kind index with
  | true =>
      unfold act?
      rw [if_pos hown]
      rcases Work.eq_of_isOf hown with ⟨rfl, task, rfl⟩ | ⟨rfl, task, rfl⟩
      · cases task with
        | starting type => simp [waits, BrowseSession.Task.act?, Act.leaves]
        | closing => rfl
        | call operation =>
            cases operation with
            | notice notice => cases notice <;> rfl
            | _ => rfl
      · cases task with
        | registering name => simp [waits, PublicationSession.Task.act?, Act.leaves]
        | closing => rfl
        | call operation =>
            cases operation with
            | notice notice => cases notice <;> rfl
            | _ => rfl
  | false =>
      have hwaits : work.waits kind index = false := by
        apply Bool.eq_false_iff.mpr
        intro hwaits
        simp [Work.isOf_of_waits hwaits] at hown
      unfold act?
      rw [hwaits, if_neg (by simp [hown])]
      cases work.asks kind index <;> rfl

/-- A session that waits is done waiting when a fault reaches it, and otherwise no call has raised.
-/
theorem Work.leaves_caught (work : Work ι) :
    Act.leaves (work.caught? kind index) = if work.waits kind index then 1 else 0 := by
  cases hown : work.isOf kind index with
  | true =>
      unfold caught?
      rw [if_pos hown]
      rcases Work.eq_of_isOf hown with ⟨rfl, task, rfl⟩ | ⟨rfl, task, rfl⟩
      · cases task <;> simp [waits, BrowseSession.Task.caught?, Act.leaves]
      · cases task <;> simp [waits, PublicationSession.Task.caught?, Act.leaves]
  | false =>
      have hwaits : work.waits kind index = false := by
        apply Bool.eq_false_iff.mpr
        intro hwaits
        simp [Work.isOf_of_waits hwaits] at hown
      unfold caught?
      rw [hwaits, if_neg (by simp [hown])]
      rfl

/-- A session asks by the work that asks. -/
theorem Work.asks_of_act (work : Work ι) (h : work.act? kind index = some .asked) :
    work.asks kind index = true := by
  cases hown : work.isOf kind index with
  | true =>
      unfold act? at h
      rw [if_pos hown] at h
      rcases Work.eq_of_isOf hown with ⟨rfl, task, rfl⟩ | ⟨rfl, task, rfl⟩
      · cases task with
        | call operation =>
            cases operation with
            | notice notice => cases notice <;> cases h
            | _ => cases h
        | _ => cases h
      · cases task with
        | call operation =>
            cases operation with
            | notice notice => cases notice <;> cases h
            | _ => cases h
        | _ => cases h
  | false =>
      unfold act? at h
      rw [if_neg (by simp [hown])] at h
      split at h
      · assumption
      · cases h

theorem Work.caught_ne_asked (work : Work ι) : work.caught? kind index ≠ some .asked := by
  intro h
  unfold caught? at h
  split at h
  · rename_i hown
    rcases Work.eq_of_isOf hown with ⟨rfl, task, rfl⟩ | ⟨rfl, task, rfl⟩ <;> cases task <;> cases h
  · cases h

/-- Every fault that reaches a session that waits is caught there. -/
theorem World.recover_of_waits {fault : Fault} (found : world.standing? kind index = some s)
    (hwaits : work.waits kind index = true) : recover fault work world ≠ none := by
  unfold Work.waits at hwaits
  split at hwaits
  · simp only [Bool.and_eq_true, decide_eq_true_eq] at hwaits
    obtain ⟨rfl, rfl⟩ := hwaits
    obtain ⟨node, hnode, -⟩ := Option.map_eq_some_iff.mp found
    simp [recover, recoverWith, hnode, BrowseSession.recover]
  · simp only [Bool.and_eq_true, decide_eq_true_eq] at hwaits
    obtain ⟨rfl, rfl⟩ := hwaits
    obtain ⟨node, hnode, -⟩ := Option.map_eq_some_iff.mp found
    simp [recover, recoverWith, hnode, PublicationSession.recover]
  · cases hwaits

end

namespace Configuration

variable {surroundings : Surroundings ι σ} {now after : Configuration ι σ} {world changed : World}
  {work : Work ι} {tasks : List (Work ι)} {kind : SessionKind} {index : Nat} {s : Standing}

/-- What happens to a session in the next step. -/
def act? (kind : SessionKind) (index : Nat) (now : Configuration ι σ) : Option Act :=
  match now.agenda with
  | [] => none
  | .raise fault :: rest => (World.handler? fault rest now.world).bind (Work.caught? kind index)
  | work :: _ => work.act? kind index

/-- What a step can mean to a session. It takes a turn, or it stands as it did, and nobody else asks
or waits in its name. -/
inductive Meets (kind : SessionKind) (index : Nat) (s : Standing) (act : Option Act) (after : World)
    (tasks : List (Work ι)) : Prop where
  | turned {later : Standing} (found : after.standing? kind index = some later)
      (turns : Turns kind index s act later tasks) : Meets kind index s act after tasks
  | passed (found : after.standing? kind index = some s) (hact : act = none ∨ act = some .asked)
      (calm : ∀ work ∈ tasks, work.asks kind index = false ∧ work.waits kind index = false) :
      Meets kind index s act after tasks

theorem act?_of_front {rest : List (Work ι)} (hagenda : now.agenda = work :: rest)
    (hraise : ∀ fault, work ≠ .raise fault) : now.act? kind index = work.act? kind index := by
  unfold act?
  rw [hagenda]
  cases work with
  | raise fault => exact absurd rfl (hraise fault)
  | _ => rfl

theorem act?_of_raise {fault : Fault} {rest : List (Work ι)}
    (hagenda : now.agenda = .raise fault :: rest) : now.act? kind index =
      (World.handler? fault rest now.world).bind (Work.caught? kind index) := by
  unfold act?
  rw [hagenda]

/-- A task of a session that is in front is a turn of the session. -/
theorem Becomes.turns (becomes : Becomes surroundings world work changed tasks)
    (found : world.standing? kind index = some s) (hown : work.isOf kind index = true) :
    ∃ later, changed.standing? kind index = some later ∧
      Turns kind index s (work.act? kind index) later tasks := by
  have hran : (changed, tasks) = world.run work := by
    rcases Work.eq_of_isOf hown with ⟨-, task, rfl⟩ | ⟨-, task, rfl⟩ <;>
    · cases becomes
      rfl
  obtain ⟨later, hlater, hturns⟩ := World.run_turns found hown
  rw [← hran] at hlater hturns
  exact ⟨later, hlater, hturns⟩

theorem Becomes.meets (becomes : Becomes surroundings world work changed tasks)
    (found : world.standing? kind index = some s) :
    Meets kind index s (work.act? kind index) changed tasks := by
  cases hown : work.isOf kind index with
  | true =>
      obtain ⟨later, hlater, hturns⟩ := becomes.turns found hown
      exact .turned hlater hturns
  | false =>
      apply Meets.passed
      · cases becomes with
        | called | acted | watched => exact found
        | ran work => exact (World.touches_of_run work world).standing_eq found hown
      · unfold Work.act?
        simp only [hown]
        cases work.asks kind index
        · exact Or.inl rfl
        · exact Or.inr rfl
      · intro brought hmem
        cases becomes with
        | called | acted =>
            obtain ⟨move, -, rfl⟩ := List.mem_map.mp hmem
            exact Work.calm_of_move move
        | watched =>
            obtain rfl := List.mem_singleton.mp hmem
            exact ⟨rfl, rfl⟩
        | ran work => exact (World.brings_of_run hmem).calm hown

theorem meets_of_recover {fault : Fault} (found : world.standing? kind index = some s)
    (hrecover : World.recover fault work world = some (changed, tasks)) :
    Meets kind index s (work.caught? kind index) changed tasks := by
  cases hown : work.isOf kind index with
  | true =>
      obtain ⟨later, hlater, hturns⟩ := World.recover_turns found hown hrecover
      exact .turned hlater hturns
  | false =>
      apply Meets.passed
      · exact (World.touches_of_recover hrecover).standing_eq found hown
      · simp [Work.caught?, hown]
      · intro brought hmem
        exact (World.brings_of_recover hrecover hmem).calm hown

/-- In a step some of the agenda is done with: the task in front, or all in front of a task that
recovers from the fault in front, and that task. A session waits no more in it only if it is told
so. -/
theorem step_meets (h : now.step surroundings = some after)
    (found : now.world.standing? kind index = some s) :
    ∃ gone kept tasks, now.agenda = gone ++ kept ∧ gone ≠ [] ∧ after.agenda = tasks ++ kept ∧
      gone.countP (·.waits kind index) = Act.leaves (now.act? kind index) ∧
      Meets kind index s (now.act? kind index) after.world tasks := by
  obtain ⟨work, rest, hagenda, hcases⟩ := step_cases h
  rcases hcases with ⟨tasks, hbecomes, htasks⟩ | ⟨fault, rfl, hunwind⟩
  · rw [act?_of_front hagenda hbecomes.ne_raise]
    refine ⟨[work], rest, tasks, hagenda, by simp, htasks, ?_, hbecomes.meets found⟩
    rw [Work.leaves_act, List.countP_singleton]
  · obtain ⟨hworld, htasks⟩ := Prod.mk.inj hunwind
    have hunmoved (lost : List (Work ι))
        (hnone : ∀ work ∈ lost, World.recover fault work now.world = none) :
        lost.countP (·.waits kind index) = 0 := by
      apply List.countP_eq_zero.mpr
      intro work hmem hwaits
      exact World.recover_of_waits found hwaits (hnone work hmem)
    rw [act?_of_raise hagenda, hworld]
    rcases World.unwind_cases fault now.world rest with
      ⟨dropped, task, kept, changed, tasks, rfl, hdropped, hrecover, heq⟩ | ⟨hnone, heq⟩
    · rw [heq, World.handler?_eq_some hdropped hrecover, Option.bind_some]
      refine ⟨.raise fault :: dropped ++ [task], kept, tasks, by simp [hagenda], by simp,
        by simp [htasks, heq], ?_, meets_of_recover found hrecover⟩
      have hraise : (Work.raise (ι := ι) fault).waits kind index = false := rfl
      rw [Work.leaves_caught, List.countP_append, List.countP_cons, hunmoved dropped hdropped,
        List.countP_singleton, hraise]
      simp
    · rw [heq, World.handler?_eq_none hnone]
      refine ⟨.raise fault :: rest, [], [], by simp [hagenda], by simp, by simp [htasks, heq], ?_,
        .passed ?_ (Or.inl rfl) (by simp)⟩
      · rw [List.countP_cons, hunmoved rest hnone]
        rfl
      · cases kind <;> exact found

end Configuration

end ServiceDiscovery
