import Mathlib.Data.List.Nodup
import ServiceDiscovery.Proofs.Facade.Silence

/-!
How often a facade says that its service is published. Its session reports so when the platform
confirms a registration, but also when a start is rejected while the service is published. Such a
report carries an error, and the facade looks at nothing but whether the service runs. So each
callback is called once for every confirmation, and once more for every such rejection.
-/

namespace ServiceDiscovery

variable {ι σ : Type}

namespace PublicationSession

variable {task : Task} {session : PublicationSession}

/-- Does the platform confirm a registration by the task, and the session know of one? -/
def isConfirmation (session : PublicationSession) : Task → Bool
  | .call (.notice (.registered _ _)) => session.state.isSome
  | _ => false

/-- Is the task a start that is rejected while the service is published? -/
def isRejection (session : PublicationSession) : Task → Bool
  | .call (.register _ _ _ _) => !session.closed && session.active && session.running
  | _ => false

/-- Does the session report by the task that its service is published? -/
def isAnnouncing (session : PublicationSession) (task : Task) : Bool :=
  session.isConfirmation task || session.isRejection task

theorem call_of_announcing (h : session.isAnnouncing task = true) :
    ∃ operation, task = .call operation := by
  cases task with
  | call operation => exact ⟨operation, rfl⟩
  | registering name => cases h
  | closing => cases h

/-- What is reported is reported once, behind a log line. -/
theorem step_announcing (h : session.isAnnouncing task = true) :
    ∃ record error others, (step task session).2 =
        .log record :: .deliver (.publisherState true error) :: others ∧
      ∀ error, .deliver (.publisherState true error) ∉ others := by
  rcases (Bool.or_eq_true ..).mp h with hconfirms | hrejects
  · unfold isConfirmation at hconfirms
    split at hconfirms
    · rename_i name type
      obtain ⟨state, hstate⟩ := Option.isSome_iff_exists.mp hconfirms
      simp only [step, call, hear, registered, hstate]
      refine ⟨_, false, _, rfl, ?_⟩
      intro error hmem
      split at hmem <;> simp [log] at hmem
    · cases hconfirms
  · unfold isRejection at hrejects
    split at hrejects
    · simp only [Bool.and_eq_true, Bool.not_eq_true'] at hrejects
      obtain ⟨⟨hopen, hactive⟩, hrunning⟩ := hrejects
      simp only [step, call, register, hopen, hactive, hrunning, report, log]
      exact ⟨_, true, [], rfl, by simp⟩
    · cases hrejects

/-- Nothing else makes the session report that its service is published. -/
theorem announcing_of_yields {error : Bool}
    (h : Yields step recover task session (.deliver (.publisherState true error))) :
    session.isAnnouncing task = true := by
  rcases h with hstep | ⟨fault, after, hrecover, hmem⟩
  · cases task with
    | registering name => cases hstep
    | closing => simp [step, finishClose] at hstep
    | call operation =>
        cases operation with
        | register name type port txt =>
            simp only [step, call, register] at hstep
            split at hstep
            · simp at hstep
            · rename_i hopen
              split at hstep
              · rename_i hactive
                have hrunning : session.running = true := by
                  simp only [log, report, List.mem_cons, List.not_mem_nil, or_false, reduceCtorEq,
                    false_or, Effect.deliver.injEq, Event.publisherState.injEq] at hstep
                  exact hstep.1.symm
                simp [isAnnouncing, isRejection, hopen, hactive, hrunning]
              · simp at hstep
        | unregister =>
            simp only [step, call, unregister] at hstep
            split at hstep <;> simp [report] at hstep
        | close =>
            simp only [step, call, close] at hstep
            split at hstep
            · cases hstep
            · split at hstep <;> simp at hstep
        | notice notice =>
            cases notice with
            | registered name type =>
                cases hstate : session.state with
                | none => simp [step, call, hear, registered, hstate] at hstep
                | some state => simp [isAnnouncing, isConfirmation, hstate]
            | _ => simp [step, call, hear, report, log] at hstep
  · cases task with
    | call operation => cases hrecover
    | closing =>
        simp only [recover, finishClose] at hrecover
        split at hrecover
        · cases hrecover
          simp [log] at hmem
        · cases hrecover
    | registering name =>
        obtain rfl := Option.some.inj hrecover
        unfold registerRefused at hmem
        dsimp only at hmem
        split at hmem
        · split at hmem <;> simp [report, log] at hmem
        · simp at hmem

end PublicationSession

/-- A browse session never reports that anything is published. -/
theorem BrowseSession.not_publisherState_of_yields {task : BrowseSession.Task} (node : BrowseNode)
    {running error : Bool} : ¬ Yields BrowseSession.step BrowseSession.recover task node.core
      (.deliver (.publisherState running error)) := by
  intro yields
  have hreport {act : Option Act} {after : Standing} {effects : List BrowseSession.Effect}
      (turns : Standing.Turns .browse 0 node.standing act after
        (effects.map (·.work (ι := Empty) 0 node)))
      (hmem : .deliver (.publisherState running error) ∈ effects) : False := by
    obtain ⟨_, _, heq⟩ := turns.of_report (List.mem_map.mpr ⟨_, hmem, rfl⟩) rfl
    cases heq
  rcases yields with hstep | ⟨fault, ⟨changed, effects⟩, hrecover, hmem⟩
  · exact hreport (BrowseSession.turns node task) hstep
  · exact hreport (BrowseSession.recover_turns node hrecover) hmem

namespace House

/-- Does the facade hear what its publication session reports? -/
def hears (house : House) (world : World) : Bool :=
  world.leads? house.registry (house.token .publication) = some (.facade house.index)

/-- Is the work a task of the publication session of a kind that depends on how the session is? -/
def publishes (house : House) (kind : PublicationSession → PublicationSession.Task → Bool)
    (world : World) : Work ι → Bool
  | .publication place task => place = house.member .publication &&
      world.publications[place]?.any fun node => kind node.core task
  | _ => false

/-- Does the platform confirm a registration by the work, to a session that the facade hears? -/
def confirms (house : House) (world : World) (work : Work ι) : Bool :=
  house.publishes PublicationSession.isConfirmation world work && house.hears world

/-- Is the work a start that is rejected while the service is published, by a session that the
facade hears? -/
def rejects (house : House) (world : World) (work : Work ι) : Bool :=
  house.publishes PublicationSession.isRejection world work && house.hears world

/-- Does the publication session report by the work that its service is published? -/
def reports (house : House) (world : World) (work : Work ι) : Bool :=
  house.publishes PublicationSession.isAnnouncing world work

/-- Is the work the call of the callback with this number that is told of publications? -/
def calls (house : House) (number : Nat) : Work ι → Bool
  | .call (.callback place .published other _) => place = house.index && other = number
  | _ => false

/-- Does the work tell the facade, in the name of its session, that the service is published? -/
def announces (house : House) : Work ι → Bool
  | .registry place (.call (.deliver token (.publisherState true _))) =>
      place = house.registry && token = house.token .publication
  | .facade place (.call (.publish (.publisherState true _))) => place = house.index
  | _ => false

/-- Does the work tell the facade that the service is published, and not in the name of its session?
-/
def misleads (house : House) (world : World) : Work ι → Bool
  | .registry place (.call (.deliver token (.publisherState true _))) =>
      world.leads? place token = some (.facade house.index) &&
        !(place = house.registry && token = house.token .publication)
  | _ => false

/-- Is the callback called by the work, or is it one of those that are to be told? -/
def rings (house : House) (number : Nat) : Work ι → Bool
  | .call (.callback place .published other _) => place = house.index && other = number
  | .facade place (.telling .published _ first) => place = house.index && first ≤ number
  | _ => false

/-- Is a call of the callback to come of the work? It is called or is to be told, or the work is a
report that the facade hears. -/
def owes (house : House) (number : Nat) (world : World) : Work ι → Bool
  | .call (.callback place .published other _) => place = house.index && other = number
  | .facade place (.telling .published _ first) => place = house.index && first ≤ number
  | .registry place (.call (.deliver token (.publisherState true _))) =>
      place = house.registry && token = house.token .publication && house.hears world
  | .facade place (.call (.publish (.publisherState true _))) => place = house.index
  | _ => false

variable {house : House} {number : Nat} {world : World} {work : Work ι}

theorem rings_cases (h : house.rings number work = true) :
    (∃ argument, work = .call (.callback house.index .published number argument)) ∨
      ∃ argument first, first ≤ number ∧
        work = .facade house.index (.telling .published argument first) := by
  unfold rings at h
  split at h
  · rename_i place other argument
    simp only [Bool.and_eq_true, decide_eq_true_eq] at h
    obtain ⟨rfl, rfl⟩ := h
    exact Or.inl ⟨argument, rfl⟩
  · rename_i place argument first
    simp only [Bool.and_eq_true, decide_eq_true_eq] at h
    obtain ⟨rfl, hfirst⟩ := h
    exact Or.inr ⟨argument, first, hfirst, rfl⟩
  · cases h

theorem callback_of_rings (h : house.rings number work = true) :
    work.callback? house.index ≠ none := by
  rcases rings_cases h with ⟨argument, rfl⟩ | ⟨argument, first, -, rfl⟩ <;>
    simp [Work.callback?]

/-- Where no callbacks are told of a publication, the callback can only be the one that is called.
-/
theorem calls_eq_rings
    (untold : ∀ argument first, work ≠ .facade house.index (.telling .published argument first)) :
    house.calls number work = house.rings number work := by
  unfold rings
  split
  · rfl
  · rename_i place argument first
    have hplace : place ≠ house.index := by
      rintro rfl
      exact untold argument first rfl
    simp [calls, hplace]
  · rename_i hcall _
    unfold calls
    split
    · exact absurd rfl (hcall _ _ _)
    · rfl

theorem announces_cases (h : house.announces work = true) : ∃ error,
    work = .registry house.registry
        (.call (.deliver (house.token .publication) (.publisherState true error))) ∨
      work = .facade house.index (.call (.publish (.publisherState true error))) := by
  unfold announces at h
  split at h
  · simp only [Bool.and_eq_true, decide_eq_true_eq] at h
    obtain ⟨rfl, rfl⟩ := h
    exact ⟨_, Or.inl rfl⟩
  · obtain rfl := of_decide_eq_true h
    exact ⟨_, Or.inr rfl⟩
  · cases h

/-- Where nothing is announced, what is owed are calls that wait. -/
theorem owes_of_silent (h : house.announces work = false) :
    house.owes number world work = house.rings number work := by
  unfold owes
  split
  · rfl
  · rfl
  · simp only [announces] at h
    simp [h, rings]
  · simp only [announces] at h
    simp [h, rings]
  · rename_i hcall htelling _ _
    unfold rings
    split
    · exact absurd rfl (hcall _ _ _)
    · exact absurd rfl (htelling _ _ _)
    · rfl

theorem countP_owes {agenda : List (Work ι)}
    (silent : ∀ work ∈ agenda, house.announces work = false) :
    agenda.countP (house.owes number world) = agenda.countP (house.rings number) := by
  apply List.countP_congr
  intro work hmem
  rw [owes_of_silent (silent work hmem)]

theorem eq_of_publishes {kind : PublicationSession → PublicationSession.Task → Bool}
    (h : house.publishes kind world work = true) : ∃ task node,
      work = .publication (house.member .publication) task ∧
      world.publications[house.member .publication]? = some node ∧ kind node.core task = true := by
  unfold publishes at h
  split at h
  · rename_i place task
    obtain ⟨hplace, hany⟩ := (Bool.and_eq_true ..).mp h
    obtain rfl := of_decide_eq_true hplace
    obtain ⟨node, found, hkind⟩ := (Option.any_eq_true ..).mp hany
    exact ⟨task, node, rfl, found, hkind⟩
  · cases h

/-- What is reported is a confirmation or a rejection, and never both. -/
theorem confirms_or_rejects (h : house.reports world work = true) :
    (house.confirms world work).toNat + (house.rejects world work).toNat =
      (house.hears world).toNat := by
  obtain ⟨task, node, rfl, found, hannouncing⟩ := eq_of_publishes h
  have hpublishes (kind : PublicationSession → PublicationSession.Task → Bool) :
      house.publishes kind world (.publication (ι := ι) (house.member .publication) task) =
        kind node.core task := by
    simp [publishes, found]
  simp only [confirms, rejects, hpublishes]
  cases hconfirms : node.core.isConfirmation task with
  | true =>
      have hrejects : node.core.isRejection task = false := by
        unfold PublicationSession.isConfirmation at hconfirms
        split at hconfirms
        · rfl
        · cases hconfirms
      simp [hrejects]
  | false =>
      have hrejects : node.core.isRejection task = true := by
        simpa [PublicationSession.isAnnouncing, hconfirms] using hannouncing
      simp [hrejects]

theorem unreported (h : house.reports world work = false) :
    house.confirms world work = false ∧ house.rejects world work = false := by
  have hpublishes {kind : PublicationSession → PublicationSession.Task → Bool}
      (hkind : ∀ session task, kind session task = true → session.isAnnouncing task = true) :
      house.publishes kind world work = false := by
    apply Bool.eq_false_iff.mpr
    intro hpublishes
    obtain ⟨task, node, rfl, found, htask⟩ := eq_of_publishes hpublishes
    simp [reports, publishes, found, hkind node.core task htask] at h
  constructor
  · rw [confirms, hpublishes, Bool.false_and]
    intro session task hconfirms
    simp [PublicationSession.isAnnouncing, hconfirms]
  · rw [rejects, hpublishes, Bool.false_and]
    intro session task hrejects
    simp [PublicationSession.isAnnouncing, hrejects]

end House

namespace Facade

variable {task : Task} {facade : Facade} {number first : Nat} {argument : CallbackArgument}

/-- Callbacks that are told of publications are told when the facade hears that its session runs,
and at no other time. -/
theorem published_of_yields
    (h : Yields step recover task facade (.own (.telling .published argument number))) :
    (∃ error, task = .call (.publish (.publisherState true error))) ∨
      ∃ before, task = .telling .published argument before := by
  rcases hearing_of_yields h with ⟨event, rfl⟩ | ⟨before, -, rfl⟩
  · rcases h with hstep | ⟨fault, after, hrecover, -⟩
    · cases event with
      | serviceResolved service =>
          simp only [step, call, receive, serviceResolved] at hstep
          split at hstep <;> simp [emit, log] at hstep
      | serviceRemoved name =>
          simp only [step, call, receive, serviceRemoved] at hstep
          split at hstep <;> simp [emit, log] at hstep
      | browserState running error =>
          cases error <;> simp [step, call, receive, emit] at hstep
      | publisherState running error =>
          cases running with
          | true => exact Or.inl ⟨error, rfl⟩
          | false => cases error <;> simp [step, call, receive, emit] at hstep
      | serviceRenamed name => simp [step, call, receive, emit] at hstep
      | unknown => cases hstep
    · cases hrecover
  · exact Or.inr ⟨before, rfl⟩

/-- Told of a publication, the facade has each callback told once. -/
theorem countP_receive (house : House) (node : FacadeNode) (error : Bool) (facade : Facade) :
    ((receive (.publisherState true error) facade).2.map
      (Effect.work (ι := ι) house.index node)).countP (house.rings number) = 1 := by
  cases error <;> simp [receive, emit, Effect.work, House.rings]

/-- A callback is called when its turn has come, and is among those to be told before. -/
theorem countP_tell (house : House) (node : FacadeNode)
    (hnumber : number < facade.callbacks.published) :
    ((facade.tell .published argument first).map
      (Effect.work (ι := ι) house.index node)).countP (house.rings number) =
      (decide (first ≤ number)).toNat := by
  have hcount : facade.callbacks.count .published = facade.callbacks.published := rfl
  unfold tell
  split
  · rcases Nat.lt_trichotomy first number with hlt | rfl | hgt
    · simp [Effect.work, House.rings, hlt.ne, hlt.le, Nat.succ_le_of_lt hlt]
    · simp [Effect.work, House.rings]
    · have hnext : ¬ first + 1 ≤ number := by omega
      simp [Effect.work, House.rings, hgt.ne', hgt.not_ge, hnext]
  · have hlate : ¬ first ≤ number := by omega
    simp [hlate]

end Facade

/-- How a publication stands is reported by a publication session, under its own token. -/
theorem Brings.of_publisherState {world : World} {source : Work ι} {place : Nat} {token : Token}
    {running error : Bool}
    (h : Brings world source (.registry place (.call (.deliver token
      (.publisherState running error))))) :
    ∃ index task node, source = .publication index task ∧
      world.publications[index]? = some node ∧ node.registry = place ∧ node.core.token = token ∧
      Yields PublicationSession.step PublicationSession.recover task node.core
        (.deliver (.publisherState running error)) := by
  rcases h.of_delivery with ⟨index, task, node, rfl, found, -, yields⟩ |
    ⟨index, task, node, rfl, found, -, -, yields⟩ | hpublication
  · obtain ⟨service, hservice⟩ := ResolveQueue.resolved_of_yields yields
    cases hservice
  · exact absurd yields (BrowseSession.not_publisherState_of_yields node)
  · exact hpublication

/-- Who tells the facade that its service is published: its session, or a registry that has found
the facade behind a token. -/
theorem House.Stands.announced {house : House} {world : World} (stands : house.Stands world)
    {source brought : Work ι} (h : Brings world source brought)
    (hannounces : house.announces brought = true) :
    (house.announces source = true ∧ house.hears world = true) ∨
      house.misleads world source = true ∨ house.reports world source = true := by
  obtain ⟨error, rfl | rfl⟩ := House.announces_cases hannounces
  · obtain ⟨index, task, node, rfl, found, hregistry, htoken, yields⟩ := h.of_publisherState
    have hplace : index = house.member .publication := by
      apply stands.alone .publication index node.standing _ hregistry
      · rw [show node.standing.token = house.token .publication from htoken]
        exact house.owns_token .publication
      · simp [World.standing?, found]
    subst hplace
    have hannouncing := PublicationSession.announcing_of_yields yields
    exact Or.inr (Or.inr (by simp [House.reports, House.publishes, found, hannouncing]))
  · obtain ⟨place, token, rfl, hleads⟩ := h.of_hearing
    by_cases hown : place = house.registry ∧ token = house.token .publication
    · obtain ⟨rfl, rfl⟩ := hown
      exact Or.inl ⟨by simp [House.announces], by simp [House.hears, hleads]⟩
    · right
      left
      simp only [House.misleads, hleads, decide_true, Bool.true_and, Bool.not_eq_true',
        Bool.and_eq_false_iff, decide_eq_false_iff_not]
      exact not_and_or.mp hown

/-- Callbacks that are told of publications are told by a facade that hears of one, one after the
other. -/
theorem Brings.announced_of_rings {house : House} {number : Nat} {world : World}
    {source brought : Work ι} (h : Brings world source brought)
    (hrings : house.rings number brought = true) :
    (∃ error, source = .facade house.index (.call (.publish (.publisherState true error)))) ∨
      ∃ argument first, source = .facade house.index (.telling .published argument first) := by
  rcases House.rings_cases hrings with ⟨argument, rfl⟩ | ⟨argument, first, -, rfl⟩
  · obtain ⟨task, node, rfl, -, yields⟩ := h.of_callback
    obtain rfl := Facade.telling_of_yields yields
    exact Or.inr ⟨argument, number, rfl⟩
  · obtain ⟨task, node, rfl, -, yields⟩ := h.of_telling
    rcases Facade.published_of_yields yields with ⟨error, rfl⟩ | ⟨before, rfl⟩
    · exact Or.inl ⟨error, rfl⟩
    · exact Or.inr ⟨argument, before, rfl⟩

/-- What the facade is told of its publication on an agenda: nothing, or one report, which is next,
or comes after log lines. -/
inductive House.Bulletin (house : House) : List (Work ι) → Prop where
  | nothing {agenda : List (Work ι)} (silent : ∀ work ∈ agenda, house.announces work = false) :
      Bulletin house agenda
  | underway {lines rest : List (Work ι)} {report : Work ι}
      (hlines : ∀ line ∈ lines, ∃ record, line = .call (.log record))
      (announces : house.announces report = true)
      (silent : ∀ work ∈ rest, house.announces work = false) :
      Bulletin house (lines ++ report :: rest)

namespace Configuration

variable {surroundings : Surroundings ι σ} {start now after : Configuration ι σ}
  {past : List (Configuration ι σ)} {house : House} {number : Nat} {node : FacadeNode}
  {work : Work ι} {rest : List (Work ι)}

/-- Is the task in front of this kind? -/
def does (kind : World → Work ι → Bool) (now : Configuration ι σ) : Bool :=
  now.agenda.head?.any (kind now.world)

theorem does_of_front (kind : World → Work ι → Bool) (hagenda : now.agenda = work :: rest) :
    now.does kind = kind now.world work := by
  simp [does, hagenda]

/-- Nobody but its session tells the facade that its service is published. -/
structure Candid (surroundings : Surroundings ι σ) (house : House) (now : Configuration ι σ) :
    Prop where
  undirected : ∀ move ∈ now.moves surroundings, house.announces move.work = false
  unstrayed : now.does house.misleads = false

/-- Whatever a fault takes off the agenda, no callback that waits for its turn is among it: behind a
callback that runs the fault would have been stopped. -/
theorem countP_of_dropped {fault : Fault} {dropped : List (Work ι)}
    (found : now.world.facades[house.index]? = some node)
    (hchain : (Work.raise fault :: dropped).IsChain (Work.Waits house.index))
    (hdropped : ∀ work ∈ dropped, World.recover fault work now.world = none) :
    dropped.countP (house.rings number) = 0 := by
  have hunrung : ∀ task ∈ dropped, task.callback? house.index = none := by
    apply unrung_of_chain hchain _ rfl
    intro task hmem
    rcases List.mem_cons.mp hmem with rfl | hlater
    · rfl
    · apply Bool.eq_false_iff.mpr
      intro hcalling
      obtain ⟨kind, rfl⟩ := Work.eq_of_isCalling hcalling
      have hnone := hdropped _ hlater
      simp [World.recover, World.recoverWith, found, Facade.recover] at hnone
  apply List.countP_eq_zero.mpr
  intro task hmem hrings
  exact House.callback_of_rings hrings (hunrung task hmem)

/-- A fault that comes up leaves as many calls of the callback to be made as there were. -/
theorem countP_of_unwind {fault : Fault} (attended : Attended house.index now.agenda)
    (found : now.world.facades[house.index]? = some node)
    (hagenda : now.agenda = .raise fault :: rest) :
    (now.world.unwind fault rest).2.countP (house.rings number) =
      rest.countP (house.rings number) := by
  have hchain : (Work.raise fault :: rest).IsChain (Work.Waits house.index) := by
    obtain ⟨lines, others, hsplit, hlines, hchain⟩ := attended
    rw [hagenda] at hsplit
    cases lines with
    | nil =>
        rw [hsplit]
        exact hchain
    | cons line lines =>
        obtain ⟨rfl, -⟩ := List.cons.inj hsplit
        obtain ⟨record, hline⟩ := hlines _ List.mem_cons_self
        cases hline
  rcases World.unwind_cases fault now.world rest with
    ⟨dropped, task, kept, changed, tasks, rfl, hdropped, hrecover, heq⟩ | ⟨hnone, heq⟩
  · have hfront : dropped.countP (house.rings number) = 0 := by
      rw [← List.cons_append] at hchain
      exact countP_of_dropped found (List.isChain_append.mp hchain).1 hdropped
    have huntold (kind : CallbackKind) (argument : CallbackArgument) (first : Nat) :
        task ≠ .facade house.index (.telling kind argument first) := by
      rintro rfl
      obtain ⟨⟨kind, hkind⟩, -⟩ := World.recover_facade hrecover
      cases hkind
    have htask : house.rings number task = false := by
      apply Bool.eq_false_iff.mpr
      intro hrings
      rcases House.rings_cases hrings with ⟨argument, rfl⟩ | ⟨argument, first, -, htelling⟩
      · cases hrecover
      · exact huntold _ _ _ htelling
    have htasks : tasks.countP (house.rings number) = 0 := by
      apply List.countP_eq_zero.mpr
      intro brought hmem hrings
      rcases (World.brings_of_recover hrecover hmem).announced_of_rings hrings with
        ⟨error, rfl⟩ | ⟨argument, first, htelling⟩
      · cases (World.recover_operation (.facade _ _) _ _).symm.trans hrecover
      · exact huntold _ _ _ htelling
    rw [heq, List.countP_append, List.countP_append, List.countP_cons, htasks, hfront, htask]
    simp
  · rw [heq, countP_of_dropped found hchain hnone]
    rfl

/-- Where the task in front tells the facade of no publication, all else stays as it was: nothing is
announced that was not, and the callbacks that wait go on waiting. -/
theorem step_silent (stands : house.Stands now.world) (attended : Attended house.index now.agenda)
    (candid : now.Candid surroundings house)
    (found : now.world.facades[house.index]? = some node) (hagenda : now.agenda = work :: rest)
    (silent : ∀ other ∈ rest, house.announces other = false)
    (hfront : ∀ brought, Brings now.world work brought →
      house.announces brought = false ∧ house.rings number brought = false)
    (h : now.step surroundings = some after) :
    (∀ other ∈ after.agenda, house.announces other = false) ∧
      after.agenda.countP (house.rings number) = rest.countP (house.rings number) := by
  constructor
  · apply off_of_step h hagenda silent candid.undirected
    · intro brought hbrings
      exact (hfront brought hbrings).1
    · intro fault source changed tasks hsource hrecover brought hmem
      apply Bool.eq_false_iff.mpr
      intro hannounces
      rcases stands.announced (World.brings_of_recover hrecover hmem) hannounces with
        ⟨hsame, -⟩ | hmisleads | hreports
      · cases (silent source hsource).symm.trans hsame
      · unfold House.misleads at hmisleads
        split at hmisleads
        · cases (World.recover_operation (.registry _ _) _ _).symm.trans hrecover
        · cases hmisleads
      · obtain ⟨task, session, rfl, -, hannouncing⟩ := House.eq_of_publishes hreports
        obtain ⟨operation, rfl⟩ := PublicationSession.call_of_announcing hannouncing
        cases (World.recover_operation (.publication _ _) _ _).symm.trans hrecover
  · obtain ⟨first, others, hfirst, hcases⟩ := step_cases h
    obtain ⟨rfl, rfl⟩ := List.cons.inj (hfirst.symm.trans hagenda)
    rcases hcases with ⟨tasks, hbecomes, htasks⟩ | ⟨fault, rfl, hunwind⟩
    · have hnone : tasks.countP (house.rings number) = 0 := by
        apply List.countP_eq_zero.mpr
        intro brought hmem hrings
        rcases front_sources h hagenda hbecomes.ne_raise htasks brought hmem with
          ⟨move, -, rfl⟩ | hbrings
        · exact House.callback_of_rings hrings (Work.callback_of_move house.index move)
        · cases (hfront brought hbrings).2.symm.trans hrings
      rw [htasks, List.countP_append, hnone, Nat.zero_add]
    · rw [← countP_of_unwind attended found hagenda]
      exact congrArg (List.countP _) (congrArg Prod.snd hunwind)

/-- In a step the callback is called or owed once more for each report that the session makes, and
what was owed stays owed until it is called. -/
def Balances (house : House) (number : Nat) (now after : Configuration ι σ) : Prop :=
  (now.does fun _ => house.calls number).toNat +
      after.agenda.countP (house.owes number after.world) =
    now.agenda.countP (house.owes number now.world) + (now.does house.confirms).toNat +
      (now.does house.rejects).toNat

theorem balances_of_front (hagenda : now.agenda = work :: rest)
    (h : (house.calls number work).toNat + after.agenda.countP (house.owes number after.world) =
      rest.countP (house.owes number now.world) + (house.owes number now.world work).toNat +
        (house.confirms now.world work).toNat + (house.rejects now.world work).toNat) :
    Balances house number now after := by
  have howed : now.agenda.countP (house.owes number now.world) =
      rest.countP (house.owes number now.world) + (house.owes number now.world work).toNat := by
    rw [hagenda, List.countP_cons]
    cases house.owes number now.world work <;> rfl
  rw [Balances, howed, does_of_front _ hagenda, does_of_front _ hagenda, does_of_front _ hagenda]
  exact h

/-- Where no report is under way and no callbacks are told of one, there is none later unless the
session makes one. -/
theorem Candid.step_unannounced (candid : now.Candid surroundings house)
    (stands : house.Stands now.world) (attended : Attended house.index now.agenda)
    (found : now.world.facades[house.index]? = some node) (hagenda : now.agenda = work :: rest)
    (silent : ∀ other ∈ now.agenda, house.announces other = false)
    (hmute : house.reports now.world work = false)
    (untold : ∀ argument first, work ≠ .facade house.index (.telling .published argument first))
    (h : now.step surroundings = some after) :
    house.Bulletin after.agenda ∧ Balances house number now after := by
  have hwork : house.announces work = false := silent work (by simp [hagenda])
  have hfront (brought : Work ι) (hbrings : Brings now.world work brought) :
      house.announces brought = false ∧ house.rings number brought = false := by
    constructor
    · apply Bool.eq_false_iff.mpr
      intro hannounces
      rcases stands.announced hbrings hannounces with ⟨hsame, -⟩ | hmisleads | hreports
      · cases hwork.symm.trans hsame
      · cases candid.unstrayed.symm.trans ((does_of_front _ hagenda).trans hmisleads)
      · cases hmute.symm.trans hreports
    · apply Bool.eq_false_iff.mpr
      intro hrings
      rcases hbrings.announced_of_rings hrings with ⟨error, rfl⟩ | ⟨argument, first, htelling⟩
      · simp [House.announces] at hwork
      · exact untold argument first htelling
  have hrest : ∀ other ∈ rest, house.announces other = false := by
    intro other hmem
    exact silent other (by simp [hagenda, hmem])
  obtain ⟨hsilent, hcount⟩ := step_silent stands attended candid found hagenda hrest hfront h
  refine ⟨.nothing hsilent, ?_⟩
  obtain ⟨hconfirms, hrejects⟩ := House.unreported hmute
  apply balances_of_front hagenda
  rw [House.countP_owes hsilent, hcount, House.countP_owes hrest, House.owes_of_silent hwork,
    House.calls_eq_rings untold, hconfirms, hrejects]
  exact Nat.add_comm _ _

/-- Callbacks that are told of a publication are called one by one, and each was owed its call. -/
theorem step_ringing {argument : CallbackArgument} {first : Nat}
    (found : now.world.facades[house.index]? = some node)
    (hnumber : number < node.core.callbacks.published)
    (hagenda : now.agenda = .facade house.index (.telling .published argument first) :: rest)
    (silent : ∀ other ∈ now.agenda, house.announces other = false)
    (h : now.step surroundings = some after) :
    house.Bulletin after.agenda ∧ Balances house number now after := by
  have hafter : after.agenda = (node.core.tell .published argument first).map
      (Facade.Effect.work house.index node) ++ rest := by
    rw [Option.some.inj (h.symm.trans (step_facade found hagenda))]
    rfl
  have hrest : ∀ other ∈ rest, house.announces other = false := by
    intro other hmem
    exact silent other (by simp [hagenda, hmem])
  have hsilent : ∀ other ∈ after.agenda, house.announces other = false := by
    intro other hmem
    rw [hafter] at hmem
    rcases List.mem_append.mp hmem with hnew | hold
    · obtain ⟨effect, heffect, rfl⟩ := List.mem_map.mp hnew
      obtain ⟨-, rfl | rfl | rfl⟩ := Facade.mem_tell heffect <;> rfl
    · exact hrest other hold
  refine ⟨.nothing hsilent, ?_⟩
  apply balances_of_front hagenda
  rw [House.countP_owes hsilent, hafter, List.countP_append, Facade.countP_tell house node hnumber,
    House.countP_owes hrest]
  simp [House.calls, House.owes, House.confirms, House.rejects, House.publishes, Nat.add_comm]

/-- When the session reports that its service is published, the report comes next, behind a log
line, and nothing else that the session does tells the facade of a publication. -/
theorem agenda_of_reporting (stands : house.Stands now.world)
    (hagenda : now.agenda = work :: rest) (hreports : house.reports now.world work = true)
    (h : now.step surroundings = some after) :
    ∃ record error tasks, after.agenda = [.call (.log record)] ++
        .registry house.registry
          (.call (.deliver (house.token .publication) (.publisherState true error))) ::
        (tasks ++ rest) ∧
      (∀ task ∈ tasks, house.announces task = false ∧ house.rings number task = false) ∧
      house.hears after.world = house.hears now.world := by
  obtain ⟨task, node, rfl, found, hannouncing⟩ := House.eq_of_publishes hreports
  obtain ⟨record, error, others, heffects, hothers⟩ :=
    PublicationSession.step_announcing hannouncing
  obtain ⟨s, hs, hregistry, htoken⟩ := stands.session .publication
  obtain rfl : node.standing = s := by
    simpa [World.standing?, found] using hs
  change node.registry = _ at hregistry
  change node.core.token = _ at htoken
  have hstep := Option.some.inj (h.symm.trans (step_publication found hagenda))
  refine ⟨record, error,
    others.map (PublicationSession.Effect.work (house.member .publication) node), ?_, ?_, ?_⟩
  · rw [hstep, heffects, ← hregistry, ← htoken]
    rfl
  · intro brought hmem
    obtain ⟨effect, heffect, rfl⟩ := List.mem_map.mp hmem
    cases effect with
    | deliver event =>
        refine ⟨Bool.eq_false_iff.mpr fun hannounces => ?_, rfl⟩
        obtain ⟨error, heq | heq⟩ := House.announces_cases hannounces
        · obtain ⟨-, -, rfl⟩ : node.registry = house.registry ∧
              node.core.token = house.token .publication ∧ event = .publisherState true error := by
            simpa [PublicationSession.Effect.work] using heq
          exact hothers error heffect
        · cases heq
    | _ => exact ⟨rfl, rfl⟩
  · rw [hstep]
    rfl

/-- For a report of the session that the facade hears, a call of the callback is owed. -/
theorem step_reporting (stands : house.Stands now.world) (hagenda : now.agenda = work :: rest)
    (silent : ∀ other ∈ now.agenda, house.announces other = false)
    (hreports : house.reports now.world work = true)
    (h : now.step surroundings = some after) :
    house.Bulletin after.agenda ∧ Balances house number now after := by
  obtain ⟨record, error, tasks, hafter, htasks, hhears⟩ :=
    @agenda_of_reporting ι σ surroundings now after house number work rest stands hagenda hreports h
  have hrest : ∀ other ∈ rest, house.announces other = false := by
    intro other hmem
    exact silent other (by simp [hagenda, hmem])
  have hsilent : ∀ other ∈ tasks ++ rest, house.announces other = false := by
    intro other hmem
    rcases List.mem_append.mp hmem with hnew | hold
    · exact (htasks other hnew).1
    · exact hrest other hold
  constructor
  · rw [hafter]
    apply House.Bulletin.underway _ _ hsilent
    · simp
    · simp [House.announces]
  · have hnone : tasks.countP (house.rings number) = 0 := by
      apply List.countP_eq_zero.mpr
      intro brought hmem hrings
      cases (htasks brought hmem).2.symm.trans hrings
    have howed : after.agenda.countP (house.owes number after.world) =
        rest.countP (house.rings number) + (house.hears now.world).toNat := by
      rw [hafter, List.singleton_append, List.countP_cons, List.countP_cons,
        House.countP_owes hsilent, List.countP_append, hnone, ← hhears]
      cases hheard : house.hears after.world <;> simp [House.owes, hheard]
    have hcount := House.confirms_or_rejects hreports
    obtain ⟨task, node, rfl, -, -⟩ := House.eq_of_publishes hreports
    apply balances_of_front hagenda
    rw [howed, House.countP_owes hrest]
    simp only [House.calls, House.owes, Bool.toNat_false]
    omega

/-- A registry that finds the facade behind the token of its session hands the report on. -/
theorem step_delivery {error : Bool} (hheard : house.hears now.world = true)
    (hagenda : now.agenda = .registry house.registry
      (.call (.deliver (house.token .publication) (.publisherState true error))) :: rest)
    (silent : ∀ other ∈ rest, house.announces other = false)
    (h : now.step surroundings = some after) :
    house.Bulletin after.agenda ∧ Balances house number now after := by
  have hleads := of_decide_eq_true hheard
  obtain rfl := Option.some.inj (h.symm.trans (step_deliver hleads hagenda))
  constructor
  · apply @House.Bulletin.underway ι house []
    · simp
    · simp [House.announces]
    · intro other hmem
      rcases List.mem_cons.mp hmem with rfl | hold
      · rfl
      · exact silent other hold
  · apply balances_of_front hagenda
    rw [List.countP_cons, List.countP_cons]
    simp [House.calls, House.owes, House.confirms, House.rejects, House.publishes, hheard]

/-- A report of a session that was detached is heard by nobody, and nobody counted on it. -/
theorem Candid.step_unheard {error : Bool} (candid : now.Candid surroundings house)
    (stands : house.Stands now.world) (attended : Attended house.index now.agenda)
    (found : now.world.facades[house.index]? = some node) (hheard : house.hears now.world = false)
    (hagenda : now.agenda = .registry house.registry
      (.call (.deliver (house.token .publication) (.publisherState true error))) :: rest)
    (silent : ∀ other ∈ rest, house.announces other = false)
    (h : now.step surroundings = some after) :
    house.Bulletin after.agenda ∧ Balances house number now after := by
  have hfront (brought : Work ι) (hbrings : Brings now.world (.registry house.registry
        (.call (.deliver (house.token .publication) (.publisherState true error)))) brought) :
      house.announces brought = false ∧ house.rings number brought = false := by
    constructor
    · apply Bool.eq_false_iff.mpr
      intro hannounces
      rcases stands.announced hbrings hannounces with ⟨-, hhears⟩ | hmisleads | hreports
      · cases hheard.symm.trans hhears
      · cases candid.unstrayed.symm.trans ((does_of_front _ hagenda).trans hmisleads)
      · cases hreports
    · apply Bool.eq_false_iff.mpr
      intro hrings
      rcases hbrings.announced_of_rings hrings with ⟨error, heq⟩ | ⟨argument, first, heq⟩ <;>
        cases heq
  obtain ⟨hsilent, hcount⟩ := step_silent stands attended candid found hagenda silent hfront h
  refine ⟨.nothing hsilent, ?_⟩
  apply balances_of_front hagenda
  rw [House.countP_owes hsilent, hcount, House.countP_owes silent]
  simp [House.calls, House.owes, House.confirms, House.rejects, House.publishes, hheard]

/-- A facade that is told of a publication owes each callback a call. -/
theorem step_told {error : Bool} (found : now.world.facades[house.index]? = some node)
    (hagenda : now.agenda =
      .facade house.index (.call (.publish (.publisherState true error))) :: rest)
    (silent : ∀ other ∈ rest, house.announces other = false)
    (h : now.step surroundings = some after) :
    house.Bulletin after.agenda ∧ Balances house number now after := by
  have hafter : after.agenda = (Facade.receive (.publisherState true error) node.core).2.map
      (Facade.Effect.work house.index node) ++ rest := by
    rw [Option.some.inj (h.symm.trans (step_facade found hagenda))]
    rfl
  have hsilent : ∀ other ∈ after.agenda, house.announces other = false := by
    intro other hmem
    rw [hafter] at hmem
    rcases List.mem_append.mp hmem with hnew | hold
    · obtain ⟨effect, heffect, rfl⟩ := List.mem_map.mp hnew
      have htells := Facade.receive_telling _ node.core effect heffect
      cases effect with
      | own task => cases task <;> first | rfl | cases htells
      | log record => rfl
      | _ => cases htells
    · exact silent other hold
  refine ⟨.nothing hsilent, ?_⟩
  apply balances_of_front hagenda
  rw [House.countP_owes hsilent, hafter, List.countP_append,
    Facade.countP_receive house node error node.core, House.countP_owes silent]
  simp [House.calls, House.owes, House.confirms, House.rejects, House.publishes, Nat.add_comm]

/-- In each step the callback is called, or owed, as often as the session reports that its service
is published. -/
theorem Candid.step_balances
    (hlog : ∀ record world around, (surroundings.answer (.log record) world around).2 = [])
    (candid : now.Candid surroundings house) (stands : house.Stands now.world)
    (attended : Attended house.index now.agenda)
    (found : now.world.facades[house.index]? = some node)
    (hnumber : number < node.core.callbacks.published) (bulletin : house.Bulletin now.agenda)
    (h : now.step surroundings = some after) :
    house.Bulletin after.agenda ∧ Balances house number now after := by
  generalize hagenda : now.agenda = agenda at bulletin
  cases bulletin with
  | nothing silent =>
      subst hagenda
      obtain ⟨work, rest, hagenda, -⟩ := step_cases h
      by_cases htelling : ∃ argument first,
          work = .facade house.index (.telling .published argument first)
      · obtain ⟨argument, first, rfl⟩ := htelling
        exact step_ringing found hnumber hagenda silent h
      · have huntold (argument : CallbackArgument) (first : Nat) :
            work ≠ .facade house.index (.telling .published argument first) :=
          fun heq => htelling ⟨argument, first, heq⟩
        cases hreports : house.reports now.world work with
        | true => exact step_reporting stands hagenda silent hreports h
        | false =>
            exact candid.step_unannounced stands attended found hagenda silent hreports huntold h
  | @underway lines rest report hlines announces silent =>
      cases lines with
      | nil =>
          obtain ⟨error, rfl | rfl⟩ := House.announces_cases announces
          · cases hheard : house.hears now.world with
            | true => exact step_delivery hheard hagenda silent h
            | false => exact candid.step_unheard stands attended found hheard hagenda silent h
          · exact step_told found hagenda silent h
      | cons line lines =>
          obtain ⟨record, rfl⟩ := hlines line List.mem_cons_self
          have hafter : after.agenda = lines ++ report :: rest := by
            rw [agenda_of_call hagenda h]
            simp [moves, hagenda, hlog]
          constructor
          · rw [hafter]
            apply House.Bulletin.underway _ announces silent
            intro other hmem
            exact hlines other (List.mem_cons_of_mem _ hmem)
          · apply balances_of_front hagenda
            rw [world_of_call hagenda h, hafter]
            simp [House.calls, House.owes, House.confirms, House.rejects, House.publishes]

/-- A callback that is told of publications has been called, or is still to be called, once for each
registration that the platform confirmed to a session that was attached and knew of one, and once
for each start that was rejected while the service was published. -/
theorem published_callback_counts
    (hlog : ∀ record world around, (surroundings.answer (.log record) world around).2 = [])
    (stands : house.Stands start.world)
    (found : start.world.facades[house.index]? = some node)
    (hnumber : number < node.core.callbacks.published)
    (unrung : ∀ task ∈ start.agenda, task.callback? house.index = none)
    (silent : ∀ task ∈ start.agenda, house.announces task = false)
    (course : Course surroundings start past now)
    (candid : ∀ moment ∈ past, moment.Candid surroundings house) :
    past.countP (·.does fun _ => house.calls number) +
        now.agenda.countP (house.owes number now.world) =
      past.countP (·.does house.confirms) + past.countP (·.does house.rejects) := by
  have hcourse : house.Bulletin now.agenda ∧ past.countP (·.does fun _ => house.calls number) +
      now.agenda.countP (house.owes number now.world) =
        past.countP (·.does house.confirms) + past.countP (·.does house.rejects) := by
    induction course with
    | start =>
        refine ⟨.nothing silent, ?_⟩
        rw [House.countP_owes silent, List.countP_nil, List.countP_nil, List.countP_nil,
          Nat.zero_add]
        apply List.countP_eq_zero.mpr
        intro task hmem hrings
        exact House.callback_of_rings hrings (unrung task hmem)
    | @step past now after course step ih =>
        obtain ⟨bulletin, hcount⟩ := ih fun moment hmem =>
          candid moment (List.mem_append_left _ hmem)
        obtain ⟨later, hlater, hmore⟩ := course.callbacks found .published
        obtain ⟨hbulletin, hbalance⟩ := (candid now (by simp)).step_balances hlog
          (course.stands stands) (course.attended hlog stands unrung) hlater
          (hnumber.trans_le hmore) bulletin step
        refine ⟨hbulletin, ?_⟩
        have hlast (kind : World → Work ι → Bool) :
            (past ++ [now]).countP (·.does kind) =
              past.countP (·.does kind) + (now.does kind).toNat := by
          rw [List.countP_append, List.countP_singleton]
          cases now.does kind <;> rfl
        rw [Balances] at hbalance
        rw [hlast, hlast, hlast]
        omega
  exact hcourse.2

/-- The platform gives a printer another name, and the first of two callbacks fails when it is told.
A second start is rejected, at which that callback withdraws the printer. Neither a confirmation
that comes too late nor a start that the platform refuses counts. Then a lamp is published, the
facade is closed, and the lamp is confirmed once more. -/
theorem published_callback_counts_of_withdrawn :
    let house : House := {
      index := 0
      registry := 0
      member := fun _ => 0
      token := fun kind => if kind = .browse then 1 else 2 }
    let confirm (name : Text.Points) : Move Empty :=
      .perform (.publication 0 (.notice (.registered name "_ipp._tcp")))
    let publish (name : Text.Points) : Work Empty :=
      .facade 0 (.call (.startPublish name "_ipp._tcp" (.int 631)))
    let start : Configuration Empty (List (List (Move Empty))) := run .staged 1 {
      world := { platforms := [.outside] }
      around := [[confirm "Printer (2)"],
        [.raise (.outside .value "not today")],
        [],
        [],
        [.perform (.facade 0 .stopPublish)],
        [.perform (.publication 0 (.notice .unregistered))],
        [],
        [],
        [.raise (.invalidService "no name")],
        [],
        [confirm "Lamp"]]
      agenda := [.build (.facade 0 none none { published := 2, renamed := 1, error := 1 }),
        publish "Printer", publish "Lamp", (confirm "Printer").work, publish "", publish "Lamp",
        .facade 0 (.call .close), (confirm "Lamp").work] }
    let now := run .staged 120 start
    let past := trail .staged 120 start
    now.agenda.length = 0 ∧ past.countP (·.does house.confirms) = 2 ∧
      past.countP (·.does house.rejects) = 1 ∧
      past.countP (·.does fun _ => house.calls 1) +
          now.agenda.countP (house.owes 1 now.world) =
        past.countP (·.does house.confirms) + past.countP (·.does house.rejects) := by
  intro house confirm publish start now past
  have hstands : house.Stands start.world := by
    constructor
    · exact ⟨_, rfl, rfl, rfl⟩
    · intro kind
      cases kind <;> exact ⟨_, rfl, rfl, rfl⟩
    · refine ⟨_, rfl, ?_⟩
      intro kind
      cases kind <;> decide
    · intro kind place s found _ _
      cases place with
      | zero => rfl
      | succ place => cases kind <;> cases found
  have hcourse : Course .staged start past now := course_run ..
  have hunrung : ∀ task ∈ start.agenda, task.callback? house.index = none := by decide +kernel
  have hsilent : ∀ task ∈ start.agenda, house.announces task = false := by decide +kernel
  have hmoves : ∀ moment ∈ past, ∀ move ∈ moment.moves .staged,
      house.announces move.work = false := by
    decide +kernel
  have hunstrayed : ∀ moment ∈ past, moment.does house.misleads = false := by decide +kernel
  refine ⟨by decide +kernel, by decide +kernel, by decide +kernel, ?_⟩
  apply published_callback_counts Surroundings.staged_quiet.log hstands rfl (by decide) hunrung
    hsilent hcourse
  intro moment hmem
  exact ⟨hmoves moment hmem, hunstrayed moment hmem⟩

/-- A printer is published and confirmed once. A second start is rejected, and the callback is
called again as if another service had been published. -/
theorem rejected_start_announced_again :
    let house : House := {
      index := 0
      registry := 0
      member := fun _ => 0
      token := fun kind => if kind = .browse then 1 else 2 }
    let publish (name : Text.Points) : Work Empty :=
      .facade 0 (.call (.startPublish name "_ipp._tcp" (.int 631)))
    let start : Configuration Empty (List (List (Move Empty))) := {
      world := { platforms := [.outside] }
      around := [[.perform (.publication 0 (.notice (.registered "Printer" "_ipp._tcp")))]]
      agenda := [.build (.facade 0 none none { published := 1, error := 1 }), publish "Printer",
        publish "Lamp"] }
    let now := run .staged 40 start
    let past := trail .staged 40 start
    now.agenda.length = 0 ∧ past.countP (·.does fun _ => house.calls 0) = 2 ∧
      past.countP (·.does house.confirms) = 1 ∧ past.countP (·.does house.rejects) = 1 := by
  decide +kernel

end Configuration

end ServiceDiscovery
