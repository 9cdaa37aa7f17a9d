import ServiceDiscovery.Proofs.Facade.House
import ServiceDiscovery.Proofs.Session.Lifecycle

/-!
The flags of a facade, which are a second copy of what its sessions know. A session changes first
and reports behind log lines only, so the report reaches the facade before anybody else can look at
either of them. Where a session changes without a report, it runs or not as it did before, and that
is what its life cycle is needed for.
-/

namespace ServiceDiscovery

variable {ι σ : Type}

namespace Facade

/-- What the facade takes the session of a kind to do: does it run? -/
def flag (kind : SessionKind) (facade : Facade) : Bool :=
  match kind with
  | .browse => facade.browserExists
  | .publication => facade.publishExists

theorem flag_receive (kind other : SessionKind) (running error : Bool) (facade : Facade) :
    ((receive (kind.state running error) facade).1).flag other =
      if other = kind then running else facade.flag other := by
  cases kind <;> cases other <;> rfl

theorem flag_receive_of_other {event : Event} (hevent : event.isState = false)
    (kind : SessionKind) (facade : Facade) :
    (receive event facade).1.flag kind = facade.flag kind := by
  cases event with
  | browserState running error => cases hevent
  | publisherState running error => cases hevent
  | serviceResolved service =>
      simp only [receive, serviceResolved]
      split <;> cases kind <;> rfl
  | serviceRemoved name =>
      simp only [receive, serviceRemoved]
      split <;> cases kind <;> rfl
  | serviceRenamed name => rfl
  | unknown => rfl

/-- Flags change by reports of sessions and at the end of closing. -/
theorem flag_step {task : Task}
    (hpublish : ∀ event, task = .call (.publish event) → event.isState = false)
    (hclosing : task ≠ .closing) (kind : SessionKind) (facade : Facade) :
    (step task facade).1.flag kind = facade.flag kind := by
  cases task with
  | telling kind argument number => rfl
  | calling kind => rfl
  | closing => exact absurd rfl hclosing
  | call operation =>
      cases operation with
      | publish event => exact flag_receive_of_other (hpublish event rfl) kind facade
      | _ => cases kind <;> rfl

end Facade

/-- What a queue delivers are services that were resolved. -/
theorem ResolveQueue.resolved_of_yields {task : ResolveQueue.Task} {queue : ResolveQueue}
    {session : Token} {event : Event}
    (h : Yields ResolveQueue.step ResolveQueue.recover task queue (.deliver session event)) :
    ∃ service, event = .serviceResolved service := by
  have hdeed (turn : Turn) (hmem : .deliver session event ∈ (take turn queue).2) :
      ∃ service, event = .serviceResolved service := by
    have hdelivery : (session, event) ∈ (take turn queue).2.filterMap Effect.delivery? :=
      List.mem_filterMap.mpr ⟨_, hmem, rfl⟩
    rw [(taken turn queue).delivers] at hdelivery
    cases hdone : ResolveQueue.deed turn queue with
    | resolved request service =>
        rw [hdone] at hdelivery
        exact ⟨service, (Prod.mk.inj (List.mem_singleton.mp hdelivery)).2⟩
    | _ =>
        rw [hdone] at hdelivery
        cases hdelivery
  rcases h with hstep | ⟨fault, after, hrecover, hmem⟩
  · exact hdeed (.run task) hstep
  · cases task with
    | resolving ref =>
        obtain rfl : queue.rejected ref fault = after := Option.some.inj hrecover
        exact hdeed (.refused ref fault) hmem
    | _ => cases hrecover

namespace ChannelRegistry

variable {task : Task} {registry : ChannelRegistry} {event : Event}

/-- A registry gives an event to whom it finds behind the token. -/
theorem deliver_of_yields {receiver : Receiver}
    (h : Yields step recover task registry (.publish receiver event)) :
    ∃ token, task = .call (.deliver token event) ∧ registry.receiver? token = some receiver := by
  rcases h with hstep | ⟨fault, after, hrecover, hmem⟩
  · cases task with
    | delivering token event => simp [step] at hstep
    | call operation =>
        cases operation with
        | deliver token given =>
            simp only [step] at hstep
            split at hstep
            · simp at hstep
            · rename_i found hfound
              simp only [List.mem_cons, Effect.publish.injEq, List.not_mem_nil, or_false] at hstep
              rcases hstep with ⟨rfl, rfl⟩ | hown
              · exact ⟨token, rfl, hfound⟩
              · cases hown
        | _ => simp [step] at hstep
  · cases task with
    | delivering token event =>
        obtain rfl := Option.some.inj hrecover
        simp at hmem
    | call operation => cases hrecover

/-- A registry calls nothing of its own. -/
theorem not_call_of_yields (operation : Operation) :
    ¬ Yields step recover task registry (.own (.call operation)) := by
  rintro (hstep | ⟨fault, after, hrecover, hmem⟩)
  · cases task with
    | delivering token event => simp [step] at hstep
    | call called =>
        cases called with
        | deliver token given =>
            simp only [step] at hstep
            split at hstep <;> simp at hstep
        | _ => simp [step] at hstep
  · cases task with
    | delivering token event =>
        obtain rfl := Option.some.inj hrecover
        simp at hmem
    | call called => cases hrecover

end ChannelRegistry

/-- A facade calls nothing of its own. -/
theorem Facade.not_call_of_yields {task : Facade.Task} {facade : Facade}
    (operation : Facade.Operation) :
    ¬ Yields Facade.step Facade.recover task facade (.own (.call operation)) := by
  rintro (hstep | ⟨fault, after, hrecover, hmem⟩)
  · cases task with
    | telling kind argument number =>
        obtain ⟨-, heq | heq | heq⟩ := Facade.mem_tell hstep <;> cases heq
    | calling kind => cases hstep
    | closing => simp [Facade.step, Facade.log] at hstep
    | call called =>
        cases called with
        | publish event => cases Facade.receive_telling event facade _ hstep
        | _ => simp [Facade.step, Facade.call] at hstep
  · obtain ⟨-, -, record, heffects⟩ := Facade.recover_eq_some hrecover
    rw [heffects] at hmem
    cases List.mem_singleton.mp hmem

/-- Whoever is given an event was found behind a token by a registry. -/
theorem Brings.of_publish {world : World} {source : Work ι} {wire : Nat} {receiver : Receiver}
    {event : Event}
    (h : Brings world source ((ChannelRegistry.Effect.publish receiver event).work wire)) :
    ∃ place token, source = .registry place (.call (.deliver token event)) ∧
      world.leads? place token = some receiver := by
  generalize hbrought : (ChannelRegistry.Effect.publish receiver event).work (ι := ι) wire =
    brought at h
  cases h with
  | @registry place task registry effect found yields =>
      cases effect with
      | publish other given =>
          obtain ⟨rfl, rfl⟩ : receiver = other ∧ event = given := by
            cases receiver <;> cases other <;> cases hbrought <;> exact ⟨rfl, rfl⟩
          obtain ⟨token, rfl, hreceiver⟩ := ChannelRegistry.deliver_of_yields yields
          exact ⟨place, token, rfl, by simp [World.leads?, found, hreceiver]⟩
      | _ => cases receiver <;> cases hbrought
  | @facade place task node effect found yields =>
      cases effect with
      | own task =>
          cases receiver with
          | outside channel => cases hbrought
          | facade index =>
              cases hbrought
              exact absurd yields (Facade.not_call_of_yields _)
      | _ => cases receiver <;> cases hbrought
  | routed platform request listener =>
      simp only [World.route] at hbrought
      split at hbrought <;> cases receiver <;> cases hbrought
  | notified listener notice =>
      cases listener with
      | outside label => cases receiver <;> cases hbrought
      | member place => cases notice <;> cases receiver <;> cases hbrought
  | @queue place task node effect found yields =>
      cases effect <;> cases receiver <;> cases hbrought
  | @browse place task node effect found yields =>
      cases effect <;> cases receiver <;> cases hbrought
  | @publication place task node effect found yields =>
      cases effect <;> cases receiver <;> cases hbrought
  | @platform place task core effect found yields =>
      cases effect <;> cases receiver <;> cases hbrought
  | _ => cases receiver <;> cases hbrought

/-- A facade hears of an event because a registry found it behind a token. -/
theorem Brings.of_hearing {world : World} {source : Work ι} {index : Nat} {event : Event}
    (h : Brings world source (.facade index (.call (.publish event)))) :
    ∃ place token, source = .registry place (.call (.deliver token event)) ∧
      world.leads? place token = some (.facade index) :=
  @Brings.of_publish ι world source 0 (.facade index) event h

/-- An event is to be delivered because a queue or a session says so, under the session's token. -/
theorem Brings.of_delivery {world : World} {source : Work ι} {place : Nat} {token : Token}
    {event : Event} (h : Brings world source (.registry place (.call (.deliver token event)))) :
    (∃ index task node, source = .queue index task ∧ world.queues[index]? = some node ∧
        node.registry = place ∧
        Yields ResolveQueue.step ResolveQueue.recover task node.core (.deliver token event)) ∨
      (∃ index task node, source = .browse index task ∧ world.browsers[index]? = some node ∧
        node.registry = place ∧ node.core.token = token ∧
        Yields BrowseSession.step BrowseSession.recover task node.core (.deliver event)) ∨
      ∃ index task node, source = .publication index task ∧
        world.publications[index]? = some node ∧ node.registry = place ∧ node.core.token = token ∧
        Yields PublicationSession.step PublicationSession.recover task node.core
          (.deliver event) := by
  generalize hbrought : Work.registry place (.call (.deliver token event)) = brought at h
  cases h with
  | @queue index task node effect found yields =>
      cases effect with
      | deliver session event =>
          cases hbrought
          exact Or.inl ⟨index, task, node, rfl, found, rfl, yields⟩
      | _ => cases hbrought
  | @browse index task node effect found yields =>
      cases effect with
      | deliver event =>
          cases hbrought
          exact Or.inr (Or.inl ⟨index, task, node, rfl, found, rfl, rfl, yields⟩)
      | _ => cases hbrought
  | @publication index task node effect found yields =>
      cases effect with
      | deliver event =>
          cases hbrought
          exact Or.inr (Or.inr ⟨index, task, node, rfl, found, rfl, rfl, yields⟩)
      | _ => cases hbrought
  | @registry index task registry effect found yields =>
      cases effect with
      | own task =>
          cases hbrought
          exact absurd yields (ChannelRegistry.not_call_of_yields _)
      | publish receiver event => cases receiver <;> cases hbrought
      | _ => cases hbrought
  | @facade index task node effect found yields => cases effect <;> cases hbrought
  | @platform index task core effect found yields => cases effect <;> cases hbrought
  | routed platform request listener =>
      simp only [World.route] at hbrought
      split at hbrought <;> cases hbrought
  | notified listener notice =>
      cases listener with
      | outside label => cases hbrought
      | member index => cases notice <;> cases hbrought
  | _ => cases hbrought

namespace House

variable {house : House} {world changed : World} {kind : SessionKind}

/-- Does the work tell the facade how a session stands? -/
def informs (house : House) : Work ι → Bool
  | .registry place (.call (.deliver token event)) =>
      place = house.registry && house.owns token && event.isState
  | .facade place (.call (.publish event)) => place = house.index && event.isState
  | _ => false

/-- Does the work tell the facade how a session stands, and not under a token of the house? -/
def strays (house : House) (world : World) : Work ι → Bool
  | .registry place (.call (.deliver token event)) =>
      world.leads? place token = some (.facade house.index) && event.isState &&
        !(place = house.registry && house.owns token)
  | _ => false

/-- Does the work close the facade or one of its sessions, wholly or in part? -/
def closes (house : House) : Work ι → Bool
  | .facade place (.call .close) | .facade place .closing => place = house.index
  | .browse place (.call .close) | .browse place .closing => place = house.member .browse
  | .publication place (.call .close) | .publication place .closing =>
      place = house.member .publication
  | .registry place (.call (.detach token)) => place = house.registry && house.owns token
  | _ => false

/-- What the facade takes a session of its to do. -/
def shown? (house : House) (kind : SessionKind) (world : World) : Option Bool :=
  world.facades[house.index]?.map (·.core.flag kind)

/-- What a session of the house does. -/
def runs? (house : House) (kind : SessionKind) (world : World) : Option Bool :=
  (world.standing? kind (house.member kind)).map (·.running)

/-- Who tells the facade how a session stands: a registry that found it behind a token, or a session
of this registry that has a token of the house. -/
theorem informs_of_brings {source brought : Work ι} (h : Brings world source brought)
    (hinforms : house.informs brought = true) :
    (∃ place token event, source = .registry place (.call (.deliver token event)) ∧
        event.isState = true ∧ world.leads? place token = some (.facade house.index)) ∨
      ∃ kind place s, source.isOf kind place = true ∧ world.standing? kind place = some s ∧
        s.registry = house.registry ∧ house.owns s.token = true ∧ brought.reports = true := by
  unfold informs at hinforms
  split at hinforms
  · simp only [Bool.and_eq_true, decide_eq_true_eq] at hinforms
    obtain ⟨⟨hregistry, howns⟩, hevent⟩ := hinforms
    right
    rcases h.of_delivery with ⟨index, task, node, rfl, found, hwire, yields⟩ |
      ⟨index, task, node, rfl, found, hwire, rfl, yields⟩ |
      ⟨index, task, node, rfl, found, hwire, rfl, yields⟩
    · obtain ⟨service, rfl⟩ := ResolveQueue.resolved_of_yields yields
      cases hevent
    · refine ⟨.browse, index, node.standing, by simp [Work.isOf], ?_, hwire.trans hregistry, howns,
        hevent⟩
      simp [World.standing?, found]
    · refine ⟨.publication, index, node.standing, by simp [Work.isOf], ?_, hwire.trans hregistry,
        howns, hevent⟩
      simp [World.standing?, found]
  · rename_i event
    obtain ⟨hindex, hevent⟩ := (Bool.and_eq_true ..).mp hinforms
    obtain rfl := of_decide_eq_true hindex
    obtain ⟨place, token, rfl, hleads⟩ := h.of_hearing
    exact Or.inl ⟨place, token, event, rfl, hevent, hleads⟩
  · cases hinforms

/-- A session of the house is the only one that can tell the facade of a session, unless a registry
finds the facade behind a token. -/
theorem Stands.informed (stands : house.Stands world) {source brought : Work ι}
    (h : Brings world source brought) (hinforms : house.informs brought = true)
    (hdeliver : ∀ place token event, source = .registry place (.call (.deliver token event)) →
      event.isState = true → world.leads? place token ≠ some (.facade house.index)) :
    ∃ kind, source.isOf kind (house.member kind) = true ∧ brought.reports = true := by
  rcases house.informs_of_brings h hinforms with
    ⟨place, token, event, hsource, hevent, hreceiver⟩ |
    ⟨kind, place, s, hown, found, hregistry, howns, hreports⟩
  · exact absurd hreceiver (hdeliver place token event hsource hevent)
  · obtain rfl := stands.alone kind place s found hregistry howns
    exact ⟨kind, hown, hreports⟩

/-- Callbacks that are to be told of something have not told the facade of anything yet. -/
theorem informs_of_telling {effect : Facade.Effect} (h : effect.isTelling = true) (index : Nat)
    (node : FacadeNode) : house.informs (effect.work (ι := ι) index node) = false := by
  cases effect with
  | own task =>
      cases task with
      | telling kind argument number => rfl
      | _ => cases h
  | log record => rfl
  | _ => cases h

/-- A report of a session on its way to the facade: it is to be delivered, or the facade is about to
hear of it. -/
inductive Carries (house : House) (kind : SessionKind) (running : Bool) : Work ι → Prop where
  | delivery (error : Bool) : Carries house kind running
      (.registry house.registry (.call (.deliver (house.token kind) (kind.state running error))))
  | hearing (error : Bool) : Carries house kind running
      (.facade house.index (.call (.publish (kind.state running error))))

theorem Carries.informs {running : Bool} {report : Work ι}
    (carries : house.Carries kind running report) : house.informs report = true := by
  have hevent (error : Bool) := kind.isState_state running error
  cases carries with
  | delivery error =>
      rw [House.informs, hevent, house.owns_token]
      simp
  | hearing error =>
      rw [House.informs, hevent]
      simp

/-- Where the flags of the facade stand against its sessions. They agree, or one is behind, and a
report that sets it right comes next, or after log lines. -/
inductive Stage (house : House) (world : World) : List (Work ι) → Prop where
  | level {agenda : List (Work ι)} (steady : ∀ work ∈ agenda, house.informs work = false)
      (agree : ∀ kind, house.shown? kind world = house.runs? kind world) :
      Stage house world agenda
  | behind {lines rest : List (Work ι)} {report : Work ι} {kind : SessionKind} {running : Bool}
      (hlines : ∀ line ∈ lines, ∃ record, line = .call (.log record))
      (carries : house.Carries kind running report)
      (steady : ∀ work ∈ rest, house.informs work = false)
      (runs : house.runs? kind world = some running)
      (agree : ∀ other, other ≠ kind → house.shown? other world = house.runs? other world) :
      Stage house world (lines ++ report :: rest)

theorem runs?_eq (house : House) {s : Standing}
    (found : world.standing? kind (house.member kind) = some s) :
    house.runs? kind world = some s.running := by
  rw [runs?, found, Option.map_some]

/-- Flags stay as they are unless the facade is told of a session or is closed. -/
theorem shown?_of_touches (house : House) {work : Work ι} {node : FacadeNode}
    (touches : World.Touches world work changed) (found : world.facades[house.index]? = some node)
    (hinforms : house.informs work = false) (hcloses : house.closes work = false)
    (kind : SessionKind) : house.shown? kind changed = house.shown? kind world := by
  by_cases hown : ∃ task, work = .facade house.index task
  · obtain ⟨task, rfl⟩ := hown
    cases touches with
    | nothing => rfl
    | @facade _ _ member core hmember makes =>
        have hlt : house.index < world.facades.length := (List.getElem?_eq_some_iff.mp found).1
        obtain rfl := Option.some.inj (found.symm.trans hmember)
        have hflag : core.flag kind = node.core.flag kind := by
          rcases makes with rfl | ⟨fault, effects, hrecover⟩
          · apply Facade.flag_step
            · rintro event rfl
              simpa [informs] using hinforms
            · rintro rfl
              simp [closes] at hcloses
          · rw [(Facade.recover_eq_some hrecover).2.1]
        rw [shown?, shown?, List.getElem?_set_self hlt, found]
        exact congrArg some hflag
  · have hsame := touches.facade_eq found fun task heq => hown ⟨task, heq⟩
    rw [shown?, shown?, hsame, found]

theorem shown?_of_recover (house : House) {work : Work ι} {node : FacadeNode} {fault : Fault}
    {tasks : List (Work ι)} (h : World.recover fault work world = some (changed, tasks))
    (found : world.facades[house.index]? = some node) (kind : SessionKind) :
    house.shown? kind changed = house.shown? kind world := by
  by_cases hown : ∃ task, work = .facade house.index task
  · obtain ⟨task, rfl⟩ := hown
    rw [shown?, shown?, (World.recover_facade h).2.1]
  · have hsame := (World.touches_of_recover h).facade_eq found fun task heq => hown ⟨task, heq⟩
    rw [shown?, shown?, hsame, found]

/-- Work that leaves the flags as they are leads on to a stage, whether it is a task of a session or
not. -/
theorem Stage.of_level {source : Work ι} {tasks kept : List (Work ι)} (stands : house.Stands world)
    (agree : ∀ kind, house.shown? kind world = house.runs? kind world)
    (steady : ∀ work ∈ kept, house.informs work = false)
    (touches : World.Touches world source changed)
    (shown : ∀ kind, house.shown? kind changed = house.shown? kind world)
    (turned : ∀ kind s, world.standing? kind (house.member kind) = some s →
      source.isOf kind (house.member kind) = true →
      ∃ later, changed.standing? kind (house.member kind) = some later ∧
        Standing.Reports kind s later tasks)
    (informed : ∀ brought ∈ tasks, house.informs brought = true →
      ∃ kind, source.isOf kind (house.member kind) = true ∧ brought.reports = true) :
    house.Stage changed (tasks ++ kept) := by
  have hrests (kind : SessionKind) (hforeign : source.isOf kind (house.member kind) = false) :
      house.shown? kind changed = house.runs? kind changed := by
    obtain ⟨s, found, -, -⟩ := stands.session kind
    rw [shown kind, agree kind, house.runs?_eq found,
      house.runs?_eq (touches.standing_eq found hforeign)]
  have hsilent {brought : Work ι} (hmem : brought ∈ tasks) (hhushed : brought.reports = false) :
      house.informs brought = false := by
    apply Bool.eq_false_iff.mpr
    intro hinforms
    obtain ⟨-, -, hreports⟩ := informed brought hmem hinforms
    cases hhushed.symm.trans hreports
  by_cases hown : ∃ kind, source.isOf kind (house.member kind) = true
  · obtain ⟨kind, hown⟩ := hown
    obtain ⟨s, found, hregistry, htoken⟩ := stands.session kind
    obtain ⟨later, hlater, hreports⟩ := turned kind s found hown
    have hother (other : SessionKind) (hne : other ≠ kind) :
        source.isOf other (house.member other) = false := by
      apply Bool.eq_false_iff.mpr
      intro hsame
      rcases Work.eq_of_isOf hown with ⟨rfl, task, rfl⟩ | ⟨rfl, task, rfl⟩
      · rcases Work.eq_of_isOf hsame with ⟨rfl, -⟩ | ⟨rfl, task, hwork⟩
        · exact hne rfl
        · cases hwork
      · rcases Work.eq_of_isOf hsame with ⟨rfl, task, hwork⟩ | ⟨rfl, -⟩
        · cases hwork
        · exact hne rfl
    cases hreports with
    | nothing same hushed =>
        apply Stage.level (List.forall_mem_append.mpr
          ⟨fun work hmem => hsilent hmem (hushed work hmem), steady⟩)
        intro other
        by_cases hkind : other = kind
        · subst hkind
          rw [shown other, agree other, house.runs?_eq found, house.runs?_eq hlater, same]
        · exact hrests other (hother other hkind)
    | @state lines others error hlines hushed =>
        rw [List.append_assoc, List.cons_append, hregistry, htoken]
        apply Stage.behind hlines (.delivery error)
        · exact List.forall_mem_append.mpr
            ⟨fun work hmem => hsilent (by simp [hmem]) (hushed work hmem), steady⟩
        · exact house.runs?_eq hlater
        · intro other hkind
          exact hrests other (hother other hkind)
  · have hforeign (kind : SessionKind) : source.isOf kind (house.member kind) = false :=
      Bool.eq_false_iff.mpr fun h => hown ⟨kind, h⟩
    apply Stage.level
    · refine List.forall_mem_append.mpr ⟨fun work hmem => ?_, steady⟩
      apply Bool.eq_false_iff.mpr
      intro hinforms
      obtain ⟨kind, hsource, -⟩ := informed work hmem hinforms
      exact hown ⟨kind, hsource⟩
    · intro kind
      exact hrests kind (hforeign kind)

end House

namespace Configuration

variable {surroundings : Surroundings ι σ} {start now after : Configuration ι σ}
  {past : List (Configuration ι σ)} {house : House}

/-- Nobody closes the facade or one of its sessions at this moment, wholly or in part, and nobody
but these sessions tells the facade how they stand. -/
structure Private (surroundings : Surroundings ι σ) (house : House) (now : Configuration ι σ) :
    Prop where
  unclosed : ∀ work ∈ now.agenda.head?, house.closes work = false
  unmoved : ∀ move ∈ now.moves surroundings, house.informs move.work = false
  unstrayed : ∀ work ∈ now.agenda.head?, house.strays now.world work = false

/-- A report of a session is on its way to the facade, with nothing but log lines in front of it. -/
def Updating (house : House) (now : Configuration ι σ) : Prop :=
  ∃ lines report rest, now.agenda = lines ++ report :: rest ∧
    (∀ line ∈ lines, ∃ record, line = .call (.log record)) ∧ house.informs report = true

/-- The facade and its sessions are as they were made, and nothing was begun in their name. -/
structure Opens (house : House) (start : Configuration ι σ) : Prop where
  stands : house.Stands start.world
  leads : ∀ kind, start.world.leads? house.registry (house.token kind) =
    some (.facade house.index)
  unset : ∀ kind, house.shown? kind start.world = some false
  unused : ∀ kind s, start.world.standing? kind (house.member kind) = some s →
    s.running = false ∧ s.active = false ∧ s.closed = false
  uninformed : ∀ work ∈ start.agenda, house.informs work = false
  untouched : ∀ kind, ∀ work ∈ start.agenda,
    work.asks kind (house.member kind) = false ∧ work.waits kind (house.member kind) = false

/-- A registry looks up who is behind the token, and gives him the event. -/
theorem step_deliver {place index : Nat} {token : Token} {event : Event} {rest : List (Work ι)}
    (hleads : now.world.leads? place token = some (.facade index))
    (hagenda : now.agenda = .registry place (.call (.deliver token event)) :: rest) :
    now.step surroundings = some { now with
      agenda := .facade index (.call (.publish event)) ::
        .registry place (.delivering token event) :: rest } := by
  obtain ⟨world, around, agenda⟩ := now
  obtain rfl : agenda = _ := hagenda
  obtain ⟨registry, found, hreceiver⟩ := Option.bind_eq_some_iff.mp hleads
  change world.registries[place]? = _ at found
  simp only [step, World.run, World.runRegistry, found, ChannelRegistry.step, hreceiver,
    World.set_of_getElem? found]
  rfl

/-- While the flags agree with the sessions, a task of a session may put one behind. -/
theorem Private.step_level (apart : now.Private surroundings house)
    (stands : house.Stands now.world)
    (steady : ∀ work ∈ now.agenda, house.informs work = false)
    (agree : ∀ kind, house.shown? kind now.world = house.runs? kind now.world)
    (sound : ∀ kind s later tasks, now.world.standing? kind (house.member kind) = some s →
      Standing.Turns (ι := ι) kind (house.member kind) s (now.act? kind (house.member kind)) later
        tasks → Standing.Reports kind s later tasks)
    (h : now.step surroundings = some after) : house.Stage after.world after.agenda := by
  obtain ⟨work, rest, hagenda, hcases⟩ := step_cases h
  have hrest : ∀ other ∈ rest, house.informs other = false := by
    intro other hmem
    apply steady
    rw [hagenda]
    exact List.mem_cons_of_mem _ hmem
  rcases hcases with ⟨tasks, hbecomes, htasks⟩ | ⟨fault, rfl, hunwind⟩
  · have hfront : work ∈ now.agenda.head? := by
      rw [hagenda]
      rfl
    have hwork : house.informs work = false := steady work (by simp [hagenda])
    have hunclosed := apart.unclosed work hfront
    have hunstrayed := apart.unstrayed work hfront
    rw [htasks]
    apply House.Stage.of_level stands agree hrest hbecomes.touches
    · obtain ⟨node, found, -, -⟩ := stands.facade
      exact house.shown?_of_touches hbecomes.touches found hwork hunclosed
    · intro kind s found hown
      obtain ⟨later, hlater, hturns⟩ := hbecomes.turns found hown
      rw [← act?_of_front hagenda hbecomes.ne_raise] at hturns
      exact ⟨later, hlater, sound kind s later tasks found hturns⟩
    · intro brought hmem hinforms
      rcases front_sources h hagenda hbecomes.ne_raise htasks brought hmem with
        ⟨move, hmove, rfl⟩ | hbrings
      · cases (apart.unmoved move hmove).symm.trans hinforms
      · apply stands.informed hbrings hinforms
        rintro place token event rfl hevent hreceiver
        simp only [House.strays, hreceiver, hevent, decide_true, Bool.true_and,
          Bool.not_eq_false'] at hunstrayed
        simp only [House.informs, hevent, hunstrayed, Bool.true_and] at hwork
        cases hwork
  · obtain ⟨hworld, htasks⟩ := Prod.mk.inj hunwind
    rcases World.unwind_cases fault now.world rest with
      ⟨dropped, task, kept, changed, tasks, rfl, hdropped, hrecover, heq⟩ | ⟨hnone, heq⟩
    · have hact (kind : SessionKind) : now.act? kind (house.member kind) =
          task.caught? kind (house.member kind) := by
        rw [act?_of_raise hagenda, World.handler?_eq_some hdropped hrecover, Option.bind_some]
      rw [hworld, htasks, heq]
      apply House.Stage.of_level stands agree _ (World.touches_of_recover hrecover)
      · obtain ⟨node, found, -, -⟩ := stands.facade
        exact house.shown?_of_recover hrecover found
      · intro kind s found hown
        obtain ⟨later, hlater, hturns⟩ := World.recover_turns found hown hrecover
        rw [← hact] at hturns
        exact ⟨later, hlater, sound kind s later tasks found hturns⟩
      · intro brought hmem hinforms
        apply stands.informed (World.brings_of_recover hrecover hmem) hinforms
        rintro place token event rfl
        cases (World.recover_operation (.registry _ _) _ _).symm.trans hrecover
      · intro other hmem
        exact hrest other (by simp [hmem])
    · rw [hworld, htasks, heq]
      apply House.Stage.level
      · simp
      · exact agree

/-- The facade hears how a session stands, and its flag is right. -/
theorem step_hearing (stands : house.Stands now.world) {rest : List (Work ι)} {kind : SessionKind}
    {running error : Bool}
    (hagenda : now.agenda =
      .facade house.index (.call (.publish (kind.state running error))) :: rest)
    (steady : ∀ work ∈ rest, house.informs work = false)
    (runs : house.runs? kind now.world = some running)
    (agree : ∀ other, other ≠ kind → house.shown? other now.world = house.runs? other now.world)
    (h : now.step surroundings = some after) : house.Stage after.world after.agenda := by
  obtain ⟨node, found, -, -⟩ := stands.facade
  have hlt : house.index < now.world.facades.length := (List.getElem?_eq_some_iff.mp found).1
  obtain rfl := Option.some.inj (h.symm.trans (step_facade found hagenda))
  apply House.Stage.level
  · intro work hmem
    rcases List.mem_append.mp hmem with hnew | hold
    · obtain ⟨effect, heffect, rfl⟩ := List.mem_map.mp hnew
      apply House.informs_of_telling
      exact Facade.receive_telling _ _ effect heffect
    · exact steady work hold
  · intro other
    rw [House.shown?, List.getElem?_set_self hlt, Option.map_some]
    have hflag := Facade.flag_receive kind other running error node.core
    refine (congrArg some hflag).trans ?_
    by_cases hkind : other = kind
    · rw [if_pos hkind, hkind]
      exact runs.symm
    · have hagree := agree other hkind
      rw [House.shown?, found, Option.map_some] at hagree
      rw [if_neg hkind]
      exact hagree

/-- While a flag is behind, the next steps set it right. -/
theorem step_behind
    (hlog : ∀ record world around, (surroundings.answer (.log record) world around).2 = [])
    (stands : house.Stands now.world) {lines rest : List (Work ι)} {report : Work ι}
    {kind : SessionKind} {running : Bool}
    (leads : now.world.leads? house.registry (house.token kind) = some (.facade house.index))
    (hagenda : now.agenda = lines ++ report :: rest)
    (hlines : ∀ line ∈ lines, ∃ record, line = .call (.log record))
    (carries : house.Carries kind running report)
    (steady : ∀ work ∈ rest, house.informs work = false)
    (runs : house.runs? kind now.world = some running)
    (agree : ∀ other, other ≠ kind → house.shown? other now.world = house.runs? other now.world)
    (h : now.step surroundings = some after) : house.Stage after.world after.agenda := by
  cases lines with
  | cons line lines =>
      obtain ⟨record, rfl⟩ := hlines line List.mem_cons_self
      have hworld := world_of_call hagenda h
      have hafter : after.agenda = lines ++ report :: rest := by
        rw [agenda_of_call hagenda h]
        simp [moves, hagenda, hlog]
      rw [hworld, hafter]
      apply House.Stage.behind _ carries steady runs agree
      intro other hmem
      exact hlines other (List.mem_cons_of_mem _ hmem)
  | nil =>
      cases carries with
      | delivery error =>
          obtain rfl := Option.some.inj (h.symm.trans (step_deliver leads hagenda))
          apply @House.Stage.behind ι house _ []
          · simp
          · exact .hearing error
          · intro work hmem
            rcases List.mem_cons.mp hmem with rfl | hold
            · rfl
            · exact steady work hold
          · exact runs
          · exact agree
      | hearing error => exact step_hearing stands hagenda steady runs agree h

/-- Along a run, the flags agree with the sessions or are about to be set right. -/
theorem Course.mirrors
    (hlog : ∀ record world around, (surroundings.answer (.log record) world around).2 = [])
    (course : Course surroundings start past now) (opens : start.Opens house)
    (fair : ∀ kind, Fair kind (house.member kind) past)
    (apart : ∀ moment ∈ past, moment.Private surroundings house) :
    house.Stands now.world ∧ (∀ kind, now.world.leads? house.registry (house.token kind) =
        some (.facade house.index)) ∧ house.Stage now.world now.agenda := by
  induction course with
  | start =>
      refine ⟨opens.stands, opens.leads, .level opens.uninformed ?_⟩
      intro kind
      obtain ⟨s, found, -, -⟩ := opens.stands.session kind
      rw [opens.unset kind, house.runs?_eq found, (opens.unused kind s found).1]
  | @step past now after course step ih =>
      have hpast (kind : SessionKind) : Fair kind (house.member kind) past := (fair kind).init
      obtain ⟨stands, leads, hstage⟩ := ih hpast fun moment hmem =>
        apart moment (List.mem_append_left _ hmem)
      have hnow := apart now (by simp)
      refine ⟨step_stands stands step, ?_, ?_⟩
      · intro kind
        refine (step_leads stands step ?_).trans (leads kind)
        intro rest hagenda
        have hunclosed := hnow.unclosed _ (by rw [hagenda]; rfl)
        simp [House.closes, House.owns_token] at hunclosed
      · generalize hagenda : now.agenda = agenda at hstage
        cases hstage with
        | level steady agree =>
            subst hagenda
            apply hnow.step_level stands steady agree _ step
            intro kind s later tasks found turns
            obtain ⟨first, hfirst, -, -⟩ := opens.stands.session kind
            obtain ⟨rests, idle, -⟩ := opens.unused kind first hfirst
            have hbegins := lives_of_unused hfirst ⟨rests, idle⟩ (opens.untouched kind)
            obtain ⟨present, hlives⟩ := course.lives (hpast kind) hbegins
            obtain rfl := Option.some.inj (found.symm.trans hlives.found)
            obtain ⟨confirms, hushed⟩ := (fair kind).last hlives
            exact hlives.sound.reports turns confirms (hlives.unheard_of_raised step hushed)
        | behind hlines carries steady runs agree =>
            exact step_behind hlog stands (leads _) hagenda hlines carries steady runs agree step

/-- Callbacks are not called while a flag is behind. -/
theorem not_updating_of_callback {facade place : Nat} {kind : CallbackKind}
    {argument : CallbackArgument} {rest : List (Work ι)}
    (hagenda : now.agenda = .call (.callback facade kind place argument) :: rest) :
    ¬ now.Updating house := by
  rintro ⟨lines, report, others, hsplit, hlines, hinforms⟩
  rw [hagenda] at hsplit
  cases lines with
  | nil =>
      obtain ⟨rfl, -⟩ := List.cons.inj hsplit
      cases hinforms
  | cons line lines =>
      obtain ⟨rfl, -⟩ := List.cons.inj hsplit
      obtain ⟨record, hline⟩ := hlines _ List.mem_cons_self
      cases hline

/-- The flags of a facade say whether its sessions run, whatever callbacks do, as long as nobody
closes the facade and only its own sessions tell it how they stand. They may be wrong only while a
report is on its way. -/
theorem flags_mirror_sessions
    (hlog : ∀ record world around, (surroundings.answer (.log record) world around).2 = [])
    (opens : start.Opens house) (course : Course surroundings start past now)
    (fair : ∀ kind, Fair kind (house.member kind) past)
    (apart : ∀ moment ∈ past, moment.Private surroundings house) :
    ∃ node browse publication, now.world.facades[house.index]? = some node ∧
      now.world.standing? .browse node.browser = some browse ∧
      now.world.standing? .publication node.publisher = some publication ∧
      (¬ now.Updating house → node.core.browserExists = browse.running ∧
        node.core.publishExists = publication.running) := by
  obtain ⟨stands, -, hstage⟩ := course.mirrors hlog opens fair apart
  obtain ⟨node, found, hbrowser, hpublisher⟩ := stands.facade
  obtain ⟨browse, hbrowse, -, -⟩ := stands.session .browse
  obtain ⟨publication, hpublication, -, -⟩ := stands.session .publication
  rw [← hbrowser] at hbrowse
  rw [← hpublisher] at hpublication
  refine ⟨node, browse, publication, found, hbrowse, hpublication, ?_⟩
  intro hsettled
  have hagree (kind : SessionKind) :
      house.shown? kind now.world = house.runs? kind now.world := by
    generalize hagenda : now.agenda = agenda at hstage
    cases hstage with
    | level steady agree => exact agree kind
    | @behind lines rest report _ _ hlines carries =>
        exact absurd ⟨lines, report, rest, hagenda, hlines, carries.informs⟩ hsettled
  have hflag (kind : SessionKind) {s : Standing}
      (hs : now.world.standing? kind (house.member kind) = some s) :
      node.core.flag kind = s.running := by
    have hkind := hagree kind
    rw [House.shown?, found, house.runs?_eq hs] at hkind
    exact Option.some.inj hkind
  exact ⟨hflag .browse (hbrowser ▸ hbrowse), hflag .publication (hpublisher ▸ hpublication)⟩

/-- The browse and the publication are confirmed as soon as they are asked for. The callback that
hears of the publication stops the browse and fails: the moment looked at is right before it does.
-/
theorem flags_mirror_sessions_of_nested :
    let house : House := {
      index := 0
      registry := 0
      member := fun _ => 0
      token := fun kind => if kind = .browse then 1 else 2 }
    let browse (notice : BrowseNotice) : Move Empty := .perform (.browse 0 (.notice notice))
    let start : Configuration Empty (List (List (Move Empty))) := run .staged 2 {
      world := { platforms := [.outside] }
      around := [[browse (.started "_ipp._tcp")],
        [.perform (.publication 0 (.notice (.registered "Printer" "_ipp._tcp")))],
        [.perform (.facade 0 .stopBrowser), .raise (.outside .value "not today")],
        [browse (.stopped "_ipp._tcp")]]
      agenda := [.build (.facade 0 none none { published := 1 }),
        .facade 0 (.call (.startBrowser "_ipp._tcp")),
        .facade 0 (.call (.startPublish "Printer" "_ipp._tcp" (.int 631)))] }
    let now := run .staged 31 start
    now.world.facades.map (fun node => (node.core.browserExists, node.core.publishExists)) =
        [(false, true)] ∧
      ∃ node browse publication, now.world.facades[0]? = some node ∧
        now.world.standing? .browse node.browser = some browse ∧
        now.world.standing? .publication node.publisher = some publication ∧
        (¬ now.Updating house → node.core.browserExists = browse.running ∧
          node.core.publishExists = publication.running) := by
  intro house browse start now
  let past := trail .staged 31 start
  have hstands : house.Stands start.world := by
    constructor
    · exact ⟨_, rfl, rfl, rfl⟩
    · intro kind
      cases kind <;> exact ⟨_, rfl, rfl, rfl⟩
    · refine ⟨_, rfl, ?_⟩
      intro kind
      cases kind <;> decide
    · intro kind place s found _ _
      cases place with
      | zero => rfl
      | succ place => cases kind <;> cases found
  have hopens : start.Opens house := by
    constructor
    · exact hstands
    · intro kind
      cases kind <;> rfl
    · intro kind
      cases kind <;> rfl
    · intro kind s found
      cases kind <;> cases found <;> decide
    · decide +kernel
    · intro kind
      cases kind <;> decide +kernel
  have hcourse : Course .staged start past now := course_run ..
  have hfair : ∀ kind, Fair kind (house.member kind) past := by
    intro kind
    cases kind <;> exact ⟨by decide +kernel, by decide +kernel⟩
  have hunclosed : ∀ moment ∈ past, ∀ work ∈ moment.agenda.head?, house.closes work = false := by
    decide +kernel
  have hunmoved : ∀ moment ∈ past, ∀ move ∈ moment.moves .staged,
      house.informs move.work = false := by
    decide +kernel
  have hunstrayed : ∀ moment ∈ past, ∀ work ∈ moment.agenda.head?,
      house.strays moment.world work = false := by
    decide +kernel
  refine ⟨by decide +kernel, ?_⟩
  apply flags_mirror_sessions Surroundings.staged_quiet.log hopens hcourse hfair
  intro moment hmem
  exact ⟨hunclosed moment hmem, hunmoved moment hmem, hunstrayed moment hmem⟩

end Configuration

end ServiceDiscovery
