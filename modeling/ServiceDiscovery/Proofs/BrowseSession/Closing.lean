import ServiceDiscovery.Proofs.BrowseSession.Place
import ServiceDiscovery.Proofs.ResolveQueue.Record
import ServiceDiscovery.Proofs.ResolveQueue.View

/-!
What a queue still does for a session that was closed. A closed session puts nothing into the queue
any more, and no other session has its token, so all that is left of it is the request that was
under way when it was closed. That one is left to finish: it waits again, and is handed to the
platform again, once for each time that the resolver is busy, and in no other case.
-/

namespace ServiceDiscovery

variable {ι σ : Type}

/-- The session for which work has the queue at a place take something in. -/
def Work.customer? (index : Nat) : Work ι → Option Token
  | .queue place (.call (.enqueue _ session)) => if place = index then some session else none
  | _ => none

/-- Only a session that is open puts anything into its queue: what it hears was found. -/
theorem BrowseSession.found_of_enqueue {task : BrowseSession.Task} {session : BrowseSession}
    {ref : ServiceRef} (h : Yields BrowseSession.step BrowseSession.recover task session
      (.enqueue ref)) : session.closed = false ∧ task = .call (.notice (.found ref)) := by
  rcases h with hstep | ⟨fault, after, hrecover, hmem⟩
  · cases task with
    | starting type => simp [step, log] at hstep
    | closing => simp [step] at hstep
    | call operation =>
        cases operation with
        | start type =>
            simp only [step, call, start] at hstep
            split at hstep
            · simp at hstep
            · split at hstep <;> simp [log, report] at hstep
        | stop =>
            simp only [step, call, stop] at hstep
            split at hstep <;> simp [report] at hstep
        | close =>
            simp only [step, call, close] at hstep
            split at hstep
            · simp at hstep
            · split at hstep <;> simp at hstep
        | notice notice =>
            cases notice with
            | found found =>
                cases hclosed : session.closed with
                | false =>
                    obtain rfl : ref = found := by
                      simpa [step, call, hear, hclosed, log] using hstep
                    exact ⟨rfl, rfl⟩
                | true => simp [step, call, hear, hclosed] at hstep
            | _ => simp [step, call, hear, failed, log, report] at hstep
  · cases task with
    | call operation => cases hrecover
    | closing => cases hrecover
    | starting type =>
        have heffects : (session.startRefused type fault).2 = after.2 :=
          congrArg Prod.snd (Option.some.inj hrecover)
        rw [← heffects, startRefused] at hmem
        split at hmem <;> simp [log, report] at hmem

/-- A queue calls none of its own operations. -/
theorem ResolveQueue.not_call_of_yields {task : ResolveQueue.Task} {queue : ResolveQueue}
    (operation : ResolveQueue.Operation) :
    ¬ Yields ResolveQueue.step ResolveQueue.recover task queue (.own (.call operation)) := by
  rintro (hstep | ⟨fault, after, hrecover, hmem⟩)
  · exact (taken (.run task) queue).batch.not_call operation hstep
  · cases task with
    | resolving ref =>
        obtain rfl : queue.rejected ref fault = after := Option.some.inj hrecover
        exact (taken (.refused ref fault) queue).batch.not_call operation hmem
    | _ => cases hrecover

theorem ResolveQueue.customer_work {effect : ResolveQueue.Effect}
    (h : ∀ operation, effect ≠ .own (.call operation)) (index place : Nat) (node : QueueNode) :
    (effect.work (ι := ι) place node).customer? index = none := by
  cases effect with
  | own task =>
      cases task with
      | call operation => exact absurd rfl (h operation)
      | _ => rfl
  | _ => rfl

/-- Within a world, only a session that is open has a queue take something in, and only what it
hears was found. -/
theorem Brings.customer {world : World} {source brought : Work ι} {index : Nat} {token : Token}
    (h : Brings world source brought) (hcustomer : brought.customer? index = some token) :
    ∃ (place : Nat) (node : BrowseNode) (ref : ServiceRef),
      source = .browse place (.call (.notice (.found ref))) ∧
      world.browsers[place]? = some node ∧ node.queue = index ∧ node.core.token = token ∧
      node.core.closed = false := by
  cases h with
  | @browse place task node effect found yields =>
      cases effect with
      | enqueue ref =>
          simp only [BrowseSession.Effect.work, Work.customer?] at hcustomer
          split at hcustomer
          · obtain ⟨hopen, rfl⟩ := BrowseSession.found_of_enqueue yields
            exact ⟨place, node, ref, rfl, found, ‹_›, Option.some.inj hcustomer, hopen⟩
          · cases hcustomer
      | _ => cases hcustomer
  | @queue place task node effect found yields =>
      have hcall (operation : ResolveQueue.Operation) : effect ≠ .own (.call operation) := by
        rintro rfl
        exact ResolveQueue.not_call_of_yields operation yields
      cases (ResolveQueue.customer_work hcall index place node).symm.trans hcustomer
  | @registry place task registry effect found yields =>
      cases effect with
      | publish receiver event => cases receiver <;> cases hcustomer
      | _ => cases hcustomer
  | @publication place task node effect found yields => cases effect <;> cases hcustomer
  | @facade place task node effect found yields => cases effect <;> cases hcustomer
  | @platform place task core effect found yields => cases effect <;> cases hcustomer
  | routed platform request listener =>
      simp only [World.route] at hcustomer
      split at hcustomer <;> cases hcustomer
  | notified listener notice =>
      cases listener with
      | outside label => cases hcustomer
      | member place => cases notice <;> cases hcustomer
  | _ => cases hcustomer

namespace ResolveQueue

section

variable {before after queue : ResolveQueue} {deed : Deed} {turn : Turn}
  {request : ResolveRequest}

theorem turn_of_accepted (h : request ∈ (ResolveQueue.deed turn queue).met .accepted) :
    turn = .run (.call (.enqueue request.ref request.session)) := by
  obtain ⟨after, effects, htaken⟩ :
      ∃ after effects, Taken queue turn (ResolveQueue.deed turn queue) after effects :=
    ⟨_, _, taken turn queue⟩
  generalize ResolveQueue.deed turn queue = deed at h htaken
  cases htaken with
  | accepted message unknown =>
      obtain rfl := List.mem_singleton.mp h
      rfl
  | _ => cases h

theorem Deed.Turns.inFlight_of_requeued (turns : deed.Turns before after)
    (h : request ∈ deed.met .requeued) : before.inFlight = some request := by
  have hallowed := turns.allowed
  cases deed with
  | requeued settled =>
      obtain rfl := List.mem_singleton.mp h
      exact hallowed
  | _ => cases h

/-- What waits came in or was given back, and leaves by being claimed or dropped. -/
theorem Deed.Turns.waiting (turns : deed.Turns before after) (request : ResolveRequest) :
    (deed.met .claimed).count request + after.pending.count request +
        (deed.met .discarded).count request + (deed.met .cleared).count request =
      before.pending.count request + (deed.met .accepted).count request +
        (deed.met .requeued).count request := by
  have hallowed := turns.allowed
  rw [turns.pending]
  cases deed with
  | claimed claimed =>
      obtain ⟨_, _, rest, hpending⟩ := hallowed
      simp [met, onPending, hpending, List.count_cons]
      omega
  | discarded session dropped =>
      obtain rfl := hallowed
      simp only [met, onPending, List.count_nil, count_session session before.pending]
      omega
  | cleared dropped abandoned =>
      obtain ⟨rfl, rfl⟩ := hallowed
      simp [met, onPending]
  | _ => simp [met, onPending]

end

namespace Scene

variable {start scene next : Scene} {history : List Happening} {request : ResolveRequest}
  {queue : ResolveQueue} {session : Token}

theorem Step.discarded (step : Step scene (.turn (.run (.call (.discard session))) queue) next) :
    ∀ request ∈ next.queue.pending, request.session ≠ session := by
  have hpending : next.queue.pending = queue.pending.filter (·.session ≠ session) := by
    rw [← step.before]
    exact (step_turns step).pending
  intro request hmem
  rw [hpending] at hmem
  simpa using (List.mem_filter.mp hmem).2

theorem Step.asking_of_discard
    (step : Step scene (.turn (.run (.call (.discard session))) queue) next) :
    next.asking = [] := by
  cases step with
  | called operation calm => exact asking_after _ _ calm
  | ran task inner calm => exact absurd rfl (inner _)

theorem Run.waiting (run : Run start history scene) (request : ResolveRequest) :
    (met .claimed history).count request + scene.queue.pending.count request +
        (met .discarded history).count request + (met .cleared history).count request =
      start.queue.pending.count request + (met .accepted history).count request +
        (met .requeued history).count request := by
  induction run with
  | start => simp [met]
  | step run step ih =>
      have hwaiting := (step_turns step).waiting request
      simp only [met_append, List.count_append]
      omega

/-- Only what is under way is given back. -/
theorem Run.inFlight_of_requeued (run : Run start history scene)
    (hpending : request ∉ start.queue.pending) (haccepted : request ∉ met .accepted history)
    (h : request ∈ met .requeued history) : start.queue.inFlight = some request := by
  induction run with
  | start => cases h
  | step run step ih =>
      rw [met_append, List.mem_append] at haccepted h
      obtain ⟨hold, hnew⟩ := not_or.mp haccepted
      rcases h with hearlier | hlast
      · exact ih hold hearlier
      · have hflight := (step_turns step).inFlight_of_requeued hlast
        refine Or.resolve_right ?_ hpending
        exact holds_iff.mp ((run.held (holds_iff.mpr (Or.inl hflight))).resolve_right hold)

end Scene

end ResolveQueue

namespace Configuration

open ResolveQueue

variable {surroundings : Surroundings ι σ} {start closing now after : Configuration ι σ}
  {before past since : List (Configuration ι σ)} {index registry place : Nat} {token : Token}
  {node : QueueNode} {session : BrowseNode} {behind : List (Work ι)}

/-- A session of a queue is closed, and no work has the queue take something in for it. -/
structure Departed (index registry place : Nat) (token : Token) (now : Configuration ι σ) :
    Prop where
  session : ∃ node, now.world.browsers[place]? = some node ∧ node.Joins index registry ∧
    node.core.token = token ∧ node.core.closed
  silent : ∀ work ∈ now.agenda, work.customer? index ≠ some token

/-- All sessions of a queue report through one registry. -/
def Wired (index registry : Nat) (now : Configuration ι σ) : Prop :=
  ∀ node ∈ now.world.browsers, node.queue = index → node.registry = registry

theorem Wired.of_step (h : after.Wired index registry)
    (step : now.step surroundings = some after) : now.Wired index registry := by
  intro node hmem hqueue
  obtain ⟨place, hplace⟩ := List.mem_iff_getElem?.mp hmem
  obtain ⟨later, hlater, hgoes⟩ := (step_ages step).browsers place node hplace
  rw [← hgoes.registry]
  exact h later (List.mem_of_getElem? hlater) (hgoes.queue.trans hqueue)

/-- The closed session has its token to itself, so nobody else begins to work for it. -/
theorem Departed.step (h : now.Departed index registry place token)
    (step : now.step surroundings = some after) (numbered : now.world.Numbered index registry)
    (wired : now.Wired index registry)
    (direct : ∀ move ∈ now.moves surroundings, move.work.customer? index ≠ some token) :
    after.Departed index registry place token := by
  obtain ⟨closed, hclosed, hjoins, rfl, hcore⟩ := h.session
  constructor
  · obtain ⟨later, hlater, hgoes⟩ := (step_ages step).browsers place closed hclosed
    exact ⟨later, hlater, ⟨hgoes.queue.trans hjoins.1, hgoes.registry.trans hjoins.2⟩,
      hgoes.core.token, hgoes.core.closed hcore⟩
  · obtain ⟨work, rest, tasks, kept, hagenda, hkept, hafter, htasks⟩ := step_brings step
    intro brought hmem hcustomer
    rw [hafter] at hmem
    rcases List.mem_append.mp hmem with hnew | hold
    · rcases htasks brought hnew with ⟨move, hmove, rfl⟩ | ⟨source, _, hbrings⟩
      · exact direct move hmove hcustomer
      · obtain ⟨other, twin, _, -, hother, hqueue, htoken, hopen⟩ :=
          hbrings.customer hcustomer
        have htwin : twin.Joins index registry :=
          ⟨hqueue, wired twin (List.mem_of_getElem? hother) hqueue⟩
        obtain rfl := numbered.distinct other place twin closed hother hclosed htwin hjoins htoken
        obtain rfl := Option.some.inj (hother.symm.trans hclosed)
        cases hopen.symm.trans hcore
    · refine h.silent brought ?_ hcustomer
      rw [hagenda]
      exact List.mem_cons_of_mem _ (hkept.mem hold)

/-- A queue takes in what it is called for, and nothing else. -/
theorem front_of_accepted {happening : Happening}
    (hhappening : now.happening index = some happening) {request : ResolveRequest}
    (hmem : request ∈ happening.deed.met .accepted) :
    ∃ rest, now.agenda = .queue index (.call (.enqueue request.ref request.session)) :: rest := by
  cases happening with
  | made call => cases hmem
  | turn turn queue =>
      have hturn := turn_of_accepted hmem
      obtain ⟨_, _, _, ⟨task, rest, hagenda, htask⟩ | ⟨fault, rest, ref, _, _, hrefused⟩⟩ :=
        happening_turn hhappening
      · obtain rfl := Turn.run.inj (htask.symm.trans hturn)
        exact ⟨rest, hagenda⟩
      · cases hrefused.symm.trans hturn

/-- Whatever a step is to a queue, the requests of the queue meet their fate by it. -/
theorem step_deed (h : now.step surroundings = some after)
    (found : now.world.queues[index]? = some node) :
    ∃ later, after.world.queues[index]? = some later ∧
      ((now.happening index).elim .nothing Happening.deed).Turns node.core later.core := by
  have hlt : index < now.world.queues.length := (List.getElem?_eq_some_iff.mp found).1
  have hidle : Deed.Turns .nothing node.core node.core := ⟨trivial, rfl, rfl, rfl, rfl, rfl, rfl⟩
  obtain ⟨work, rest, hagenda, hcases⟩ := step_cases h
  rcases hcases with ⟨tasks, hbecomes, -⟩ | ⟨fault, rfl, hunwind⟩
  · by_cases hown : ∃ task, work = .queue index task
    · obtain ⟨task, rfl⟩ := hown
      obtain rfl := Option.some.inj (h.symm.trans (step_queue found hagenda))
      refine ⟨_, List.getElem?_set_self hlt, ?_⟩
      simp only [happening, found, hagenda, ↓reduceIte, Option.elim_some]
      exact (taken (.run task) node.core).turns
    · have hforeign : ∀ task, work ≠ .queue index task := fun task heq => hown ⟨task, heq⟩
      refine ⟨node, (hbecomes.touches.spares hforeign).node node found, ?_⟩
      rw [happening_of_foreign found hagenda hforeign hbecomes.ne_raise]
      cases work.part index <;> exact hidle
  · have hworld : after.world = (now.world.unwind fault rest).1 := congrArg Prod.fst hunwind
    rcases World.unwind_cases fault now.world rest with
      ⟨dropped, task, kept, changed, tasks, rfl, hdropped, hrecover, heq⟩ | ⟨hnone, heq⟩
    · have hhandler := @World.handler?_eq_some ι fault _ _ _ kept _ _ hdropped hrecover
      rw [hworld, heq]
      by_cases hown : ∃ other, task = .queue index other
      · obtain ⟨other, rfl⟩ := hown
        obtain ⟨ref, rfl, hlater, -⟩ := recover_queue found hrecover
        refine ⟨_, hlater, ?_⟩
        simp only [happening, found, hagenda, hhandler, ↓reduceIte, Option.elim_some]
        exact (taken (.refused ref fault) node.core).turns
      · have hforeign : ∀ other, task ≠ .queue index other := fun other heq => hown ⟨other, heq⟩
        refine ⟨node, ((World.touches_of_recover hrecover).spares hforeign).node node found, ?_⟩
        rw [happening_of_recovered found hagenda hhandler hforeign]
        exact hidle
    · rw [hworld, heq]
      refine ⟨node, found, ?_⟩
      simp only [happening, found, hagenda, World.handler?_eq_none hnone]
      exact hidle

theorem Departed.not_accepted (h : now.Departed index registry place token)
    {happening : Happening} (hhappening : now.happening index = some happening)
    {request : ResolveRequest} (hmem : request ∈ happening.deed.met .accepted) :
    request.session ≠ token := by
  rintro rfl
  obtain ⟨rest, hagenda⟩ := front_of_accepted hhappening hmem
  apply h.silent _ (hagenda ▸ List.mem_cons_self)
  simp [Work.customer?]

/-- From the moment on that a session is closed, the queue takes in nothing for it. -/
theorem Course.departed (course : Course surroundings start past now)
    (h : start.Departed index registry place token)
    (numbered : start.world.Numbered index registry) (wired : now.Wired index registry)
    (direct : ∀ moment ∈ past, ∀ move ∈ moment.moves surroundings,
      move.work.customer? index ≠ some token) :
    now.Departed index registry place token ∧
      ∀ request ∈ met .accepted (history index past), request.session ≠ token := by
  induction course with
  | start => exact ⟨h, by simp [history, met]⟩
  | @step past now after course step ih =>
      obtain ⟨hdeparted, haccepted⟩ := ih (wired.of_step step) fun moment hmem =>
        direct moment (List.mem_append_left _ hmem)
      refine ⟨hdeparted.step step (course.ages.numbered index registry numbered)
        (wired.of_step step) (direct now (by simp)), ?_⟩
      rw [history_append]
      cases hhappening : now.happening index with
      | none => simpa using haccepted
      | some happening =>
          intro request hmem
          rw [Option.toList_some, met_append, List.mem_append] at hmem
          rcases hmem with hold | hnew
          · exact haccepted request hold
          · exact hdeparted.not_accepted hhappening hnew

/-- The end of closing marks the session and has the queue discard what waits for it. -/
theorem step_closing (hsession : closing.world.browsers[place]? = some session)
    (hagenda : closing.agenda = .browse place .closing :: behind) :
    closing.step surroundings = some { closing with
      world := { closing.world with
        browsers := closing.world.browsers.set place
          { session with core := { session.core with closed := true } } }
      agenda := .queue session.queue (.call (.discard session.core.token)) ::
        .registry session.registry (.call (.detach session.core.token)) :: behind } :=
  step_browse hsession hagenda

/-- Once a session is closed and its requests are discarded, it has departed. What the queue still
holds for it is under way. -/
theorem closing_departs {scene : Scene} (h : closing.Shows index node scene)
    (quiet : surroundings.Quiet) (hsession : closing.world.browsers[place]? = some session)
    (hqueue : session.queue = index)
    (hagenda : closing.agenda = .browse place .closing :: behind)
    (hbehind : ∀ work ∈ behind, work.customer? index ≠ some session.core.token) :
    ∃ middle next, closing.step surroundings = some middle ∧
      middle.step surroundings = some (run surroundings 2 closing) ∧
      Scene.Step scene (.turn (.run (.call (.discard session.core.token))) scene.queue) next ∧
      (run surroundings 2 closing).Shows index node next ∧
      (run surroundings 2 closing).Departed index session.registry place session.core.token := by
  subst hqueue
  have hfirst : closing.step surroundings = some _ := step_closing hsession hagenda
  generalize hmiddle : Configuration.mk _ _ _ = middle at hfirst
  have hshows : middle.Shows session.queue node scene := by
    rcases h.step quiet hfirst with ⟨_, hshows⟩ | ⟨_, _, hsome, _⟩
    · exact hshows
    · simp [happening, h.queue, hagenda, Work.part] at hsome
  have hdiscard : middle.agenda = .queue session.queue (.call (.discard session.core.token)) ::
      .registry session.registry (.call (.detach session.core.token)) :: behind := by
    rw [← hmiddle]
  have hsecond : middle.step surroundings = some _ := step_queue hshows.queue hdiscard
  have hrun : some (run surroundings 2 closing) = middle.step surroundings := by
    simp [run, hfirst, hsecond]
  obtain ⟨next, hturn, hafter⟩ := hshows.turn quiet hdiscard hrun.symm
  refine ⟨middle, next, hfirst, hrun.symm, hturn, hafter, ?_⟩
  rw [Option.some.inj (hrun.trans hsecond)]
  constructor
  · have hlt := (List.getElem?_eq_some_iff.mp hsession).1
    refine ⟨{ session with core := { session.core with closed := true } }, ?_, ⟨rfl, rfl⟩, rfl, rfl⟩
    rw [← hmiddle]
    exact List.getElem?_set_self hlt
  · intro work hmem
    rcases List.mem_append.mp hmem with hnew | hold
    · obtain ⟨effect, heffect, rfl⟩ := List.mem_map.mp hnew
      rw [customer_work]
      · simp
      · rintro operation rfl
        exact (taken _ _).batch.not_call operation heffect
    · rcases List.mem_cons.mp hold with rfl | hbehind'
      · simp [Work.customer?]
      · exact hbehind work hbehind'

/-- What a queue still did for a session since it was closed, given what was under way then and what
waits now: that one request waits, was handed to the platform or was dropped once for each busy
answer to it. -/
structure Finishes (token : Token) (slot : Option ResolveRequest) (pending : List ResolveRequest)
    (record : List Happening) : Prop where
  last : ∀ request ∈ met .requeued record, request.session = token → slot = some request
  balance : ∀ request, request.session = token →
    (met .claimed record).count request + pending.count request +
      (met .discarded record).count request + (met .cleared record).count request =
        (met .requeued record).count request
  /-- Unless the resolver was busy nothing waits, and nothing was handed out again. -/
  unless_busy : (∀ request ∈ met .requeued record, request.session ≠ token) →
    (∀ request ∈ pending, request.session ≠ token) ∧
      ∀ request ∈ met .claimed record, request.session ≠ token

/-- After a session was closed, a queue holds and resolves nothing for it but the request that was
under way then, and that again only when the resolver was busy. -/
theorem closed_session_retried_only_when_busy (quiet : surroundings.Quiet)
    (fresh : start.Fresh index node) (registered : node.registry < start.world.registries.length)
    (unjoined : ∀ other ∈ start.world.browsers, other.queue ≠ index)
    (opening : Course surroundings start before closing)
    (hsession : closing.world.browsers[place]? = some session) (hqueue : session.queue = index)
    (hagenda : closing.agenda = .browse place .closing :: behind)
    (course : Course surroundings (run surroundings 2 closing) since now)
    (wired : now.Wired index node.registry)
    (hbehind : ∀ work ∈ behind, work.customer? index ≠ some session.core.token)
    (direct : ∀ moment ∈ since, ∀ move ∈ moment.moves surroundings,
      move.work.customer? index ≠ some session.core.token) :
    ∃ left found, (run surroundings 2 closing).world.queues[index]? = some left ∧
      now.world.queues[index]? = some found ∧
      asked (history index since) ++ (now.due index).filterMap Effect.ref? =
        (met .claimed (history index since)).map (·.ref) ∧
      Finishes session.core.token left.core.inFlight found.core.pending (history index since) := by
  obtain ⟨scene, _, hshows⟩ := opening.shows quiet fresh
  obtain ⟨middle, next, hfirst, hsecond, hdiscard, hleft, hdeparted⟩ :=
    closing_departs hshows quiet hsession hqueue hagenda hbehind
  obtain ⟨last, hrun, hnow⟩ := hleft.run quiet course
  have hhome : session.registry = node.registry := by
    obtain ⟨closed, hclosed, ⟨hplace, hregistry⟩, _⟩ := hdeparted.session
    obtain ⟨later, hlater, hgoes⟩ := course.ages.browsers place closed hclosed
    rw [← hregistry, ← hgoes.registry]
    exact wired later (List.mem_of_getElem? hlater) (hgoes.queue.trans hplace)
  rw [hhome] at hdeparted
  have hnumbered : start.world.Numbered index node.registry :=
    .of_unjoined registered fun other hmem hjoins => unjoined other hmem hjoins.1
  have hages := ((opening.step hfirst).step hsecond).ages
  obtain ⟨_, haccepted⟩ :=
    course.departed hdeparted (hages.numbered index node.registry hnumbered) wired direct
  have hpending := hdiscard.discarded
  have hasked := hrun.asked
  rw [hdiscard.asking_of_discard, List.nil_append] at hasked
  have hcount (request : ResolveRequest) (hsession : request.session = session.core.token) :
      (met .claimed (history index since)).count request + last.queue.pending.count request +
        (met .discarded (history index since)).count request +
        (met .cleared (history index since)).count request =
          (met .requeued (history index since)).count request := by
    have hbefore : request ∉ next.queue.pending := fun hmem => hpending request hmem hsession
    have hsince : request ∉ met .accepted (history index since) :=
      fun hmem => haccepted request hmem hsession
    have hwaiting := hrun.waiting request
    rw [List.count_eq_zero.mpr hbefore, List.count_eq_zero.mpr hsince] at hwaiting
    omega
  refine ⟨_, _, hleft.queue, hnow.queue, ?_, ?_, hcount, ?_⟩
  · rw [hnow.due]
    exact hasked
  · intro request hmem hsession
    exact hrun.inFlight_of_requeued (fun hbefore => hpending request hbefore hsession)
      (fun hsince => haccepted request hsince hsession) hmem
  · intro hbusy
    have hnone (request : ResolveRequest) (hsession : request.session = session.core.token) :
        request ∉ met .claimed (history index since) ∧ request ∉ last.queue.pending := by
      have hzero := List.count_eq_zero.mpr fun hmem => hbusy request hmem hsession
      have hsum := hcount request hsession
      exact ⟨List.count_eq_zero.mp (by omega), List.count_eq_zero.mp (by omega)⟩
    exact ⟨fun request hmem hsession => (hnone request hsession).2 hmem,
      fun request hmem hsession => (hnone request hsession).1 hmem⟩

/-- A new queue with an empty registry and a platform outside, and what is to be done about it. -/
def attended (script : List (List (Move ι))) (operations : List ServiceDiscovery.Operation) :
    Configuration ι (List (List (Move ι))) :=
  { alone false .zero script [] with agenda := operations.map ServiceDiscovery.Operation.work }

theorem attended_fresh (script : List (List (Move ι)))
    (operations : List ServiceDiscovery.Operation) :
    (attended script operations).Fresh 0 { platform := 0, registry := 0, core := {} } where
  found := rfl
  core := rfl
  idle := World.part_of_map fun operation _ => Work.part_move (.perform operation)

/-- A session is closed while one of its requests is under way. It is found to fail, and what the
session hears of afterwards is not resolved. -/
theorem closed_session_retried_only_when_busy_of_failed :
    let ref : ServiceRef := { name := "Printer", type := "_ipp._tcp" }
    let late : ServiceRef := { name := "Scanner", type := "_ipp._tcp" }
    let start : Configuration Empty (List (List (Move Empty))) := attended []
      [.build (.browse 0 0 0 (.outside 0)), .browse 0 (.notice (.found ref)), .browse 0 .close,
        .browse 0 (.notice (.found late)),
        .queue 0 (.outcome (.failed ref FailureCode.internal))]
    let closing := run .scripted 13 start
    let since := trail .scripted 20 (run .scripted 2 closing)
    let now := run .scripted 20 (run .scripted 2 closing)
    ∃ left found, (run .scripted 2 closing).world.queues[0]? = some left ∧
      now.world.queues[0]? = some found ∧
      asked (history 0 since) ++ (now.due 0).filterMap Effect.ref? =
        (met .claimed (history 0 since)).map (·.ref) ∧
      Finishes 1 left.core.inFlight found.core.pending (history 0 since) := by
  intro ref late start closing since now
  have fresh : start.Fresh 0 { platform := 0, registry := 0, core := {} } := attended_fresh ..
  have opening : Course .scripted start (trail .scripted 13 start) closing := course_run ..
  have hagenda : closing.agenda = .browse 0 .closing :: closing.agenda.tail := rfl
  have hsession : closing.world.browsers[0]? = some {
      platform := 0, queue := 0, registry := 0, core := { token := 1 } } := rfl
  have course : Course .scripted (run .scripted 2 closing) since now := course_run ..
  have hwired : ∀ node ∈ now.world.browsers, node.queue = 0 → node.registry = 0 := by
    decide +kernel
  have hbehind : ∀ work ∈ closing.agenda.tail, work.customer? 0 ≠ some 1 := by decide +kernel
  have hdirect : ∀ moment ∈ since, ∀ move ∈ moment.moves .scripted,
      move.work.customer? 0 ≠ some 1 := by
    decide +kernel
  exact closed_session_retried_only_when_busy Surroundings.scripted_quiet fresh Nat.one_pos
    (fun _ hmem => nomatch hmem) opening hsession rfl hagenda course hwired hbehind hdirect

/-- The request that is under way when its session is closed finds the resolver busy. It waits again
and is handed to the platform once more. -/
theorem closed_session_resolved_again :
    let ref : ServiceRef := { name := "Printer", type := "_ipp._tcp" }
    let busy : ResolveOutcome := .failed ref FailureCode.alreadyActive
    let start : Configuration Empty (List (List (Move Empty))) := attended []
      [.build (.browse 0 0 0 (.outside 0)), .browse 0 (.notice (.found ref)), .browse 0 .close,
        .queue 0 (.outcome busy)]
    let closed := run .scripted 17 start
    let record := history 0 (trail .scripted 8 closed)
    closed.world.browsers.map (·.core) = [{ token := 1, closed := true }] ∧
      closed.agenda = [.queue 0 (.call (.outcome busy))] ∧
      asked (history 0 (trail .scripted 17 start)) = [ref] ∧
      (run .scripted 1 closed).world.queues.map (·.core.pending) = [[{ ref, session := 1 }]] ∧
      met .claimed record = [{ ref, session := 1 }] ∧ asked record = [ref] :=
  ⟨rfl, rfl, rfl, rfl, rfl, rfl⟩

end Configuration

end ServiceDiscovery
