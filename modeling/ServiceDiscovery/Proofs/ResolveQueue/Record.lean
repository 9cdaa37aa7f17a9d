import ServiceDiscovery.Proofs.ResolveQueue.Scene

/-!
The record of a run: which requests met which fate, in order. Requests are claimed in order to be
resolved, so the platform was asked for those that were claimed and for nothing else, but for a
request that it is about to be asked for.
-/

namespace ServiceDiscovery.ResolveQueue

/-- All requests that a queue holds: the one under way, and then those that wait. -/
def backlog (queue : ResolveQueue) : List ResolveRequest :=
  queue.inFlight.toList ++ queue.pending

/-- What something that happened does to requests. -/
def Happening.deed : Happening → Deed
  | .turn taken before => ResolveQueue.deed taken before
  | .made _ => .nothing

/-- The requests that met a fate so far. -/
def met (fate : Fate) (history : List Happening) : List ResolveRequest :=
  history.flatMap (·.deed.met fate)

theorem met_append (fate : Fate) (history : List Happening) (happening : Happening) :
    met fate (history ++ [happening]) = met fate history ++ happening.deed.met fate := by
  simp [met]

/-- The references that the platform was asked for. -/
def asked (history : List Happening) : List ServiceRef :=
  history.filterMap fun
    | .made call => call.ref?
    | .turn _ _ => none

/-- The references that the platform is about to be asked for. -/
def Scene.asking (scene : Scene) : List ServiceRef :=
  scene.due.filterMap Effect.ref?

section

variable {before after : ResolveQueue} {deed : Deed} {request : ResolveRequest}

/-- The requests of a session and those of all others make up all that wait. -/
theorem count_session (session : Token) (pending : List ResolveRequest)
    (request : ResolveRequest) : pending.count request =
      (pending.filter (·.session = session)).count request +
        (pending.filter (·.session ≠ session)).count request := by
  simpa [List.count] using List.countP_eq_countP_filter_add pending (· == request)
    (fun waiting => waiting.session = session)

theorem holds_iff : before.holds request ↔
    before.inFlight = some request ∨ request ∈ before.pending := by
  simp [holds]

theorem mem_backlog : request ∈ before.backlog ↔ before.holds request = true := by
  simp [backlog, holds]

/-- A queue holds nothing after a deed that it did not hold before, but for what the deed took
in. -/
theorem Deed.Turns.holds (turns : deed.Turns before after) (h : after.holds request) :
    before.holds request ∨ request ∈ deed.met .accepted := by
  have hallowed := turns.allowed
  rw [holds_iff, turns.inFlight, turns.pending] at h
  rw [holds_iff]
  cases deed with
  | nothing | skipped | resolved | failed =>
      refine Or.inl (h.imp_left fun hslot => ?_)
      first | exact hslot | cases hslot
  | discarded session dropped =>
      exact Or.inl (h.imp_right fun hmem => (List.mem_filter.mp hmem).1)
  | cleared dropped abandoned =>
      rcases h with hslot | hmem
      · cases hslot
      · cases hmem
  | accepted taken =>
      rcases h with hslot | hmem
      · exact Or.inl (Or.inl hslot)
      · exact (List.mem_append.mp hmem).imp_left Or.inr
  | claimed taken =>
      obtain ⟨_, _, rest, hpending⟩ := hallowed
      refine Or.inl (Or.inr ?_)
      rw [hpending] at h ⊢
      rcases h with hslot | hmem
      · exact Option.some.inj hslot ▸ List.mem_cons_self
      · exact List.mem_cons_of_mem _ hmem
  | requeued settled =>
      rcases h with hslot | hmem
      · cases hslot
      · rcases List.mem_append.mp hmem with hwaiting | hlast
        · exact Or.inl (Or.inr hwaiting)
        · obtain rfl := List.mem_singleton.mp hlast
          exact Or.inl (Or.inl hallowed)

end

namespace Scene

variable {start scene next : Scene} {happening : Happening} {history : List Happening}
  {request : ResolveRequest}

/-- Requests and totals change by deeds only. -/
theorem step_turns (step : Step scene happening next) :
    happening.deed.Turns scene.queue next.queue := by
  cases step with
  | called operation => exact (taken _ _).turns
  | ran task => exact (taken _ _).turns
  | refused ref fault => exact (taken (.refused ref fault) _).turns
  | made call => exact ⟨trivial, rfl, rfl, rfl, rfl, rfl, rfl⟩

/-- Whatever a queue holds it held from the start, or took in since. -/
theorem Run.held (run : Run start history scene) (h : scene.queue.holds request) :
    start.queue.holds request ∨ request ∈ met .accepted history := by
  induction run with
  | start => exact Or.inl h
  | step run step ih =>
      rw [met_append, List.mem_append]
      rcases (step_turns step).holds h with hbefore | hnew
      · exact (ih hbefore).imp_right Or.inl
      · exact Or.inr (Or.inr hnew)

/-- Only calls count for what is about to be called. -/
theorem filterMap_of_calm {α : Type} {part : Effect → Option α} {due : List Effect}
    (calm : ∀ effect ∈ due, effect.isOwn) (hown : ∀ task, part (.own task) = none) :
    due.filterMap part = [] := by
  refine List.filterMap_eq_nil_iff.mpr fun effect hmem => ?_
  have howner := calm effect hmem
  cases effect with
  | own task => exact hown task
  | _ => cases howner

/-- A turn is about to make just the calls that it asks for. -/
theorem filterMap_after {α : Type} {part : Effect → Option α} (turn : Turn) (queue : ResolveQueue)
    {due : List Effect} (calm : ∀ effect ∈ due, effect.isOwn)
    (hown : ∀ task, part (.own task) = none)
    (hdue : ∀ effect, effect.isDue = false → part effect = none) :
    (after turn queue due).due.filterMap part = (take turn queue).2.filterMap part := by
  have hfront : ((take turn queue).2.filter Effect.isDue).filterMap part =
      (take turn queue).2.filterMap part := by
    rw [List.filterMap_filter]
    congr 1
    funext effect
    cases hkept : effect.isDue with
    | true => rfl
    | false => exact (hdue effect hkept).symm
  rw [after, List.filterMap_append, hfront, filterMap_of_calm calm hown, List.append_nil]

theorem asking_of_calm (queue : ResolveQueue) {due : List Effect}
    (calm : ∀ effect ∈ due, effect.isOwn) : asking ⟨queue, due⟩ = [] :=
  filterMap_of_calm calm fun _ => rfl

/-- A turn is about to ask for what it claims. -/
theorem asking_after (turn : Turn) (queue : ResolveQueue) {due : List Effect}
    (calm : ∀ effect ∈ due, effect.isOwn) :
    (after turn queue due).asking = ((deed turn queue).met .claimed).map (·.ref) := by
  have hdue (effect : Effect) (h : effect.isDue = false) : effect.ref? = none := by
    cases effect <;> first | rfl | cases h
  rw [asking, filterMap_after turn queue calm (fun _ => rfl) hdue, (taken turn queue).resolves]

theorem asked_append_turn (history : List Happening) (turn : Turn) (queue : ResolveQueue) :
    asked (history ++ [.turn turn queue]) = asked history := by
  simp [asked]

theorem step_asked (first : List ServiceRef) (step : Step scene happening next)
    (h : asked history ++ scene.asking = first ++ (met .claimed history).map (·.ref)) :
    asked (history ++ [happening]) ++ next.asking =
      first ++ (met .claimed (history ++ [happening])).map (·.ref) := by
  have hturn (turn : Turn) (queue : ResolveQueue) (due : List Effect)
      (calm : ∀ effect ∈ due, effect.isOwn) (hnone : scene.asking = []) :
      asked (history ++ [.turn turn queue]) ++ (after turn queue due).asking =
        first ++ (met .claimed (history ++ [.turn turn queue])).map (·.ref) := by
    rw [hnone, List.append_nil] at h
    rw [asked_append_turn, met_append, List.map_append, h, asking_after turn queue calm,
      List.append_assoc]
    rfl
  have hcalm {queue : ResolveQueue} {task : Task} {due : List Effect}
      (calm : ∀ effect ∈ due, effect.isOwn) : asking ⟨queue, .own task :: due⟩ = [] :=
    asking_of_calm _ (List.forall_mem_cons.mpr ⟨rfl, calm⟩)
  cases step with
  | called operation calm => exact hturn _ _ _ calm (asking_of_calm _ calm)
  | ran task inner calm => exact hturn _ _ _ calm (hcalm calm)
  | refused ref fault calm => exact hturn _ _ _ calm (hcalm calm)
  | made call outer =>
      rw [met_append, List.map_append, ← List.append_assoc, ← h]
      cases hask : call.ref? <;>
        simp [asked, asking, Happening.deed, Deed.met, hask]

/-- Whatever the platform was asked for, or is about to be asked for, is what was claimed, after
what it was about to be asked for at the start. -/
theorem Run.asked (run : Run start history scene) :
    asked history ++ scene.asking = start.asking ++ (met .claimed history).map (·.ref) := by
  induction run with
  | start => simp [ResolveQueue.asked, met]
  | step _ step ih => exact step_asked start.asking step ih

theorem run_asked {deduplicate : Bool} {retryDelay : Double}
    (run : Run (fresh deduplicate retryDelay) history scene) :
    ResolveQueue.asked history ++ scene.asking = (met .claimed history).map (·.ref) :=
  run.asked

end Scene

end ServiceDiscovery.ResolveQueue
