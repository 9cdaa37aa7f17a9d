import ServiceDiscovery.Proofs.ResolveQueue.Turn

/-!
A queue together with what it still has to do. Turns put tasks and calls in front of what is due,
and the next one due comes first, so what is due is the part of the call stack that belongs to the
queue. Operations may be called between any two of its tasks, but a call that the queue is about to
make comes before all else.

In every scene that comes up, draining is marked exactly while one task of the drain is due, and
requests that could be handed out have somebody who will do so.
-/

namespace ServiceDiscovery.ResolveQueue

namespace Effect

/-- Is the effect a task of the queue itself? -/
def isOwn : Effect → Bool
  | own _ => true
  | _ => false

/-- Is the effect one that the queue keeps track of: a task of its own, or a call to the platform or
to a timer? -/
def isDue : Effect → Bool
  | own _ | resolve _ | startTimer _ | cancelTimer _ => true
  | deliver _ _ | log _ | answerNumber _ => false

@[simp]
theorem isDue_own (task : Task) : (own task).isDue = true := rfl

@[simp]
theorem isDue_resolve (ref : ServiceRef) : (resolve ref).isDue = true := rfl

@[simp]
theorem isDue_startTimer (timer : Nat) : (startTimer timer).isDue = true := rfl

@[simp]
theorem isDue_cancelTimer (timer : Nat) : (cancelTimer timer).isDue = true := rfl

@[simp]
theorem isDue_deliver (session : Token) (event : Event) :
    (deliver session event).isDue = false := rfl

@[simp]
theorem isDue_answerNumber (n : Nat) : (answerNumber n).isDue = false := rfl

@[simp]
theorem isDue_debug (message : Text.Points) : (debug message).isDue = false := rfl

@[simp]
theorem isDue_exception (message : Text.Points) (fault : Fault) :
    (exception message fault).isDue = false := rfl

/-- Is the effect a task of whoever drains? -/
def isDraining : Effect → Bool
  | own .next | own (.resolving _) => true
  | _ => false

end Effect

theorem IsReport.filter_isDue {effects : List Effect} (h : IsReport effects) :
    effects.filter Effect.isDue = [] := by
  refine List.filter_eq_nil_iff.mpr fun effect hmem => ?_
  obtain ⟨message, rfl⟩ := h effect hmem
  simp

/-- What happens to a queue. -/
inductive Happening where
  /-- It takes a turn in the state that it was in before. -/
  | turn (turn : Turn) (before : ResolveQueue)
  /-- A call that it asked for is made. -/
  | made (call : Effect)
  deriving Repr

/-- A queue, and what it has to do in order. -/
structure Scene where
  queue : ResolveQueue
  due : List Effect

namespace Scene

/-- What a turn leads to. -/
def after (turn : Turn) (queue : ResolveQueue) (due : List Effect) : Scene where
  queue := (take turn queue).1
  due := (take turn queue).2.filter Effect.isDue ++ due

/-- One happening leads from scene to scene. Turns are taken only when no call is about to be
made. -/
inductive Step : Scene → Happening → Scene → Prop where
  | called {queue : ResolveQueue} {due : List Effect} (operation : Operation)
      (calm : ∀ effect ∈ due, effect.isOwn) :
      Step ⟨queue, due⟩ (.turn (.run (.call operation)) queue)
        (after (.run (.call operation)) queue due)
  | ran {queue : ResolveQueue} {due : List Effect} (task : Task)
      (inner : ∀ operation, task ≠ .call operation) (calm : ∀ effect ∈ due, effect.isOwn) :
      Step ⟨queue, .own task :: due⟩ (.turn (.run task) queue) (after (.run task) queue due)
  | refused {queue : ResolveQueue} {due : List Effect} (ref : ServiceRef) (fault : Fault)
      (calm : ∀ effect ∈ due, effect.isOwn) :
      Step ⟨queue, .own (.resolving ref) :: due⟩ (.turn (.refused ref fault) queue)
        (after (.refused ref fault) queue due)
  | made {queue : ResolveQueue} {due : List Effect} (call : Effect) (outer : call.isOwn = false) :
      Step ⟨queue, call :: due⟩ (.made call) ⟨queue, due⟩

/-- A history leads from scene to scene. -/
inductive Run (start : Scene) : List Happening → Scene → Prop where
  | start : Run start [] start
  | step {history : List Happening} {scene next : Scene} {happening : Happening}
      (run : Run start history scene) (step : Step scene happening next) :
      Run start (history ++ [happening]) next

/-- A turn is taken in the state of the scene. -/
theorem Step.before {turn : Turn} {queue : ResolveQueue} {scene next : Scene}
    (step : Step scene (.turn turn queue) next) : scene.queue = queue := by
  cases step <;> rfl

/-- Each happening of a run led on from a scene that its part of the history came to, and the rest
of the history is a run from there. -/
theorem Run.cut {start scene : Scene} {history more : List Happening} {happening : Happening}
    (run : Run start (history ++ happening :: more) scene) :
    ∃ middle next, Run start history middle ∧ Step middle happening next ∧ Run next more scene := by
  generalize hall : history ++ happening :: more = all at run
  induction run generalizing more with
  | start => simp at hall
  | @step earlier middle next last run step ih =>
      rcases List.eq_nil_or_concat more with rfl | ⟨shorter, final, rfl⟩
      · obtain ⟨rfl, hlast⟩ := List.append_inj' hall rfl
        obtain rfl : happening = last := by simpa using hlast
        exact ⟨middle, next, run, step, .start⟩
      · rw [List.concat_eq_append, ← List.cons_append, ← List.append_assoc] at hall
        obtain ⟨rfl, hlast⟩ := List.append_inj' hall rfl
        obtain rfl : final = last := by simpa using hlast
        obtain ⟨first, second, hfirst, hstep, hrest⟩ := ih rfl
        exact ⟨first, second, hfirst, hstep, by simpa using hrest.step step⟩

theorem Run.split {start scene : Scene} {history more : List Happening} {happening : Happening}
    (run : Run start (history ++ happening :: more) scene) :
    ∃ middle next, Run start history middle ∧ Step middle happening next := by
  obtain ⟨middle, next, hfirst, hstep, _⟩ := run.cut
  exact ⟨middle, next, hfirst, hstep⟩

/-- A queue to which nothing has happened yet. -/
def fresh (deduplicate : Bool) (retryDelay : Double) : Scene where
  queue := { deduplicate, retryDelay }
  due := []

/-- What holds in every scene. -/
structure Orderly (scene : Scene) : Prop where
  /-- Draining is marked while one task of the drain is due, and there is never a second one. -/
  owner : scene.due.countP Effect.isDraining = if scene.queue.draining then 1 else 0
  /-- Only what is due next can be a call. -/
  prompt : ∀ effect ∈ scene.due.tail, effect.isOwn
  /-- The platform is asked for a request under way, by the one who claimed it. -/
  asking : ∀ ref rest, scene.due = .resolve ref :: rest →
    scene.queue.inFlight ≠ none ∧ ∃ behind, rest = .own (.resolving ref) :: behind
  /-- While the platform is being asked, nothing else is under way. -/
  resolving : ∀ ref, .own (.resolving ref) ∈ scene.due →
    ∀ request, scene.queue.inFlight = some request → request.ref = ref
  held : scene.queue.holdOff ≠ none → scene.queue.inFlight = none
  /-- What could be handed out now is about to be. -/
  woken : scene.queue.inFlight = none → scene.queue.holdOff = none →
    scene.queue.draining = false → scene.queue.pending ≠ [] → .own .drain ∈ scene.due

theorem fresh_orderly (deduplicate : Bool) (retryDelay : Double) :
    (fresh deduplicate retryDelay).Orderly where
  owner := rfl
  prompt := by simp [fresh]
  asking := by simp [fresh]
  resolving := by simp [fresh]
  held := fun h => absurd rfl h
  woken := fun _ _ _ h => absurd rfl h

variable {queue changed : ResolveQueue} {due effects : List Effect} {deed : Deed}

/-- What an operation leaves behind is in order again, if it neither drains nor fills the slot and
provides for what waits. -/
theorem Orderly.called (h : Orderly ⟨queue, due⟩) (front : List Effect)
    (calm : ∀ effect ∈ due, effect.isOwn)
    (hlength : front.length ≤ 1) (hdrains : ∀ effect ∈ front, effect.isDraining = false)
    (hasks : ∀ ref, .resolve ref ∉ front) (hdraining : changed.draining = queue.draining)
    (hslot : changed.inFlight = queue.inFlight ∨ changed.inFlight = none)
    (hheld : changed.holdOff ≠ none → changed.inFlight = none)
    (hwoken : changed.inFlight = none → changed.holdOff = none → changed.draining = false →
      changed.pending ≠ [] → .own .drain ∈ front ++ due) :
    Orderly ⟨changed, front ++ due⟩ where
  owner := by
    have hnone : front.countP Effect.isDraining = 0 := by
      rw [List.countP_eq_zero]
      intro effect hmem
      simp [hdrains effect hmem]
    have howner := h.owner
    simp only [List.countP_append, hnone, hdraining] at howner ⊢
    simpa using howner
  prompt := by
    cases front with
    | nil => exact fun effect hmem => calm effect (List.mem_of_mem_tail hmem)
    | cons effect rest =>
        have hrest : rest = [] := by simpa using hlength
        simpa [hrest] using calm
  asking := by
    intro ref rest heq
    have hmem : Effect.resolve ref ∈ front ++ due := by
      change front ++ due = _ at heq
      simp [heq]
    rcases List.mem_append.mp hmem with hfront | hdue
    · exact absurd hfront (hasks ref)
    · cases calm _ hdue
  resolving := by
    intro ref hmem request hrequest
    have hdue : Effect.own (.resolving ref) ∈ due := by
      rcases List.mem_append.mp hmem with hfront | hdue
      · cases hdrains _ hfront
      · exact hdue
    rcases hslot with hsame | hnone
    · exact h.resolving ref hdue request (hsame ▸ hrequest)
    · simp [hnone] at hrequest
  held := hheld
  woken := hwoken

/-- Somebody who starts to drain makes up for whatever was added or given back. -/
theorem Orderly.wake (h : Orderly ⟨queue, due⟩) (calm : ∀ effect ∈ due, effect.isOwn)
    (hdraining : changed.draining = queue.draining)
    (hslot : changed.inFlight = queue.inFlight ∨ changed.inFlight = none)
    (hheld : changed.holdOff ≠ none → changed.inFlight = none) :
    Orderly ⟨changed, .own .drain :: due⟩ :=
  h.called [.own .drain] calm (by simp) (by simp [Effect.isDraining]) (by simp) hdraining
    hslot hheld fun _ _ _ _ => by simp

/-- An operation that adds or gives back a request has somebody drain, unless it begins a hold-off.
-/
theorem called_orderly {operation : Operation} (h : Orderly ⟨queue, due⟩)
    (calm : ∀ effect ∈ due, effect.isOwn)
    (taken : Taken queue (.run (.call operation)) deed changed effects) :
    Orderly ⟨changed, effects.filter Effect.isDue ++ due⟩ := by
  cases taken with
  | skipped => exact h.called [] calm (by simp) (by simp) (by simp) rfl (Or.inl rfl) h.held h.woken
  | accepted => exact h.wake calm rfl (Or.inl rfl) h.held
  | discarded count plain =>
      rw [List.filter_append, plain.filter_isDue]
      refine h.called [] calm (by simp) (by simp) (by simp) rfl (Or.inl rfl) h.held ?_
      intro hslot hhold hdraining hpending
      -- What is left after a discard was waiting before it.
      refine h.woken hslot hhold hdraining fun hnone => hpending ?_
      change queue.pending = [] at hnone
      simp [hnone]
  | cleared free plain =>
      rw [plain.filter_isDue]
      exact h.called [] calm (by simp) (by simp) (by simp) rfl (Or.inr rfl) (fun _ => rfl)
        fun _ _ _ hpending => absurd rfl hpending
  | @released timer report held plain =>
      rw [List.filter_cons_of_pos rfl, plain.filter_isDue]
      exact h.called [.cancelTimer timer] calm (by simp) (by simp [Effect.isDraining]) (by simp) rfl
        (Or.inr rfl) (fun _ => rfl) fun _ _ _ hpending => absurd rfl hpending
  | stale => exact h
  | resolved | unusable | failed | requeued => exact h.wake calm rfl (Or.inr rfl) fun _ => rfl
  | held =>
      exact h.called [.startTimer _] calm (by simp) (by simp [Effect.isDraining]) (by simp) rfl
        (Or.inr rfl) (fun _ => rfl) fun _ hnone => by cases hnone
  | fired => exact h.wake calm rfl (Or.inl rfl) fun hnone => absurd rfl hnone
  | unfired => exact h
  | claimed _ claims => cases claims
  | stopped claims => cases claims

/-- The owner of the drain is the only one who drains. -/
theorem Orderly.sole {task : Task} (h : Orderly ⟨queue, .own task :: due⟩)
    (howns : (Effect.own task).isDraining = true) :
    queue.draining = true ∧ due.countP Effect.isDraining = 0 := by
  have howner := h.owner
  simp only [List.countP_cons, howns, ↓reduceIte] at howner
  split at howner
  · exact ⟨‹_›, by omega⟩
  · omega

theorem not_mem_of_sole {ref : ServiceRef} (hsole : due.countP Effect.isDraining = 0) :
    Effect.own (.resolving ref) ∉ due := by
  intro hmem
  simpa [Effect.isDraining] using List.countP_eq_zero.mp hsole _ hmem

/-- Whoever owns the drain hands it on to the next task, or makes the mark go away. -/
theorem Orderly.resume (calm : ∀ effect ∈ due, effect.isOwn)
    (hsole : due.countP Effect.isDraining = 0) (hdraining : changed.draining = true)
    (hheld : changed.holdOff ≠ none → changed.inFlight = none) :
    Orderly ⟨changed, .own .next :: due⟩ where
  owner := by simp [List.countP_cons, Effect.isDraining, hsole, hdraining]
  prompt := calm
  asking := by simp
  resolving := fun other hmem => absurd (by simpa using hmem) (not_mem_of_sole hsole)
  held := hheld
  woken := fun _ _ hidle => by cases hdraining.symm.trans hidle

/-- Draining begins only when nobody drains. -/
theorem drain_orderly (h : Orderly ⟨queue, .own .drain :: due⟩)
    (calm : ∀ effect ∈ due, effect.isOwn)
    (taken : Taken queue (.run .drain) deed changed effects) :
    Orderly ⟨changed, effects.filter Effect.isDue ++ due⟩ := by
  have howner : due.countP Effect.isDraining = if queue.draining then 1 else 0 := by
    have howner := h.owner
    simp only [List.countP_cons, Effect.isDraining] at howner
    simpa using howner
  cases taken with
  | draining busy =>
      exact {
        owner := howner
        prompt := fun effect hmem => calm effect (List.mem_of_mem_tail hmem)
        asking := by
          rintro ref rest hdue
          cases calm (.resolve ref) (by simp_all)
        resolving := fun ref hmem => h.resolving ref (List.mem_cons_of_mem _ hmem)
        held := h.held
        woken := fun _ _ hidle => by cases busy.symm.trans hidle }
  | drained idle =>
      have hsole : due.countP Effect.isDraining = 0 := by simpa [idle] using howner
      exact .resume calm hsole rfl h.held
  | claimed _ claims => cases claims
  | stopped claims => cases claims

/-- The owner of the drain asks for the next request, or gives the drain up when there is none. -/
theorem next_orderly {task : Task} (h : Orderly ⟨queue, .own task :: due⟩)
    (howns : task.claims = true) (calm : ∀ effect ∈ due, effect.isOwn)
    (taken : Taken queue (.run task) deed changed effects) :
    Orderly ⟨changed, effects.filter Effect.isDue ++ due⟩ := by
  have hdrains : (Effect.own task).isDraining = true := by
    cases task <;> first | rfl | cases howns
  obtain ⟨hdraining, hsole⟩ := h.sole hdrains
  cases taken with
  | @claimed _ request rest message _ unasked free first =>
      change Orderly ⟨{ queue with pending := rest, inFlight := some request },
        .resolve request.ref :: .own (.resolving request.ref) :: due⟩
      exact {
        owner := by simp [List.countP_cons, Effect.isDraining, hsole, hdraining]
        prompt := by
          intro effect hmem
          rcases List.mem_cons.mp hmem with rfl | hdue
          · rfl
          · exact calm effect hdue
        asking := by
          rintro ref behind heq
          obtain ⟨href, hbehind⟩ := List.cons.inj heq
          cases href
          exact ⟨by simp, due, hbehind.symm⟩
        resolving := by
          intro ref hmem other hother
          obtain rfl : request = other := Option.some.inj hother
          simp only [List.mem_cons, reduceCtorEq, false_or, Effect.own.injEq,
            Task.resolving.injEq] at hmem
          rcases hmem with rfl | hdue
          · rfl
          · exact absurd hdue (not_mem_of_sole hsole)
        held := fun hheld => absurd free hheld
        woken := fun hfree => by cases hfree }
  | stopped _ spent =>
      exact {
        owner := by simpa using hsole
        prompt := fun effect hmem => calm effect (List.mem_of_mem_tail hmem)
        asking := by
          rintro ref behind hdue
          cases calm (.resolve ref) (by simp_all)
        resolving := fun ref hmem => absurd hmem (not_mem_of_sole hsole)
        held := h.held
        woken := fun hslot hhold _ hpending => absurd (spent hslot hhold) hpending }
  | _ => cases howns

theorem refused_orderly {ref : ServiceRef} {fault : Fault}
    (h : Orderly ⟨queue, .own (.resolving ref) :: due⟩) (calm : ∀ effect ∈ due, effect.isOwn)
    (taken : Taken queue (.refused ref fault) deed changed effects) :
    Orderly ⟨changed, effects.filter Effect.isDue ++ due⟩ := by
  obtain ⟨hdraining, hsole⟩ := h.sole rfl
  cases taken with
  | rejected => exact .resume calm hsole hdraining fun _ => rfl
  | settled => exact .resume calm hsole hdraining h.held

theorem made_orderly {call : Effect} (outer : call.isOwn = false)
    (h : Orderly ⟨queue, call :: due⟩) : Orderly ⟨queue, due⟩ where
  owner := by
    have howner := h.owner
    have hcall : call.isDraining = false := by
      cases call <;> first | rfl | cases outer
    simp only [List.countP_cons, hcall] at howner
    simpa using howner
  prompt := fun effect hmem => h.prompt effect (List.mem_of_mem_tail hmem)
  asking := by
    rintro ref behind rfl
    cases h.prompt (.resolve ref) List.mem_cons_self
  resolving := fun ref hmem => h.resolving ref (List.mem_cons_of_mem _ hmem)
  held := h.held
  woken := by
    intro hslot hhold hidle hpending
    have hmem := h.woken hslot hhold hidle hpending
    rcases List.mem_cons.mp hmem with rfl | hdue
    · cases outer
    · exact hdue

theorem step_orderly {scene next : Scene} {happening : Happening}
    (step : Step scene happening next) (h : scene.Orderly) : next.Orderly := by
  cases step with
  | called operation calm => exact called_orderly h calm (taken _ _)
  | ran task inner calm =>
      cases task with
      | call operation => exact absurd rfl (inner operation)
      | drain => exact drain_orderly h calm (taken _ _)
      | next => exact next_orderly h rfl calm (taken _ _)
      | resolving ref => exact next_orderly h rfl calm (taken _ _)
  | refused ref fault calm => exact refused_orderly h calm (taken (.refused ref fault) _)
  | made call outer => exact made_orderly outer h

/-- Every scene that a new queue comes to is in order. -/
theorem run_orderly {deduplicate : Bool} {retryDelay : Double} {history : List Happening}
    {scene : Scene} (run : Run (fresh deduplicate retryDelay) history scene) : scene.Orderly := by
  induction run with
  | start => exact fresh_orderly deduplicate retryDelay
  | step _ step ih => exact step_orderly step ih

end Scene

end ServiceDiscovery.ResolveQueue
