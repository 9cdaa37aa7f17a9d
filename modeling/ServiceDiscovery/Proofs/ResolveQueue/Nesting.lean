import ServiceDiscovery.Proofs.ResolveQueue.Record
import ServiceDiscovery.Proofs.ResolveQueue.View

/-!
Calls to the platform never nest. Whoever drains a queue waits for a call to come back before the
next one begins, however many handlers, channels and timers call the queue meanwhile. So a single
call is on the stack, and what is under way when it raises was claimed for that call: a reference
is enough to tell, even if equal requests wait.
-/

namespace ServiceDiscovery

variable {ι σ : Type}

namespace ResolveQueue

/-- The reference of the call to the platform that a task waits for. -/
def Effect.awaited? : Effect → Option ServiceRef
  | own (.resolving ref) => some ref
  | _ => none

theorem Effect.eq_resolve_of_ref {effect : Effect} {ref : ServiceRef} (h : effect.ref? = some ref) :
    effect = .resolve ref := by
  cases effect with
  | resolve other => exact congrArg resolve (Option.some.inj h)
  | _ => cases h

/-- The calls to the platform that did not come back yet, the innermost first, given those
before. -/
def Happening.onCalls : Happening → List ServiceRef → List ServiceRef
  | .made (.resolve ref), calls => ref :: calls
  | .turn (.run (.resolving _)) _, calls | .turn (.refused _ _) _, calls => calls.tail
  | .made _, calls | .turn _ _, calls => calls

/-- The calls to the platform that were made and neither returned nor raised so far. -/
def calls (history : List Happening) : List ServiceRef :=
  history.foldl (fun calls happening => happening.onCalls calls) []

theorem calls_append (history : List Happening) (happening : Happening) :
    calls (history ++ [happening]) = happening.onCalls (calls history) := by
  simp [calls]

/-- Does the deed answer the request under way, or give it up? -/
def Deed.ends : Deed → Bool
  | resolved _ _ | failed _ | requeued _ => true
  | cleared _ abandoned => abandoned.isSome
  | nothing | accepted _ | skipped _ | discarded _ _ | claimed _ => false

/-- What comes of a fault that a call to the platform raises, given all that happened before. No
other call is on the stack. If the request that was claimed for the call is under way still, it is
released and counts as failed. If it was answered or given up since, nothing changes. -/
def Refused (past : List Happening) (ref : ServiceRef) (fault : Fault) (queue : ResolveQueue) :
    Prop :=
  calls past = [ref] ∧ ∃ earlier turn before request since,
    past = earlier ++ .turn turn before :: .made (.resolve ref) :: since ∧
    deed turn before = .claimed request ∧ request.ref = ref ∧ met .claimed since = [] ∧
    if since.any (·.deed.ends) then
      deed (.refused ref fault) queue = .nothing ∧ (take (.refused ref fault) queue).1 = queue
    else
      deed (.refused ref fault) queue = .failed request ∧ (take (.refused ref fault) queue).1 =
        { queue with inFlight := none, failed := queue.failed + 1 }

section

variable {queue after : ResolveQueue} {turn : Turn} {deed : Deed} {effects : List Effect}

/-- A turn waits for the platform once for each request that it claims. -/
theorem Taken.awaits (h : Taken queue turn deed after effects) :
    effects.filterMap Effect.awaited? = (deed.met .claimed).map (·.ref) := by
  cases h with
  | cleared _ plain => exact plain.filterMap_eq_nil fun _ => rfl
  | released _ plain => exact plain.filterMap_eq_nil fun _ => rfl
  | discarded count plain =>
      rw [List.filterMap_append, plain.filterMap_eq_nil fun _ => rfl]
      rfl
  | _ => rfl

/-- A request under way stays so until it is answered or given up. -/
theorem Deed.Turns.flight (turns : deed.Turns queue after) (hclaimed : deed.met .claimed = []) :
    after.inFlight = if deed.ends then none else queue.inFlight := by
  have hallowed := turns.allowed
  rw [turns.inFlight]
  cases deed with
  | claimed request => cases hclaimed
  | cleared dropped abandoned =>
      obtain ⟨-, rfl⟩ := hallowed
      cases hslot : queue.inFlight <;> rfl
  | _ => rfl

end

namespace Scene

variable {queue : ResolveQueue} {due : List Effect} {scene next : Scene} {happening : Happening}
  {history : List Happening}

/-- The calls to the platform that somebody waits for, or is about to. -/
def awaited (scene : Scene) : List ServiceRef :=
  scene.due.filterMap Effect.awaited?

theorem awaited_after (turn : Turn) (queue : ResolveQueue) (due : List Effect) :
    (after turn queue due).awaited =
      ((deed turn queue).met .claimed).map (·.ref) ++ awaited ⟨queue, due⟩ := by
  have hfront : ((take turn queue).2.filter Effect.isDue).filterMap Effect.awaited? =
      (take turn queue).2.filterMap Effect.awaited? := by
    rw [List.filterMap_filter]
    congr 1
    funext effect
    cases effect <;> rfl
  rw [awaited, after, List.filterMap_append, hfront, (taken turn queue).awaits]
  rfl

/-- Only the owner of the drain waits for the platform. -/
theorem Orderly.awaited_length (h : scene.Orderly) : scene.awaited.length ≤ 1 := by
  have hcount : scene.due.countP (fun effect => effect.awaited?.isSome) ≤
      scene.due.countP Effect.isDraining := by
    refine List.countP_mono_left fun effect _ hawaited => ?_
    cases effect with
    | own task => cases task <;> first | rfl | cases hawaited
    | _ => cases hawaited
  have howner := h.owner
  rw [awaited, List.length_filterMap_eq_countP]
  split at howner <;> omega

/-- When a call is about to be made, none is on the stack, and one task is to wait for it. -/
theorem calls_of_asking {ref : ServiceRef} (h : Orderly ⟨queue, .resolve ref :: due⟩)
    (hcalls : asking ⟨queue, .resolve ref :: due⟩ ++ calls history =
      awaited ⟨queue, .resolve ref :: due⟩) :
    calls history = [] ∧ awaited ⟨queue, due⟩ = [ref] := by
  have hnone : asking ⟨queue, due⟩ = [] := asking_of_calm queue h.prompt
  have hone := h.awaited_length
  change ref :: asking ⟨queue, due⟩ ++ calls history = awaited ⟨queue, due⟩ at hcalls
  change (awaited ⟨queue, due⟩).length ≤ 1 at hone
  rw [hnone] at hcalls
  rw [← hcalls] at hone ⊢
  have hempty : calls history = [] := List.length_eq_zero_iff.mp (by simpa using hone)
  simp [hempty]

/-- Somebody waits for each call that was made and did not come back, and for the one that is about
to be made. -/
theorem step_awaited (step : Step scene happening next) (orderly : scene.Orderly)
    (h : scene.asking ++ calls history = scene.awaited) :
    next.asking ++ calls (history ++ [happening]) = next.awaited := by
  have hturn (turn : Turn) (queue : ResolveQueue) (due : List Effect)
      (calm : ∀ effect ∈ due, effect.isOwn)
      (hcalls : (Happening.turn turn queue).onCalls (calls history) = awaited ⟨queue, due⟩) :
      (after turn queue due).asking ++ calls (history ++ [.turn turn queue]) =
        (after turn queue due).awaited := by
    rw [asking_after turn queue calm, awaited_after, calls_append, hcalls]
  cases step with
  | @called queue due operation calm =>
      rw [asking_of_calm queue calm] at h
      exact hturn _ queue due calm h
  | @ran queue due task inner calm =>
      rw [asking_of_calm queue (List.forall_mem_cons.mpr ⟨rfl, calm⟩)] at h
      refine hturn _ queue due calm ?_
      cases task with
      | call operation => exact absurd rfl (inner operation)
      | resolving ref => exact congrArg List.tail h
      | drain => exact h
      | next => exact h
  | @refused queue due ref fault calm =>
      rw [asking_of_calm queue (List.forall_mem_cons.mpr ⟨rfl, calm⟩)] at h
      exact hturn _ queue due calm (congrArg List.tail h)
  | @made queue due call outer =>
      rw [calls_append]
      cases call with
      | own task => cases outer
      | resolve ref =>
          -- The call moves from what is about to be made to the stack.
          change ref :: asking ⟨queue, due⟩ ++ calls history = awaited ⟨queue, due⟩ at h
          change asking ⟨queue, due⟩ ++ ref :: calls history = awaited ⟨queue, due⟩
          have hnone : asking ⟨queue, due⟩ = [] := asking_of_calm queue orderly.prompt
          rw [hnone] at h ⊢
          exact h
      | _ => exact h

theorem run_awaited {deduplicate : Bool} {retryDelay : Double}
    (run : Run (fresh deduplicate retryDelay) history scene) :
    scene.asking ++ calls history = scene.awaited := by
  induction run with
  | start => rfl
  | step run step ih => exact step_awaited step (run_orderly run) ih

/-- Each call to the platform is for the request that was claimed just before. Nothing else is
claimed until it comes back. -/
structure Trying (history : List Happening) (scene : Scene) : Prop where
  begins : ∀ ref ∈ scene.asking, ∃ earlier turn before request,
    history = earlier ++ [.turn turn before] ∧ deed turn before = .claimed request ∧
      request.ref = ref ∧ scene.queue.inFlight = some request
  lasts : scene.asking = [] → ∀ ref ∈ scene.awaited, ∃ earlier turn before request since,
    history = earlier ++ .turn turn before :: .made (.resolve ref) :: since ∧
      deed turn before = .claimed request ∧ request.ref = ref ∧ met .claimed since = [] ∧
      scene.queue.inFlight = if since.any (·.deed.ends) then none else some request

/-- A turn claims a request to ask for it, or lets whoever waits for the platform go on waiting. -/
theorem Trying.turned {due before : List Effect} (h : Trying history ⟨queue, before⟩) (turn : Turn)
    (calm : ∀ effect ∈ before, effect.isOwn) (hdue : due <:+ before) :
    Trying (history ++ [.turn turn queue]) (after turn queue due) := by
  have hturns := (taken turn queue).turns
  have hasking := asking_after turn queue fun effect hmem => calm effect (hdue.mem hmem)
  constructor
  · intro ref hmem
    rw [hasking] at hmem
    obtain ⟨request, hmet, rfl⟩ := List.mem_map.mp hmem
    have hclaimed : deed turn queue = .claimed request := by
      cases hdeed : deed turn queue with
      | claimed taken =>
          rw [hdeed] at hmet
          rw [List.mem_singleton.mp hmet]
      | _ => simp [hdeed, Deed.met] at hmet
    refine ⟨history, turn, queue, request, rfl, hclaimed, rfl, ?_⟩
    have hslot := hturns.inFlight
    rw [hclaimed] at hslot
    exact hslot
  · intro hnone ref hmem
    rw [hasking] at hnone
    have hclaimed : (deed turn queue).met .claimed = [] := List.map_eq_nil_iff.mp hnone
    rw [awaited_after, hnone, List.nil_append] at hmem
    obtain ⟨earlier, first, state, request, since, hsplit, hdeed, href, hsince, hslot⟩ :=
      h.lasts (asking_of_calm queue calm) ref ((hdue.filterMap _).mem hmem)
    refine ⟨earlier, first, state, request, since ++ [.turn turn queue], by simp [hsplit], hdeed,
      href, by rw [met_append, hsince]; exact hclaimed, ?_⟩
    change (take turn queue).1.inFlight = _
    change queue.inFlight = _ at hslot
    rw [hturns.flight hclaimed, hslot, List.any_append]
    change _ = if (since.any _ || ((deed turn queue).ends || false)) then _ else _
    cases (deed turn queue).ends <;> cases since.any (·.deed.ends) <;> rfl

theorem step_trying (step : Step scene happening next) (orderly : scene.Orderly)
    (hcalls : scene.asking ++ calls history = scene.awaited) (h : Trying history scene) :
    Trying (history ++ [happening]) next := by
  cases step with
  | called operation calm => exact h.turned _ calm (List.suffix_refl _)
  | ran task inner calm =>
      exact h.turned _ (List.forall_mem_cons.mpr ⟨rfl, calm⟩) (List.suffix_cons ..)
  | refused ref fault calm =>
      exact h.turned _ (List.forall_mem_cons.mpr ⟨rfl, calm⟩) (List.suffix_cons ..)
  | @made queue due call outer =>
      have hnone : asking ⟨queue, due⟩ = [] := asking_of_calm queue orderly.prompt
      refine ⟨by simp [hnone], fun _ other hmem => ?_⟩
      cases hcall : call.ref? with
      | some ref =>
          obtain rfl := Effect.eq_resolve_of_ref hcall
          -- Whoever is to wait for the call that is made now is the only one who waits.
          rw [(calls_of_asking orderly hcalls).2, List.mem_singleton] at hmem
          obtain ⟨earlier, turn, before, request, rfl, hdeed, href, hslot⟩ :=
            h.begins ref (by simp [asking, Effect.ref?])
          exact ⟨earlier, turn, before, request, [], by simp [hmem], hdeed, href.trans hmem.symm,
            rfl, hslot⟩
      | none =>
          have hbefore : asking ⟨queue, call :: due⟩ = [] := by
            rw [asking, List.filterMap_cons, hcall]
            exact hnone
          have hmem' : other ∈ awaited ⟨queue, call :: due⟩ :=
            ((List.suffix_cons call due).filterMap _).mem hmem
          obtain ⟨earlier, turn, before, request, since, rfl, hdeed, href, hsince, hslot⟩ :=
            h.lasts hbefore other hmem'
          refine ⟨earlier, turn, before, request, since ++ [.made call], by simp, hdeed, href,
            ?_, ?_⟩
          · rw [met_append, hsince]
            rfl
          · rw [List.any_append]
            simpa [Happening.deed, Deed.ends] using hslot

theorem run_trying {deduplicate : Bool} {retryDelay : Double}
    (run : Run (fresh deduplicate retryDelay) history scene) : Trying history scene := by
  induction run with
  | start => exact ⟨by simp [fresh, asking], by simp [fresh, awaited]⟩
  | step run step ih => exact step_trying step (run_orderly run) (run_awaited run) ih

variable {deduplicate : Bool} {retryDelay : Double} {first rest : List Happening}
  {ref : ServiceRef}

/-- A call begins only when no other one is on the stack. -/
theorem calls_of_made
    (run : Run (fresh deduplicate retryDelay) (first ++ .made (.resolve ref) :: rest) scene) :
    calls first = [] := by
  obtain ⟨⟨queue, due⟩, next, hfirst, hstep⟩ := run.split
  cases hstep with
  | made call outer => exact (calls_of_asking (run_orderly hfirst) (run_awaited hfirst)).1

/-- A fault that a call raises is for the request that was claimed for that call. -/
theorem refused_of_turn {fault : Fault}
    (run : Run (fresh deduplicate retryDelay) (first ++ .turn (.refused ref fault) queue :: rest)
      scene) : Refused first ref fault queue := by
  obtain ⟨middle, next, hfirst, hstep⟩ := run.split
  have hcalls := run_awaited hfirst
  have hone := (run_orderly hfirst).awaited_length
  cases hstep with
  | @refused _ due _ _ calm =>
      have hnone : asking ⟨queue, .own (.resolving ref) :: due⟩ = [] :=
        asking_of_calm queue (List.forall_mem_cons.mpr ⟨rfl, calm⟩)
      obtain ⟨earlier, turn, before, request, since, hsplit, hdeed, href, hsince, hslot⟩ :=
        (run_trying hfirst).lasts hnone ref (by simp [awaited, Effect.awaited?])
      rw [hnone, List.nil_append] at hcalls
      refine ⟨?_, earlier, turn, before, request, since, hsplit, hdeed, href, hsince, ?_⟩
      · rw [hcalls]
        change (ref :: awaited ⟨queue, due⟩).length ≤ 1 at hone
        change ref :: awaited ⟨queue, due⟩ = [ref]
        have hempty : awaited ⟨queue, due⟩ = [] := List.length_eq_zero_iff.mp (by simpa using hone)
        rw [hempty]
      · change queue.inFlight = _ at hslot
        cases hends : since.any (·.deed.ends) with
        | true =>
            have hanswered : queue.answered ref = none := by simp [answered, hslot, hends]
            simp [deed, take, rejected, hanswered, finish_eq_none hanswered]
        | false =>
            have hanswered : queue.answered ref = some request := by
              simp [answered, hslot, hends, href]
            simp [deed, take, rejected, hanswered, finish_eq_some hanswered]

end Scene

end ResolveQueue

namespace Configuration

open ResolveQueue

variable {surroundings : Surroundings ι σ} {start now : Configuration ι σ}
  {past : List (Configuration ι σ)} {index : Nat} {node : QueueNode}

/-- At every moment at most one call to the platform is on the stack: those that were made and did
not come back, with the one that is about to be made, are what somebody waits for. No call ever
began while another one was on the stack. When a call raised, the request that was claimed for that
call was released and counted as failed if it was under way still, and nothing changed if it had
been answered or given up meanwhile. -/
theorem drain_never_nests (quiet : surroundings.Quiet) (fresh : start.Fresh index node)
    (course : Course surroundings start past now) :
    let record := history index past
    (now.due index).filterMap Effect.ref? ++ calls record =
        (now.due index).filterMap Effect.awaited? ∧
      (calls record).length ≤ 1 ∧
      (∀ first ref rest, record = first ++ .made (.resolve ref) :: rest → calls first = []) ∧
      ∀ first ref fault queue rest, record = first ++ .turn (.refused ref fault) queue :: rest →
        Refused first ref fault queue := by
  obtain ⟨scene, hrun, hshows⟩ := course.shows quiet fresh
  have hcalls := Scene.run_awaited hrun
  have hone := (Scene.run_orderly hrun).awaited_length
  refine ⟨?_, ?_, ?_, ?_⟩
  · rw [hshows.due]
    exact hcalls
  · rw [← hcalls, List.length_append] at hone
    omega
  · intro first ref rest hsplit
    exact Scene.calls_of_made (hsplit ▸ hrun)
  · intro first ref fault queue rest hsplit
    exact Scene.refused_of_turn (hsplit ▸ hrun)

/-- A platform has an equal request added while it works on the first, answers the first, and raises
all the same. Only the call for the second request, which raises too, makes that one fail. -/
theorem drain_never_nests_of_raising :
    let ref : ServiceRef := { name := "Printer", type := "_ipp._tcp" }
    let again : Move Empty := .perform (.queue 0 (.enqueue ref 2))
    let answer : Move Empty := .perform (.queue 0 (.outcome (.failed ref FailureCode.internal)))
    let refusal : Move Empty := .raise (.outside .runtime "busy")
    let start := alone false .zero [[again, answer, refusal], [refusal]] [.enqueue ref 1]
    let now := run .scripted 60 start
    let record := history 0 (trail .scripted 60 start)
    met .failed record = [{ ref, session := 1 }, { ref, session := 2 }] ∧
      (now.due 0).filterMap Effect.ref? ++ calls record =
        (now.due 0).filterMap Effect.awaited? ∧
      (calls record).length ≤ 1 ∧
      (∀ first ref rest, record = first ++ .made (.resolve ref) :: rest → calls first = []) ∧
      ∀ first ref fault queue rest, record = first ++ .turn (.refused ref fault) queue :: rest →
        Refused first ref fault queue :=
  ⟨rfl, drain_never_nests Surroundings.scripted_quiet (alone_fresh ..) (course_run ..)⟩

end Configuration

end ServiceDiscovery
