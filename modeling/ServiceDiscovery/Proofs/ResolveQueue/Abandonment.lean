import ServiceDiscovery.Proofs.ResolveQueue.Record
import ServiceDiscovery.Proofs.ResolveQueue.View

/-!
What becomes of outcomes that come after a queue was cleared. Outcomes carry a reference and nothing
else, so an outcome for a request that was given up comes to nothing as long as nobody asked for the
same reference again. Once an equal reference is under way the queue takes the late outcome for an
answer to the new request.
-/

namespace ServiceDiscovery

variable {ι σ : Type}

namespace ResolveQueue

section

variable {before : ResolveQueue} {request : ResolveRequest} {outcome : ResolveOutcome}

/-- An outcome for nobody leaves the queue as it was, with a line in the log. -/
theorem take_outcome_of_unasked (h : before.answered outcome.ref = none) :
    ∃ message, take (.run (.call (.outcome outcome))) before = (before, [debug message]) := by
  have htaken := taken (.run (.call (.outcome outcome))) before
  generalize take (.run (.call (.outcome outcome))) before = result at htaken ⊢
  generalize ResolveQueue.deed (.run (.call (.outcome outcome))) before = deed at htaken
  obtain ⟨after, effects⟩ := result
  cases htaken with
  | stale message => exact ⟨message, rfl⟩
  | resolved _ asked | unusable _ asked | failed _ asked | requeued _ asked | held _ asked =>
      cases asked.symm.trans h
  | claimed _ claims | stopped claims => cases claims

/-- Any outcome for the request under way releases it. -/
theorem take_outcome_of_asked (h : before.answered outcome.ref = some request) :
    (take (.run (.call (.outcome outcome))) before).1.inFlight = none := by
  have htaken := taken (.run (.call (.outcome outcome))) before
  generalize take (.run (.call (.outcome outcome))) before = result at htaken ⊢
  generalize ResolveQueue.deed (.run (.call (.outcome outcome))) before = deed at htaken
  obtain ⟨after, effects⟩ := result
  cases htaken with
  | stale _ unasked => cases unasked.symm.trans h
  | resolved | unusable | failed | requeued | held => rfl
  | claimed _ claims | stopped claims => cases claims

end

namespace Scene

variable {start scene : Scene} {before since : List Happening} {cleared : ResolveQueue}
  {request : ResolveRequest}

/-- Whatever a queue holds after it was cleared it took in since. -/
theorem held_of_cleared
    (run : Run start (before ++ .turn (.run (.call .clear)) cleared :: since) scene)
    (h : scene.queue.holds request) : request ∈ met .accepted since := by
  obtain ⟨middle, next, -, hstep, hrest⟩ := run.cut
  refine (hrest.held h).resolve_left ?_
  have hqueue : next.queue = cleared.clear.1 := by
    cases hstep <;> rfl
  simp [hqueue, clear, holds]

end Scene

end ResolveQueue

namespace Configuration

open ResolveQueue

variable {surroundings : Surroundings ι σ} {start now : Configuration ι σ}
  {past : List (Configuration ι σ)} {index : Nat} {node : QueueNode} {outcome : ResolveOutcome}
  {rest : List (Work ι)}

/-- The task in front is ignored: a line in the log is all that comes of it, and when that is
written the world is as it was and all other work is still to be done. -/
def Ignores (surroundings : Surroundings ι σ) (now : Configuration ι σ) : Prop :=
  ∃ task rest record after next, now.agenda = task :: rest ∧
    now.step surroundings = some after ∧ after.world = now.world ∧
    after.agenda = .call (.log record) :: rest ∧
    after.step surroundings = some next ∧ next.world = now.world ∧ next.agenda = rest

theorem ignores_of_unasked (quiet : surroundings.Quiet)
    (hqueue : now.world.queues[index]? = some node)
    (hagenda : now.agenda = .queue index (.call (.outcome outcome)) :: rest)
    (hasked : node.core.answered outcome.ref = none) : now.Ignores surroundings := by
  obtain ⟨message, htake⟩ := take_outcome_of_unasked hasked
  have hstep : now.step surroundings = some _ := step_queue hqueue hagenda
  rw [htake] at hstep
  have hsame : now.world.queues.set index node = now.world.queues := by
    obtain ⟨hlt, rfl⟩ := List.getElem?_eq_some_iff.mp hqueue
    exact List.set_getElem_self hlt
  simp only [hsame] at hstep
  refine ⟨_, rest, _, _, _, hagenda, hstep, rfl, rfl, rfl, rfl, ?_⟩
  simp [quiet.log]

/-- A task that is ignored leaves no queue changed. -/
theorem Ignores.unasked (h : now.Ignores surroundings)
    (hqueue : now.world.queues[index]? = some node)
    (hagenda : now.agenda = .queue index (.call (.outcome outcome)) :: rest) :
    node.core.answered outcome.ref = none := by
  obtain ⟨_, _, _, after, _, _, hstep, hworld, _⟩ := h
  cases hasked : node.core.answered outcome.ref with
  | none => rfl
  | some request =>
      have hafter := Option.some.inj (hstep.symm.trans (step_queue hqueue hagenda))
      have hlt : index < now.world.queues.length := (List.getElem?_eq_some_iff.mp hqueue).1
      have hchanged : now.world.queues[index]? = some
          { node with core := (take (.run (.call (.outcome outcome))) node.core).1 } := by
        rw [← hworld, hafter]
        simp [hlt]
      have hcore := congrArg QueueNode.core (Option.some.inj (hqueue.symm.trans hchanged))
      have hfree : node.core.inFlight = none := by
        rw [hcore]
        exact take_outcome_of_asked hasked
      cases (inFlight_of_answered hasked).1.symm.trans hfree

/-- After a queue was cleared an outcome is ignored just in case nothing under way has its
reference, and whatever is under way was taken in since. So a late outcome is ignored as long as
nobody asks for its reference again. -/
theorem late_outcome_ignored_iff (quiet : surroundings.Quiet) (fresh : start.Fresh index node)
    (course : Course surroundings start past now) {before since : List Happening}
    {cleared : ResolveQueue}
    (hcleared : history index past = before ++ .turn (.run (.call .clear)) cleared :: since)
    (hagenda : now.agenda = .queue index (.call (.outcome outcome)) :: rest) :
    ∃ found, now.world.queues[index]? = some found ∧
      (now.Ignores surroundings ↔
        ∀ request, found.core.inFlight = some request → request.ref ≠ outcome.ref) ∧
      (∀ request, found.core.inFlight = some request → request ∈ met .accepted since) ∧
      ((∀ request ∈ met .accepted since, request.ref ≠ outcome.ref) →
        now.Ignores surroundings) := by
  obtain ⟨scene, hrun, hshows⟩ := course.shows quiet fresh
  rw [hcleared] at hrun
  have hiff : now.Ignores surroundings ↔
      ∀ request, scene.queue.inFlight = some request → request.ref ≠ outcome.ref := by
    have hanswered : scene.queue.answered outcome.ref = none ↔
        ∀ request, scene.queue.inFlight = some request → request.ref ≠ outcome.ref := by
      simp [answered, Option.filter_eq_none_iff]
    rw [← hanswered]
    exact ⟨fun h => h.unasked hshows.queue hagenda,
      ignores_of_unasked quiet hshows.queue hagenda⟩
  have hheld (request : ResolveRequest) (hslot : scene.queue.inFlight = some request) :
      request ∈ met .accepted since :=
    Scene.held_of_cleared hrun (holds_iff.mpr (Or.inl hslot))
  exact ⟨_, hshows.queue, hiff, hheld, fun hother =>
    hiff.mpr fun request hslot => hother request (hheld request hslot)⟩

/-- A late outcome is ignored while another reference is under way. -/
theorem late_outcome_ignored_of_other :
    let late : ServiceRef := { name := "Printer", type := "_ipp._tcp" }
    let other : ServiceRef := { name := "Scanner", type := "_ipp._tcp" }
    let outcome : ResolveOutcome := .failed late FailureCode.internal
    let start : Configuration Empty (List (List (Move Empty))) := alone false .zero []
      [.enqueue late 1, .clear, .enqueue other 1, .outcome outcome]
    let now := run .scripted 18 start
    let record := history 0 (trail .scripted 18 start)
    (∃ cleared, record = record.take 5 ++ .turn (.run (.call .clear)) cleared :: record.drop 6) ∧
      now.agenda = [.queue 0 (.call (.outcome outcome))] ∧
      ∃ found, now.world.queues[0]? = some found ∧
        (now.Ignores .scripted ↔
          ∀ request, found.core.inFlight = some request → request.ref ≠ outcome.ref) ∧
        (∀ request, found.core.inFlight = some request →
          request ∈ met .accepted (record.drop 6)) ∧
        ((∀ request ∈ met .accepted (record.drop 6), request.ref ≠ outcome.ref) →
          now.Ignores .scripted) := by
  intro late other outcome start now record
  have hcleared : record = record.take 5 ++ .turn (.run (.call .clear)) _ :: record.drop 6 := rfl
  exact ⟨⟨_, hcleared⟩, rfl, late_outcome_ignored_iff Surroundings.scripted_quiet
    (alone_fresh ..) (course_run ..) hcleared rfl⟩

/-- A request is given up and its reference is asked for again. The outcome of the first call, when
it comes at last, ends the second request, for which the platform still owes one. -/
theorem late_outcome_taken_for_another :
    let late : ServiceRef := { name := "Printer", type := "_ipp._tcp" }
    let outcome : ResolveOutcome := .failed late FailureCode.internal
    let start : Configuration Empty (List (List (Move Empty))) := alone false .zero []
      [.enqueue late 1, .clear, .enqueue late 2, .outcome outcome]
    let now := run .scripted 18 start
    let record := history 0 (trail .scripted 18 start)
    met .abandoned record = [{ ref := late, session := 1 }] ∧ asked record = [late, late] ∧
      now.agenda = [.queue 0 (.call (.outcome outcome))] ∧ ¬ now.Ignores .scripted ∧
      met .failed (history 0 (trail .scripted 19 start)) = [{ ref := late, session := 2 }] := by
  refine ⟨rfl, rfl, rfl, ?_, rfl⟩
  rintro ⟨_, _, _, after, _, _, hstep, hworld, _⟩
  have hfailed := congrArg (fun world => world.queues.map (·.core.failed)) hworld
  rw [← Option.some.inj hstep] at hfailed
  revert hfailed
  decide

end Configuration

end ServiceDiscovery
