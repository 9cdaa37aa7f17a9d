import ServiceDiscovery.Proofs.Machine.Place
import ServiceDiscovery.Proofs.Machine.Return
import ServiceDiscovery.Proofs.ResolveQueue.View

/-!
Stretches of a run, as a queue sees them. While work is done in front of what waits behind, certain
things happen to the queue, and the surroundings count so many calls of its platform. Stretches
follow one another, and one in which nothing happens to the queue leaves the queue as it was.
-/

namespace ServiceDiscovery

variable {ι σ : Type}

/-- A platform outside has no tasks, so it stays as it is. -/
theorem World.Touches.outside {world after : World} {work : Work ι} {place : Nat}
    (touches : World.Touches world work after)
    (found : world.platforms[place]? = some .outside) :
    after.platforms[place]? = some .outside := by
  cases touches with
  | built built => exact getElem?_of_prefix (additive_extends.build built).platforms found
  | @platform index task core changed hfound =>
      have hother : index ≠ place := by
        rintro rfl
        cases hfound.symm.trans found
      exact (List.getElem?_set_ne hother).trans found
  | _ => exact found

namespace Configuration

open ResolveQueue

variable {surroundings : Surroundings ι σ} {start now middle after : Configuration ι σ}
  {past : List (Configuration ι σ)} {position : σ → Nat} {index place : Nat} {node : QueueNode}
  {behind : List (Work ι)} {record since : List Happening} {calls more : Nat}

theorem Course.outside (course : Course surroundings start past now)
    (found : start.world.platforms[place]? = some .outside) :
    now.world.platforms[place]? = some .outside := by
  induction course with
  | start => exact found
  | step course step ih =>
      obtain ⟨work, htouches, -⟩ := step_touches step
      exact htouches.outside ih

/-- A step that is no concern of the queue leaves it as it was. -/
theorem queue_of_unconcerned (unconcerned : now.happening index = none)
    (found : now.world.queues[index]? = some node) (step : now.step surroundings = some after) :
    after.world.queues[index]? = some node := by
  obtain ⟨work, rest, hagenda, ⟨tasks, hbecomes, -⟩ | ⟨fault, rfl, hunwind⟩⟩ := step_cases step
  · have hforeign : ∀ task, work ≠ .queue index task := by
      rintro task rfl
      simp [happening, found, hagenda] at unconcerned
    exact (hbecomes.foreign hforeign).2.node node found
  · have hworld : after.world = (now.world.unwind fault rest).1 := congrArg Prod.fst hunwind
    rcases World.unwind_cases fault now.world rest with
      ⟨dropped, task, kept, changed, tasks, rfl, hdropped, hrecover, heq⟩ | ⟨-, heq⟩
    · rw [hworld, heq]
      have hhandler := @World.handler?_eq_some ι fault now.world changed dropped kept tasks task
        hdropped hrecover
      have hforeign : ∀ own, task ≠ .queue index own := by
        rintro own rfl
        obtain ⟨ref, rfl, -⟩ := recover_queue found hrecover
        simp [happening, found, hagenda, hhandler] at unconcerned
      exact ((World.touches_of_recover hrecover).spares hforeign).node node found
    · rw [hworld, heq]
      exact found

theorem Course.unconcerned (course : Course surroundings start past now)
    (unconcerned : history index past = []) (found : start.world.queues[index]? = some node) :
    now.world.queues[index]? = some node := by
  induction course with
  | start => exact found
  | @step past now after course step ih =>
      rw [history_append, List.append_eq_nil_iff, Option.toList_eq_nil_iff] at unconcerned
      exact queue_of_unconcerned unconcerned.2 (ih unconcerned.1) step

/-- While work is done in front of what waits behind, this happens to the queue at a place, and the
surroundings count so many calls. -/
def Stretch (surroundings : Surroundings ι σ) (position : σ → Nat) (index : Nat)
    (behind : List (Work ι)) (record : List Happening) (calls : Nat)
    (now after : Configuration ι σ) : Prop :=
  ∃ past, Advances surroundings behind now past after ∧ history index past = record ∧
    position after.around = position now.around + calls

theorem Stretch.here (now : Configuration ι σ) :
    Stretch surroundings position index behind [] 0 now now :=
  ⟨[], .here surroundings behind now, rfl, rfl⟩

theorem Stretch.trans (first : Stretch surroundings position index behind record calls now middle)
    (second : Stretch surroundings position index behind since more middle after) :
    Stretch surroundings position index behind (record ++ since) (calls + more) now after := by
  obtain ⟨past, hadvances, rfl, hcalls⟩ := first
  obtain ⟨later, hlater, rfl, hmore⟩ := second
  refine ⟨past ++ later, hadvances.trans hlater, List.filterMap_append, ?_⟩
  omega

theorem Stretch.counted
    (stretch : Stretch surroundings position index behind record calls now after) :
    position after.around = position now.around + calls := by
  obtain ⟨-, -, -, hcalls⟩ := stretch
  exact hcalls

/-- One step. -/
theorem Stretch.one (advances : Advances surroundings behind now [now] after)
    (happening : (now.happening index).toList = record)
    (counted : position after.around = position now.around + calls) :
    Stretch surroundings position index behind record calls now after := by
  refine ⟨[now], advances, ?_, counted⟩
  rw [← happening, history]
  cases hnow : now.happening index <;> simp [hnow]

/-- Work that is neither a task of the queue nor one of its calls is no concern of it. -/
theorem unconcerned_of_part {work : Work ι} {rest : List (Work ι)}
    (hagenda : now.agenda = work :: rest) (hpart : work.part index = none)
    (hforeign : ∀ task, work ≠ .queue index task) (hraise : ∀ fault, work ≠ .raise fault) :
    now.happening index = none := by
  cases hqueue : now.world.queues[index]? with
  | none => simp [happening, hqueue]
  | some node => simp [happening_of_foreign hqueue hagenda hforeign hraise, hpart]

/-- A fault that somebody else recovers from is no concern of the queue. -/
theorem unconcerned_of_handler {fault : Fault} {task : Work ι} {rest : List (Work ι)}
    (hagenda : now.agenda = .raise fault :: rest)
    (hhandler : World.handler? fault rest now.world = some task)
    (hforeign : ∀ own, task ≠ .queue index own) : now.happening index = none := by
  cases hqueue : now.world.queues[index]? with
  | none => simp [happening, hqueue]
  | some node => exact happening_of_recovered hqueue hagenda hhandler hforeign

/-- Surroundings answer a call by moves. -/
theorem step_call {call : Call} {rest : List (Work ι)} (hagenda : now.agenda = .call call :: rest) :
    now.step surroundings = some { now with
      around := (surroundings.answer call now.world now.around).1
      agenda := (surroundings.answer call now.world now.around).2.map Move.work ++ rest } := by
  obtain ⟨world, around, agenda⟩ := now
  obtain rfl : agenda = _ := hagenda
  rfl

theorem Stretch.call {call : Call} {rest : List (Work ι)}
    (hagenda : now.agenda = .call call :: rest)
    (hsuffix : behind <:+ rest) (hpart : (Work.call (ι := ι) call).part index = none)
    (counted : position (surroundings.answer call now.world now.around).1 =
      position now.around + calls) :
    Stretch surroundings position index behind [] calls now { now with
      around := (surroundings.answer call now.world now.around).1
      agenda := (surroundings.answer call now.world now.around).2.map Move.work ++ rest } := by
  have hnone : now.happening index = none :=
    unconcerned_of_part hagenda hpart (by simp) (by simp)
  refine .one (.task hagenda hsuffix (by simp) (step_call hagenda)) ?_ counted
  rw [hnone, Option.toList_none]

theorem Stretch.inner {work : Work ι} {rest : List (Work ι)} (hagenda : now.agenda = work :: rest)
    (hsuffix : behind <:+ rest) (inner : work.isInner = true) (hpart : work.part index = none)
    (hforeign : ∀ task, work ≠ .queue index task) :
    Stretch surroundings position index behind [] 0 now { now with
      world := (now.world.run work).1
      agenda := (now.world.run work).2 ++ rest } := by
  have hraise : ∀ fault, work ≠ .raise fault := by
    rintro fault rfl
    cases inner
  have hnone : now.happening index = none := unconcerned_of_part hagenda hpart hforeign hraise
  refine .one (.task hagenda hsuffix hraise (step_inner inner hagenda)) ?_ rfl
  rw [hnone, Option.toList_none]

theorem Stretch.outside
    (stretch : Stretch surroundings position index behind record calls now after)
    (found : now.world.platforms[place]? = some .outside) :
    after.world.platforms[place]? = some .outside := by
  obtain ⟨past, hadvances, -⟩ := stretch
  exact hadvances.course.outside found

theorem Stretch.unconcerned
    (stretch : Stretch surroundings position index behind [] calls now after)
    (found : now.world.queues[index]? = some node) : after.world.queues[index]? = some node := by
  obtain ⟨past, hadvances, hnone, -⟩ := stretch
  exact hadvances.course.unconcerned hnone found

end Configuration

end ServiceDiscovery
