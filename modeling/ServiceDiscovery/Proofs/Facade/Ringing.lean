import Mathlib.Data.List.Chain
import ServiceDiscovery.Proofs.Facade.Departure

/-!
Callbacks of a facade that wait for their turn. A facade that hears of an event has its callbacks
told one after the other, each protected from the failures of the others. So what is left of telling
them waits right behind a callback that runs, or behind those of another kind that are told before,
and a fault that comes up from a callback is stopped before it reaches what waits. No callback is
ever dropped, and while none runs none waits.
-/

namespace ServiceDiscovery

variable {ι σ : Type}

namespace Work

variable {work : Work ι} {index number : Nat} {kind : CallbackKind}

/-- The callback of the facade at a place that is to be called: its kind and its number. -/
def callback? (index : Nat) : Work ι → Option (CallbackKind × Nat)
  | .call (.callback place kind number _) | .facade place (.telling kind _ number) =>
      if place = index then some (kind, number) else none
  | _ => none

/-- Are callbacks of the facade at a place to be told? -/
def isTelling (index : Nat) : Work ι → Bool
  | .facade place (.telling _ _ _) => place = index
  | _ => false

/-- Is a callback of the facade at a place running? -/
def isCalling (index : Nat) : Work ι → Bool
  | .facade place (.calling _) => place = index
  | _ => false

theorem eq_of_callback (h : work.callback? index = some (kind, number)) :
    ∃ argument, work = .call (.callback index kind number argument) ∨
      work = .facade index (.telling kind argument number) := by
  unfold callback? at h
  split at h
  · rename_i place kind number argument
    obtain ⟨rfl, hcallback⟩ := Option.ite_none_right_eq_some.mp h
    cases hcallback
    exact ⟨argument, Or.inl rfl⟩
  · rename_i place kind argument number
    obtain ⟨rfl, hcallback⟩ := Option.ite_none_right_eq_some.mp h
    cases hcallback
    exact ⟨argument, Or.inr rfl⟩
  · cases h

theorem eq_of_isTelling (h : work.isTelling index = true) :
    ∃ kind argument number, work = .facade index (.telling kind argument number) := by
  unfold isTelling at h
  split at h
  · rename_i kind argument number
    obtain rfl := of_decide_eq_true h
    exact ⟨kind, argument, number, rfl⟩
  · cases h

theorem eq_of_isCalling (h : work.isCalling index = true) :
    ∃ kind, work = .facade index (.calling kind) := by
  unfold isCalling at h
  split at h
  · rename_i kind
    obtain rfl := of_decide_eq_true h
    exact ⟨kind, rfl⟩
  · cases h

theorem callback_of_move (index : Nat) (move : Move ι) : move.work.callback? index = none := by
  cases move with
  | perform operation => cases operation <;> rfl
  | _ => rfl

/-- If callbacks wait in the second of two tasks, one runs in the first, or others are told there.
-/
def Waits (index : Nat) (before work : Work ι) : Prop :=
  work.callback? index ≠ none → before.isCalling index = true ∨ before.isTelling index = true

end Work

/-- Each callback waits right behind one that runs or others that are told, or it is to be called
next, or after log lines. -/
def Attended (index : Nat) (agenda : List (Work ι)) : Prop :=
  ∃ lines rest, agenda = lines ++ rest ∧ (∀ line ∈ lines, ∃ record, line = .call (.log record)) ∧
    rest.IsChain (Work.Waits index)

section

variable {index : Nat} {tasks kept : List (Work ι)}

theorem attended_of_chain (hkept : kept.IsChain (Work.Waits index)) : Attended index kept :=
  ⟨[], kept, rfl, by simp, hkept⟩

/-- Tasks that call nothing may be put in front of anything but a callback. -/
theorem attended_of_unrung (unrung : ∀ task ∈ tasks, task.callback? index = none)
    (hkept : kept.IsChain (Work.Waits index))
    (hfirst : ∀ first ∈ kept.head?, first.callback? index = none) :
    Attended index (tasks ++ kept) := by
  apply attended_of_chain
  apply List.isChain_append.mpr
  refine ⟨?_, hkept, fun last _ first hmem hrings => absurd (hfirst first hmem) hrings⟩
  induction tasks with
  | nil => exact .nil
  | cons task tasks ih =>
      have hrest := ih fun other hmem => unrung other (List.mem_cons_of_mem _ hmem)
      apply List.isChain_cons.mpr
      refine ⟨fun other hmem hrings => absurd ?_ hrings, hrest⟩
      exact unrung other (List.mem_cons_of_mem _ (List.mem_of_mem_head? hmem))

/-- Where no callback is on the agenda, none has to wait. -/
theorem attended_of_none (unrung : ∀ task ∈ tasks, task.callback? index = none) :
    Attended index tasks := by
  have h := @attended_of_unrung ι index tasks [] unrung .nil (by simp)
  rwa [List.append_nil] at h

/-- In a row of tasks that does not begin with telling callbacks, one waits only if one runs. -/
theorem unrung_of_chain {first : Work ι} (hchain : (first :: kept).IsChain (Work.Waits index))
    (uncalled : ∀ task ∈ first :: kept, task.isCalling index = false)
    (untold : first.isTelling index = false) : ∀ task ∈ kept, task.callback? index = none := by
  induction kept generalizing first with
  | nil => simp
  | cons second kept ih =>
      obtain ⟨hwaits, hrest⟩ := List.isChain_cons_cons.mp hchain
      have hsecond : second.callback? index = none := by
        by_contra hrings
        rcases hwaits hrings with hcalling | htelling
        · cases hcalling.symm.trans (uncalled first List.mem_cons_self)
        · cases htelling.symm.trans untold
      have huntold : second.isTelling index = false := by
        apply Bool.eq_false_iff.mpr
        intro htelling
        obtain ⟨kind, argument, number, rfl⟩ := Work.eq_of_isTelling htelling
        simp [Work.callback?] at hsecond
      intro task hmem
      rcases List.mem_cons.mp hmem with rfl | hlater
      · exact hsecond
      · exact ih hrest (fun other hother => uncalled other (List.mem_cons_of_mem _ hother)) huntold
          task hlater

end

namespace Facade

variable {index : Nat} {kept : List (Work ι)}

/-- Callbacks that are to be told may be put in front of others. -/
theorem emit_chain (kind : CallbackKind) (argument : CallbackArgument) (node : FacadeNode)
    (hkept : kept.IsChain (Work.Waits index)) :
    ((emit kind argument).map (Effect.work index node) ++ kept).IsChain (Work.Waits index) := by
  apply List.isChain_cons.mpr
  refine ⟨fun first _ _ => Or.inr ?_, hkept⟩
  simp [Effect.work, Work.isTelling]

/-- A callback that is called has a task behind it that protects the others, which wait there. -/
theorem tell_chain (kind : CallbackKind) (argument : CallbackArgument) (number : Nat)
    (facade : Facade) (node : FacadeNode) (hkept : kept.IsChain (Work.Waits index)) :
    ((facade.tell kind argument number).map (Effect.work index node) ++ kept).IsChain
      (Work.Waits index) := by
  unfold tell
  split
  · simp only [List.map_cons, List.map_nil, Effect.work, List.cons_append, List.nil_append]
    apply List.isChain_cons_cons.mpr
    refine ⟨fun hrings => absurd rfl hrings, List.isChain_cons_cons.mpr ⟨?_, ?_⟩⟩
    · simp [Work.Waits, Work.isCalling]
    · apply List.isChain_cons.mpr
      refine ⟨fun first _ _ => Or.inr ?_, hkept⟩
      simp [Work.isTelling]
  · exact hkept

/-- What a facade does when it hears of an event leaves no callback unattended. -/
theorem receive_attended (event : Event) (facade : Facade) (node : FacadeNode)
    (hkept : kept.IsChain (Work.Waits index)) :
    Attended index ((receive event facade).2.map (Effect.work index node) ++ kept) := by
  have hnoted (record : Log.Record) (kind : CallbackKind) (argument : CallbackArgument) :
      Attended index
        ((.log record :: emit kind argument).map (Effect.work index node) ++ kept) := by
    refine ⟨[.call (.log record)], _, rfl, ?_, emit_chain kind argument node hkept⟩
    simp
  have hmaybe (b : Bool) (kind : CallbackKind) (argument : CallbackArgument)
      (tail : List (Work ι)) (htail : tail.IsChain (Work.Waits index)) :
      ((if b then emit kind argument else []).map (Effect.work index node) ++ tail).IsChain
        (Work.Waits index) := by
    cases b with
    | true => exact emit_chain kind argument node htail
    | false => exact htail
  cases event with
  | serviceResolved service =>
      simp only [receive, serviceResolved]
      split <;> exact hnoted _ _ _
  | serviceRemoved name =>
      simp only [receive, serviceRemoved]
      split
      · exact attended_of_chain hkept
      · exact hnoted _ _ _
  | browserState running error => exact attended_of_chain (hmaybe error _ _ _ hkept)
  | publisherState running error =>
      simp only [receive, List.map_append, List.append_assoc]
      exact attended_of_chain (hmaybe running _ _ _ (hmaybe error _ _ _ hkept))
  | serviceRenamed name => exact attended_of_chain (emit_chain _ _ node hkept)
  | unknown => exact attended_of_chain hkept

/-- No task of a facade leaves a callback unattended. -/
theorem step_attended (task : Task) (facade : Facade) (node : FacadeNode)
    (hwaits : ∀ first ∈ kept.head?, Work.Waits index (.facade index task) first)
    (hkept : kept.IsChain (Work.Waits index)) :
    Attended index ((step task facade).2.map (Effect.work index node) ++ kept) := by
  cases task with
  | telling kind argument number =>
      exact attended_of_chain (tell_chain kind argument number facade node hkept)
  | calling kind => exact attended_of_chain hkept
  | closing =>
      exact ⟨[.call (.log _)], kept, rfl, by simp, hkept⟩
  | call operation =>
      have hfirst : ∀ first ∈ kept.head?, first.callback? index = none := by
        intro first hmem
        by_contra hrings
        rcases hwaits first hmem hrings with hcalling | htelling
        · cases hcalling
        · cases htelling
      cases operation with
      | publish event => exact receive_attended event facade node hkept
      | _ =>
          apply attended_of_unrung _ hkept hfirst
          simp [step, call, Effect.work, Work.callback?]

end Facade

/-- Only a facade that hears of an event has its callbacks told, and then it goes on telling
them. -/
theorem Brings.hears_of_callback {world : World} {source brought : Work ι} {index : Nat}
    (h : Brings world source brought) (hrings : brought.callback? index ≠ none) :
    (∃ event, source = .facade index (.call (.publish event))) ∨
      source.isTelling index = true := by
  obtain ⟨⟨kind, number⟩, hcallback⟩ := Option.ne_none_iff_exists'.mp hrings
  obtain ⟨argument, rfl | rfl⟩ := Work.eq_of_callback hcallback
  · obtain ⟨task, node, rfl, -, yields⟩ := h.of_callback
    obtain rfl := Facade.telling_of_yields yields
    exact Or.inr (by simp [Work.isTelling])
  · obtain ⟨task, node, rfl, -, yields⟩ := h.of_telling
    rcases Facade.hearing_of_yields yields with ⟨event, rfl⟩ | ⟨before, -, rfl⟩
    · exact Or.inl ⟨event, rfl⟩
    · exact Or.inr (by simp [Work.isTelling])

namespace Configuration

variable {surroundings : Surroundings ι σ} {start now after : Configuration ι σ}
  {past : List (Configuration ι σ)} {index : Nat} {node : FacadeNode} {house : House}

/-- A fault that a task recovers from leaves no callback behind it unattended. -/
theorem attended_of_recover {world changed : World} {fault : Fault} {task : Work ι}
    {tasks kept : List (Work ι)} (h : World.recover fault task world = some (changed, tasks))
    (hwaits : ∀ first ∈ kept.head?, Work.Waits index task first)
    (hkept : kept.IsChain (Work.Waits index)) : Attended index (tasks ++ kept) := by
  by_cases hcalling : task.isCalling index = true
  · obtain ⟨kind, rfl⟩ := Work.eq_of_isCalling hcalling
    obtain ⟨-, -, record, rfl⟩ := World.recover_facade h
    exact ⟨[.call (.log record)], kept, rfl, by simp, hkept⟩
  · have htelling : task.isTelling index ≠ true := by
      intro htelling
      obtain ⟨kind, argument, number, rfl⟩ := Work.eq_of_isTelling htelling
      obtain ⟨⟨kind, hkind⟩, -⟩ := World.recover_facade h
      cases hkind
    apply attended_of_unrung _ hkept
    · intro first hmem
      by_contra hrings
      exact (hwaits first hmem hrings).elim hcalling htelling
    · intro brought hmem
      by_contra hrings
      rcases (World.brings_of_recover h hmem).hears_of_callback hrings with ⟨event, rfl⟩ | hsame
      · cases (World.recover_operation (.facade _ _) _ _).symm.trans h
      · exact htelling hsame

/-- In a step no callback is left unattended: the next one is called when the one before it has
returned or has failed. -/
theorem step_attended
    (hlog : ∀ record world around, (surroundings.answer (.log record) world around).2 = [])
    (found : now.world.facades[index]? = some node) (attended : Attended index now.agenda)
    (h : now.step surroundings = some after) : Attended index after.agenda := by
  obtain ⟨lines, rest, hsplit, hlines, hchain⟩ := attended
  cases lines with
  | cons line lines =>
      obtain ⟨record, rfl⟩ := hlines line List.mem_cons_self
      refine ⟨lines, rest, ?_, fun other hmem => hlines other (List.mem_cons_of_mem _ hmem), hchain⟩
      rw [agenda_of_call hsplit h]
      simp [moves, hsplit, hlog]
  | nil =>
      obtain ⟨work, kept, hagenda, hcases⟩ := step_cases h
      obtain rfl : rest = work :: kept := hsplit.symm.trans hagenda
      obtain ⟨hwaits, hkept⟩ := List.isChain_cons.mp hchain
      rcases hcases with ⟨tasks, hbecomes, htasks⟩ | ⟨fault, rfl, hunwind⟩
      · by_cases hown : ∃ task, work = .facade index task
        · obtain ⟨task, rfl⟩ := hown
          obtain rfl := Option.some.inj (h.symm.trans (step_facade found hagenda))
          exact Facade.step_attended task node.core node hwaits hkept
        · have hforeign (task : Facade.Task) : work ≠ .facade index task :=
            fun heq => hown ⟨task, heq⟩
          rw [htasks]
          apply attended_of_unrung _ hkept
          · intro first hmem
            by_contra hrings
            rcases hwaits first hmem hrings with hcalling | htelling
            · obtain ⟨kind, heq⟩ := Work.eq_of_isCalling hcalling
              exact hforeign _ heq
            · obtain ⟨kind, argument, number, heq⟩ := Work.eq_of_isTelling htelling
              exact hforeign _ heq
          · intro brought hmem
            by_contra hrings
            rcases front_sources h hagenda hbecomes.ne_raise htasks brought hmem with
              ⟨move, -, rfl⟩ | hbrings
            · exact hrings (Work.callback_of_move index move)
            · rcases hbrings.hears_of_callback hrings with ⟨event, heq⟩ | htelling
              · exact hforeign _ heq
              · obtain ⟨kind, argument, number, heq⟩ := Work.eq_of_isTelling htelling
                exact hforeign _ heq
      · have hafter : after.agenda = (now.world.unwind fault kept).2 := congrArg Prod.snd hunwind
        rw [hafter]
        rcases World.unwind_cases fault now.world kept with
          ⟨dropped, task, others, changed, tasks, rfl, -, hrecover, heq⟩ | ⟨-, heq⟩
        · obtain ⟨hlast, hothers⟩ := List.isChain_cons.mp (List.isChain_append.mp hkept).2.1
          rw [heq]
          exact attended_of_recover hrecover hlast hothers
        · rw [heq]
          exact attended_of_chain .nil

theorem Course.attended
    (hlog : ∀ record world around, (surroundings.answer (.log record) world around).2 = [])
    (course : Course surroundings start past now) (stands : house.Stands start.world)
    (unrung : ∀ task ∈ start.agenda, task.callback? house.index = none) :
    Attended house.index now.agenda := by
  induction course with
  | start => exact attended_of_none unrung
  | @step past now after course step ih =>
      obtain ⟨node, found, -, -⟩ := (course.stands stands).facade
      exact step_attended hlog found ih step

/-- Where no callback of a facade runs, none waits behind the task in front. -/
theorem unrung_of_uncalled {first : Work ι} {rest : List (Work ι)}
    (attended : Attended index now.agenda) (hagenda : now.agenda = first :: rest)
    (hfirst : ∀ record, first ≠ .call (.log record))
    (uncalled : ∀ task ∈ first :: rest, task.isCalling index = false)
    (untold : first.isTelling index = false) : ∀ task ∈ rest, task.callback? index = none := by
  obtain ⟨lines, others, hsplit, hlines, hchain⟩ := attended
  rw [hagenda] at hsplit
  cases lines with
  | nil =>
      rw [List.nil_append] at hsplit
      rw [← hsplit] at hchain
      exact unrung_of_chain hchain uncalled untold
  | cons line lines =>
      obtain ⟨rfl, -⟩ := List.cons.inj hsplit
      obtain ⟨record, hline⟩ := hlines _ List.mem_cons_self
      exact absurd hline (hfirst record)

end Configuration

end ServiceDiscovery
