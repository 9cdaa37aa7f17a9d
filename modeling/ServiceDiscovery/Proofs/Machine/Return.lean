import ServiceDiscovery.Proofs.Machine.Course

/-!
Calls that come to an end. The work of a call stands in front of all that was to be done before it
was made, and that is left alone until the call has ended: when all of its work is done, or when a
fault is on its way that none of its work recovers from. What is made of several calls, one after
the other, ends as the last of them does. A call that returns comes past each task that was to be
done before its end, and does it, or has it recover from a fault.
-/

namespace ServiceDiscovery

variable {ι σ : Type}

/-- Work that is done in one step, without a fault, and from which no other work comes. -/
def Work.isBrief : Work ι → Bool
  | .call (.log _) | .answer _ | .registry _ (.call (.detach _)) => true
  | _ => false

/-- Is the task one of the world's own, and not one for the surroundings or a fault? -/
def Work.isInner : Work ι → Bool
  | .call _ | .outside _ | .watch _ | .raise _ => false
  | _ => true

namespace World

/-- A fault takes off the agenda whatever does not recover from it, until it finds work that does.
-/
theorem unwind_append {fault : Fault} {world after : World} {dropped tasks : List (Work ι)}
    {task : Work ι} (hdropped : ∀ work ∈ dropped, recover fault work world = none)
    (htask : recover fault task world = some (after, tasks)) (kept : List (Work ι)) :
    unwind fault world (dropped ++ task :: kept) = (after, tasks ++ kept) := by
  induction dropped with
  | nil => simp [unwind, htask]
  | cons work dropped ih =>
      have hwork := hdropped work List.mem_cons_self
      have hrest := ih fun other hmem => hdropped other (List.mem_cons_of_mem _ hmem)
      simp [unwind, hwork, hrest]

end World

namespace Configuration

variable {surroundings : Surroundings ι σ} {start now middle after : Configuration ι σ}
  {past since : List (Configuration ι σ)} {behind : List (Work ι)} {fault : Option Fault}

theorem Course.append (first : Course surroundings start past now)
    (second : Course surroundings now since after) :
    Course surroundings start (past ++ since) after := by
  induction second with
  | start =>
      rw [List.append_nil]
      exact first
  | step course step ih =>
      rw [← List.append_assoc]
      exact ih.step step

/-- A run goes on with the next step. -/
theorem run_succ {steps : Nat} {start after : Configuration ι σ}
    (step : (run surroundings steps start).step surroundings = some after) :
    run surroundings (steps + 1) start = after := by
  induction steps generalizing start with
  | zero =>
      have hstart : start.step surroundings = some after := step
      simp [run, hstart]
  | succ steps ih =>
      unfold run at step ⊢
      cases hfirst : start.step surroundings with
      | none =>
          simp only [hfirst] at step
          cases step
      | some second =>
          simp only [hfirst] at step
          exact ih step

/-- A run has not begun, or it has made its first step. -/
theorem Course.head_cases (course : Course surroundings start past now) :
    (past = [] ∧ now = start) ∨ ∃ next later, past = start :: later ∧
      start.step surroundings = some next ∧ Course surroundings next later now := by
  induction course with
  | start => exact Or.inl ⟨rfl, rfl⟩
  | @step past now after course step ih =>
      right
      rcases ih with ⟨rfl, rfl⟩ | ⟨next, later, rfl, hstep, hlater⟩
      · exact ⟨after, [], rfl, step, .start⟩
      · exact ⟨next, later ++ [now], rfl, hstep, hlater.step step⟩

/-- If a run is done after some steps, whatever is reached is reached within that many. -/
theorem Reaches.exists_run {steps : Nat} (reach : Reaches surroundings start now)
    (done : (run surroundings steps start).agenda = []) :
    ∃ taken ≤ steps, run surroundings taken start = now := by
  induction reach with
  | refl => exact ⟨0, Nat.zero_le steps, rfl⟩
  | @tail now after _ step ih =>
      obtain ⟨taken, hle, hnow⟩ := ih
      have hlt : taken ≠ steps := by
        rintro rfl
        rw [hnow] at done
        obtain ⟨work, rest, hagenda, -⟩ := step_cases step
        cases done.symm.trans hagenda
      rw [← hnow] at step
      exact ⟨taken + 1, by omega, run_succ step⟩

/-- As long as there is work, there is a next step. -/
theorem exists_step {work : Work ι} {rest : List (Work ι)} (hagenda : now.agenda = work :: rest) :
    ∃ after, now.step surroundings = some after := by
  obtain ⟨world, around, agenda⟩ := now
  obtain rfl : agenda = _ := hagenda
  cases work <;> exact ⟨_, rfl⟩

/-- A task of the world's own is run. -/
theorem step_inner {work : Work ι} {rest : List (Work ι)} (inner : work.isInner = true)
    (hagenda : now.agenda = work :: rest) : now.step surroundings = some { now with
      world := (now.world.run work).1
      agenda := (now.world.run work).2 ++ rest } := by
  obtain ⟨world, around, agenda⟩ := now
  obtain rfl : agenda = _ := hagenda
  cases work with
  | call made => cases inner
  | outside instruction => cases inner
  | watch instruction => cases inner
  | raise fault => cases inner
  | _ => rfl

/-- There is work to be done before what waits behind it. -/
def Above (behind : List (Work ι)) (now : Configuration ι σ) : Prop :=
  ∃ first rest, now.agenda = first :: rest ∧ behind <:+ rest

/-- What a call that has ended leaves in front of the work that waits behind it: nothing, or a fault
that nothing else of the call recovers from. -/
def Left (behind : List (Work ι)) (now : Configuration ι σ) : Option Fault → Prop
  | none => now.agenda = behind
  | some fault => ∃ dropped, now.agenda = .raise fault :: dropped ++ behind ∧
      ∀ work ∈ dropped, World.recover fault work now.world = none

/-- From a moment on the work in front is done, until it has ended: it returned, or it raised a
fault. -/
structure Ends (surroundings : Surroundings ι σ) (behind : List (Work ι)) (fault : Option Fault)
    (now : Configuration ι σ) (past : List (Configuration ι σ)) (after : Configuration ι σ) :
    Prop where
  course : Course surroundings now past after
  above : ∀ moment ∈ past, moment.Above behind
  left : after.Left behind fault

theorem Above.of_front {front : List (Work ι)} (h : now.Above (front ++ behind)) :
    now.Above behind := by
  obtain ⟨first, rest, hagenda, hsuffix⟩ := h
  exact ⟨first, rest, hagenda, (List.suffix_append front behind).trans hsuffix⟩

/-- Where work is to be done before the rest, the rest does not stand alone. -/
theorem Above.ne (above : now.Above behind) : now.agenda ≠ behind := by
  intro hagenda
  obtain ⟨first, rest, hfront, hsuffix⟩ := above
  have hlength := hsuffix.length_le
  rw [← hagenda, hfront, List.length_cons] at hlength
  omega

theorem Above.of_suffix {task : Work ι} (hsuffix : task :: behind <:+ now.agenda) :
    now.Above behind := by
  obtain ⟨front, hagenda⟩ := hsuffix
  cases front with
  | nil => exact ⟨task, behind, hagenda.symm, List.suffix_refl _⟩
  | cons first front =>
      refine ⟨first, front ++ task :: behind, hagenda.symm, ?_⟩
      exact (List.suffix_cons task behind).trans (List.suffix_append front _)

/-- Where no work is left to be done, it has ended. -/
theorem Ends.here (hagenda : now.agenda = behind) : Ends surroundings behind none now [] now where
  course := .start
  above := by simp
  left := hagenda

theorem Ends.next {first : Work ι} {rest : List (Work ι)} (hagenda : now.agenda = first :: rest)
    (hsuffix : behind <:+ rest) (step : now.step surroundings = some middle)
    (ends : Ends surroundings behind fault middle past after) :
    Ends surroundings behind fault now (now :: past) after where
  course := ends.course.head step
  above := by
    intro moment hmem
    rcases List.mem_cons.mp hmem with rfl | hlater
    · exact ⟨first, rest, hagenda, hsuffix⟩
    · exact ends.above moment hlater
  left := ends.left

/-- The fault that is on its way. -/
def raised? (now : Configuration ι σ) : Option Fault :=
  match now.agenda with
  | .raise fault :: _ => some fault
  | _ => none

/-- Is more to be done than so many tasks, and no fault on its way? -/
def isBusy (waiting : Nat) (now : Configuration ι σ) : Bool :=
  now.raised?.isNone && waiting < now.agenda.length

theorem Above.of_busy (busy : now.isBusy behind.length = true) (hsuffix : behind <:+ now.agenda) :
    now.Above behind := by
  obtain ⟨-, hlonger⟩ := (Bool.and_eq_true ..).mp busy
  have hlt : behind.length < now.agenda.length := of_decide_eq_true hlonger
  cases hagenda : now.agenda with
  | nil => simp [hagenda] at hlt
  | cons first rest =>
      rw [hagenda] at hsuffix hlt
      refine ⟨first, rest, hagenda, ?_⟩
      exact List.suffix_of_suffix_length_le hsuffix (List.suffix_cons first rest)
        (Nat.le_of_lt_succ hlt)

theorem suffix_of_busy (busy : now.isBusy behind.length = true) (hsuffix : behind <:+ now.agenda)
    (step : now.step surroundings = some after) : behind <:+ after.agenda := by
  obtain ⟨first, rest, hagenda, hrest⟩ := Above.of_busy busy hsuffix
  obtain ⟨work, others, hfirst, ⟨tasks, -, hafter⟩ | ⟨fault, hraise, -⟩⟩ := step_cases step
  · obtain ⟨rfl, rfl⟩ := List.cons.inj (hfirst.symm.trans hagenda)
    rw [hafter]
    exact hrest.trans (List.suffix_append tasks others)
  · subst hraise
    simp [isBusy, raised?, hfirst] at busy

/-- If nothing but a fault stands in front, what is done has ended. -/
theorem Left.of_raised (hsuffix : behind <:+ now.agenda) (raised : now.raised? = fault)
    (hlength : now.agenda.length = fault.toList.length + behind.length) :
    now.Left behind fault := by
  obtain ⟨front, hagenda⟩ := hsuffix
  rw [← hagenda, List.length_append, Nat.add_right_cancel_iff] at hlength
  cases fault with
  | none =>
      obtain rfl := List.length_eq_zero_iff.mp hlength
      exact hagenda.symm
  | some fault =>
      obtain ⟨work, rfl⟩ := List.length_eq_one_iff.mp hlength
      obtain rfl : work = .raise fault := by
        unfold raised? at raised
        rw [← hagenda] at raised
        split at raised
        · rename_i heq
          obtain rfl := Option.some.inj raised
          exact (List.cons.inj heq).1
        · cases raised
      exact ⟨[], hagenda.symm, by simp⟩

/-- What is done while more has to be done than waits behind has ended when no more is left. -/
theorem ends_run {steps : Nat} (hsuffix : behind <:+ now.agenda)
    (busy : ∀ taken < steps, (run surroundings taken now).isBusy behind.length = true)
    (raised : (run surroundings steps now).raised? = fault)
    (hlength : (run surroundings steps now).agenda.length =
      fault.toList.length + behind.length) :
    Ends surroundings behind fault now (trail surroundings steps now)
      (run surroundings steps now) := by
  induction steps generalizing now with
  | zero => exact ⟨.start, by simp [trail], .of_raised hsuffix raised hlength⟩
  | succ steps ih =>
      have hnow : now.isBusy behind.length = true := busy 0 (Nat.zero_lt_succ steps)
      obtain ⟨first, rest, hagenda, hrest⟩ := Above.of_busy hnow hsuffix
      obtain ⟨next, hstep⟩ := @exists_step ι σ surroundings now first rest hagenda
      have hrun (taken : Nat) : run surroundings (taken + 1) now = run surroundings taken next := by
        simp [run, hstep]
      have htrail : trail surroundings (steps + 1) now = now :: trail surroundings steps next := by
        simp [trail, hstep]
      rw [hrun] at raised hlength ⊢
      rw [htrail]
      apply Ends.next hagenda hrest hstep
      apply ih (suffix_of_busy hnow hsuffix hstep) _ raised hlength
      intro taken hlt
      rw [← hrun]
      exact busy (taken + 1) (by omega)

/-- When the work in front has ended, some of the work behind it may be done before all has ended.
-/
theorem Ends.trans {front : List (Work ι)} {outcome : Option Fault}
    (first : Ends surroundings (front ++ behind) outcome now past middle)
    (second : Ends surroundings behind fault middle since after) :
    Ends surroundings behind fault now (past ++ since) after where
  course := first.course.append second.course
  above := by
    intro moment hmem
    rcases List.mem_append.mp hmem with hearly | hlate
    · exact (first.above moment hearly).of_front
    · exact second.above moment hlate
  left := second.left

/-- The work in front is done, and at no moment is a fault on its way that none of it recovers from.
-/
structure Returns (surroundings : Surroundings ι σ) (behind : List (Work ι))
    (now : Configuration ι σ) (past : List (Configuration ι σ)) (after : Configuration ι σ) : Prop
    extends Ends surroundings behind none now past after where
  unfailing : ∀ moment ∈ past, ∀ raised, ¬ moment.Left behind (some raised)

theorem Returns.here (hagenda : now.agenda = behind) :
    Returns surroundings behind now [] now where
  toEnds := .here hagenda
  unfailing := by simp

theorem Returns.next {first : Work ι} {rest : List (Work ι)} (hagenda : now.agenda = first :: rest)
    (hsuffix : behind <:+ rest) (step : now.step surroundings = some middle)
    (unraised : ∀ raised, ¬ now.Left behind (some raised))
    (returns : Returns surroundings behind middle past after) :
    Returns surroundings behind now (now :: past) after where
  toEnds := returns.toEnds.next hagenda hsuffix step
  unfailing := by
    intro moment hmem
    rcases List.mem_cons.mp hmem with rfl | hlater
    · exact unraised
    · exact returns.unfailing moment hlater

/-- A fault takes all work off the agenda up to the first that recovers from it. -/
theorem step_recovered {raised : Fault} {dropped tasks : List (Work ι)} {task : Work ι}
    {world : World} (hagenda : now.agenda = .raise raised :: dropped ++ task :: behind)
    (hdropped : ∀ work ∈ dropped, World.recover raised work now.world = none)
    (htask : World.recover raised task now.world = some (world, tasks)) :
    now.step surroundings = some { now with world, agenda := tasks ++ behind } := by
  obtain ⟨before, around, agenda⟩ := now
  obtain rfl : agenda = _ := hagenda
  simp only [step, List.cons_append]
  rw [World.unwind_append hdropped htask behind]

/-- If some work in front recovers from a fault, what waits behind it stays. -/
theorem suffix_of_unwind {raised : Fault} {world : World} {front : List (Work ι)}
    (recovers : ∃ work ∈ front, World.recover raised work world ≠ none)
    (behind : List (Work ι)) : behind <:+ (world.unwind raised (front ++ behind)).2 := by
  induction front with
  | nil =>
      obtain ⟨work, hmem, -⟩ := recovers
      cases hmem
  | cons first front ih =>
      cases hfirst : World.recover raised first world with
      | some result =>
          simp only [List.cons_append, World.unwind, hfirst]
          exact (List.suffix_append front behind).trans (List.suffix_append result.2 _)
      | none =>
          simp only [List.cons_append, World.unwind, hfirst]
          apply ih
          obtain ⟨work, hmem, hwork⟩ := recovers
          rcases List.mem_cons.mp hmem with rfl | hothers
          · exact absurd hfirst hwork
          · exact ⟨work, hothers, hwork⟩

/-- While a call is under way that returns, a task that is to be done before its end stays, unless
its turn has come: it is in front, or a fault has come up to it that it recovers from. -/
theorem step_toward {task : Work ι} (hsuffix : task :: behind <:+ now.agenda)
    (unraised : ∀ raised, ¬ now.Left behind (some raised))
    (step : now.step surroundings = some after) :
    now.agenda = task :: behind ∨
      (∃ raised, now.Left (task :: behind) (some raised) ∧
        World.recover raised task now.world ≠ none) ∨
      (task :: behind <:+ after.agenda ∧ now.Above (task :: behind) ∧
        ∀ raised, ¬ now.Left (task :: behind) (some raised)) := by
  obtain ⟨front, hfront⟩ := hsuffix
  cases front with
  | nil => exact Or.inl hfront.symm
  | cons first front =>
      right
      have habove : now.Above (task :: behind) :=
        ⟨first, _, hfront.symm, List.suffix_append front _⟩
      obtain ⟨work, rest, hagenda, ⟨tasks, hbecomes, hafter⟩ | ⟨fault, rfl, hunwind⟩⟩ :=
        step_cases step
      · obtain ⟨rfl, rfl⟩ := List.cons.inj (hagenda.symm.trans hfront.symm)
        right
        rw [hafter]
        refine ⟨(List.suffix_append front _).trans (List.suffix_append tasks _), habove, ?_⟩
        rintro raised ⟨dropped, hraised, -⟩
        exact hbecomes.ne_raise raised (List.cons.inj (hagenda.symm.trans hraised)).1
      · obtain ⟨rfl, rfl⟩ := List.cons.inj (hagenda.symm.trans hfront.symm)
        by_cases hnone : ∀ other ∈ front, World.recover fault other now.world = none
        · left
          refine ⟨fault, ⟨front, hagenda, hnone⟩, ?_⟩
          intro htask
          apply unraised fault
          refine ⟨front ++ [task], by simp [hagenda], ?_⟩
          intro other hmem
          rcases List.mem_append.mp hmem with hearly | hlast
          · exact hnone other hearly
          · rw [List.mem_singleton.mp hlast]
            exact htask
        · right
          have hrecovers : ∃ other ∈ front, World.recover fault other now.world ≠ none := by
            simpa using hnone
          have hafter : after.agenda = (now.world.unwind fault _).2 := congrArg Prod.snd hunwind
          rw [hafter]
          refine ⟨suffix_of_unwind hrecovers _, habove, ?_⟩
          rintro raised ⟨dropped, hraised, hdropped⟩
          rw [hagenda] at hraised
          obtain ⟨hfault, hrest⟩ := List.cons.inj hraised
          cases hfault
          obtain rfl := List.append_cancel_right hrest
          exact hnone hdropped

/-- Unless a call has ended, it returns after the next step. -/
theorem Returns.uncons (returns : Returns surroundings behind now past after)
    (hagenda : now.agenda ≠ behind) : ∃ next later, past = now :: later ∧
      now.step surroundings = some next ∧ Returns surroundings behind next later after := by
  rcases returns.course.head_cases with ⟨-, rfl⟩ | ⟨next, later, rfl, step, hlater⟩
  · exact absurd returns.left hagenda
  · refine ⟨next, later, rfl, step, ⟨⟨hlater, ?_, returns.left⟩, ?_⟩⟩
    · exact fun moment hmem => returns.above moment (List.mem_cons_of_mem _ hmem)
    · exact fun moment hmem => returns.unfailing moment (List.mem_cons_of_mem _ hmem)

/-- Is more to be done than so many tasks, and a fault that is on its way to be stopped before them?
-/
def isContained (waiting : Nat) (now : Configuration ι σ) : Bool :=
  waiting < now.agenda.length && now.raised?.all fun raised =>
    (now.agenda.tail.take (now.agenda.tail.length - waiting)).any fun work =>
      (World.recover raised work now.world).isSome

theorem isContained_cases (contained : now.isContained behind.length = true)
    (hsuffix : behind <:+ now.agenda) : ∃ first front, now.agenda = first :: (front ++ behind) ∧
      ∀ raised, first = .raise raised →
        ∃ work ∈ front, World.recover raised work now.world ≠ none := by
  obtain ⟨hlonger, hstopped⟩ := (Bool.and_eq_true ..).mp contained
  obtain ⟨front, hagenda⟩ := hsuffix
  have hlength := of_decide_eq_true hlonger
  rw [← hagenda, List.length_append] at hlength
  cases front with
  | nil => simp at hlength
  | cons first front =>
      refine ⟨first, front, hagenda.symm, ?_⟩
      rintro raised rfl
      simpa [raised?, ← hagenda, Option.isSome_iff_ne_none] using hstopped

/-- What is done returns if faults are stopped before what waits behind, until no more is left. -/
theorem returns_run {steps : Nat} (hsuffix : behind <:+ now.agenda)
    (contained : ∀ taken < steps,
      (run surroundings taken now).isContained behind.length = true)
    (hlength : (run surroundings steps now).agenda.length = behind.length) :
    Returns surroundings behind now (trail surroundings steps now)
      (run surroundings steps now) := by
  induction steps generalizing now with
  | zero => exact .here (hsuffix.eq_of_length hlength.symm).symm
  | succ steps ih =>
      obtain ⟨first, front, hagenda, hstopped⟩ :=
        isContained_cases (contained 0 (Nat.zero_lt_succ steps)) hsuffix
      have hagenda : now.agenda = first :: (front ++ behind) := hagenda
      obtain ⟨next, hstep⟩ := @exists_step ι σ surroundings now first _ hagenda
      have hrun (taken : Nat) : run surroundings (taken + 1) now = run surroundings taken next := by
        simp [run, hstep]
      have htrail : trail surroundings (steps + 1) now = now :: trail surroundings steps next := by
        simp [trail, hstep]
      have hnext : behind <:+ next.agenda := by
        obtain ⟨work, rest, hfront, ⟨tasks, -, htasks⟩ | ⟨raised, rfl, hunwind⟩⟩ := step_cases hstep
        · obtain ⟨rfl, rfl⟩ := List.cons.inj (hfront.symm.trans hagenda)
          rw [htasks]
          exact (List.suffix_append front behind).trans (List.suffix_append tasks _)
        · obtain ⟨hfirst, rfl⟩ := List.cons.inj (hfront.symm.trans hagenda)
          have hafter : next.agenda = (now.world.unwind raised _).2 := congrArg Prod.snd hunwind
          rw [hafter]
          exact suffix_of_unwind (hstopped raised hfirst.symm) behind
      rw [hrun] at hlength ⊢
      rw [htrail]
      apply Returns.next hagenda (List.suffix_append front behind) hstep
      · rintro raised ⟨dropped, hraised, hdropped⟩
        obtain ⟨hfirst, hrest⟩ := List.cons.inj (hagenda.symm.trans hraised)
        obtain rfl := List.append_cancel_right hrest
        obtain ⟨work, hmem, hrecovers⟩ := hstopped raised hfirst
        exact hrecovers (hdropped work hmem)
      · apply ih hnext _ hlength
        intro taken hlt
        rw [← hrun]
        exact contained (taken + 1) (by omega)

/-- On its way to the end, a call that returns comes to each task that is to be done before: the
task is in front, or a fault has come up to it that it recovers from. -/
theorem Returns.meets {task : Work ι} (returns : Returns surroundings behind now past after)
    (hsuffix : task :: behind <:+ now.agenda) :
    ∃ early moment late, Returns surroundings behind moment (moment :: late) after ∧
      (Returns surroundings (task :: behind) now early moment ∨
        ∃ raised, Ends surroundings (task :: behind) (some raised) now early moment ∧
          World.recover raised task moment.world ≠ none) := by
  induction past generalizing now with
  | nil =>
      obtain ⟨next, later, hpast, -⟩ := returns.uncons (Above.of_suffix hsuffix).ne
      cases hpast
  | cons first past ih =>
      obtain ⟨next, later, hpast, step, hlater⟩ := returns.uncons (Above.of_suffix hsuffix).ne
      obtain ⟨rfl, rfl⟩ := List.cons.inj hpast
      rcases step_toward hsuffix (returns.unfailing first List.mem_cons_self) step with
        hhere | ⟨raised, hleft, hrecovers⟩ | ⟨hnext, ⟨work, rest, hagenda, hrest⟩, hunraised⟩
      · exact ⟨[], first, past, returns, Or.inl (.here hhere)⟩
      · exact ⟨[], first, past, returns, Or.inr ⟨raised, ⟨.start, by simp, hleft⟩, hrecovers⟩⟩
      · obtain ⟨early, moment, late, hlate, hcases⟩ := ih hlater hnext
        refine ⟨first :: early, moment, late, hlate, ?_⟩
        rcases hcases with hreturns | ⟨raised, hends, hrecovers⟩
        · exact Or.inl (hreturns.next hagenda hrest step hunraised)
        · exact Or.inr ⟨raised, hends.next hagenda hrest step, hrecovers⟩

/-- What is done returns in one way only. -/
theorem Ends.unique {since : List (Configuration ι σ)} {later : Configuration ι σ}
    (first : Ends surroundings behind none now past after)
    (second : Ends surroundings behind none now since later) : after = later := by
  induction past generalizing now since with
  | nil =>
      obtain ⟨-, rfl⟩ | ⟨next, others, hpast, -⟩ := first.course.head_cases
      · obtain ⟨-, rfl⟩ | ⟨next, others, rfl, -⟩ := second.course.head_cases
        · rfl
        · exact absurd first.left (second.above _ List.mem_cons_self).ne
      · cases hpast
  | cons moment past ih =>
      obtain ⟨hpast, -⟩ | ⟨next, others, hpast, step, hlater⟩ := first.course.head_cases
      · cases hpast
      · obtain ⟨rfl, rfl⟩ := List.cons.inj hpast
        obtain ⟨-, rfl⟩ | ⟨next', others', rfl, step', hlater'⟩ := second.course.head_cases
        · exact absurd second.left (first.above _ List.mem_cons_self).ne
        · obtain rfl := Option.some.inj (step.symm.trans step')
          apply ih
          · exact ⟨hlater, fun m hmem => first.above m (List.mem_cons_of_mem _ hmem), first.left⟩
          · exact ⟨hlater', fun m hmem => second.above m (List.mem_cons_of_mem _ hmem), second.left⟩

/-- For a while work is done in front of what waits behind, and at no moment is a fault on its way
that none of it recovers from. -/
structure Advances (surroundings : Surroundings ι σ) (behind : List (Work ι))
    (now : Configuration ι σ) (past : List (Configuration ι σ)) (after : Configuration ι σ) :
    Prop where
  course : Course surroundings now past after
  above : ∀ moment ∈ past, moment.Above behind
  unfailing : ∀ moment ∈ past, ∀ raised, ¬ moment.Left behind (some raised)

theorem Advances.here (surroundings : Surroundings ι σ) (behind : List (Work ι))
    (now : Configuration ι σ) : Advances surroundings behind now [] now where
  course := .start
  above := by simp
  unfailing := by simp

theorem Advances.trans (first : Advances surroundings behind now past middle)
    (second : Advances surroundings behind middle since after) :
    Advances surroundings behind now (past ++ since) after where
  course := first.course.append second.course
  above := List.forall_mem_append.mpr ⟨first.above, second.above⟩
  unfailing := List.forall_mem_append.mpr ⟨first.unfailing, second.unfailing⟩

/-- When all work in front has been done, it has returned. -/
theorem Advances.returns (advances : Advances surroundings behind now past after)
    (hagenda : after.agenda = behind) : Returns surroundings behind now past after where
  toEnds := ⟨advances.course, advances.above, hagenda⟩
  unfailing := advances.unfailing

/-- What returns to some of the work in front has come nearer to the end of it all. -/
theorem Returns.advances {front : List (Work ι)}
    (returns : Returns surroundings (front ++ behind) now past after) :
    Advances surroundings behind now past after where
  course := returns.course
  above := fun moment hmem => (returns.above moment hmem).of_front
  unfailing := by
    rintro moment hmem raised ⟨dropped, hagenda, hdropped⟩
    obtain ⟨first, rest, hfirst, hsuffix⟩ := returns.above moment hmem
    obtain ⟨rfl, rfl⟩ := List.cons.inj (hfirst.symm.trans hagenda)
    obtain ⟨others, rfl⟩ := (List.suffix_append_self_iff).mp hsuffix
    apply returns.unfailing moment hmem raised
    refine ⟨others, by simp [hagenda], ?_⟩
    exact fun work hwork => hdropped work (List.mem_append_left front hwork)

/-- A task other than a fault is done. -/
theorem Advances.task {work : Work ι} {rest : List (Work ι)} (hagenda : now.agenda = work :: rest)
    (hsuffix : behind <:+ rest) (hraise : ∀ raised, work ≠ .raise raised)
    (step : now.step surroundings = some after) :
    Advances surroundings behind now [now] after where
  course := Course.start.step step
  above := List.forall_mem_singleton.mpr ⟨work, rest, hagenda, hsuffix⟩
  unfailing := by
    rw [List.forall_mem_singleton]
    rintro raised ⟨dropped, hraised, -⟩
    exact hraise raised (List.cons.inj (hagenda.symm.trans hraised)).1

/-- A task in front recovers from a fault. -/
theorem Advances.recovered {raised : Fault} {dropped rest tasks : List (Work ι)} {task : Work ι}
    {world : World} (hagenda : now.agenda = .raise raised :: dropped ++ task :: rest)
    (hsuffix : behind <:+ rest)
    (hdropped : ∀ work ∈ dropped, World.recover raised work now.world = none)
    (htask : World.recover raised task now.world = some (world, tasks)) :
    Advances surroundings behind now [now] { now with world, agenda := tasks ++ rest } where
  course := Course.start.step (step_recovered hagenda hdropped htask)
  above := by
    refine List.forall_mem_singleton.mpr ⟨_, _, hagenda, ?_⟩
    exact hsuffix.trans ((List.suffix_cons task rest).trans (List.suffix_append dropped _))
  unfailing := by
    rw [List.forall_mem_singleton]
    rintro other ⟨lost, hraised, hlost⟩
    obtain ⟨front, rfl⟩ := hsuffix
    obtain ⟨hfault, hrest⟩ := List.cons.inj (hagenda.symm.trans hraised)
    cases hfault
    have hlost' : (dropped ++ task :: front) ++ behind = lost ++ behind := by simpa using hrest
    obtain rfl := List.append_cancel_right hlost'
    rw [hlost task (by simp)] at htask
    cases htask

/-- Brief work is done in one step, and no facade changes by it. -/
theorem step_brief
    (hlog : ∀ record world around, (surroundings.answer (.log record) world around).2 = [])
    {work : Work ι} (brief : work.isBrief = true) (hagenda : now.agenda = work :: behind) :
    ∃ after, now.step surroundings = some after ∧ after.agenda = behind ∧
      after.world.facades = now.world.facades := by
  obtain ⟨world, around, agenda⟩ := now
  obtain rfl : agenda = _ := hagenda
  unfold Work.isBrief at brief
  split at brief
  · rename_i record
    refine ⟨_, rfl, ?_, rfl⟩
    simp [hlog]
  · exact ⟨_, rfl, rfl, rfl⟩
  · rename_i index token
    simp only [step, World.run, World.runRegistry]
    split
    · exact ⟨_, rfl, rfl, rfl⟩
    · exact ⟨_, rfl, rfl, rfl⟩
  · cases brief

/-- Brief work returns. -/
theorem ends_of_brief
    (hlog : ∀ record world around, (surroundings.answer (.log record) world around).2 = [])
    {tasks : List (Work ι)} (brief : ∀ work ∈ tasks, work.isBrief = true)
    (hagenda : now.agenda = tasks ++ behind) :
    ∃ past after, Ends surroundings behind none now past after ∧
      after.world.facades = now.world.facades := by
  induction tasks generalizing now with
  | nil => exact ⟨[], now, .here hagenda, rfl⟩
  | cons work tasks ih =>
      obtain ⟨next, hstep, hnext, hsame⟩ :=
        step_brief hlog (brief work List.mem_cons_self) hagenda
      obtain ⟨past, after, hends, hfacades⟩ :=
        ih (fun other hmem => brief other (List.mem_cons_of_mem _ hmem)) hnext
      refine ⟨now :: past, after, ?_, hfacades.trans hsame⟩
      exact hends.next hagenda (List.suffix_append tasks behind) hstep

end Configuration

end ServiceDiscovery
