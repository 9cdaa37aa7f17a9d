import ServiceDiscovery.Proofs.Receiver.Parallel

/-!
Receivers that fail disturb nobody else. Two runs from one start in which the surroundings answer
with the same moves, but for faults that receivers end with, do the same work in the same worlds and
in the same order. What a receiver raises is taken by the guard of its call in the next step, and
nothing that waits behind ever hears of it.
-/

namespace ServiceDiscovery

variable {ι σ τ : Type}

/-- The moves, but for a fault that is raised at the end. -/
def unraised (moves : List (Move ι)) : List (Move ι) :=
  match moves.getLast? with
  | some (.raise _) => moves.dropLast
  | _ => moves

theorem work_of_unraised (moves : List (Move ι)) : ∃ faults : List (Work ι),
    (∀ work ∈ faults, work.isPassing = true) ∧
      moves.map Move.work = (unraised moves).map Move.work ++ faults := by
  unfold unraised
  split
  · rename_i fault hlast
    refine ⟨[.raise fault], by simp [Work.isPassing], ?_⟩
    conv_lhs => rw [← List.dropLast_append_getLast? _ hlast]
    rw [List.map_append]
    rfl
  · exact ⟨[], by simp, by simp⟩

/-- Is the work one that both runs do? Not so log lines, what is answered by yes or no, faults on
their way, and guards that none of them has reached. -/
def Work.isCommon : Work ι → Bool
  | .call made => !made.isLog
  | .answer (.truth _) | .raise _ => false
  | .registry _ (.delivering _ _) | .facade _ (.calling _) => false
  | _ => true

/-- Is the work one that the surroundings answer to, and not a log line? -/
def Work.isAsking : Work ι → Bool
  | .call made => !made.isLog
  | .outside _ => true
  | _ => false

/-- A facade that tells its callbacks calls none of them without a guard. -/
theorem Facade.tell_parallel {world : World} {index : Nat} (kind : CallbackKind)
    (argument : CallbackArgument) (number : Nat) (facade : Facade) (node : FacadeNode)
    (found : world.facades[index]?.isSome = true) :
    Parallel (ι := ι) world ((facade.tell kind argument number).map (Effect.work index node))
      ((facade.tell kind argument number).map (Effect.work index node)) := by
  unfold tell
  split
  · exact .calling rfl found (.plain rfl rfl .nil)
  · exact .nil

namespace World

variable {world : World} {work : Work ι}

/-- What a task turns into calls no receiver without a guard. -/
theorem parallel_of_run (work : Work ι) (world : World) :
    Parallel (world.run work).1 (world.run work).2 (world.run work).2 := by
  by_cases hdeliver : ∃ place token event, work = .registry place (.call (.deliver token event))
  · obtain ⟨place, token, event, rfl⟩ := hdeliver
    cases hfound : world.registries[place]? with
    | none =>
        simp only [run, runRegistry, hfound]
        exact .nil
    | some registry =>
        have hlt := (List.getElem?_eq_some_iff.mp hfound).1
        simp only [run, runRegistry, hfound, ChannelRegistry.step]
        split
        · exact .of_unreceived (by simp [ChannelRegistry.Effect.work, Work.isReceiver,
            Call.isReceiver])
        · rename_i receiver _
          cases receiver with
          | facade index =>
              exact .of_unreceived (by simp [ChannelRegistry.Effect.work, Work.isReceiver])
          | outside channel =>
              apply Parallel.calling rfl _ .nil
              simp [ChannelRegistry.Effect.work, Work.guards, hlt]
  · by_cases htelling : ∃ place kind argument number,
        work = .facade place (.telling kind argument number)
    · obtain ⟨place, kind, argument, number, rfl⟩ := htelling
      cases hfound : world.facades[place]? with
      | none =>
          simp only [run, runFacade, hfound]
          exact .nil
      | some node =>
          have hlt := (List.getElem?_eq_some_iff.mp hfound).1
          simp only [run, runFacade, hfound]
          apply Facade.tell_parallel
          simp [hlt]
    · apply Parallel.of_unreceived
      intro task hmem
      apply Bool.eq_false_iff.mpr
      intro hreceiver
      rcases (brings_of_run hmem).of_receiver hreceiver with hsource | hsource
      · exact hdeliver hsource
      · exact htelling hsource

end World

/-- One list begins with the other. -/
def Agree {α : Type} (first second : List α) : Prop :=
  first <+: second ∨ second <+: first

theorem Agree.append {α : Type} {first second : List α} (agree : Agree first second)
    (front : List α) : Agree (front ++ first) (front ++ second) :=
  agree.imp (List.prefix_append_right_inj front).mpr (List.prefix_append_right_inj front).mpr

theorem Agree.uncons {α : Type} {next next' : Option α} {first second : List α}
    (agree : Agree (next.toList ++ first) (next'.toList ++ second))
    (hsome : next.isSome = next'.isSome) : next = next' ∧ Agree first second := by
  cases next with
  | none =>
      cases next' with
      | none => exact ⟨rfl, agree⟩
      | some entry => cases hsome
  | some entry =>
      cases next' with
      | none => cases hsome
      | some entry' =>
          rcases agree with hprefix | hprefix
          · obtain ⟨rfl, hrest⟩ := List.cons_prefix_cons.mp hprefix
            exact ⟨rfl, Or.inl hrest⟩
          · obtain ⟨rfl, hrest⟩ := List.cons_prefix_cons.mp hprefix
            exact ⟨rfl, Or.inr hrest⟩

namespace Configuration

variable {surroundings : Surroundings ι σ} {others : Surroundings ι τ}
  {start now after : Configuration ι σ} {start' now' after' : Configuration ι τ}
  {past : List (Configuration ι σ)} {past' : List (Configuration ι τ)}

/-- The moves with which the surroundings are about to answer to what is not a log line, but for a
fault that the call of a receiver ends with: nothing else is to be done before its guard. -/
def reply? (surroundings : Surroundings ι σ) (now : Configuration ι σ) : Option (List (Move ι)) :=
  match now.agenda with
  | [] => none
  | work :: rest =>
      if work.isAsking then
        some (if isEnding now.world rest then unraised (now.moves surroundings)
          else now.moves surroundings)
      else none

/-- All that the surroundings answered, in order. -/
def replies (surroundings : Surroundings ι σ) (past : List (Configuration ι σ)) :
    List (List (Move ι)) :=
  past.filterMap (reply? surroundings)

/-- The work that is about to be done, and the world in which it is. -/
def deed? (now : Configuration ι σ) : Option (Work ι × World) :=
  match now.agenda with
  | work :: _ => if work.isCommon then some (work, now.world.blur) else none
  | [] => none

/-- All that was done, in order. -/
def deeds (past : List (Configuration ι σ)) : List (Work ι × World) :=
  past.filterMap deed?

/-- Two runs are as far as each other. -/
structure Abreast (now : Configuration ι σ) (now' : Configuration ι τ) : Prop where
  alike : now.world.blur = now'.world.blur
  parallel : Parallel now.world now.agenda now'.agenda

/-- Is a log line in front? -/
def isLogging (now : Configuration ι σ) : Bool :=
  now.agenda.head?.any Work.isLog

/-- One run may write a log line while the other waits. -/
theorem Abreast.log
    (hlog : ∀ record world around, (surroundings.answer (.log record) world around).2 = [])
    (abreast : now.Abreast now') (logging : now.isLogging = true)
    (h : now.step surroundings = some after) : after.Abreast now' := by
  obtain ⟨work, rest, hagenda, -⟩ := step_cases h
  have hwork : work.isLog = true := by simpa [isLogging, hagenda] using logging
  obtain ⟨record, rfl⟩ := Work.eq_of_isLog hwork
  have hafter : after.agenda = rest := by
    rw [agenda_of_call hagenda h]
    simp [moves, hagenda, hlog]
  have hworld := world_of_call hagenda h
  have hparallel := abreast.parallel
  rw [hagenda] at hparallel
  constructor
  · rw [hworld]
    exact abreast.alike
  · rw [hworld, hafter]
    exact hparallel.of_log

/-- What the surroundings answer comes in front of what waits. -/
theorem step_asking {work : Work ι} {rest : List (Work ι)} (asking : work.isAsking = true)
    (hagenda : now.agenda = work :: rest) (h : now.step surroundings = some after) :
    after.world = now.world ∧
      after.agenda = (now.moves surroundings).map Move.work ++ rest := by
  obtain ⟨world, around, agenda⟩ := now
  obtain rfl : agenda = _ := hagenda
  cases work with
  | call | outside =>
      cases h
      exact ⟨rfl, rfl⟩
  | _ => cases asking

theorem step_raise {fault : Fault} {rest : List (Work ι)}
    (hagenda : now.agenda = .raise fault :: rest) (h : now.step surroundings = some after) :
    after.world = (now.world.unwind fault rest).1 ∧
      after.agenda = (now.world.unwind fault rest).2 := by
  obtain ⟨world, around, agenda⟩ := now
  obtain rfl : agenda = _ := hagenda
  cases h
  exact ⟨rfl, rfl⟩

/-- Once only log lines and faults are left in front of a guard, the call has ended. -/
theorem left_of_passing {guard : Work ι} {front rest : List (Work ι)}
    (quiet : now.isLogging = false) (passing : ∀ work ∈ front, work.isPassing = true)
    (hagenda : now.agenda = front ++ guard :: rest) : ∃ fault, now.Left (guard :: rest) fault := by
  cases front with
  | nil => exact ⟨none, hagenda⟩
  | cons work front =>
      obtain ⟨hwork, hfront⟩ := List.forall_mem_cons.mp passing
      rcases Work.eq_of_isPassing hwork with ⟨record, rfl⟩ | ⟨fault, rfl⟩
      · simp [isLogging, hagenda, Work.isLog, Call.isLog] at quiet
      · refine ⟨some fault, front, hagenda, ?_⟩
        exact fun other hmem => Work.recover_of_passing (hfront other hmem) fault now.world

/-- The surroundings answer in both runs, but for faults that receivers end with. -/
theorem Abreast.step_asking {work : Work ι} {rest rest' : List (Work ι)}
    (alike : now.world.blur = now'.world.blur) (asking : work.isAsking = true)
    (parallel : Parallel now.world rest rest') (hagenda : now.agenda = work :: rest)
    (hagenda' : now'.agenda = work :: rest')
    (hreply : now.reply? surroundings = now'.reply? others)
    (h : now.step surroundings = some after) (h' : now'.step others = some after') :
    after.Abreast after' := by
  obtain ⟨hworld, hafter⟩ := Configuration.step_asking asking hagenda h
  obtain ⟨hworld', hafter'⟩ := Configuration.step_asking asking hagenda' h'
  have hending : isEnding now'.world rest' = isEnding now.world rest :=
    (World.isEnding_alike alike rest').symm.trans parallel.isEnding_eq.symm
  constructor
  · rw [hworld, hworld']
    exact alike
  · rw [hworld, hafter, hafter']
    simp only [reply?, hagenda, hagenda', asking, if_true, hending, Option.some.injEq] at hreply
    cases hcase : isEnding now.world rest with
    | true =>
        have hmoves : unraised (now.moves surroundings) = unraised (now'.moves others) := by
          simpa [hcase] using hreply
        obtain ⟨faults, hfaults, hwork⟩ := work_of_unraised (now.moves surroundings)
        obtain ⟨faults', hfaults', hwork'⟩ := work_of_unraised (now'.moves others)
        rw [hwork, hwork', hmoves, List.append_assoc, List.append_assoc]
        exact (Parallel.of_moves _).append (parallel.of_ending hcase hfaults hfaults')
    | false =>
        have hmoves : now.moves surroundings = now'.moves others := by
          simpa [hcase] using hreply
        rw [hmoves]
        exact (Parallel.of_moves _).append parallel

/-- Whatever other work is in front of both runs, it is done in both. -/
theorem Abreast.step_plain {work : Work ι} {rest rest' : List (Work ι)}
    (alike : now.world.blur = now'.world.blur) (unreceived : work.isReceiver = false)
    (unlogged : work.isLog = false) (parallel : Parallel now.world rest rest')
    (hagenda : now.agenda = work :: rest) (hagenda' : now'.agenda = work :: rest')
    (hreply : now.reply? surroundings = now'.reply? others)
    (h : now.step surroundings = some after) (h' : now'.step others = some after') :
    after.Abreast after' := by
  cases work with
  | call call =>
      have hlogged : call.isLog = false := unlogged
      have asking : (Work.call call : Work ι).isAsking = true := by simp [Work.isAsking, hlogged]
      exact .step_asking alike asking parallel hagenda hagenda' hreply h h'
  | outside instruction =>
      exact .step_asking alike rfl parallel hagenda hagenda' hreply h h'
  | watch instruction =>
      obtain ⟨world, around, agenda⟩ := now
      obtain ⟨world', around', agenda'⟩ := now'
      obtain rfl : agenda = _ := hagenda
      obtain rfl : agenda' = _ := hagenda'
      cases h
      cases h'
      constructor
      · exact congrArg (fun world : World => { world with caught := none }) alike
      · exact .plain rfl rfl (parallel.mono (.nothing (.watch instruction) ..))
  | raise fault =>
      obtain ⟨hworld, hafter⟩ := step_raise hagenda h
      obtain ⟨hworld', hafter'⟩ := step_raise hagenda' h'
      obtain ⟨hblur, hparallel⟩ := World.unwind_parallel alike parallel fault
      constructor
      · rw [hworld, hworld']
        exact hblur
      · rw [hworld, hafter, hafter']
        exact hparallel
  | _ =>
      obtain rfl := Option.some.inj (h.symm.trans (step_inner rfl hagenda))
      obtain rfl := Option.some.inj (h'.symm.trans (step_inner rfl hagenda'))
      obtain ⟨hworld, htasks⟩ := World.run_alike alike _
      refine ⟨hworld, ?_⟩
      rw [← htasks]
      apply (World.parallel_of_run ..).append
      exact parallel.mono (World.touches_of_run ..)

/-- Where the call of a receiver has ended in both runs, both go on, even if the receiver has failed
in only one of them. -/
theorem Abreast.step_failing {guard : Work ι} {front front' rest rest' : List (Work ι)}
    (alike : now.world.blur = now'.world.blur) (quiet : now.isLogging = false)
    (quiet' : now'.isLogging = false) (passing : ∀ work ∈ front, work.isPassing = true)
    (passing' : ∀ work ∈ front', work.isPassing = true)
    (guards : guard.guards now.world = true) (parallel : Parallel now.world rest rest')
    (hagenda : now.agenda = front ++ guard :: rest)
    (hagenda' : now'.agenda = front' ++ guard :: rest')
    (h : now.step surroundings = some after) (h' : now'.step others = some after') :
    after.Abreast after' := by
  have guards' := guards
  rw [World.guards_alike alike] at guards'
  obtain ⟨fault, left⟩ := left_of_passing quiet passing hagenda
  obtain ⟨fault', left'⟩ := left_of_passing quiet' passing' hagenda'
  obtain ⟨lines, hstep, hlines⟩ := @Left.resumes ι σ surroundings now _ _ _ left guards
  obtain ⟨lines', hstep', hlines'⟩ := @Left.resumes ι τ others now' _ _ _ left' guards'
  obtain rfl := Option.some.inj (h.symm.trans hstep)
  obtain rfl := Option.some.inj (h'.symm.trans hstep')
  exact ⟨alike, .of_lines hlines hlines' (.of_verdicts _ _ parallel)⟩

/-- What is in front once the call of a receiver has ended is no work that both runs do, and nothing
that the surroundings answer to. -/
theorem unshared_of_guard {guard : Work ι} {front rest : List (Work ι)}
    (guards : guard.guards now.world = true) (passing : ∀ work ∈ front, work.isPassing = true)
    (hagenda : now.agenda = front ++ guard :: rest) :
    now.deed? = none ∧ now.reply? surroundings = none := by
  unfold deed? reply?
  rw [hagenda]
  cases front with
  | nil =>
      rcases Work.eq_of_guards guards with ⟨_, _, _, _, rfl, -⟩ | ⟨_, _, _, rfl, -⟩ <;>
        simp [Work.isCommon, Work.isAsking]
  | cons work front =>
      rcases Work.eq_of_isPassing (passing work List.mem_cons_self) with
        ⟨record, rfl⟩ | ⟨fault, rfl⟩ <;> simp [Work.isCommon, Work.isAsking, Call.isLog]

/-- Both runs take a step if neither has a log line in front. -/
theorem Abreast.step (abreast : now.Abreast now') (quiet : now.isLogging = false)
    (quiet' : now'.isLogging = false) (hreply : now.reply? surroundings = now'.reply? others)
    (h : now.step surroundings = some after) (h' : now'.step others = some after') :
    after.Abreast after' ∧ now.deed? = now'.deed? := by
  obtain ⟨alike, parallel⟩ := abreast
  generalize hagenda : now.agenda = agenda at parallel
  generalize hagenda' : now'.agenda = agenda' at parallel
  cases parallel with
  | nil =>
      obtain ⟨work, rest, hfront, -⟩ := step_cases h
      cases hagenda.symm.trans hfront
  | plain unreceived unlogged rest =>
      refine ⟨Abreast.step_plain alike unreceived unlogged rest hagenda hagenda' hreply h h', ?_⟩
      simp only [deed?, hagenda, hagenda', alike]
  | noted record rest => simp [isLogging, hagenda, Work.isLog, Call.isLog] at quiet
  | noted' record rest => simp [isLogging, hagenda', Work.isLog, Call.isLog] at quiet'
  | verdict b b' rest =>
      obtain rfl := Option.some.inj (h.symm.trans (step_inner rfl hagenda))
      obtain rfl := Option.some.inj (h'.symm.trans (step_inner rfl hagenda'))
      refine ⟨⟨?_, rest.mono (World.touches_of_run _ _)⟩, ?_⟩
      · exact congrArg (fun world : World => { world with returned := .truth false }) alike
      · simp [deed?, hagenda, hagenda', Work.isCommon]
  | @calling call guard first second receiver guards rest =>
      have asking : (Work.call call : Work ι).isAsking = true := by
        cases call with
        | log record => cases receiver
        | _ => rfl
      have hguarded : Parallel now.world (guard :: first) (guard :: second) :=
        @Parallel.failing _ _ guard [] [] first second _ _ (by simp) (by simp) guards rest rfl rfl
      refine ⟨.step_asking alike asking hguarded hagenda hagenda' hreply h h', ?_⟩
      simp only [deed?, hagenda, hagenda', alike]
  | failing passing passing' guards rest hfirst hsecond =>
      have hfirst := hagenda.trans hfirst
      have hsecond := hagenda'.trans hsecond
      have guards' := guards
      rw [World.guards_alike alike] at guards'
      refine ⟨.step_failing alike quiet quiet' passing passing' guards rest hfirst hsecond h h', ?_⟩
      obtain ⟨hdeed, -⟩ := @unshared_of_guard ι σ surroundings now _ _ _ guards passing hfirst
      obtain ⟨hdeed', -⟩ := @unshared_of_guard ι τ others now' _ _ _ guards' passing' hsecond
      rw [hdeed, hdeed']

theorem isSome_of_reply? {work : Work ι} {rest : List (Work ι)}
    (hagenda : now.agenda = work :: rest) :
    (now.reply? surroundings).isSome = work.isAsking := by
  unfold reply?
  rw [hagenda]
  cases hasking : work.isAsking <;> simp [hasking]

/-- The surroundings are asked in both runs or in neither if none has a log line in front. -/
theorem Abreast.asking (abreast : now.Abreast now') (quiet : now.isLogging = false)
    (quiet' : now'.isLogging = false) :
    (now.reply? surroundings).isSome = (now'.reply? others).isSome := by
  obtain ⟨alike, parallel⟩ := abreast
  generalize hagenda : now.agenda = agenda at parallel
  generalize hagenda' : now'.agenda = agenda' at parallel
  cases parallel with
  | nil =>
      unfold reply?
      rw [hagenda, hagenda']
  | plain | calling => exact (isSome_of_reply? hagenda).trans (isSome_of_reply? hagenda').symm
  | noted record rest => simp [isLogging, hagenda, Work.isLog, Call.isLog] at quiet
  | noted' record rest => simp [isLogging, hagenda', Work.isLog, Call.isLog] at quiet'
  | verdict b b' rest =>
      exact (isSome_of_reply? hagenda).trans (isSome_of_reply? hagenda').symm
  | failing passing passing' guards rest hfirst hsecond =>
      have guards' := guards
      rw [World.guards_alike alike] at guards'
      rw [(unshared_of_guard guards passing (hagenda.trans hfirst)).2,
        (unshared_of_guard guards' passing' (hagenda'.trans hsecond)).2]

theorem Abreast.symm (abreast : now.Abreast now') : now'.Abreast now where
  alike := abreast.alike.symm
  parallel := by
    have hguards (work : Work ι) : work.guards now.world = work.guards now'.world :=
      World.guards_alike abreast.alike work
    exact (abreast.parallel.of_guards fun work guards => (hguards work) ▸ guards).symm

theorem replies_cons (moment : Configuration ι σ) (later : List (Configuration ι σ)) :
    replies surroundings (moment :: later) =
      (moment.reply? surroundings).toList ++ replies surroundings later := by
  unfold replies
  cases hreply : moment.reply? surroundings <;> simp [hreply]

theorem deeds_cons (moment : Configuration ι σ) (later : List (Configuration ι σ)) :
    deeds (moment :: later) = moment.deed?.toList ++ deeds later := by
  unfold deeds
  cases hdeed : moment.deed? <;> simp [hdeed]

theorem silent_of_logging (logging : now.isLogging = true) :
    now.reply? surroundings = none ∧ now.deed? = none ∧ now.agenda ≠ [] := by
  unfold isLogging at logging
  unfold reply? deed?
  cases hagenda : now.agenda with
  | nil => simp [hagenda] at logging
  | cons work rest =>
      have hwork : work.isLog = true := by simpa [hagenda] using logging
      obtain ⟨record, rfl⟩ := Work.eq_of_isLog hwork
      simp [Work.isAsking, Work.isCommon, Call.isLog]

/-- Where there is nothing to be done, nothing happens. -/
theorem Course.stays (course : Course surroundings start past now) (hdone : start.agenda = []) :
    past = [] ∧ now = start := by
  rcases course.head_cases with hstart | ⟨next, later, -, step, -⟩
  · exact hstart
  · obtain ⟨work, rest, hagenda, -⟩ := step_cases step
    cases hdone.symm.trans hagenda

/-- If one run is done, the other has no more than log lines to write. -/
theorem Abreast.done (abreast : now.Abreast now') (quiet' : now'.isLogging = false)
    (hdone : now.agenda = []) : now'.agenda = [] := by
  obtain ⟨-, parallel⟩ := abreast
  rw [hdone] at parallel
  generalize hagenda' : now'.agenda = agenda' at parallel
  cases parallel with
  | nil => rfl
  | noted' record rest => simp [isLogging, hagenda', Work.isLog, Call.isLog] at quiet'
  | failing passing passing' guards rest hfirst hsecond => simp at hfirst

/-- As long as the surroundings answer the same, two runs that are as far as each other do the same,
and they end in the same world. -/
theorem Abreast.course
    (hlog : ∀ record world around, (surroundings.answer (.log record) world around).2 = [])
    (hlog' : ∀ record world around, (others.answer (.log record) world around).2 = [])
    (abreast : start.Abreast start') (course : Course surroundings start past now)
    (course' : Course others start' past' now')
    (agree : Agree (replies surroundings past) (replies others past')) :
    Agree (deeds past) (deeds past') ∧ (now.agenda = [] → now'.agenda = [] →
      deeds past = deeds past' ∧ now.world.blur = now'.world.blur) := by
  induction hlength : past.length + past'.length using Nat.strongRecOn
    generalizing start start' past past' with
  | ind length ih =>
      cases hlogging : start.isLogging with
      | true =>
          obtain ⟨hreply, hdeed, hbusy⟩ := @silent_of_logging ι σ surroundings start hlogging
          rcases course.head_cases with ⟨rfl, rfl⟩ | ⟨next, later, rfl, step, hlater⟩
          · exact ⟨Or.inl (List.nil_prefix), fun hdone => absurd hdone hbusy⟩
          · have hnext := abreast.log hlog hlogging step
            rw [replies_cons, hreply] at agree
            rw [deeds_cons, hdeed]
            exact ih _ (by simp [← hlength]) hnext hlater course' agree rfl
      | false =>
          cases hlogging' : start'.isLogging with
          | true =>
              obtain ⟨hreply, hdeed, hbusy⟩ := @silent_of_logging ι τ others start' hlogging'
              rcases course'.head_cases with ⟨rfl, rfl⟩ | ⟨next, later, rfl, step, hlater⟩
              · exact ⟨Or.inr (List.nil_prefix), fun _ hdone => absurd hdone hbusy⟩
              · have hnext := (abreast.symm.log hlog' hlogging' step).symm
                rw [replies_cons, hreply] at agree
                rw [deeds_cons, hdeed]
                exact ih _ (by simp [← hlength]) hnext course hlater agree rfl
          | false =>
              rcases course.head_cases with ⟨rfl, rfl⟩ | ⟨next, later, rfl, step, hlater⟩
              · refine ⟨Or.inl List.nil_prefix, fun hdone _ => ?_⟩
                obtain ⟨rfl, rfl⟩ := course'.stays (abreast.done hlogging' hdone)
                exact ⟨rfl, abreast.alike⟩
              · rcases course'.head_cases with ⟨rfl, rfl⟩ | ⟨next', later', rfl, step', hlater'⟩
                · refine ⟨Or.inr List.nil_prefix, fun _ hdone => ?_⟩
                  obtain ⟨hnone, -⟩ := course.stays (abreast.symm.done hlogging hdone)
                  cases hnone
                · rw [replies_cons, replies_cons] at agree
                  obtain ⟨hreply, hrest⟩ := agree.uncons (abreast.asking hlogging hlogging')
                  obtain ⟨hnext, hdeed⟩ := abreast.step hlogging hlogging' hreply step step'
                  have hlt : later.length + later'.length < length := by
                    rw [← hlength, List.length_cons, List.length_cons]
                    omega
                  obtain ⟨hdeeds, hends⟩ := ih _ hlt hnext hlater hlater' hrest rfl
                  rw [deeds_cons, deeds_cons, hdeed]
                  refine ⟨hdeeds.append _, fun hdone hdone' => ?_⟩
                  obtain ⟨hsame, hworld⟩ := hends hdone hdone'
                  exact ⟨congrArg (_ ++ ·) hsame, hworld⟩

/-- Along a run, each receiver that is to be called has its guard. -/
theorem Course.guarded
    (hlog : ∀ record world around, (surroundings.answer (.log record) world around).2 = [])
    (course : Course surroundings start past now)
    (unreceived : ∀ work ∈ start.agenda, work.isReceiver = false) : now.Abreast now := by
  induction course with
  | start => exact ⟨rfl, .of_unreceived unreceived⟩
  | @step past now after course step ih =>
      cases hlogging : now.isLogging with
      | true => exact ((ih.log hlog hlogging step).symm.log hlog hlogging step).symm
      | false => exact (ih.step hlogging hlogging rfl step step).1

/-- Two runs from one start, in which the surroundings make the same moves but for faults that
receivers end with, do the same work in the same order and in the same worlds, and if both are done
they have come to the same world. Where the call of a receiver ends with a fault, its guard takes it
in the next step, by a log line and its answer, and all that waits behind stays as it was. -/
theorem failing_receivers_disturb_nobody
    (hlog : ∀ record world around, (surroundings.answer (.log record) world around).2 = [])
    (hlog' : ∀ record world around, (others.answer (.log record) world around).2 = [])
    (world : start.world = start'.world) (agenda : start.agenda = start'.agenda)
    (unreceived : ∀ work ∈ start.agenda, work.isReceiver = false)
    (course : Course surroundings start past now) (course' : Course others start' past' now')
    (agree : Agree (replies surroundings past) (replies others past')) :
    Agree (deeds past) (deeds past') ∧
    (now.agenda = [] → now'.agenda = [] →
      deeds past = deeds past' ∧ now.world.blur = now'.world.blur) ∧
    ∀ moment ∈ past, ∀ call rest, moment.agenda = .call call :: rest → call.isReceiver = true →
      ∃ guard kept, rest = guard :: kept ∧ ∀ fault since ended,
        Ends surroundings (guard :: kept) (some fault) moment since ended → ∃ record,
        ended.step surroundings =
          some { ended with agenda := .call (.log record) :: (guard.verdict false ++ kept) } := by
  have habreast : start.Abreast start' := by
    constructor
    · rw [world]
    · rw [← agenda]
      exact .of_unreceived unreceived
  obtain ⟨hdeeds, hends⟩ := habreast.course hlog hlog' course course' agree
  refine ⟨hdeeds, hends, ?_⟩
  intro moment hmem call rest hagenda receiver
  obtain ⟨earlier, after, hearlier, -⟩ := course.before hmem
  have hparallel := (hearlier.guarded hlog unreceived).parallel
  rw [hagenda] at hparallel
  obtain ⟨guard, kept, rfl, guards⟩ := hparallel.guarded receiver
  refine ⟨guard, kept, rfl, fun fault since ended ends => ?_⟩
  exact ends.left.stops (ends.course.guards guards)

/-- A facade has two callbacks for services that were added. In one run the first of them fails,
after it has cleared the records, and in the other run the second. A channel outside detaches itself
when it hears of an event, and fails in the first run only. -/
theorem failing_receivers_disturb_nobody_of_two :
    let printer : ServiceRef := { name := "Printer", type := "_ipp._tcp" }
    let resolved : ResolveOutcome := .resolved printer {
      name := "Printer"
      type := "_ipp._tcp"
      hostname := "host.local"
      address := "192.168.1.10"
      port := 80
      attributes := some [] }
    let fails (b : Bool) : List (Move Empty) :=
      if b then [.raise (.outside .value "bad receiver")] else []
    let start (first second third : Bool) : Configuration Empty (List (List (Move Empty))) := {
      world := { platforms := [.outside] }
      around := [[.perform (.browse 0 (.notice (.started "_ipp._tcp")))],
        [.perform (.queue 0 (.outcome resolved))],
        .perform (.facade 0 .clearTxt) :: fails first,
        fails second,
        .perform (.registry 0 (.detach 3)) :: fails third]
      agenda := [.build (.facade 0 none none { added := 2 }),
        .registry 0 (.call (.attach (.outside 7))),
        .facade 0 (.call (.startBrowser "_ipp._tcp")),
        .browse 0 (.call (.notice (.found printer))),
        .registry 0 (.call (.deliver 3 (.serviceRemoved "Printer")))] }
    let past := trail .staged 60 (start true false true)
    let past' := trail .staged 60 (start false true false)
    let now := run .staged 60 (start true false true)
    let now' := run .staged 60 (start false true false)
    now.agenda.length = 0 ∧ now'.agenda.length = 0 ∧
      now.world.returned = .truth false ∧ now'.world.returned = .truth true ∧
      deeds past = deeds past' ∧ now.world.blur = now'.world.blur ∧
      ∀ moment ∈ past, ∀ call rest, moment.agenda = .call call :: rest → call.isReceiver = true →
        ∃ guard kept, rest = guard :: kept ∧ ∀ fault since ended,
          Ends .staged (guard :: kept) (some fault) moment since ended → ∃ record,
          ended.step .staged =
            some { ended with agenda := .call (.log record) :: (guard.verdict false ++ kept) } := by
  intro printer resolved fails start past past' now now'
  have hcourse : Course .staged (start true false true) past now := course_run ..
  have hcourse' : Course .staged (start false true false) past' now' := course_run ..
  have hagree : Agree (replies .staged past) (replies .staged past') := Or.inl ⟨[], rfl⟩
  have hunreceived : ∀ work ∈ (start true false true).agenda, work.isReceiver = false := by
    decide +kernel
  have hdone : now.agenda.length = 0 := by decide +kernel
  have hdone' : now'.agenda.length = 0 := by decide +kernel
  have hworld : (start true false true).world = (start false true false).world := rfl
  have hagenda : (start true false true).agenda = (start false true false).agenda := rfl
  obtain ⟨-, hends, hguards⟩ := failing_receivers_disturb_nobody Surroundings.staged_quiet.log
    Surroundings.staged_quiet.log hworld hagenda hunreceived hcourse hcourse' hagree
  obtain ⟨hdeeds, hblur⟩ :=
    hends (List.eq_nil_of_length_eq_zero hdone) (List.eq_nil_of_length_eq_zero hdone')
  exact ⟨hdone, hdone', rfl, rfl, hdeeds, hblur, hguards⟩

end Configuration

end ServiceDiscovery
