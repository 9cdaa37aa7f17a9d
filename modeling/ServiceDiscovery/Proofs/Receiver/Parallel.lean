import ServiceDiscovery.Proofs.Receiver.Guard

/-!
Two runs side by side that differ in no more than which receivers fail. Their agendas have the same
work on them, apart from log lines and from whether an event counts as delivered. Where a receiver
has failed in one of them its fault stands right in front of the guard of the call, and when the
guard has taken it the agendas are the same again.
-/

namespace ServiceDiscovery

variable {ι σ τ : Type}

/-- Is a guard next, apart from what is over without anything else being done? -/
def isEnding (world : World) : List (Work ι) → Bool
  | [] => false
  | work :: rest => if work.isPassing then isEnding world rest else work.guards world

/-- Log lines and faults in front of a guard leave it the next one. -/
theorem isEnding_of_guards {world : World} {guard : Work ι} {front rest : List (Work ι)}
    (passing : ∀ work ∈ front, work.isPassing = true) (guards : guard.guards world = true) :
    isEnding world (front ++ guard :: rest) = true := by
  induction front with
  | nil => simp [isEnding, Work.not_passing_of_guards guards, guards]
  | cons work front ih =>
      have hfront := ih fun other hmem => passing other (List.mem_cons_of_mem _ hmem)
      simpa [isEnding, passing work List.mem_cons_self] using hfront

/-- The same is to be done in one world, apart from log lines and yes or no, and receivers may have
failed in front of their guards. -/
inductive Parallel (world : World) : List (Work ι) → List (Work ι) → Prop where
  | nil : Parallel world [] []
  | plain {work : Work ι} {first second : List (Work ι)} (unreceived : work.isReceiver = false)
      (unlogged : work.isLog = false) (rest : Parallel world first second) :
      Parallel world (work :: first) (work :: second)
  | noted (record : Log.Record) {first second : List (Work ι)}
      (rest : Parallel world first second) : Parallel world (.call (.log record) :: first) second
  | noted' (record : Log.Record) {first second : List (Work ι)}
      (rest : Parallel world first second) : Parallel world first (.call (.log record) :: second)
  | verdict (b b' : Bool) {first second : List (Work ι)} (rest : Parallel world first second) :
      Parallel world (.answer (.truth b) :: first) (.answer (.truth b') :: second)
  | calling {call : Call} {guard : Work ι} {first second : List (Work ι)}
      (receiver : call.isReceiver = true) (guards : guard.guards world = true)
      (rest : Parallel world first second) :
      Parallel world (.call call :: guard :: first) (.call call :: guard :: second)
  | failing {guard : Work ι} {front front' first second agenda agenda' : List (Work ι)}
      (passing : ∀ work ∈ front, work.isPassing = true)
      (passing' : ∀ work ∈ front', work.isPassing = true) (guards : guard.guards world = true)
      (rest : Parallel world first second) (hagenda : agenda = front ++ guard :: first)
      (hagenda' : agenda' = front' ++ guard :: second) : Parallel world agenda agenda'

namespace Parallel

variable {world after : World} {call : Call} {record : Log.Record}
  {first second first' second' agenda agenda' tasks : List (Work ι)}

/-- Nothing but the guards matters of the world. -/
theorem of_guards (hguards : ∀ work : Work ι, work.guards world = true → work.guards after = true)
    (parallel : Parallel world agenda agenda') : Parallel after agenda agenda' := by
  induction parallel with
  | nil => exact .nil
  | plain unreceived unlogged _ ih => exact .plain unreceived unlogged ih
  | noted record _ ih => exact .noted record ih
  | noted' record _ ih => exact .noted' record ih
  | verdict b b' _ ih => exact .verdict b b' ih
  | calling receiver guards _ ih => exact .calling receiver (hguards _ guards) ih
  | failing passing passing' guards _ hagenda hagenda' ih =>
      exact .failing passing passing' (hguards _ guards) ih hagenda hagenda'

theorem mono {source : Work ι} (touches : World.Touches world source after)
    (parallel : Parallel world agenda agenda') : Parallel after agenda agenda' :=
  parallel.of_guards fun _ guards => Work.guards_mono touches guards

theorem append (front : Parallel world first second) (back : Parallel world first' second') :
    Parallel world (first ++ first') (second ++ second') := by
  induction front with
  | nil => exact back
  | plain unreceived unlogged _ ih => exact .plain unreceived unlogged ih
  | noted record _ ih => exact .noted record ih
  | noted' record _ ih => exact .noted' record ih
  | verdict b b' _ ih => exact .verdict b b' ih
  | calling receiver guards _ ih => exact .calling receiver guards ih
  | failing passing passing' guards _ hagenda hagenda' ih =>
      apply Parallel.failing passing passing' guards ih
      · rw [hagenda, List.append_assoc, List.cons_append]
      · rw [hagenda', List.append_assoc, List.cons_append]

/-- Work that calls no receiver is the same as itself. -/
theorem of_unreceived (unreceived : ∀ task ∈ tasks, task.isReceiver = false) :
    Parallel world tasks tasks := by
  induction tasks with
  | nil => exact .nil
  | cons task tasks ih =>
      have htask := unreceived task List.mem_cons_self
      have hrest := ih fun other hmem => unreceived other (List.mem_cons_of_mem _ hmem)
      cases hlog : task.isLog with
      | false => exact .plain htask hlog hrest
      | true =>
          obtain ⟨record, rfl⟩ := Work.eq_of_isLog hlog
          exact .noted record (.noted' record hrest)

theorem of_moves (moves : List (Move ι)) :
    Parallel world (moves.map Move.work) (moves.map Move.work) := by
  apply of_unreceived
  intro task hmem
  obtain ⟨move, -, rfl⟩ := List.mem_map.mp hmem
  exact Work.not_receiver_of_move move

/-- Guards may answer yes or no. -/
theorem of_verdicts {guard : Work ι} (b b' : Bool) (rest : Parallel world first second) :
    Parallel world (guard.verdict b ++ first) (guard.verdict b' ++ second) := by
  unfold Work.verdict
  split
  · exact .verdict b b' rest
  · exact rest

/-- Log lines may be put in front of both. -/
theorem of_lines {lines lines' : List (Work ι)} (hlines : ∀ line ∈ lines, line.isLog = true)
    (hlines' : ∀ line ∈ lines', line.isLog = true) (rest : Parallel world first second) :
    Parallel world (lines ++ first) (lines' ++ second) := by
  induction lines with
  | cons line lines ih =>
      obtain ⟨record, rfl⟩ := Work.eq_of_isLog (hlines line List.mem_cons_self)
      exact .noted record (ih fun other hmem => hlines other (List.mem_cons_of_mem _ hmem))
  | nil =>
      induction lines' with
      | cons line lines' ih =>
          obtain ⟨record, rfl⟩ := Work.eq_of_isLog (hlines' line List.mem_cons_self)
          exact .noted' record (ih fun other hmem => hlines' other (List.mem_cons_of_mem _ hmem))
      | nil => exact rest

theorem symm (parallel : Parallel world agenda agenda') : Parallel world agenda' agenda := by
  induction parallel with
  | nil => exact .nil
  | plain unreceived unlogged _ ih => exact .plain unreceived unlogged ih
  | noted record _ ih => exact .noted' record ih
  | noted' record _ ih => exact .noted record ih
  | verdict b b' _ ih => exact .verdict b' b ih
  | calling receiver guards _ ih => exact .calling receiver guards ih
  | failing passing passing' guards _ hagenda hagenda' ih =>
      exact .failing passing' passing guards ih hagenda' hagenda

/-- A log line in front may be passed over. -/
theorem of_log (parallel : Parallel world (.call (.log record) :: first) second) :
    Parallel world first second := by
  generalize hagenda : Work.call (.log record) :: first = agenda at parallel
  induction parallel with
  | nil => cases hagenda
  | plain unreceived unlogged _ _ =>
      obtain ⟨rfl, -⟩ := List.cons.inj hagenda
      cases unlogged
  | noted record rest _ =>
      obtain ⟨-, rfl⟩ := List.cons.inj hagenda
      exact rest
  | noted' record _ ih => exact .noted' record (ih hagenda)
  | verdict b b' _ _ => cases hagenda
  | calling receiver _ _ _ =>
      obtain ⟨hcall, -⟩ := List.cons.inj hagenda
      cases hcall
      cases receiver
  | @failing guard front _ _ _ _ _ passing passing' guards rest hfirst hsecond _ =>
      rw [hfirst] at hagenda
      cases front with
      | nil =>
          obtain ⟨rfl, -⟩ := List.cons.inj hagenda
          cases guards
      | cons work front =>
          obtain ⟨-, rfl⟩ := List.cons.inj hagenda
          have hfront := fun other hmem => passing other (List.mem_cons_of_mem _ hmem)
          exact .failing hfront passing' guards rest rfl hsecond

/-- A receiver that is to be called has a guard right behind it. -/
theorem guarded (parallel : Parallel world (.call call :: first) second)
    (receiver : call.isReceiver = true) :
    ∃ guard rest, first = guard :: rest ∧ guard.guards world = true := by
  generalize hagenda : Work.call call :: first = agenda at parallel
  induction parallel with
  | nil => cases hagenda
  | plain unreceived _ _ _ =>
      obtain ⟨rfl, -⟩ := List.cons.inj hagenda
      cases receiver.symm.trans unreceived
  | noted record _ _ =>
      obtain ⟨hcall, -⟩ := List.cons.inj hagenda
      cases hcall
      cases receiver
  | noted' _ _ ih => exact ih hagenda
  | verdict b b' _ _ => cases hagenda
  | @calling _ guard rest _ _ guards _ _ =>
      obtain ⟨-, rfl⟩ := List.cons.inj hagenda
      exact ⟨guard, rest, rfl, guards⟩
  | @failing guard front _ _ _ _ _ passing _ guards _ hfirst _ _ =>
      rw [hfirst] at hagenda
      cases front with
      | nil =>
          obtain ⟨rfl, -⟩ := List.cons.inj hagenda
          cases guards
      | cons work front =>
          obtain ⟨rfl, -⟩ := List.cons.inj hagenda
          rcases Work.eq_of_isPassing (passing _ List.mem_cons_self) with
            ⟨record, hcall⟩ | ⟨fault, hraise⟩
          · cases hcall
            cases receiver
          · cases hraise

/-- If a guard is next in one of them, it is so in the other. -/
theorem isEnding_eq (parallel : Parallel world agenda agenda') :
    isEnding world agenda = isEnding world agenda' := by
  induction parallel with
  | nil => rfl
  | @plain work _ _ _ _ _ ih => simp only [isEnding, ih]
  | noted record _ ih => exact ih
  | noted' record _ ih => exact ih
  | verdict b b' _ _ => rfl
  | @calling call _ _ _ receiver _ _ ih =>
      cases call with
      | log record => cases receiver
      | _ => rfl
  | failing passing passing' guards _ hagenda hagenda' _ =>
      rw [hagenda, hagenda', isEnding_of_guards passing guards,
        isEnding_of_guards passing' guards]

/-- Right before a guard, there may be other log lines and faults in one of them than in the other.
-/
theorem of_ending {front front' : List (Work ι)} (parallel : Parallel world agenda agenda')
    (ending : isEnding world agenda = true) (passing : ∀ work ∈ front, work.isPassing = true)
    (passing' : ∀ work ∈ front', work.isPassing = true) :
    Parallel world (front ++ agenda) (front' ++ agenda') := by
  have hlast (work : Work ι) (hwork : work.isPassing = true) {others : List (Work ι)}
      (h : ∀ other ∈ others, other.isPassing = true) :
      ∀ other ∈ others ++ [work], other.isPassing = true :=
    List.forall_mem_append.mpr ⟨h, List.forall_mem_singleton.mpr hwork⟩
  induction parallel generalizing front front' with
  | nil => cases ending
  | @plain work first second _ _ rest ih =>
      cases hpassing : work.isPassing with
      | true =>
          have hending : isEnding world first = true := by simpa [isEnding, hpassing] using ending
          have hnext := ih hending (hlast work hpassing passing) (hlast work hpassing passing')
          rwa [List.append_assoc, List.append_assoc] at hnext
      | false =>
          have hguards : work.guards world = true := by simpa [isEnding, hpassing] using ending
          exact .failing passing passing' hguards rest rfl rfl
  | noted record _ ih =>
      have hnext := ih ending (hlast (.call (.log record)) rfl passing) passing'
      rwa [List.append_assoc] at hnext
  | noted' record _ ih =>
      have hnext := ih ending passing (hlast (.call (.log record)) rfl passing')
      rwa [List.append_assoc] at hnext
  | verdict b b' _ _ => cases ending
  | @calling call _ _ _ receiver _ _ _ =>
      cases call with
      | log record => cases receiver
      | _ => cases ending
  | @failing guard others others' _ _ _ _ hothers hothers' guards rest hagenda hagenda' _ =>
      have hall := List.forall_mem_append.mpr ⟨passing, hothers⟩
      have hall' := List.forall_mem_append.mpr ⟨passing', hothers'⟩
      apply Parallel.failing hall hall' guards rest
      · rw [hagenda, List.append_assoc]
      · rw [hagenda', List.append_assoc]

end Parallel

namespace World

variable {first second : World} {work : Work ι} {fault : Fault}
  {agenda agenda' : List (Work ι)}

/-- Whoever recovers from a fault calls no receiver. -/
theorem unreceived_of_recover {world after : World} {tasks : List (Work ι)}
    (h : recover fault work world = some (after, tasks)) :
    ∀ task ∈ tasks, task.isReceiver = false := by
  intro task hmem
  apply Bool.eq_false_iff.mpr
  intro hreceiver
  rcases (brings_of_recover h hmem).of_receiver hreceiver with
    ⟨place, token, event, rfl⟩ | ⟨place, kind, argument, number, rfl⟩
  · simp only [recover] at h
    obtain ⟨registry, changed, effects, -, hnone, -⟩ := recoverWith_eq_some h
    cases hnone
  · obtain ⟨⟨kind, hkind⟩, -⟩ := recover_facade h
    cases hkind

theorem guards_alike (alike : first.blur = second.blur) (work : Work ι) :
    work.guards first = work.guards second := by
  have hguards (world : World) : work.guards world.blur = work.guards world := rfl
  rw [← hguards first, alike, hguards]

theorem isEnding_alike (alike : first.blur = second.blur) (agenda : List (Work ι)) :
    isEnding first agenda = isEnding second agenda := by
  induction agenda with
  | nil => rfl
  | cons work rest ih => simp only [isEnding, ih, guards_alike alike]

theorem run_alike (alike : first.blur = second.blur) (work : Work ι) :
    (first.run work).1.blur = (second.run work).1.blur ∧
      (first.run work).2 = (second.run work).2 := by
  obtain ⟨hworld, htasks⟩ := run_blur work first
  obtain ⟨hworld', htasks'⟩ := run_blur work second
  rw [alike] at hworld htasks
  exact ⟨hworld.symm.trans hworld', htasks.symm.trans htasks'⟩

/-- In worlds that are alike the same work recovers from a fault, in the same way. -/
theorem recover_alike (alike : first.blur = second.blur) (fault : Fault) (work : Work ι) :
    (recover fault work first = none ∧ recover fault work second = none) ∨
      ∃ after after' tasks, recover fault work first = some (after, tasks) ∧
        recover fault work second = some (after', tasks) ∧ after.blur = after'.blur := by
  have hfirst := recover_blur fault work first
  rw [alike, recover_blur fault work second] at hfirst
  cases hrecover : recover fault work first with
  | none =>
      rw [hrecover] at hfirst
      exact Or.inl ⟨rfl, Option.map_eq_none_iff.mp hfirst⟩
  | some result =>
      rw [hrecover] at hfirst
      obtain ⟨result', hrecover', heq⟩ := Option.map_eq_some_iff.mp hfirst
      obtain ⟨hworld, htasks⟩ := Prod.mk.inj heq
      refine Or.inr ⟨result.1, result'.1, result.2, rfl, ?_, hworld.symm⟩
      rw [hrecover', ← htasks]

/-- A guard takes a fault that has come up to it, and what waits behind goes on. -/
theorem unwind_guard {world : World} {dropped kept : List (Work ι)}
    (hdropped : ∀ other ∈ dropped, recover fault other world = none)
    (guards : work.guards world = true) :
    ∃ record, world.unwind fault (dropped ++ work :: kept) =
      (world, .call (.log record) :: (work.verdict false ++ kept)) := by
  obtain ⟨record, hrecover⟩ := Work.recover_of_guards fault guards
  exact ⟨record, unwind_append hdropped hrecover kept⟩

/-- A fault is met in the same way side by side. -/
theorem unwind_parallel (alike : first.blur = second.blur)
    (parallel : Parallel first agenda agenda') (fault : Fault) :
    (first.unwind fault agenda).1.blur = (second.unwind fault agenda').1.blur ∧
      Parallel (first.unwind fault agenda).1 (first.unwind fault agenda).2
        (second.unwind fault agenda').2 := by
  have hguarded {guard : Work ι} {kept kept' : List (Work ι)}
      {dropped dropped' : List (Work ι)} (guards : guard.guards first = true)
      (hdropped : ∀ other ∈ dropped, recover fault other first = none)
      (hdropped' : ∀ other ∈ dropped', recover fault other second = none)
      (rest : Parallel first kept kept') :
      (first.unwind fault (dropped ++ guard :: kept)).1.blur =
          (second.unwind fault (dropped' ++ guard :: kept')).1.blur ∧
        Parallel (first.unwind fault (dropped ++ guard :: kept)).1
          (first.unwind fault (dropped ++ guard :: kept)).2
          (second.unwind fault (dropped' ++ guard :: kept')).2 := by
    have guards' := guards
    rw [guards_alike alike] at guards'
    obtain ⟨record, hfirst⟩ := @unwind_guard ι guard fault first dropped kept hdropped guards
    obtain ⟨record', hsecond⟩ := @unwind_guard ι guard fault second dropped' kept' hdropped' guards'
    rw [hfirst, hsecond]
    exact ⟨alike, .noted record (.noted' record' (.of_verdicts false false rest))⟩
  induction parallel with
  | nil => exact ⟨congrArg (fun world : World => { world with caught := some fault }) alike, .nil⟩
  | @plain work kept kept' unreceived unlogged rest ih =>
      rcases recover_alike alike fault work with
        ⟨hfirst, hsecond⟩ | ⟨after, after', tasks, hfirst, hsecond, hafter⟩
      · simp only [unwind, hfirst, hsecond]
        exact ih
      · simp only [unwind, hfirst, hsecond]
        refine ⟨hafter, ?_⟩
        apply Parallel.append
        · exact .of_unreceived (unreceived_of_recover hfirst)
        · exact rest.mono (touches_of_recover hfirst)
  | noted record rest ih => exact ih
  | noted' record rest ih => exact ih
  | verdict b b' rest ih => exact ih
  | @calling call guard kept kept' receiver guards rest ih =>
      apply @hguarded guard kept kept' [.call call] [.call call] guards _ _ rest
      · simp [recover]
      · simp [recover]
  | failing passing passing' guards rest hagenda hagenda' ih =>
      rw [hagenda, hagenda']
      apply hguarded guards _ _ rest
      · exact fun other hmem => Work.recover_of_passing (passing other hmem) fault first
      · exact fun other hmem => Work.recover_of_passing (passing' other hmem) fault second

end World

end ServiceDiscovery
