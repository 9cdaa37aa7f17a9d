import ServiceDiscovery.Proofs.Facade.Flags
import ServiceDiscovery.Proofs.Facade.Ringing

/-!
Receivers of what happens: channels outside, which are given events, and callbacks of facades. Each
is called with a task right behind it that stops whatever fault the call ends with, the guard of the
call. Whether there was a fault shows in a log line, and in the answer whether an event was
delivered, and in nothing else. So worlds are compared without that answer.
-/

namespace ServiceDiscovery

variable {ι σ : Type}

/-- Does the call reach a receiver? -/
def Call.isReceiver : Call → Bool
  | .publish _ _ | .callback _ _ _ _ => true
  | _ => false

def Call.isLog : Call → Bool
  | .log _ => true
  | _ => false

namespace Work

/-- Is the work a call that is to reach a receiver? -/
def isReceiver : Work ι → Bool
  | .call made => made.isReceiver
  | _ => false

def isLog : Work ι → Bool
  | .call made => made.isLog
  | _ => false

/-- Is the work over without anything else being done: a log line, or a fault that is not stopped?
-/
def isPassing : Work ι → Bool
  | .call made => made.isLog
  | .raise _ => true
  | _ => false

/-- Does the task stop every fault that the call of a receiver ends with? -/
def guards (world : World) : Work ι → Bool
  | .registry place (.delivering _ _) => world.registries[place]?.isSome
  | .facade place (.calling _) => world.facades[place]?.isSome
  | _ => false

variable {work : Work ι} {world after : World}

theorem eq_of_isReceiver (h : work.isReceiver = true) :
    (∃ channel event, work = .call (.publish channel event)) ∨
      ∃ place kind number argument, work = .call (.callback place kind number argument) := by
  cases work with
  | call made =>
      cases made with
      | publish channel event => exact Or.inl ⟨channel, event, rfl⟩
      | callback place kind number argument => exact Or.inr ⟨place, kind, number, argument, rfl⟩
      | _ => cases h
  | _ => cases h

theorem eq_of_isLog (h : work.isLog = true) : ∃ record, work = .call (.log record) := by
  cases work with
  | call made =>
      cases made with
      | log record => exact ⟨record, rfl⟩
      | _ => cases h
  | _ => cases h

theorem eq_of_guards (h : work.guards world = true) :
    (∃ place token event found, work = .registry place (.delivering token event) ∧
        world.registries[place]? = some found) ∨
      ∃ place kind found, work = .facade place (.calling kind) ∧
        world.facades[place]? = some found := by
  unfold guards at h
  split at h
  · rename_i place token event
    obtain ⟨found, hfound⟩ := Option.isSome_iff_exists.mp h
    exact Or.inl ⟨place, token, event, found, rfl, hfound⟩
  · rename_i place kind
    obtain ⟨found, hfound⟩ := Option.isSome_iff_exists.mp h
    exact Or.inr ⟨place, kind, found, rfl, hfound⟩
  · cases h

theorem eq_of_isPassing (h : work.isPassing = true) :
    (∃ record, work = .call (.log record)) ∨ ∃ fault, work = .raise fault := by
  cases work with
  | call made =>
      cases made with
      | log record => exact Or.inl ⟨record, rfl⟩
      | _ => cases h
  | raise fault => exact Or.inr ⟨fault, rfl⟩
  | _ => cases h

theorem recover_of_passing (h : work.isPassing = true) (fault : Fault) (world : World) :
    World.recover fault work world = none := by
  rcases eq_of_isPassing h with ⟨record, rfl⟩ | ⟨raised, rfl⟩ <;> rfl

theorem not_passing_of_guards (h : work.guards world = true) : work.isPassing = false := by
  rcases eq_of_guards h with ⟨_, _, _, _, rfl, -⟩ | ⟨_, _, _, rfl, -⟩ <;> rfl

/-- Guards go on guarding. -/
theorem guards_mono {source : Work ι} (touches : World.Touches world source after)
    (h : work.guards world = true) : work.guards after = true := by
  rcases eq_of_guards h with ⟨place, token, event, found, rfl, hfound⟩ |
    ⟨place, kind, found, rfl, hfound⟩
  · obtain ⟨later, hlater, -⟩ := touches.ages.registries place found hfound
    simp [guards, hlater]
  · obtain ⟨later, hlater, -⟩ := House.facade_goes touches hfound
    simp [guards, hlater]

/-- What a guard answers to the caller: whether an event was delivered, or nothing. -/
def verdict (b : Bool) : Work ι → List (Work ι)
  | .registry _ (.delivering _ _) => [.answer (.truth b)]
  | _ => []

theorem brief_of_verdict (guard : Work ι) (b : Bool) :
    ∀ work ∈ guard.verdict b, work.isBrief = true := by
  unfold verdict
  split
  · simp [isBrief]
  · simp

/-- A guard that no fault reaches leaves everything as it is. -/
theorem run_of_guards (h : work.guards world = true) :
    world.run work = (world, work.verdict true) := by
  rcases eq_of_guards h with ⟨place, token, event, found, rfl, hfound⟩ |
    ⟨place, kind, found, rfl, hfound⟩
  · have hset := World.set_of_getElem? hfound
    simp only [World.run, World.runRegistry, hfound, ChannelRegistry.step, hset]
    rfl
  · have hset := World.set_of_getElem? hfound
    simp only [World.run, World.runFacade, hfound, Facade.step, hset]
    rfl

/-- A guard stops every fault, by a log line. -/
theorem recover_of_guards (fault : Fault) (h : work.guards world = true) :
    ∃ record, World.recover fault work world =
      some (world, .call (.log record) :: work.verdict false) := by
  rcases eq_of_guards h with ⟨place, token, event, found, rfl, hfound⟩ |
    ⟨place, kind, found, rfl, hfound⟩
  · have hset := World.set_of_getElem? hfound
    exact ⟨_, by
      simp only [World.recover, World.recoverWith, hfound, ChannelRegistry.recover,
        Option.map_some, hset]
      rfl⟩
  · have hset := World.set_of_getElem? hfound
    exact ⟨_, by
      simp only [World.recover, World.recoverWith, hfound, Facade.recover, Option.map_some, hset]
      rfl⟩

theorem not_receiver_of_move (move : Move ι) : move.work.isReceiver = false := by
  cases move with
  | perform operation => cases operation <;> rfl
  | _ => rfl

end Work

/-- Receivers are called by registries that are to deliver, and by facades that tell their
callbacks. -/
theorem Brings.of_receiver {world : World} {source brought : Work ι}
    (h : Brings world source brought) (hreceiver : brought.isReceiver = true) :
    (∃ place token event, source = .registry place (.call (.deliver token event))) ∨
      ∃ place kind argument number, source = .facade place (.telling kind argument number) := by
  rcases Work.eq_of_isReceiver hreceiver with
    ⟨channel, event, rfl⟩ | ⟨place, kind, number, argument, rfl⟩
  · obtain ⟨place, token, hsource, -⟩ :=
      @Brings.of_publish ι world source 0 (.outside channel) event h
    exact Or.inl ⟨place, token, event, hsource⟩
  · obtain ⟨task, node, rfl, -, yields⟩ := h.of_callback
    obtain rfl := Facade.telling_of_yields yields
    exact Or.inr ⟨place, kind, argument, number, rfl⟩

/-- The answer, but not whether it is yes or no. -/
def Answer.blur : Answer → Answer
  | .truth _ => .truth false
  | answer => answer

@[simp] theorem Answer.blur_blur (answer : Answer) : answer.blur.blur = answer.blur := by
  cases answer <;> rfl

namespace World

/-- The world, but for the last yes or no. -/
def blur (world : World) : World :=
  { world with returned := world.returned.blur }

section

variable (platform queue registry : Nat) (receiver : Receiver) (world : World)

theorem attach_blur : world.blur.attach registry receiver =
    ((world.attach registry receiver).1, (world.attach registry receiver).2.blur) := by
  cases hfound : world.registries[registry]? <;> simp [attach, blur, hfound]

theorem addBrowse_blur : world.blur.addBrowse platform queue registry receiver =
    ((world.addBrowse platform queue registry receiver).1,
      (world.addBrowse platform queue registry receiver).2.blur) := by
  simp only [addBrowse, attach_blur]
  rfl

theorem addPublication_blur : world.blur.addPublication platform registry receiver =
    ((world.addPublication platform registry receiver).1,
      (world.addPublication platform registry receiver).2.blur) := by
  simp only [addPublication, attach_blur]
  rfl

theorem addFacade_blur (queue registry : Option Nat) (callbacks : Callbacks) :
    world.blur.addFacade platform queue registry callbacks =
      (world.addFacade platform queue registry callbacks).map fun made =>
        (made.1, made.2.blur) := by
  have hregistry : world.blur.addRegistry =
      (world.addRegistry.1, world.addRegistry.2.blur) := rfl
  have hqueue (registry : Nat) (world : World) : world.blur.addQueue platform registry {} =
      ((world.addQueue platform registry {}).1, (world.addQueue platform registry {}).2.blur) := rfl
  cases queue <;> cases registry <;>
    simp only [addFacade, hregistry, hqueue, addBrowse_blur, addPublication_blur] <;> rfl

end

theorem build_blur (made : Build) (world : World) :
    world.blur.build made = (world.build made).map fun built => (built.1, built.2.blur) := by
  cases made with
  | registry => rfl
  | platform node => rfl
  | queue platform registry core => rfl
  | browse platform queue registry receiver =>
      simp only [build, addBrowse_blur]
      rfl
  | publication platform registry receiver =>
      simp only [build, addPublication_blur]
      rfl
  | facade platform queue registry callbacks =>
      simp only [build, addFacade_blur]
      cases world.addFacade platform queue registry callbacks <;> rfl

/-- No work is done otherwise because of a yes or no that was returned. -/
theorem run_blur (work : Work ι) (world : World) :
    (world.blur.run work).1.blur = (world.run work).1.blur ∧
      (world.blur.run work).2 = (world.run work).2 := by
  cases work with
  | build made =>
      simp only [run, build_blur]
      cases world.build made <;> simp [Except.map, blur]
  | registry index task =>
      cases hfound : world.registries[index]? <;> simp [run, runRegistry, blur, hfound]
  | queue index task =>
      cases hfound : world.queues[index]? <;> simp [run, runQueue, blur, hfound]
  | browse index task =>
      cases hfound : world.browsers[index]? <;> simp [run, runBrowse, blur, hfound]
  | publication index task =>
      cases hfound : world.publications[index]? <;> simp [run, runPublication, blur, hfound]
  | facade index task =>
      cases hfound : world.facades[index]? <;> simp [run, runFacade, blur, hfound]
  | platform index task =>
      cases hfound : world.platforms[index]? with
      | none => simp [run, runPlatform, blur, hfound]
      | some node => cases node <;> simp [run, runPlatform, blur, hfound]
  | _ => simp [run, route, blur]

theorem recoverWith_blur {α ε : Type} (found : Option α) (recover : α → Option (α × List ε))
    (put : α → World) (work : α → ε → Work ι) :
    recoverWith found recover (fun member => (put member).blur) work =
      (recoverWith found recover put work).map fun after => (after.1.blur, after.2) := by
  cases found with
  | none => rfl
  | some member =>
      simp only [recoverWith, Option.map_map]
      rfl

/-- No fault is met otherwise because of a yes or no that was returned. -/
theorem recover_blur (fault : Fault) (work : Work ι) (world : World) :
    recover fault work world.blur =
      (recover fault work world).map fun after => (after.1.blur, after.2) := by
  cases work with
  | registry | queue | browse | publication | facade =>
      simp only [recover]
      rw [← recoverWith_blur]
      rfl
  | platform index task =>
      have hplatforms : world.blur.platforms = world.platforms := rfl
      cases hfound : world.platforms[index]? with
      | none => simp only [recover, hplatforms, hfound, Option.map_none]
      | some node =>
          cases node with
          | outside => simp only [recover, hplatforms, hfound, Option.map_none]
          | mdns core =>
              simp only [recover, hplatforms, hfound, Option.map_map]
              rfl
  | _ => rfl

end World

namespace Configuration

variable {surroundings : Surroundings ι σ} {start now : Configuration ι σ}
  {past : List (Configuration ι σ)}

theorem Course.guards {guard : Work ι} (course : Course surroundings start past now)
    (guards : guard.guards start.world = true) : guard.guards now.world = true := by
  induction course with
  | start => exact guards
  | step course step ih =>
      obtain ⟨work, htouches, -⟩ := step_touches step
      exact Work.guards_mono htouches ih

/-- Where the call of a receiver has ended with a fault, its guard takes it in the next step. -/
theorem Left.stops {guard : Work ι} {kept : List (Work ι)} {fault : Fault}
    (left : now.Left (guard :: kept) (some fault)) (guards : guard.guards now.world = true) :
    ∃ record, now.step surroundings =
      some { now with agenda := .call (.log record) :: (guard.verdict false ++ kept) } := by
  obtain ⟨dropped, hagenda, hdropped⟩ := left
  obtain ⟨record, hrecover⟩ := Work.recover_of_guards fault guards
  exact ⟨record, step_recovered hagenda hdropped hrecover⟩

/-- When the call of a receiver has ended, its guard gives its answer, and what waits behind goes
on, whether there was a fault or not. -/
theorem Left.resumes {guard : Work ι} {kept : List (Work ι)} {fault : Option Fault}
    (left : now.Left (guard :: kept) fault) (guards : guard.guards now.world = true) :
    ∃ lines, now.step surroundings =
        some { now with agenda := lines ++ (guard.verdict fault.isNone ++ kept) } ∧
      ∀ line ∈ lines, line.isLog = true := by
  cases fault with
  | none =>
      have inner : guard.isInner = true := by
        rcases Work.eq_of_guards guards with ⟨_, _, _, _, rfl, -⟩ | ⟨_, _, _, rfl, -⟩ <;> rfl
      have hstep := @step_inner ι σ surroundings now guard kept inner left
      rw [Work.run_of_guards guards] at hstep
      exact ⟨[], hstep, by simp⟩
  | some fault =>
      obtain ⟨record, hstep⟩ := left.stops guards
      refine ⟨[.call (.log record)], hstep, ?_⟩
      intro line hmem
      rw [List.mem_singleton.mp hmem]
      rfl

/-- However the work in front is done, no fault of it gets to what waits behind. -/
def Unfailing (surroundings : Surroundings ι σ) (behind : List (Work ι))
    (now : Configuration ι σ) : Prop :=
  ∀ past after, Course surroundings now past after → (∀ moment ∈ past, moment.Above behind) →
    ∀ raised, ¬ after.Left behind (some raised)

/-- What is left of a delivery: all of it, a guard with whatever is done in front of it, or brief
work. -/
inductive Delivering (behind : List (Work ι)) (now : Configuration ι σ) : Prop where
  | ahead {place : Nat} {token : Token} {event : Event}
      (hagenda : now.agenda = .registry place (.call (.deliver token event)) :: behind) :
      Delivering behind now
  | guarded {guard : Work ι} (guards : guard.guards now.world = true)
      (hsuffix : guard :: behind <:+ now.agenda) : Delivering behind now
  | brief {tasks : List (Work ι)} (brief : ∀ work ∈ tasks, work.isBrief = true)
      (hagenda : now.agenda = tasks ++ behind) : Delivering behind now

namespace Delivering

variable {behind : List (Work ι)} {after : Configuration ι σ}

theorem not_left (delivering : now.Delivering behind) (raised : Fault) :
    ¬ now.Left behind (some raised) := by
  rintro ⟨dropped, hraised, hdropped⟩
  cases delivering with
  | ahead hagenda => cases (List.cons.inj (hagenda.symm.trans hraised)).1
  | @guarded guard guards hsuffix =>
      obtain ⟨front, hfront⟩ := hsuffix
      have hlost : (front ++ [guard]) ++ behind = (.raise raised :: dropped) ++ behind := by
        simpa using hfront.trans hraised
      have hmem : guard ∈ (.raise raised :: dropped : List (Work ι)) := by
        rw [← List.append_cancel_right hlost]
        simp
      rcases List.mem_cons.mp hmem with rfl | hguard
      · cases guards
      · obtain ⟨record, hrecover⟩ := Work.recover_of_guards raised guards
        rw [hdropped guard hguard] at hrecover
        cases hrecover
  | @brief tasks brief hagenda =>
      have hlost : tasks ++ behind = (.raise raised :: dropped) ++ behind :=
        hagenda.symm.trans hraised
      obtain rfl := List.append_cancel_right hlost
      cases brief _ List.mem_cons_self

/-- A receiver is called with its guard behind; if there is none, it is over soon. -/
theorem step_deliver {place : Nat} {token : Token} {event : Event}
    (hagenda : now.agenda = .registry place (.call (.deliver token event)) :: behind)
    (step : now.step surroundings = some after) : after.Delivering behind := by
  have hstep := @step_inner ι σ surroundings now _ behind rfl hagenda
  obtain rfl := Option.some.inj (step.symm.trans hstep)
  simp only [World.run, World.runRegistry]
  cases hfound : now.world.registries[place]? with
  | none => exact @Delivering.brief _ _ behind _ [] (by simp) rfl
  | some registry =>
      have hlt := (List.getElem?_eq_some_iff.mp hfound).1
      simp only [ChannelRegistry.step]
      cases registry.receiver? token with
      | none =>
          apply @Delivering.brief _ _ behind _ [.call (.log (ChannelRegistry.dropped token event)),
            .answer (.truth false)] _ rfl
          simp [Work.isBrief]
      | some receiver =>
          apply @Delivering.guarded _ _ behind _ (.registry place (.delivering token event))
          · simp [Work.guards, hlt]
          · exact List.suffix_cons _ _

theorem step (quiet : ∀ record world around,
      (surroundings.answer (.log record) world around).2 = [])
    (delivering : now.Delivering behind) (above : now.Above behind)
    (step : now.step surroundings = some after) : after.Delivering behind := by
  have hnot := delivering.not_left
  cases delivering with
  | ahead hagenda => exact step_deliver hagenda step
  | @guarded guard guards hsuffix =>
      -- Where the call in front of the guard has ended, the guard gives its answer.
      have hanswer {fault : Option Fault} (left : now.Left (guard :: behind) fault) :
          after.Delivering behind := by
        obtain ⟨lines, hstep, hlines⟩ := @Left.resumes ι σ surroundings now _ _ _ left guards
        obtain rfl := Option.some.inj (step.symm.trans hstep)
        refine .brief ?_ (List.append_assoc lines _ behind).symm
        intro work hmem
        rcases List.mem_append.mp hmem with hline | hverdict
        · obtain ⟨record, rfl⟩ := Work.eq_of_isLog (hlines work hline)
          rfl
        · exact Work.brief_of_verdict guard _ work hverdict
      rcases step_toward hsuffix hnot step with
        hagenda | ⟨raised, hleft, -⟩ | ⟨hafter, -, -⟩
      · exact hanswer (show now.Left (guard :: behind) none from hagenda)
      · exact hanswer hleft
      · obtain ⟨work, htouches, -⟩ := step_touches step
        exact .guarded (Work.guards_mono htouches guards) hafter
  | @brief tasks brief hagenda =>
      cases tasks with
      | nil => exact absurd hagenda above.ne
      | cons work tasks =>
          obtain ⟨next, hnext, htasks, -⟩ :=
            step_brief quiet (brief work List.mem_cons_self) hagenda
          obtain rfl := Option.some.inj (step.symm.trans hnext)
          exact .brief (fun other hmem => brief other (List.mem_cons_of_mem _ hmem)) htasks

theorem unfailing (quiet : ∀ record world around,
      (surroundings.answer (.log record) world around).2 = [])
    (delivering : now.Delivering behind) : now.Unfailing surroundings behind := by
  intro past after course above
  suffices h : after.Delivering behind from h.not_left
  induction course with
  | start => exact delivering
  | step course step ih =>
      have hlast := above _ List.mem_concat_self
      exact (ih fun moment hmem => above moment (List.mem_append_left _ hmem)).step quiet hlast step

end Delivering

end Configuration

end ServiceDiscovery
