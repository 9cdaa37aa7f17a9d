import ServiceDiscovery.Proofs.Receiver.Guard
import ServiceDiscovery.Proofs.ResolveQueue.Stretch

/-!
Deliveries to receivers that call nobody. Such a receiver takes what it is told, or it fails on it,
and its guard stops the fault. So a delivery to it is over before anything else is done, whether the
receiver is a channel outside or a facade with callbacks, and no queue hears of it.
-/

namespace ServiceDiscovery

variable {ι σ : Type}

/-- Receivers make no moves, though they may fail, and neither they nor log lines count as calls. -/
structure Surroundings.Passive (surroundings : Surroundings ι σ) (position : σ → Nat) : Prop where
  raises : ∀ call world around, call.isReceiver = true →
    ∃ faults : List Fault, (surroundings.answer call world around).2 = faults.map Move.raise
  uncounted : ∀ call world around, (call.isReceiver || call.isLog) = true →
    position (surroundings.answer call world around).1 = position around

/-- Work that comes of a delivery: receivers are called with their guards behind, callbacks are told
one after the other, and there is work that is done in one step. -/
inductive Told (world : World) : List (Work ι) → Prop where
  | nil : Told world []
  | brief {work : Work ι} {rest : List (Work ι)} (brief : work.isBrief = true)
      (told : Told world rest) : Told world (work :: rest)
  | receiver {call : Call} {guard : Work ι} {rest : List (Work ι)}
      (hears : call.isReceiver = true) (guards : guard.guards world = true)
      (told : Told world rest) : Told world (.call call :: guard :: rest)
  | guard {guard : Work ι} {rest : List (Work ι)} (guards : guard.guards world = true)
      (told : Told world rest) : Told world (guard :: rest)
  | telling {place number : Nat} {kind : CallbackKind} {argument : CallbackArgument}
      {rest : List (Work ι)} (told : Told world rest) :
      Told world (.facade place (.telling kind argument number) :: rest)

/-- All that a facade does about an event is to have callbacks told and to write lines. -/
theorem Told.of_receive {world : World} (place : Nat) (node : FacadeNode) (event : Event)
    (facade : Facade) :
    Told world ((facade.receive event).2.map (·.work (ι := ι) place node)) := by
  have htells (effects : List Facade.Effect)
      (telling : ∀ effect ∈ effects, effect.isTelling = true) :
      Told world (effects.map (·.work (ι := ι) place node)) := by
    induction effects with
    | nil => exact .nil
    | cons effect effects ih =>
        have hrest := ih fun other hmem => telling other (List.mem_cons_of_mem _ hmem)
        have heffect := telling effect List.mem_cons_self
        cases effect with
        | log record => exact .brief rfl hrest
        | own task =>
            cases task with
            | telling kind argument number => exact .telling hrest
            | _ => cases heffect
        | _ => cases heffect
  exact htells _ (Facade.receive_telling event facade)

namespace Configuration

variable {surroundings : Surroundings ι σ} {now : Configuration ι σ} {position : σ → Nat}
  {index : Nat} {behind rest tasks : List (Work ι)}

theorem Stretch.guards {record : List ResolveQueue.Happening} {calls : Nat}
    {after : Configuration ι σ} {guard : Work ι}
    (stretch : Stretch surroundings position index behind record calls now after)
    (guards : guard.guards now.world = true) : guard.guards after.world = true := by
  obtain ⟨past, hadvances, -⟩ := stretch
  exact hadvances.course.guards guards

theorem stretch_brief (quiet : surroundings.Quiet) (passive : surroundings.Passive position)
    {work : Work ι} (brief : work.isBrief = true) (hagenda : now.agenda = work :: rest)
    (hsuffix : behind <:+ rest) :
    ∃ after, Stretch surroundings position index behind [] 0 now after ∧ after.agenda = rest ∧
      after.world.facades = now.world.facades := by
  unfold Work.isBrief at brief
  split at brief
  · rename_i record
    have hcounted := passive.uncounted (.log record) now.world now.around rfl
    refine ⟨_, .call hagenda hsuffix rfl hcounted, ?_, rfl⟩
    simp [quiet.log]
  · exact ⟨_, .inner hagenda hsuffix rfl rfl (by simp), rfl, rfl⟩
  · rename_i place token
    refine ⟨_, .inner hagenda hsuffix rfl rfl (by simp), ?_⟩
    simp only [World.run, World.runRegistry]
    split
    · exact ⟨rfl, rfl⟩
    · exact ⟨rfl, rfl⟩
  · cases brief

theorem stretch_briefs (quiet : surroundings.Quiet) (passive : surroundings.Passive position)
    (brief : ∀ work ∈ tasks, work.isBrief = true) (hagenda : now.agenda = tasks ++ rest)
    (hsuffix : behind <:+ rest) :
    ∃ after, Stretch surroundings position index behind [] 0 now after ∧ after.agenda = rest ∧
      after.world.facades = now.world.facades := by
  induction tasks generalizing now with
  | nil => exact ⟨now, .here now, hagenda, rfl⟩
  | cons work tasks ih =>
      obtain ⟨hwork, htasks⟩ := List.forall_mem_cons.mp brief
      obtain ⟨middle, hfirst, hmiddle, hsame⟩ := stretch_brief quiet passive hwork hagenda
        (hsuffix.trans (List.suffix_append tasks rest))
      obtain ⟨after, hsecond, hafter, hfacades⟩ := ih htasks hmiddle
      exact ⟨after, hfirst.trans hsecond, hafter, hfacades.trans hsame⟩

/-- When the call of a receiver has ended, its guard is done, and a fault of the call goes no
further. -/
theorem stretch_guard (quiet : surroundings.Quiet) (passive : surroundings.Passive position)
    {guard : Work ι} {faults : List Fault} (guards : guard.guards now.world = true)
    (hagenda : now.agenda = faults.map Work.raise ++ guard :: rest) (hsuffix : behind <:+ rest) :
    ∃ after, Stretch surroundings position index behind [] 0 now after ∧ after.agenda = rest ∧
      after.world.facades = now.world.facades := by
  have hguard : guard.isInner = true ∧ guard.part index = none ∧
      ∀ task, guard ≠ .queue index task := by
    rcases Work.eq_of_guards guards with ⟨_, _, _, _, rfl, -⟩ | ⟨_, _, _, rfl, -⟩
    · exact ⟨rfl, rfl, by simp⟩
    · exact ⟨rfl, rfl, by simp⟩
  obtain ⟨hinner, hpart, hforeign⟩ := hguard
  cases faults with
  | nil =>
      have hfirst := @Stretch.inner ι σ surroundings now position index behind guard rest hagenda
        hsuffix hinner hpart hforeign
      rw [Work.run_of_guards guards] at hfirst
      obtain ⟨after, hsecond, hafter⟩ : ∃ after,
          Stretch surroundings position index behind [] 0
            { now with agenda := guard.verdict true ++ rest } after ∧ after.agenda = rest ∧
            after.world.facades = now.world.facades :=
        stretch_briefs quiet passive (Work.brief_of_verdict guard true) rfl hsuffix
      exact ⟨after, hfirst.trans hsecond, hafter⟩
  | cons fault others =>
      obtain ⟨record, hrecover⟩ := Work.recover_of_guards fault guards
      have hothers : ∀ work ∈ others.map (Work.raise (ι := ι)),
          World.recover fault work now.world = none := by
        intro work hmem
        obtain ⟨other, -, rfl⟩ := List.mem_map.mp hmem
        rfl
      have hnone : now.happening index = none :=
        unconcerned_of_handler hagenda (World.handler?_eq_some hothers hrecover) hforeign
      have hadvances := @Advances.recovered ι σ surroundings now behind fault _ rest _ guard _
        hagenda hsuffix hothers hrecover
      have hfirst : Stretch surroundings position index behind [] 0 now _ :=
        .one hadvances (by rw [hnone, Option.toList_none]) rfl
      have hbrief : ∀ work ∈ .call (.log record) :: guard.verdict false, work.isBrief = true :=
        List.forall_mem_cons.mpr ⟨rfl, Work.brief_of_verdict guard false⟩
      obtain ⟨after, hsecond, hafter⟩ : ∃ after,
          Stretch surroundings position index behind [] 0
            { now with agenda := (.call (.log record) :: guard.verdict false) ++ rest } after ∧
            after.agenda = rest ∧ after.world.facades = now.world.facades :=
        stretch_briefs quiet passive hbrief rfl hsuffix
      exact ⟨after, hfirst.trans hsecond, hafter⟩

/-- A passive receiver is called, and whether it fails or not, its guard ends the call. -/
theorem stretch_receiver (quiet : surroundings.Quiet) (passive : surroundings.Passive position)
    {call : Call} {guard : Work ι} (hears : call.isReceiver = true)
    (guards : guard.guards now.world = true) (hagenda : now.agenda = .call call :: guard :: rest)
    (hsuffix : behind <:+ rest) :
    ∃ after, Stretch surroundings position index behind [] 0 now after ∧ after.agenda = rest ∧
      after.world.facades = now.world.facades := by
  have hpart : (Work.call (ι := ι) call).part index = none := by
    cases call with
    | publish | callback => rfl
    | _ => cases hears
  have hcounted := passive.uncounted call now.world now.around (by simp [hears])
  obtain ⟨faults, hfaults⟩ := passive.raises call now.world now.around hears
  have hfirst := @Stretch.call ι σ surroundings now position index behind 0 call _ hagenda
    (hsuffix.trans (List.suffix_cons guard rest)) hpart hcounted
  rw [hfaults, List.map_map] at hfirst
  obtain ⟨after, hsecond, hafter⟩ :=
    @stretch_guard ι σ surroundings _ position index behind rest quiet passive guard faults
      (hfirst.guards guards) rfl hsuffix
  exact ⟨after, hfirst.trans hsecond, hafter⟩

theorem Stretch.receiver {start : Configuration ι σ}
    (first : Stretch surroundings position index behind [] 0 start now)
    (quiet : surroundings.Quiet) (passive : surroundings.Passive position)
    {call : Call} {guard : Work ι} (hears : call.isReceiver = true)
    (guards : guard.guards now.world = true) (hagenda : now.agenda = .call call :: guard :: rest)
    (hsuffix : behind <:+ rest) :
    ∃ after, Stretch surroundings position index behind [] 0 start after ∧ after.agenda = rest ∧
      after.world.facades = now.world.facades := by
  obtain ⟨after, hsecond, hafter⟩ := stretch_receiver quiet passive hears guards hagenda hsuffix
  exact ⟨after, first.trans hsecond, hafter⟩

/-- A facade calls the callback that is next, if there is one. -/
theorem stretch_tell {place number : Nat} {kind : CallbackKind} {argument : CallbackArgument}
    {node : FacadeNode} (found : now.world.facades[place]? = some node)
    (hagenda : now.agenda = .facade place (.telling kind argument number) :: rest)
    (hsuffix : behind <:+ rest) :
    Stretch surroundings position index behind [] 0 now { now with
      agenda := (node.core.tell kind argument number).map (·.work place node) ++ rest } := by
  have hfirst := @Stretch.inner ι σ surroundings now position index behind _ rest hagenda hsuffix
    rfl rfl (by simp)
  simp only [World.run, World.runFacade, found, Facade.step, World.set_of_getElem? found] at hfirst
  exact hfirst

/-- Passive callbacks register no others, so telling them comes to an end. -/
theorem stretch_telling (quiet : surroundings.Quiet) (passive : surroundings.Passive position)
    {place number : Nat} {kind : CallbackKind} {argument : CallbackArgument} {node : FacadeNode}
    (found : now.world.facades[place]? = some node)
    (hagenda : now.agenda = .facade place (.telling kind argument number) :: rest)
    (hsuffix : behind <:+ rest) :
    ∃ after, Stretch surroundings position index behind [] 0 now after ∧ after.agenda = rest := by
  have hfirst := @stretch_tell ι σ surroundings now position index behind rest place number kind
    argument node found hagenda hsuffix
  induction hleft : node.core.callbacks.count kind - number generalizing now number with
  | zero =>
      have hlast : ¬ number < node.core.callbacks.count kind := by omega
      refine ⟨_, hfirst, ?_⟩
      simp [Facade.tell, hlast]
  | succ left ih =>
      have hnext : number < node.core.callbacks.count kind := by omega
      have hguards : (Work.facade (ι := ι) place (.calling kind)).guards now.world = true := by
        simp [Work.guards, found]
      simp only [Facade.tell, hnext, if_true] at hfirst
      obtain ⟨middle, hsecond, hmiddle, hsame⟩ := hfirst.receiver quiet passive rfl hguards rfl
        (hsuffix.trans (List.suffix_cons _ rest))
      have hfound : middle.world.facades[place]? = some node := by
        rw [hsame]
        exact found
      obtain ⟨after, hthird, hafter⟩ := ih hfound hmiddle
        (stretch_tell hfound hmiddle hsuffix) (by omega)
      exact ⟨after, hsecond.trans hthird, hafter⟩

/-- Passive receivers are told, and that is all. -/
theorem stretch_told (quiet : surroundings.Quiet) (passive : surroundings.Passive position)
    {world : World} (told : Told world tasks)
    (hguards : ∀ guard : Work ι, guard.guards world = true → guard.guards now.world = true)
    (hagenda : now.agenda = tasks ++ rest) (hsuffix : behind <:+ rest) :
    ∃ after, Stretch surroundings position index behind [] 0 now after ∧ after.agenda = rest := by
  induction told generalizing now with
  | nil => exact ⟨now, .here now, hagenda⟩
  | @brief work tasks brief told ih =>
      have hrest : behind <:+ tasks ++ rest := hsuffix.trans (List.suffix_append tasks rest)
      obtain ⟨middle, hfirst, hmiddle, -⟩ := stretch_brief quiet passive brief hagenda hrest
      obtain ⟨after, hsecond, hafter⟩ :=
        ih (fun guard h => hfirst.guards (hguards guard h)) hmiddle
      exact ⟨after, hfirst.trans hsecond, hafter⟩
  | @guard guard tasks guards told ih =>
      have hrest : behind <:+ tasks ++ rest := hsuffix.trans (List.suffix_append tasks rest)
      obtain ⟨middle, hfirst, hmiddle, -⟩ :=
        @stretch_guard ι σ surroundings now position index behind (tasks ++ rest) quiet passive
          guard [] (hguards guard guards) hagenda hrest
      obtain ⟨after, hsecond, hafter⟩ :=
        ih (fun guard h => hfirst.guards (hguards guard h)) hmiddle
      exact ⟨after, hfirst.trans hsecond, hafter⟩
  | @receiver call guard tasks hears guards told ih =>
      have hrest : behind <:+ tasks ++ rest := hsuffix.trans (List.suffix_append tasks rest)
      obtain ⟨middle, hfirst, hmiddle, -⟩ :=
        stretch_receiver quiet passive hears (hguards guard guards) hagenda hrest
      obtain ⟨after, hsecond, hafter⟩ :=
        ih (fun guard h => hfirst.guards (hguards guard h)) hmiddle
      exact ⟨after, hfirst.trans hsecond, hafter⟩
  | @telling place number kind argument tasks told ih =>
      have hrest : behind <:+ tasks ++ rest := hsuffix.trans (List.suffix_append tasks rest)
      obtain ⟨middle, hfirst, hmiddle⟩ : ∃ middle,
          Stretch surroundings position index behind [] 0 now middle ∧
            middle.agenda = tasks ++ rest := by
        cases hfound : now.world.facades[place]? with
        | some node => exact stretch_telling quiet passive hfound hagenda hrest
        | none =>
            refine ⟨_, .inner hagenda hrest rfl rfl (by simp), ?_⟩
            simp [World.run, World.runFacade, hfound]
      obtain ⟨after, hsecond, hafter⟩ :=
        ih (fun guard h => hfirst.guards (hguards guard h)) hmiddle
      exact ⟨after, hfirst.trans hsecond, hafter⟩

theorem Stretch.told {start : Configuration ι σ}
    (first : Stretch surroundings position index behind [] 0 start now)
    (quiet : surroundings.Quiet) (passive : surroundings.Passive position)
    (told : Told now.world tasks) (hagenda : now.agenda = tasks ++ rest)
    (hsuffix : behind <:+ rest) :
    ∃ after, Stretch surroundings position index behind [] 0 start after ∧ after.agenda = rest := by
  obtain ⟨after, hsecond, hafter⟩ := stretch_told quiet passive told (fun _ h => h) hagenda hsuffix
  exact ⟨after, first.trans hsecond, hafter⟩

/-- A facade with passive callbacks takes note of an event, and that is all. -/
theorem Stretch.publish {start : Configuration ι σ} {place : Nat} {event : Event}
    (first : Stretch surroundings position index behind [] 0 start now)
    (quiet : surroundings.Quiet) (passive : surroundings.Passive position)
    (hagenda : now.agenda = .facade place (.call (.publish event)) :: rest)
    (hsuffix : behind <:+ rest) :
    ∃ after, Stretch surroundings position index behind [] 0 start after ∧ after.agenda = rest := by
  have hnext := first.trans (.inner hagenda hsuffix rfl rfl (by simp))
  cases hfound : now.world.facades[place]? with
  | none =>
      refine ⟨_, hnext, ?_⟩
      simp [World.run, World.runFacade, hfound]
  | some node =>
      simp only [World.run, World.runFacade, hfound] at hnext
      exact hnext.told quiet passive (.of_receive place node event node.core) rfl hsuffix

/-- A delivery to passive receivers is over before anything else is done, and the queue does not
hear of it. -/
theorem deliver_stretch (quiet : surroundings.Quiet) (passive : surroundings.Passive position)
    {place : Nat} {session : Token} {event : Event}
    (hagenda : now.agenda = .registry place (.call (.deliver session event)) :: behind) :
    ∃ after, Stretch surroundings position index behind [] 0 now after ∧
      after.agenda = behind := by
  have hsuffix := List.suffix_refl behind
  have hfirst := @Stretch.inner ι σ surroundings now position index behind _ behind hagenda
    hsuffix rfl rfl (by simp)
  cases hfound : now.world.registries[place]? with
  | none =>
      refine ⟨_, hfirst, ?_⟩
      simp [World.run, World.runRegistry, hfound]
  | some registry =>
      have hset := World.set_of_getElem? hfound
      have hguard : (Work.registry (ι := ι) place (.delivering session event)).guards now.world =
          true := by
        simp [Work.guards, hfound]
      simp only [World.run, World.runRegistry, hfound, ChannelRegistry.step] at hfirst
      cases hreceiver : registry.receiver? session with
      | none =>
          simp only [hreceiver, hset] at hfirst
          exact hfirst.told quiet passive (.brief rfl (.brief rfl .nil)) rfl hsuffix
      | some receiver =>
          simp only [hreceiver, hset] at hfirst
          cases receiver with
          | outside channel =>
              exact hfirst.told quiet passive (.receiver rfl hguard .nil) rfl hsuffix
          | facade facade =>
              obtain ⟨middle, hsecond, hmiddle⟩ :=
                hfirst.publish quiet passive rfl (List.suffix_cons _ behind)
              exact hsecond.told quiet passive (.guard (hsecond.guards hguard) .nil) hmiddle hsuffix

end Configuration

end ServiceDiscovery
