import ServiceDiscovery.Proofs.BrowseSession.Place
import ServiceDiscovery.Proofs.Facade.House
import ServiceDiscovery.Proofs.Machine.Return
import ServiceDiscovery.Proofs.ResolveQueue.View

/-!
Sessions that depart. The task that marks a session as closed also sees to it that its token is
detached, and until that is done nobody else gets a word: there are only log lines and answers in
between. So whenever anybody else has his turn, the token of a session that is closed leads nowhere,
and it never leads anywhere again.
-/

namespace ServiceDiscovery

variable {ι σ : Type}

/-- Work that is left to be done when a session is marked as closed. -/
def Work.isParting : Work ι → Bool
  | .queue _ (.call (.discard _)) => true
  | work => work.isBrief

/-- A session is open, or becomes so, unless its closing is completed. -/
theorem Standing.Turns.act_of_closed {kind : SessionKind} {index : Nat} {s after : Standing}
    {act : Option Act} {tasks : List (Work ι)} (turns : Turns kind index s act after tasks)
    (unclosed : s.closed = false) (hclosed : after.closed = true) : act = some .closed := by
  cases turns with
  | closed tells => rfl
  | _ => cases unclosed.symm.trans hclosed

namespace Work

variable {work : Work ι} {kind : SessionKind} {index : Nat}

theorem closing_of_act (h : work.act? kind index = some .closed) :
    (kind = .browse ∧ work = .browse index .closing) ∨
      (kind = .publication ∧ work = .publication index .closing) := by
  unfold act? at h
  split at h
  · rename_i hown
    rcases Work.eq_of_isOf hown with ⟨rfl, task, rfl⟩ | ⟨rfl, task, rfl⟩
    · cases task with
      | closing => exact Or.inl ⟨rfl, rfl⟩
      | starting type => cases h
      | call operation =>
          cases operation with
          | notice notice => cases notice <;> cases h
          | _ => cases h
    · cases task with
      | closing => exact Or.inr ⟨rfl, rfl⟩
      | registering name => cases h
      | call operation =>
          cases operation with
          | notice notice => cases notice <;> cases h
          | _ => cases h
  · split at h <;> cases h

theorem closing_of_caught (h : work.caught? kind index = some .closed) :
    kind = .publication ∧ work = .publication index .closing := by
  unfold caught? at h
  split at h
  · rename_i hown
    rcases Work.eq_of_isOf hown with ⟨rfl, task, rfl⟩ | ⟨rfl, task, rfl⟩
    · cases task <;> cases h
    · cases task with
      | closing => exact ⟨rfl, rfl⟩
      | _ => cases h
  · cases h

theorem isParting_of_isBrief (h : work.isBrief = true) : work.isParting = true := by
  unfold isParting
  split
  · rfl
  · exact h

/-- A queue that discards requests says how many, and nothing more. -/
theorem isBrief_of_discard (session : Token) (core : ResolveQueue) (queue : Nat)
    (node : QueueNode) : ∀ task ∈ (core.discard session).2.map (·.work (ι := ι) queue node),
      task.isBrief = true := by
  intro task hmem
  obtain ⟨effect, heffect, rfl⟩ := List.mem_map.mp hmem
  simp only [ResolveQueue.discard, ResolveQueue.debug, List.mem_append, List.mem_singleton]
    at heffect
  rcases heffect with hreport | rfl
  · split at hreport
    · cases hreport
    · obtain rfl := List.mem_singleton.mp hreport
      rfl
  · rfl

end Work

namespace Configuration

variable {surroundings : Surroundings ι σ} {start now after : Configuration ι σ}
  {past : List (Configuration ι σ)} {world : World} {work : Work ι} {tasks behind : List (Work ι)}
  {kind : SessionKind} {index : Nat} {s later : Standing} {house : House}

theorem step_publication {task : PublicationSession.Task} {node : PublicationNode}
    {rest : List (Work ι)} (found : now.world.publications[index]? = some node)
    (hagenda : now.agenda = .publication index task :: rest) :
    now.step surroundings = some { now with
      world := { now.world with
        publications := now.world.publications.set index
          { node with core := (PublicationSession.step task node.core).1 } }
      agenda := (PublicationSession.step task node.core).2.map (·.work index node) ++ rest } := by
  obtain ⟨world, around, agenda⟩ := now
  obtain rfl : agenda = _ := hagenda
  change world.publications[index]? = _ at found
  simp only [step, World.run, World.runPublication, found]

/-- Wherever a token led, it leads nowhere once it was detached. -/
theorem step_detach {registry : Nat} {token : Token} {rest : List (Work ι)}
    (hagenda : now.agenda = .registry registry (.call (.detach token)) :: rest)
    (h : now.step surroundings = some after) : after.world.leads? registry token = none := by
  obtain ⟨world, around, agenda⟩ := now
  obtain rfl : agenda = _ := hagenda
  cases hfound : world.registries[registry]? with
  | none =>
      simp only [step, World.run, World.runRegistry, hfound] at h
      obtain rfl := Option.some.inj h
      simp [World.leads?, hfound]
  | some found =>
      have hlt := (List.getElem?_eq_some_iff.mp hfound).1
      simp only [step, World.run, World.runRegistry, hfound] at h
      obtain rfl := Option.some.inj h
      rw [World.leads?, List.getElem?_set_self hlt]
      exact ChannelRegistry.receiver?_detach_self token found

/-- A session is closed in a step only if that is what happens to it. -/
theorem act_of_closed (h : now.step surroundings = some after)
    (found : now.world.standing? kind index = some s) (unclosed : s.closed = false)
    (hlater : after.world.standing? kind index = some later) (hclosed : later.closed = true) :
    now.act? kind index = some .closed := by
  obtain ⟨gone, kept, tasks, -, -, -, -, hmeets⟩ := step_meets h found
  cases hmeets with
  | turned hfound hturns =>
      obtain rfl := Option.some.inj (hfound.symm.trans hlater)
      exact hturns.act_of_closed unclosed hclosed
  | passed hfound =>
      obtain rfl := Option.some.inj (hfound.symm.trans hlater)
      cases unclosed.symm.trans hclosed

/-- A publication session that is closing passes over the faults of this library, by a log line, and
over no others. -/
theorem recover_closing {fault : Fault} {node : PublicationNode}
    (hnode : world.publications[index]? = some node) :
    World.recover (ι := ι) fault (.publication index .closing) world =
      if fault.isOwn then
        some ({ world with
          publications := world.publications.set index
            { node with core := { node.core with closed := true } } },
          [.call (.log {
            level := Log.Level.warning
            component := PublicationSession.component
            message := "Unregistering on close failed: " ++ fault.message
            fault := none }),
          .registry node.registry (.call (.detach node.core.token))])
      else none := by
  simp only [World.recover, World.recoverWith, hnode, PublicationSession.recover]
  split <;> rfl

/-- Only parting work stands in front of the detachment of a token. -/
def Parts (registry : Nat) (token : Token) (now : Configuration ι σ) : Prop :=
  ∃ front rest, now.agenda = front ++ .registry registry (.call (.detach token)) :: rest ∧
    ∀ work ∈ front, work.isParting = true

/-- What completes the closing of a session has its token detached next. -/
theorem parts_of_closed (h : now.step surroundings = some after)
    (found : now.world.standing? kind index = some s) (hact : now.act? kind index = some .closed) :
    after.Parts s.registry s.token := by
  obtain ⟨work, rest, hagenda, hcases⟩ := step_cases h
  rcases hcases with ⟨tasks, hbecomes, -⟩ | ⟨fault, rfl, hunwind⟩
  · rw [act?_of_front hagenda hbecomes.ne_raise] at hact
    rcases Work.closing_of_act hact with ⟨rfl, rfl⟩ | ⟨rfl, rfl⟩
    · obtain ⟨node, hnode, rfl⟩ := Option.map_eq_some_iff.mp found
      obtain rfl := Option.some.inj (h.symm.trans (step_browse hnode hagenda))
      refine ⟨[.queue node.queue (.call (.discard node.core.token))], rest, rfl, ?_⟩
      intro work hmem
      rw [List.mem_singleton.mp hmem]
      rfl
    · obtain ⟨node, hnode, rfl⟩ := Option.map_eq_some_iff.mp found
      obtain rfl := Option.some.inj (h.symm.trans (step_publication hnode hagenda))
      exact ⟨[], rest, rfl, by simp⟩
  · rw [act?_of_raise hagenda] at hact
    have hafter : after.agenda = (now.world.unwind fault rest).2 := congrArg Prod.snd hunwind
    rcases World.unwind_cases fault now.world rest with
      ⟨dropped, task, kept, changed, tasks, rfl, hdropped, hrecover, heq⟩ | ⟨hnone, -⟩
    · rw [World.handler?_eq_some hdropped hrecover, Option.bind_some] at hact
      obtain ⟨rfl, rfl⟩ := Work.closing_of_caught hact
      obtain ⟨node, hnode, rfl⟩ := Option.map_eq_some_iff.mp found
      rw [recover_closing hnode] at hrecover
      split at hrecover
      · obtain ⟨-, rfl⟩ := Prod.mk.inj (Option.some.inj hrecover)
        refine ⟨[.call (.log _)], kept, hafter.trans (congrArg Prod.snd heq), ?_⟩
        intro work hmem
        rw [List.mem_singleton.mp hmem]
        rfl
      · cases hrecover
    · rw [World.handler?_eq_none hnone] at hact
      cases hact

/-- Parting work is done in one step, from which brief work comes at most. -/
theorem step_parting
    (hlog : ∀ record world around, (surroundings.answer (.log record) world around).2 = [])
    (parting : work.isParting = true) (hagenda : now.agenda = work :: behind) :
    ∃ next tasks, now.step surroundings = some next ∧ next.agenda = tasks ++ behind ∧
      ∀ task ∈ tasks, task.isBrief = true := by
  unfold Work.isParting at parting
  split at parting
  · rename_i queue token
    cases hfound : now.world.queues[queue]? with
    | some node =>
        refine ⟨_, _, step_queue hfound hagenda, rfl, ?_⟩
        exact Work.isBrief_of_discard token node.core queue node
    | none =>
        obtain ⟨world, around, agenda⟩ := now
        obtain rfl : agenda = _ := hagenda
        change world.queues[queue]? = none at hfound
        simp only [step, World.run, World.runQueue, hfound]
        exact ⟨_, [], rfl, rfl, by simp⟩
  · obtain ⟨next, hstep, hnext, -⟩ := step_brief hlog parting hagenda
    exact ⟨next, [], hstep, hnext, by simp⟩

/-- Parting work returns. -/
theorem ends_of_parting
    (hlog : ∀ record world around, (surroundings.answer (.log record) world around).2 = [])
    (parting : ∀ work ∈ tasks, work.isParting = true) (hagenda : now.agenda = tasks ++ behind) :
    ∃ past after, Ends surroundings behind none now past after := by
  induction tasks generalizing now with
  | nil => exact ⟨[], now, .here hagenda⟩
  | cons work tasks ih =>
      obtain ⟨next, reports, hstep, hnext, hbrief⟩ :=
        step_parting hlog (parting work List.mem_cons_self) hagenda
      obtain ⟨past, middle, hends, -⟩ := ends_of_brief hlog hbrief hnext
      obtain ⟨since, after, hrest⟩ :=
        ih (fun other hmem => parting other (List.mem_cons_of_mem _ hmem)) hends.left
      refine ⟨now :: (past ++ since), after, ?_⟩
      exact (hends.trans hrest).next hagenda (List.suffix_append tasks behind) hstep

/-- Once it is being parted from, a token is detached, or that is still to be done. -/
theorem Parts.step
    (hlog : ∀ record world around, (surroundings.answer (.log record) world around).2 = [])
    {registry : Nat} {token : Token} (parts : now.Parts registry token)
    (h : now.step surroundings = some after) :
    after.world.leads? registry token = none ∨ after.Parts registry token := by
  obtain ⟨front, rest, hagenda, hparting⟩ := parts
  cases front with
  | nil => exact Or.inl (step_detach hagenda h)
  | cons work front =>
      right
      obtain ⟨next, tasks, hstep, hnext, hbrief⟩ :=
        step_parting hlog (hparting work List.mem_cons_self) hagenda
      obtain rfl := Option.some.inj (h.symm.trans hstep)
      refine ⟨tasks ++ front, rest, by simp [hnext], ?_⟩
      intro other hmem
      rcases List.mem_append.mp hmem with hnew | hold
      · exact Work.isParting_of_isBrief (hbrief other hnew)
      · exact hparting other (List.mem_cons_of_mem _ hold)

/-- A token of the house that leads nowhere does not come to lead anywhere. -/
theorem step_nowhere (stands : house.Stands now.world) (h : now.step surroundings = some after)
    (hnone : now.world.leads? house.registry (house.token kind) = none) :
    after.world.leads? house.registry (house.token kind) = none := by
  by_cases hdetach : ∃ rest, now.agenda =
      .registry house.registry (.call (.detach (house.token kind))) :: rest
  · obtain ⟨rest, hagenda⟩ := hdetach
    exact step_detach hagenda h
  · rw [step_leads stands h fun rest hagenda => hdetach ⟨rest, hagenda⟩]
    exact hnone

theorem Course.stands (course : Course surroundings start past now)
    (stands : house.Stands start.world) : house.Stands now.world := by
  induction course with
  | start => exact stands
  | step course step ih => exact step_stands ih step

theorem Course.nowhere (course : Course surroundings start past now)
    (stands : house.Stands start.world)
    (hnone : start.world.leads? house.registry (house.token kind) = none) :
    now.world.leads? house.registry (house.token kind) = none := by
  induction course with
  | start => exact hnone
  | step course step ih => exact step_nowhere (course.stands stands) step ih

/-- Sessions go on, and those that are closed stay closed. -/
theorem Course.standing_goes (course : Course surroundings start past now)
    (found : start.world.standing? kind index = some s) :
    ∃ later, now.world.standing? kind index = some later ∧
      (s.closed = true → later.closed = true) := by
  induction course with
  | start => exact ⟨s, found, id⟩
  | step course step ih =>
      obtain ⟨before, hbefore, hsame⟩ := ih
      obtain ⟨work, htouches, -⟩ := step_touches step
      obtain ⟨later, hlater, -, -, hgoes⟩ := htouches.standing_goes hbefore
      exact ⟨later, hlater, fun hclosed => hgoes (hsame hclosed)⟩

/-- If a session was open to begin with, its token leads nowhere as soon as it is closed, or is
about to be detached. -/
theorem Course.parted
    (hlog : ∀ record world around, (surroundings.answer (.log record) world around).2 = [])
    (course : Course surroundings start past now) (stands : house.Stands start.world)
    (unclosed : ∀ s, start.world.standing? kind (house.member kind) = some s → s.closed = false)
    (found : now.world.standing? kind (house.member kind) = some s) (hclosed : s.closed = true) :
    now.world.leads? house.registry (house.token kind) = none ∨
      now.Parts house.registry (house.token kind) := by
  induction course generalizing s with
  | start => cases (unclosed s found).symm.trans hclosed
  | @step past now after course step ih =>
      have hstands := course.stands stands
      obtain ⟨before, hbefore, hregistry, htoken⟩ := hstands.session kind
      cases hsame : before.closed with
      | true =>
          rcases ih hbefore hsame with hnone | hparts
          · exact Or.inl (step_nowhere hstands step hnone)
          · exact hparts.step hlog step
      | false =>
          have hact := act_of_closed step hbefore hsame found hclosed
          rw [← hregistry, ← htoken]
          exact Or.inr (parts_of_closed step hbefore hact)

/-- The token of a closed session leads nowhere whenever anybody else has his turn. -/
theorem Course.departed_of_front
    (hlog : ∀ record world around, (surroundings.answer (.log record) world around).2 = [])
    (course : Course surroundings start past now) (stands : house.Stands start.world)
    (unclosed : ∀ s, start.world.standing? kind (house.member kind) = some s → s.closed = false)
    (found : now.world.standing? kind (house.member kind) = some s) (hclosed : s.closed = true)
    (hagenda : now.agenda = work :: behind) (hparting : work.isParting = false) :
    now.world.leads? house.registry (house.token kind) = none := by
  rcases course.parted hlog stands unclosed found hclosed with
    hnone | ⟨front, others, hsplit, hfront⟩
  · exact hnone
  · rw [hagenda] at hsplit
    cases front with
    | nil =>
        obtain ⟨rfl, -⟩ := List.cons.inj hsplit
        cases hparting
    | cons first front =>
        obtain ⟨rfl, -⟩ := List.cons.inj hsplit
        cases hparting.symm.trans (hfront _ List.mem_cons_self)

end Configuration

end ServiceDiscovery
