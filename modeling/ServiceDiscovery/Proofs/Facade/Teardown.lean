import ServiceDiscovery.Proofs.Facade.Backlog

/-!
Closing a facade. Its browse session is closed, then its publication session, and then both flags
are put out. A session that is active first asks its platform to stop what runs; it is marked as
closed and taken off its registry when that call has returned. The publication session passes over a
fault of this library that the call raises, the browse session passes over none. So the closing of a
facade runs to its end whatever the platform makes of these two calls, as long as it raises nothing
that the session does not pass over.
-/

namespace ServiceDiscovery

variable {ι σ : Type}

namespace SessionKind

/-- The request by which a session of this kind asks its platform to stop what runs. -/
def halt : SessionKind → Request
  | .browse => .stopDiscovery
  | .publication => .unregister

/-- Does a session of this kind, when it closes, pass over a fault of that request? -/
def passesOver : SessionKind → Fault → Bool
  | .browse, _ => false
  | .publication, fault => fault.isOwn

/-- The session at a place is called to close. -/
def close (place : Nat) : SessionKind → Work ι
  | .browse => .browse place (.call .close)
  | .publication => .publication place (.call .close)

/-- The session at a place is called to stop what runs. -/
def stop (place : Nat) : SessionKind → Work ι
  | .browse => .browse place (.call .stop)
  | .publication => .publication place (.call .unregister)

/-- What is left of closing the session at a place. -/
def closing (place : Nat) : SessionKind → Work ι
  | .browse => .browse place .closing
  | .publication => .publication place .closing

end SessionKind

/-- Does the work ask a platform to stop what a session of the kind runs? -/
def Work.halts (kind : SessionKind) : Work ι → Bool
  | .request _ .stopDiscovery _ => kind = .browse
  | .request _ .unregister _ => kind = .publication
  | _ => false

namespace House

/-- What is left of closing the facade of a house when a session of it has been closed. -/
def behind (house : House) (rest : List (Work ι)) : SessionKind → List (Work ι)
  | .browse => .publication (house.member .publication) (.call .close) ::
      .facade house.index .closing :: rest
  | .publication => .facade house.index .closing :: rest

/-- Nothing of a house is in use: its tokens lead nowhere, its sessions are closed and both flags
are out. -/
structure Vacant (house : House) (world : World) : Prop extends house.Stands world where
  detached : ∀ kind, world.leads? house.registry (house.token kind) = none
  closed : ∀ kind, ∃ s, world.standing? kind (house.member kind) = some s ∧ s.closed = true
  flags : ∃ node, world.facades[house.index]? = some node ∧ node.core.browserExists = false ∧
    node.core.publishExists = false

end House

namespace Configuration

open ResolveQueue

variable {surroundings : Surroundings ι σ} {start closing now after : Configuration ι σ}
  {past : List (Configuration ι σ)} {behind rest : List (Work ι)} {house : House}
  {kind : SessionKind} {place queue : Nat} {s : Standing}

/-- Whenever the session at a place is being closed and asks its platform to stop what runs, the
call ends: it returns, or it raises a fault that the session passes over. -/
def Heeds (surroundings : Surroundings ι σ) (kind : SessionKind) (place : Nat)
    (behind : List (Work ι)) (now : Configuration ι σ) : Prop :=
  ∀ platform asked, Reaches surroundings now asked →
    asked.agenda = .request platform kind.halt (.member place) :: kind.closing place :: behind →
    ∃ fault past after, (∀ raised ∈ fault, kind.passesOver raised = true) ∧
      Ends surroundings (kind.closing place :: behind) fault asked past after

/-- A session that is called to close stays as it is for now. If it is open, what is left of closing
comes last, and if it is active too, it is called to stop before. -/
theorem step_close (found : now.world.standing? kind place = some s)
    (hagenda : now.agenda = kind.close place :: behind) :
    ∃ next, now.step surroundings = some next ∧ next.world.standing? kind place = some s ∧
      next.agenda = (if s.closed then []
        else if s.active then [kind.stop place, kind.closing place]
        else [kind.closing place]) ++ behind := by
  cases kind with
  | browse =>
      obtain ⟨node, hnode, rfl⟩ := Option.map_eq_some_iff.mp found
      have hlt := (List.getElem?_eq_some_iff.mp hnode).1
      refine ⟨_, step_browse hnode hagenda, ?_, ?_⟩
      · simp only [World.standing?, List.getElem?_set_self hlt, BrowseSession.step,
          BrowseSession.call, BrowseSession.close]
        split <;> rfl
      · change (BrowseSession.close node.core).2.map _ ++ behind = _
        cases hclosed : node.core.closed <;> cases hactive : node.core.active <;>
          simp [BrowseSession.close, BrowseNode.standing, hclosed, hactive, SessionKind.stop,
            SessionKind.closing, BrowseSession.Effect.work]
  | publication =>
      obtain ⟨node, hnode, rfl⟩ := Option.map_eq_some_iff.mp found
      have hlt := (List.getElem?_eq_some_iff.mp hnode).1
      refine ⟨_, step_publication hnode hagenda, ?_, ?_⟩
      · simp only [World.standing?, List.getElem?_set_self hlt, PublicationSession.step,
          PublicationSession.call, PublicationSession.close]
        split <;> rfl
      · change (PublicationSession.close node.core).2.map _ ++ behind = _
        cases hclosed : node.core.closed <;> cases hactive : node.core.active <;>
          simp [PublicationSession.close, PublicationNode.standing, hclosed, hactive,
            SessionKind.stop, SessionKind.closing, PublicationSession.Effect.work]

/-- An active session that is called to stop asks its platform. -/
theorem step_stop (found : now.world.standing? kind place = some s) (active : s.active = true)
    (hagenda : now.agenda = kind.stop place :: behind) :
    ∃ platform next, now.step surroundings = some next ∧
      next.world.standing? kind place = some s ∧
      next.agenda = .request platform kind.halt (.member place) :: behind := by
  cases kind with
  | browse =>
      obtain ⟨node, hnode, rfl⟩ := Option.map_eq_some_iff.mp found
      have hlt := (List.getElem?_eq_some_iff.mp hnode).1
      have hactive : node.core.active = true := active
      refine ⟨node.platform, _, step_browse hnode hagenda, ?_, ?_⟩
      · simp only [World.standing?, List.getElem?_set_self hlt]
        rfl
      · simp only [BrowseSession.step, BrowseSession.call, BrowseSession.stop, hactive]
        rfl
  | publication =>
      obtain ⟨node, hnode, rfl⟩ := Option.map_eq_some_iff.mp found
      have hlt := (List.getElem?_eq_some_iff.mp hnode).1
      have hactive : node.core.active = true := active
      refine ⟨node.platform, _, step_publication hnode hagenda, ?_, ?_⟩
      · simp only [World.standing?, List.getElem?_set_self hlt]
        rfl
      · simp only [PublicationSession.step, PublicationSession.call,
          PublicationSession.unregister, hactive]
        rfl

/-- Once the call to stop has ended, a session is marked as closed, and what is left is parting
work. -/
theorem step_marks (found : now.world.standing? kind place = some s) {fault : Option Fault}
    (hfault : ∀ raised ∈ fault, kind.passesOver raised = true)
    (hleft : now.Left (kind.closing place :: behind) fault) :
    ∃ first rest marked tasks later, now.agenda = first :: rest ∧ behind <:+ rest ∧
      now.step surroundings = some marked ∧ marked.agenda = tasks ++ behind ∧
      (∀ task ∈ tasks, task.isParting = true) ∧
      marked.world.standing? kind place = some later ∧ later.closed = true := by
  cases kind with
  | browse =>
      obtain ⟨node, hnode, rfl⟩ := Option.map_eq_some_iff.mp found
      have hlt := (List.getElem?_eq_some_iff.mp hnode).1
      cases fault with
      | some raised => cases hfault raised rfl
      | none =>
          have hagenda : now.agenda = .browse place .closing :: behind := hleft
          refine ⟨_, _, _, [.queue node.queue (.call (.discard node.core.token)),
              .registry node.registry (.call (.detach node.core.token))],
            { node with core := { node.core with closed := true } }.standing, hagenda,
            List.suffix_refl _, step_browse hnode hagenda, rfl, ?_, ?_, rfl⟩
          · intro task hmem
            simp only [List.mem_cons, List.not_mem_nil, or_false] at hmem
            rcases hmem with rfl | rfl <;> rfl
          · simp only [World.standing?, List.getElem?_set_self hlt]
            rfl
  | publication =>
      obtain ⟨node, hnode, rfl⟩ := Option.map_eq_some_iff.mp found
      have hlt := (List.getElem?_eq_some_iff.mp hnode).1
      cases fault with
      | none =>
          have hagenda : now.agenda = .publication place .closing :: behind := hleft
          refine ⟨_, _, _, [.registry node.registry (.call (.detach node.core.token))],
            { node with core := { node.core with closed := true } }.standing, hagenda,
            List.suffix_refl _, step_publication hnode hagenda, rfl, ?_, ?_, rfl⟩
          · intro task hmem
            rw [List.mem_singleton.mp hmem]
            rfl
          · simp only [World.standing?, List.getElem?_set_self hlt]
            rfl
      | some raised =>
          obtain ⟨dropped, hagenda, hdropped⟩ := hleft
          have hrecover := @recover_closing ι now.world place raised node hnode
          have hown : raised.isOwn = true := hfault raised rfl
          rw [if_pos hown] at hrecover
          refine ⟨_, _, _, _, { node with core := { node.core with closed := true } }.standing,
            hagenda, ?_, step_recovered hagenda hdropped hrecover, rfl, ?_, ?_, rfl⟩
          · exact (List.suffix_cons _ _).trans (List.suffix_append _ _)
          · intro task hmem
            simp only [List.mem_cons, List.not_mem_nil, or_false] at hmem
            rcases hmem with rfl | rfl <;> rfl
          · simp only [World.standing?, List.getElem?_set_self hlt]
            rfl

/-- What is left of closing a session returns, and the session is closed. -/
theorem closing_ends
    (hlog : ∀ record world around, (surroundings.answer (.log record) world around).2 = [])
    (found : now.world.standing? kind place = some s) {fault : Option Fault}
    (hfault : ∀ raised ∈ fault, kind.passesOver raised = true)
    (hleft : now.Left (kind.closing place :: behind) fault) :
    ∃ past after later, Ends surroundings behind none now past after ∧
      after.world.standing? kind place = some later ∧ later.closed = true := by
  obtain ⟨first, rest, marked, tasks, middle, hagenda, hsuffix, hstep, htasks, hparting, hmiddle,
    hclosed⟩ := @step_marks ι σ surroundings now behind kind place s found fault hfault hleft
  obtain ⟨past, after, hends⟩ := ends_of_parting hlog hparting htasks
  obtain ⟨later, hlater, hgoes⟩ := hends.course.standing_goes hmiddle
  exact ⟨now :: past, after, later, hends.next hagenda hsuffix hstep, hlater, hgoes hclosed⟩

/-- A session whose platform heeds it is closed when the call to close it has returned. -/
theorem close_ends
    (hlog : ∀ record world around, (surroundings.answer (.log record) world around).2 = [])
    (found : now.world.standing? kind place = some s)
    (hagenda : now.agenda = kind.close place :: behind)
    (heeds : now.Heeds surroundings kind place behind) :
    ∃ past after later, Ends surroundings behind none now past after ∧
      after.world.standing? kind place = some later ∧ later.closed = true := by
  obtain ⟨next, hstep, hsame, hnext⟩ :=
    @step_close ι σ surroundings now behind kind place s found hagenda
  have hnone : ∀ raised ∈ (none : Option Fault), kind.passesOver raised = true := by simp
  cases hclosed : s.closed with
  | true =>
      rw [hclosed] at hnext
      refine ⟨[now], next, s, ?_, hsame, hclosed⟩
      exact (Ends.here hnext).next hagenda (List.suffix_refl _) hstep
  | false =>
      cases hactive : s.active with
      | false =>
          rw [hclosed, hactive] at hnext
          obtain ⟨past, after, later, hends, hlater⟩ := closing_ends hlog hsame hnone hnext
          exact ⟨now :: past, after, later, hends.next hagenda (List.suffix_refl _) hstep, hlater⟩
      | true =>
          rw [hclosed, hactive] at hnext
          have hstop : next.agenda = kind.stop place :: kind.closing place :: behind := hnext
          obtain ⟨platform, asked, hask, hstays, hasked⟩ :=
            @step_stop ι σ surroundings next _ kind place s hsame hactive hstop
          have hreach : Reaches surroundings now asked :=
            ((Reaches.refl now).tail hstep).tail hask
          obtain ⟨fault, past, ended, hfault, hended⟩ := heeds platform asked hreach hasked
          obtain ⟨present, hpresent, -⟩ := hended.course.standing_goes hstays
          obtain ⟨since, after, later, hends, hlater⟩ :=
            closing_ends hlog hpresent hfault hended.left
          have hall : Ends surroundings behind none asked (past ++ since) after :=
            @Ends.trans ι σ surroundings _ _ _ _ _ _ _ [kind.closing place] _ hended hends
          refine ⟨now :: next :: (past ++ since), after, later, ?_, hlater⟩
          apply Ends.next hagenda (List.suffix_refl _) hstep
          exact hall.next hstop (List.suffix_cons _ _) hask

theorem Heeds.of_reaches (heeds : now.Heeds surroundings kind place behind)
    (reach : Reaches surroundings now after) : after.Heeds surroundings kind place behind := by
  intro platform asked hreach hasked
  exact heeds platform asked (reach.trans hreach) hasked

/-- When both sessions have been closed, the flags are put out and a last log line is written. -/
theorem facade_closing_ends
    (hlog : ∀ record world around, (surroundings.answer (.log record) world around).2 = [])
    {node : FacadeNode} (found : now.world.facades[place]? = some node)
    (hagenda : now.agenda = .facade place .closing :: behind) :
    ∃ middle after record later, Ends surroundings behind none now [now, middle] after ∧
      middle.agenda = .call (.log record) :: behind ∧
      after.world.facades[place]? = some later ∧ later.core.browserExists = false ∧
      later.core.publishExists = false := by
  have hlt := (List.getElem?_eq_some_iff.mp found).1
  obtain ⟨middle, hstep, hmiddle, hflags⟩ : ∃ middle, now.step surroundings = some middle ∧
      (∃ record, middle.agenda = .call (.log record) :: behind) ∧
      middle.world.facades[place]? = some { node with
        core := { node.core with browserExists := false, publishExists := false } } :=
    ⟨_, step_facade found hagenda, ⟨_, rfl⟩, List.getElem?_set_self hlt⟩
  obtain ⟨record, hrecord⟩ := hmiddle
  obtain ⟨after, hlast, hafter, hsame⟩ :=
    @step_brief ι σ surroundings middle behind hlog (.call (.log record)) rfl hrecord
  rw [← hsame] at hflags
  refine ⟨middle, after, record, _, ?_, hrecord, hflags, rfl, rfl⟩
  apply Ends.next hagenda (List.suffix_refl _) hstep
  exact (Ends.here hafter).next hrecord (List.suffix_refl _) hlast

/-- When a facade has called its two sessions to close, both are closed. -/
theorem sessions_close
    (hlog : ∀ record world around, (surroundings.answer (.log record) world around).2 = [])
    (stands : house.Stands now.world)
    (hagenda : now.agenda = SessionKind.close (house.member .browse) .browse ::
      house.behind rest .browse)
    (heeds : ∀ kind,
      now.Heeds surroundings kind (house.member kind) (house.behind rest kind)) :
    ∃ past after, Ends surroundings (.facade house.index .closing :: rest) none now past after ∧
      ∀ kind, ∃ s, after.world.standing? kind (house.member kind) = some s ∧ s.closed = true := by
  obtain ⟨browsing, hbrowsing, -, -⟩ := stands.session .browse
  obtain ⟨past, between, unbrowsed, hbrowse, hunbrowsed, hbrowseclosed⟩ :=
    close_ends hlog hbrowsing hagenda (heeds .browse)
  have hbetween : between.agenda = SessionKind.close (house.member .publication) .publication ::
      house.behind rest .publication := hbrowse.left
  obtain ⟨publishing, hpublishing, -, -⟩ := (hbrowse.course.stands stands).session .publication
  obtain ⟨since, after, unpublished, hpublish, hunpublished, hpublishclosed⟩ :=
    close_ends hlog hpublishing hbetween ((heeds .publication).of_reaches hbrowse.course.reaches)
  refine ⟨past ++ since, after, ?_, ?_⟩
  · exact @Ends.trans ι σ surroundings _ _ _ _ _ _ _
      [.publication (house.member .publication) (.call .close)] _ hbrowse hpublish
  · intro kind
    cases kind with
    | browse =>
        -- The browse session stays closed while the publication session is closed.
        obtain ⟨s, hs, hgoes⟩ := hpublish.course.standing_goes hunbrowsed
        exact ⟨s, hs, hgoes hbrowseclosed⟩
    | publication => exact ⟨unpublished, hunpublished, hpublishclosed⟩

/-- What is left of closing a facade whose sessions have been closed. -/
theorem facade_vacated
    (hlog : ∀ record world around, (surroundings.answer (.log record) world around).2 = [])
    (stands : house.Stands start.world)
    (unclosed : ∀ kind s, start.world.standing? kind (house.member kind) = some s →
      s.closed = false)
    (course : Course surroundings start past now)
    (hclosed : ∀ kind, ∃ s, now.world.standing? kind (house.member kind) = some s ∧
      s.closed = true)
    (hagenda : now.agenda = .facade house.index .closing :: rest) :
    ∃ middle after record, Ends surroundings rest none now [now, middle] after ∧
      middle.agenda = .call (.log record) :: rest ∧ house.Vacant after.world := by
  have hstands := course.stands stands
  obtain ⟨host, hhost, -, -⟩ := hstands.facade
  obtain ⟨middle, after, record, last, hends, hmiddle, hlast, hout⟩ :=
    facade_closing_ends hlog hhost hagenda
  refine ⟨middle, after, record, hends, hmiddle, ?_⟩
  constructor
  · exact hends.course.stands hstands
  · intro kind
    obtain ⟨s, hs, hkind⟩ := hclosed kind
    apply hends.course.nowhere hstands
    exact course.departed_of_front hlog stands (unclosed kind) hs hkind hagenda rfl
  · intro kind
    obtain ⟨s, hs, hkind⟩ := hclosed kind
    obtain ⟨later, hlater, hgoes⟩ := hends.course.standing_goes hs
    exact ⟨later, hlater, hgoes hkind⟩
  · exact ⟨last, hlast, hout⟩

/-- The closing of a facade runs to its end if the platform heeds its sessions. Afterwards nothing
of the house is in use, and the queue has no request of the browse session but one that was under
way when the session was closed and found the resolver busy since, and those that somebody outside
has put in under its token. -/
theorem teardown_completes
    (hlog : ∀ record world around, (surroundings.answer (.log record) world around).2 = [])
    (hosts : start.Hosts house queue) (course : Course surroundings start past closing)
    (hagenda : closing.agenda = .facade house.index (.call .close) :: rest)
    (heeds : ∀ kind,
      closing.Heeds surroundings kind (house.member kind) (house.behind rest kind)) :
    ∃ since after, Ends surroundings rest none closing since after ∧ house.Vacant after.world ∧
      (after.Wired queue house.registry →
        Forgets surroundings house queue (past ++ since) after) := by
  have hstands := course.stands hosts.stands
  obtain ⟨node, hnode, hbrowser, hpublisher⟩ := hstands.facade
  obtain ⟨next, hstep, hnext⟩ : ∃ next, closing.step surroundings = some next ∧
      next.agenda = SessionKind.close (house.member .browse) .browse ::
        house.behind rest .browse := by
    refine ⟨_, step_facade hnode hagenda, ?_⟩
    rw [← hbrowser, House.behind, ← hpublisher]
    rfl
  obtain ⟨early, ended, hsessions, hclosed⟩ :=
    sessions_close hlog (step_stands hstands hstep) hnext fun kind =>
      (heeds kind).of_reaches ((Reaches.refl closing).tail hstep)
  have hended : ended.agenda = .facade house.index .closing :: rest := hsessions.left
  have hsoon : Course surroundings start (past ++ closing :: early) ended :=
    course.append (hsessions.course.head hstep)
  obtain ⟨middle, after, record, hflags, hmiddle, hvacant⟩ :=
    facade_vacated hlog hosts.stands hosts.unclosed hsoon hclosed hended
  have hwhole : Ends surroundings rest none closing (closing :: (early ++ [ended, middle]))
      after := by
    apply Ends.next hagenda (List.suffix_refl _) hstep
    exact @Ends.trans ι σ surroundings _ _ _ _ _ _ _ [.facade house.index .closing] _ hsessions
      hflags
  refine ⟨_, after, hwhole, hvacant, fun wired => ?_⟩
  obtain ⟨s, hs, hbrowse⟩ := hvacant.closed .browse
  rcases (course.append hwhole.course).forgets hlog hosts wired hs hbrowse with
    @⟨earlier, moment, _, _, _, hpast, hclosing, -, -, -⟩ | hforgets
  · -- What came last was a log line, and not the closing of the session.
    have hmoment : middle = moment := by
      simpa [List.getLast?_cons] using congrArg List.getLast? hpast
    rw [← hmoment, hmiddle] at hclosing
    cases hclosing
  · exact hforgets

/-- A browse and a publication run when the facade is closed, and the queue has two requests of the
browse session. While the publication is withdrawn the resolver turns out to be busy, and then the
platform refuses. -/
theorem teardown_completes_of_refused :
    let printer : ServiceRef := { name := "Printer", type := "_ipp._tcp" }
    let scanner : ServiceRef := { name := "Scanner", type := "_ipp._tcp" }
    let house : House := {
      index := 0
      registry := 0
      member := fun _ => 0
      token := fun kind => if kind = .browse then 1 else 2 }
    let browse (notice : BrowseNotice) : Operation := .browse 0 (.notice notice)
    let start : Configuration Empty (List (List (Move Empty))) := run .staged 2 {
      alone false ⟨0x3FE0000000000000⟩
        [[.perform (browse (.started "_ipp._tcp"))],
          [.perform (.publication 0 (.notice (.registered "Printer" "_ipp._tcp")))],
          [],
          [.perform (browse (.stopped "_ipp._tcp"))],
          [.perform (.queue 0 (.outcome (.failed printer FailureCode.alreadyActive))),
            .raise .notStarted]] [] with
      agenda := [.build (.facade 0 (some 0) (some 0) {}),
        .facade 0 (.call (.startBrowser "_ipp._tcp")),
        .facade 0 (.call (.startPublish "Printer" "_ipp._tcp" (.int 631))),
        (browse (.found printer)).work, (browse (.found scanner)).work,
        .facade 0 (.call .close)] }
    let closing := run .staged 39 start
    let closed := run .staged 28 closing
    let waits (now : Configuration Empty (List (List (Move Empty)))) :=
      now.world.queues.map fun node => (node.core.inFlight, node.core.pending)
    waits closing = [(some { ref := printer, session := 1 }, [{ ref := scanner, session := 1 }])] ∧
      waits closed = [(none, [{ ref := printer, session := 1 }])] ∧
      ∃ since after, Ends .staged [] none closing since after ∧ house.Vacant after.world ∧
        (after.Wired 0 0 → Forgets .staged house 0 (trail .staged 39 start ++ since) after) := by
  intro printer scanner house browse start closing closed waits
  have hstands : house.Stands start.world := by
    constructor
    · exact ⟨_, rfl, rfl, rfl⟩
    · intro kind
      cases kind <;> exact ⟨_, rfl, rfl, rfl⟩
    · refine ⟨_, rfl, ?_⟩
      intro kind
      cases kind <;> decide
    · intro kind place s found _ _
      cases place with
      | zero => rfl
      | succ place => cases kind <;> cases found
  have hhosts : start.Hosts house 0 := by
    constructor
    · exact hstands
    · exact ⟨⟨_, rfl, rfl⟩, ⟨_, rfl⟩⟩
    · intro kind s found
      cases kind <;> cases found <;> rfl
    · intro ref hmem
      have hnobody : ∀ work ∈ start.agenda, work.customer? 0 = none := by decide +kernel
      exact absurd (hnobody _ hmem) (by simp [Work.customer?])
  have hdone : closed.agenda = [] := List.isEmpty_iff.mp (by decide +kernel)
  have hstops : ∀ taken ≤ 28, taken ≠ 3 → ∀ work ∈ (run .staged taken closing).agenda.head?,
      work.halts .browse = false := by
    decide +kernel
  have hwithdraws : ∀ taken ≤ 28, taken ≠ 18 → ∀ work ∈ (run .staged taken closing).agenda.head?,
      work.halts .publication = false := by
    decide +kernel
  refine ⟨by decide +kernel, by decide +kernel, ?_⟩
  apply teardown_completes Surroundings.staged_quiet.log hhosts (course_run ..) rfl
  intro kind platform asked reach hasked
  obtain ⟨taken, hle, rfl⟩ := reach.exists_run hdone
  have hfront := congrArg List.head? hasked
  have hsuffix : kind.closing 0 :: house.behind [] kind <:+ (run .staged taken closing).agenda := by
    rw [hasked]
    exact List.suffix_cons ..
  cases kind with
  | browse =>
      by_cases htaken : taken = 3
      · subst htaken
        refine ⟨none, _, _, by simp, @ends_run _ _ .staged _ _ _ 8 hsuffix ?_ ?_ ?_⟩
        · decide +kernel
        · decide +kernel
        · decide +kernel
      · exact absurd (hstops taken hle htaken _ hfront) (by simp [SessionKind.halt, Work.halts])
  | publication =>
      by_cases htaken : taken = 18
      · subst htaken
        refine ⟨some .notStarted, _, _, ?_, @ends_run _ _ .staged _ _ _ 5 hsuffix ?_ ?_ ?_⟩
        · rintro raised ⟨⟩
          rfl
        · decide +kernel
        · decide +kernel
        · decide +kernel
      · exact absurd (hwithdraws taken hle htaken _ hfront) (by simp [SessionKind.halt, Work.halts])

/-- A facade is closed while a request of it is under way. The resolver turns out to be busy,
somebody puts in another one under the token of the browse session, and both wait on when the facade
is closed again. A second facade is closed while its platform refuses to stop the browse: the call
raises, and what belongs to the facade is still in use. -/
theorem teardown_left_undone :
    let printer : ServiceRef := { name := "Printer", type := "_ipp._tcp" }
    let scanner : ServiceRef := { name := "Scanner", type := "_ipp._tcp" }
    let browse (place : Nat) (notice : BrowseNotice) : Operation := .browse place (.notice notice)
    let start : Configuration Empty (List (List (Move Empty))) := {
      alone false ⟨0x3FE0000000000000⟩
        [[.perform (browse 0 (.started "_ipp._tcp"))],
          [],
          [.perform (browse 0 (.stopped "_ipp._tcp"))],
          [.perform (browse 1 (.started "_ipp._tcp"))],
          [.raise .notStarted]] [] with
      agenda := [.build (.facade 0 (some 0) (some 0) {}),
        .facade 0 (.call (.startBrowser "_ipp._tcp")),
        (browse 0 (.found printer)).work,
        .facade 0 (.call .close),
        .queue 0 (.call (.outcome (.failed printer FailureCode.alreadyActive))),
        .queue 0 (.call (.enqueue scanner 1)),
        .facade 0 (.call .close),
        .build (.facade 0 (some 0) (some 0) {}),
        .facade 1 (.call (.startBrowser "_ipp._tcp")),
        .facade 1 (.call .close)] }
    let again := run .staged 50 start
    let closed := run .staged 5 again
    let second := run .staged 13 closed
    let raised := run .staged 6 second
    again.agenda = .facade 0 (.call .close) :: closed.agenda ∧
      closed.world.browsers.map (fun node => (node.core.token, node.core.closed)) =
        [(1, true)] ∧
      closed.world.queues.map (·.core.pending) =
        [[{ ref := printer, session := 1 }, { ref := scanner, session := 1 }]] ∧
      second.agenda = [.facade 1 (.call .close)] ∧ raised.agenda = [] ∧
      raised.world.caught = some .notStarted ∧
      raised.world.browsers.map (fun node => (node.core.token, node.core.closed)) =
        [(1, true), (3, false)] ∧
      raised.world.publications.map (fun node => (node.core.token, node.core.closed)) =
        [(2, true), (4, false)] ∧
      raised.world.leads? 0 3 = some (.facade 1) ∧ raised.world.leads? 0 4 = some (.facade 1) ∧
      raised.world.facades.map (·.core.browserExists) = [false, true] :=
  ⟨rfl, rfl, rfl, rfl, rfl, rfl, rfl, rfl, rfl, rfl, rfl⟩

end Configuration

end ServiceDiscovery
