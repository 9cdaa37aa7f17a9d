import ServiceDiscovery.Proofs.Facade.Flags
import ServiceDiscovery.Proofs.Facade.Ringing
import ServiceDiscovery.Proofs.Facade.Teardown

/-!
A facade after it has been closed. Closing calls both sessions to close, and where that returns,
whatever the platform made of it, both are closed and their tokens lead nowhere. Platforms, queues
and timers may go on calling the sessions, and what these have to say is dropped. So if nobody hands
the facade an event, no callback of it is called again and it stays as it was left.
-/

namespace ServiceDiscovery

variable {ι σ : Type}

namespace Facade

/-- What others have seen of a facade that was closed: the services it had left. -/
structure Rests (services : List (Text.Points × ResolvedService)) (facade : Facade) : Prop where
  services : facade.services = services
  browserExists : facade.browserExists = false
  publishExists : facade.publishExists = false

/-- A closed facade stays as it is unless it hears of an event. -/
theorem Rests.step {services : List (Text.Points × ResolvedService)} {facade : Facade}
    (rests : facade.Rests services) {task : Task}
    (hpublish : ∀ event, task ≠ .call (.publish event)) :
    (Facade.step task facade).1.Rests services := by
  cases task with
  | telling kind argument number => exact rests
  | calling kind => exact rests
  | closing => exact ⟨rests.services, rfl, rfl⟩
  | call operation =>
      cases operation with
      | publish event => exact absurd rfl (hpublish event)
      | _ => exact ⟨rests.services, rests.browserExists, rests.publishExists⟩

end Facade

/-- Does the work call a callback of the facade at a place, have callbacks of it told, or hand the
facade an event? -/
def Work.rouses (index : Nat) : Work ι → Bool
  | .call (.callback place _ _ _) => place = index
  | .facade place (.telling _ _ _) | .facade place (.call (.publish _)) => place = index
  | _ => false

theorem Work.of_rouses {work : Work ι} {index : Nat} (h : work.rouses index = true) :
    work.callback? index ≠ none ∨ ∃ event, work = .facade index (.call (.publish event)) := by
  unfold rouses at h
  split at h
  · left
    simpa [callback?] using h
  · left
    simpa [callback?] using h
  · rename_i event
    obtain rfl := of_decide_eq_true h
    exact Or.inr ⟨event, rfl⟩
  · cases h

theorem Work.rouses_of_isTelling {work : Work ι} {index : Nat}
    (h : work.isTelling index = true) : work.rouses index = true := by
  obtain ⟨kind, argument, number, rfl⟩ := Work.eq_of_isTelling h
  simp [rouses]

/-- Is the work the call to close the facade at a place? -/
def Work.isClose (index : Nat) : Work ι → Bool
  | .facade place (.call .close) => place = index
  | _ => false

theorem Work.eq_of_isClose {work : Work ι} {index : Nat} (h : work.isClose index = true) :
    work = .facade index (.call .close) := by
  unfold isClose at h
  split at h
  · rw [of_decide_eq_true h]
  · cases h

/-- Does a registry hand the facade an event by the work, and not under a token of the house? -/
def House.intrudes (house : House) (world : World) : Work ι → Bool
  | .registry place (.call (.deliver token _)) =>
      world.leads? place token = some (.facade house.index) &&
        !(place = house.registry && house.owns token)
  | _ => false

namespace Configuration

variable {surroundings : Surroundings ι σ} {start closing closed now after : Configuration ι σ}
  {past since later : List (Configuration ι σ)} {behind rest : List (Work ι)} {house : House}
  {kind : SessionKind} {place : Nat} {s : Standing}

/-- What is left of closing a session recovers from no fault but those that the session passes over.
-/
theorem passesOver_of_recover {raised : Fault}
    (found : now.world.standing? kind place = some s)
    (recovers : World.recover (ι := ι) raised (kind.closing place) now.world ≠ none) :
    kind.passesOver raised = true := by
  cases kind with
  | browse =>
      obtain ⟨node, hnode, rfl⟩ := Option.map_eq_some_iff.mp found
      apply absurd _ recovers
      simp only [SessionKind.closing, World.recover, World.recoverWith, hnode,
        BrowseSession.recover, Option.map_none]
  | publication =>
      obtain ⟨node, hnode, rfl⟩ := Option.map_eq_some_iff.mp found
      by_contra hpasses
      apply recovers
      have hown : raised.isOwn = false := Bool.eq_false_iff.mpr hpasses
      simp only [SessionKind.closing, recover_closing hnode, hown, Bool.false_eq_true, if_false]

/-- A session that was called to close is closed when that call has returned. -/
theorem Returns.closes (found : now.world.standing? kind place = some s)
    (hagenda : now.agenda = kind.close place :: behind)
    (returns : Returns surroundings behind now past after) :
    ∃ later, after.world.standing? kind place = some later ∧ later.closed = true := by
  obtain ⟨next, hstep, hsame, hnext⟩ :=
    @step_close ι σ surroundings now behind kind place s found hagenda
  obtain ⟨next', since, -, hstep', hsince⟩ :=
    returns.uncons (Above.ne ⟨_, _, hagenda, List.suffix_refl _⟩)
  obtain rfl := Option.some.inj (hstep.symm.trans hstep')
  obtain ⟨later, hlater, hgoes⟩ := hsince.course.standing_goes hsame
  cases hclosed : s.closed with
  | true => exact ⟨later, hlater, hgoes hclosed⟩
  | false =>
      have hsuffix : kind.closing place :: behind <:+ next.agenda := by
        rw [hnext, hclosed]
        cases s.active with
        | true => exact List.suffix_cons (kind.stop place) _
        | false => exact List.suffix_refl _
      obtain ⟨early, moment, late, hlate, hcases⟩ := hsince.meets hsuffix
      -- The call to stop what runs has ended, perhaps by a fault that the session passes over.
      obtain ⟨fault, present, hpresent, hfault, hleft⟩ : ∃ fault present,
          moment.world.standing? kind place = some present ∧
          (∀ raised ∈ fault, kind.passesOver raised = true) ∧
          moment.Left (kind.closing place :: behind) fault := by
        rcases hcases with hreturns | ⟨raised, hends, hrecovers⟩
        · obtain ⟨present, hpresent, -⟩ := hreturns.course.standing_goes hsame
          exact ⟨none, present, hpresent, by simp, hreturns.left⟩
        · obtain ⟨present, hpresent, -⟩ := hends.course.standing_goes hsame
          refine ⟨some raised, present, hpresent, ?_, hends.left⟩
          rintro fault ⟨⟩
          exact passesOver_of_recover hpresent hrecovers
      obtain ⟨first, others, marked, tasks, last, hfront, hothers, hmarks, -, -, hlast, hdone⟩ :=
        @step_marks ι σ surroundings moment behind kind place present hpresent fault hfault hleft
      obtain ⟨marked', final, -, hmarks', hfinal⟩ :=
        hlate.uncons (Above.ne ⟨first, others, hfront, hothers⟩)
      obtain rfl := Option.some.inj (hmarks.symm.trans hmarks')
      obtain ⟨end', hend, hstays⟩ := hfinal.course.standing_goes hlast
      exact ⟨end', hend, hstays hdone⟩

/-- Where the closing of a facade returns, both sessions have been closed when it comes to putting
out the flags. -/
theorem Returns.closes_sessions (stands : house.Stands closing.world)
    (hagenda : closing.agenda = .facade house.index (.call .close) :: rest)
    (returns : Returns surroundings rest closing since closed) :
    ∃ early ended late, Course surroundings closing early ended ∧
      ended.agenda = .facade house.index .closing :: rest ∧
      Returns surroundings rest ended (ended :: late) closed ∧
      ∀ kind, ∃ s, ended.world.standing? kind (house.member kind) = some s ∧ s.closed = true := by
  obtain ⟨node, hnode, hbrowser, hpublisher⟩ := stands.facade
  obtain ⟨next, hstep, hnext⟩ : ∃ next, closing.step surroundings = some next ∧
      next.agenda = SessionKind.close (house.member .browse) .browse ::
        house.behind rest .browse := by
    refine ⟨_, step_facade hnode hagenda, ?_⟩
    rw [← hbrowser, House.behind, ← hpublisher]
    rfl
  obtain ⟨next', later, -, hstep', hlater⟩ :=
    returns.uncons (Above.ne ⟨_, _, hagenda, List.suffix_refl _⟩)
  obtain rfl := Option.some.inj (hstep.symm.trans hstep')
  have hsuffix : .facade house.index .closing :: rest <:+ next.agenda := by
    rw [hnext]
    exact (List.suffix_cons _ _).trans (List.suffix_cons _ _)
  obtain ⟨early, ended, late, hlate, hearly | ⟨raised, hends, hrecovers⟩⟩ := hlater.meets hsuffix
  · refine ⟨closing :: early, ended, late, hearly.course.head hstep, hearly.left, hlate, ?_⟩
    have hpublish : SessionKind.close (house.member .publication) .publication ::
        .facade house.index .closing :: rest <:+ next.agenda := by
      rw [hnext]
      exact List.suffix_cons _ _
    obtain ⟨before, between, between', hbetween, hbrowse | ⟨raised, -, hrecovers⟩⟩ :=
      hearly.meets hpublish
    · obtain ⟨browsing, hbrowsing, -, -⟩ := (step_stands stands hstep).session .browse
      have hstands := hbrowse.course.stands (step_stands stands hstep)
      obtain ⟨publishing, hpublishing, -, -⟩ := hstands.session .publication
      obtain ⟨unbrowsed, hunbrowsed, hclosed⟩ := hbrowse.closes hbrowsing hnext
      intro kind
      cases kind with
      | browse =>
          -- The browse session stays closed while the publication session is closed.
          obtain ⟨s, hs, hgoes⟩ := hbetween.course.standing_goes hunbrowsed
          exact ⟨s, hs, hgoes hclosed⟩
      | publication => exact hbetween.closes hpublishing hbrowse.left
    · exact absurd (World.recover_operation (.publication _ .close) _ _) hrecovers
  · obtain ⟨⟨changed, tasks⟩, hrecover⟩ := Option.ne_none_iff_exists'.mp hrecovers
    obtain ⟨⟨kind, hkind⟩, -⟩ := World.recover_facade hrecover
    cases hkind

/-- When the closing of a facade has returned, nothing of the house is in use. -/
theorem Returns.vacates
    (hlog : ∀ record world around, (surroundings.answer (.log record) world around).2 = [])
    (stands : house.Stands start.world)
    (unclosed : ∀ kind s, start.world.standing? kind (house.member kind) = some s →
      s.closed = false)
    (course : Course surroundings start past closing)
    (hagenda : closing.agenda = .facade house.index (.call .close) :: rest)
    (returns : Returns surroundings rest closing since closed) : house.Vacant closed.world := by
  obtain ⟨early, ended, late, hcourse, hended, hlate, hclosed⟩ :=
    returns.closes_sessions (course.stands stands) hagenda
  obtain ⟨middle, after, record, hends, -, hvacant⟩ :=
    facade_vacated hlog stands unclosed (course.append hcourse) hclosed hended
  rw [hlate.toEnds.unique hends]
  exact hvacant

/-- Nobody hands the facade an event: not directly, and not through a registry under a token other
than those of its sessions. -/
structure Unprovoked (surroundings : Surroundings ι σ) (house : House) (now : Configuration ι σ) :
    Prop where
  undirected : ∀ move ∈ now.moves surroundings, move.work.rouses house.index = false
  unstrayed : ∀ work ∈ now.agenda.head?, house.intrudes now.world work = false

/-- A facade that has been closed keeps silent: nothing on the agenda calls a callback of it or
hands it an event, and it is as it was left. -/
structure Silent (house : House) (services : List (Text.Points × ResolvedService))
    (now : Configuration ι σ) : Prop where
  stands : house.Stands now.world
  detached : ∀ kind, now.world.leads? house.registry (house.token kind) = none
  calm : ∀ work ∈ now.agenda, work.rouses house.index = false
  rests : ∃ node, now.world.facades[house.index]? = some node ∧ node.core.Rests services

variable {services : List (Text.Points × ResolvedService)}

/-- No task in front rouses a facade whose tokens lead nowhere. -/
theorem Silent.not_rouses_of_brings (silent : now.Silent house services) {work brought : Work ι}
    (unstrayed : house.intrudes now.world work = false)
    (hwork : work.rouses house.index = false) (h : Brings now.world work brought) :
    brought.rouses house.index = false := by
  apply Bool.eq_false_iff.mpr
  intro hrouses
  rcases Work.of_rouses hrouses with hrings | ⟨event, rfl⟩
  · rcases h.hears_of_callback hrings with ⟨event, rfl⟩ | htelling
    · simp [Work.rouses] at hwork
    · cases hwork.symm.trans (Work.rouses_of_isTelling htelling)
  · obtain ⟨place, token, rfl, hleads⟩ := h.of_hearing
    obtain ⟨rfl, howns⟩ : place = house.registry ∧ house.owns token = true := by
      simpa [House.intrudes, hleads] using unstrayed
    obtain ⟨kind, rfl⟩ := House.exists_of_owns howns
    cases hleads.symm.trans (silent.detached kind)

theorem Silent.step (silent : now.Silent house services)
    (unprovoked : now.Unprovoked surroundings house) (h : now.step surroundings = some after) :
    after.Silent house services where
  stands := step_stands silent.stands h
  detached := fun kind => step_nowhere silent.stands h (silent.detached kind)
  calm := by
    obtain ⟨work, rest, tasks, kept, hagenda, -⟩ := step_sources h
    have hfront := silent.calm work (by simp [hagenda])
    have hrest : ∀ other ∈ rest, other.rouses house.index = false := by
      intro other hmem
      exact silent.calm other (by simp [hagenda, hmem])
    apply off_of_step h hagenda hrest
    · exact unprovoked.undirected
    · intro brought hbrings
      apply silent.not_rouses_of_brings _ hfront hbrings
      exact unprovoked.unstrayed work (by simp [hagenda])
    · intro fault source changed tasks hsource hrecover brought hmem
      apply silent.not_rouses_of_brings _ (hrest source hsource)
        (World.brings_of_recover hrecover hmem)
      -- A delivery that is only to be made recovers from nothing.
      unfold House.intrudes
      split
      · cases (World.recover_operation (.registry _ _) _ _).symm.trans hrecover
      · rfl
  rests := by
    obtain ⟨node, found, hrests⟩ := silent.rests
    by_cases hown : ∃ task rest, now.agenda = .facade house.index task :: rest
    · obtain ⟨task, rest, hagenda⟩ := hown
      have hlt := (List.getElem?_eq_some_iff.mp found).1
      obtain rfl := Option.some.inj (h.symm.trans (step_facade found hagenda))
      refine ⟨_, List.getElem?_set_self hlt, hrests.step ?_⟩
      rintro event rfl
      have hcalm := silent.calm _ (hagenda ▸ List.mem_cons_self)
      simp [Work.rouses] at hcalm
    · refine ⟨node, step_spares_facade h found ?_, hrests⟩
      exact fun task rest hagenda => hown ⟨task, rest, hagenda⟩

theorem Course.silent (course : Course surroundings closed later now)
    (silent : closed.Silent house services)
    (unprovoked : ∀ moment ∈ later, moment.Unprovoked surroundings house) :
    now.Silent house services := by
  induction course with
  | start => exact silent
  | @step later now after course step ih =>
      apply (ih fun moment hmem => unprovoked moment (List.mem_append_left _ hmem)).step _ step
      exact unprovoked now (by simp)

/-- Once the closing of a facade has returned that was called while no callback of it ran, none of
its callbacks is called again, its services stay as they are and both flags stay out, whatever
platforms, queues and other members do, unless somebody hands the facade an event. -/
theorem closed_facade_keeps_silent
    (hlog : ∀ record world around, (surroundings.answer (.log record) world around).2 = [])
    (stands : house.Stands start.world)
    (unclosed : ∀ kind s, start.world.standing? kind (house.member kind) = some s →
      s.closed = false)
    (unrung : ∀ task ∈ start.agenda, task.callback? house.index = none)
    (course : Course surroundings start past closing)
    (hagenda : closing.agenda = .facade house.index (.call .close) :: rest)
    (uncalled : ∀ task ∈ rest, task.isCalling house.index = false)
    (undirected : ∀ event, .facade house.index (.call (.publish event)) ∉ rest)
    (returns : Returns surroundings rest closing since closed)
    (goes : Course surroundings closed later now)
    (unprovoked : ∀ moment ∈ later, moment.Unprovoked surroundings house) :
    (∀ kind number argument others,
      now.agenda ≠ .call (.callback house.index kind number argument) :: others) ∧
    ∃ before node, closed.world.facades[house.index]? = some before ∧
      now.world.facades[house.index]? = some node ∧
      node.core.services = before.core.services ∧ node.core.browserExists = false ∧
      node.core.publishExists = false := by
  have hvacant := returns.vacates hlog stands unclosed course hagenda
  obtain ⟨before, hbefore, hbrowser, hpublisher⟩ := hvacant.flags
  have hunrung : ∀ task ∈ rest, task.callback? house.index = none := by
    apply unrung_of_uncalled (course.attended hlog stands unrung) hagenda (by simp) _ rfl
    intro task hmem
    rcases List.mem_cons.mp hmem with rfl | hrest
    · rfl
    · exact uncalled task hrest
  have hsilent : closed.Silent house before.core.services := by
    refine ⟨hvacant.toStands, hvacant.detached, ?_, before, hbefore, rfl, hbrowser, hpublisher⟩
    intro work hmem
    have hleft : closed.agenda = rest := returns.left
    rw [hleft] at hmem
    apply Bool.eq_false_iff.mpr
    intro hrouses
    rcases Work.of_rouses hrouses with hrings | ⟨event, rfl⟩
    · exact hrings (hunrung work hmem)
    · exact undirected event hmem
  have hnow := goes.silent hsilent unprovoked
  constructor
  · intro kind number argument others hfront
    have hcalm := hnow.calm _ (hfront ▸ List.mem_cons_self)
    simp [Work.rouses] at hcalm
  · obtain ⟨node, found, hrests⟩ := hnow.rests
    exact ⟨before, node, hbefore, found, hrests.services, hrests.browserExists,
      hrests.publishExists⟩

/-- A facade has a printer in its cache and a scanner under way when it is closed, and its platform
refuses to withdraw the publication. Then the scanner is resolved, the printer is lost, the
publication is confirmed once more and the facade is told to stop its browse, while another facade
on the same registry and queue browses and is closed. -/
theorem closed_facade_keeps_silent_of_refused :
    let ref (name : Text.Points) : ServiceRef := { name, type := "_ipp._tcp" }
    let resolved (name : Text.Points) : ResolveOutcome := .resolved (ref name) {
      name
      type := "_ipp._tcp"
      hostname := "host.local"
      address := "192.168.1.10"
      port := 80
      attributes := some [] }
    let browse (place : Nat) (notice : BrowseNotice) : Operation := .browse place (.notice notice)
    let published : Operation := .publication 0 (.notice (.registered "Desk" "_ipp._tcp"))
    let start : Configuration Empty (List (List (Move Empty))) := run .staged 4 {
      world := { platforms := [.outside] }
      around := [[.perform (browse 0 (.started "_ipp._tcp"))],
        [.perform published],
        [.perform (.facade 0 .clearTxt)],
        [.perform (.queue 0 (.outcome (resolved "Printer")))],
        [],
        [],
        [.perform (browse 0 (.stopped "_ipp._tcp"))],
        [.raise .notStarted],
        [.perform (browse 1 (.started "_ipp._tcp"))]]
      agenda := [.build (.facade 0 none none { added := 1, published := 1, error := 1 }),
        .build (.facade 0 (some 0) (some 0) { added := 1 }),
        .facade 0 (.call (.startBrowser "_ipp._tcp")),
        .facade 0 (.call (.startPublish "Desk" "_ipp._tcp" (.int 631))),
        (browse 0 (.found (ref "Printer"))).work,
        (browse 0 (.found (ref "Scanner"))).work,
        .facade 0 (.call .close),
        .facade 1 (.call (.startBrowser "_ipp._tcp")),
        .queue 0 (.call (.outcome (resolved "Scanner"))),
        (browse 0 (.lost (ref "Printer"))).work,
        published.work,
        .facade 0 (.call .stopBrowser),
        .facade 1 (.call .close)] }
    let closing := run .staged 59 start
    let closed := run .staged 24 closing
    let now := run .staged 47 closed
    now.agenda.length = 0 ∧
      now.world.facades.map (·.core.services.map (·.1)) = [[Text.Points.ofString "Printer"], []] ∧
      (∀ kind number argument others,
        now.agenda ≠ .call (.callback 0 kind number argument) :: others) ∧
      ∃ before node, closed.world.facades[0]? = some before ∧ now.world.facades[0]? = some node ∧
        node.core.services = before.core.services ∧ node.core.browserExists = false ∧
        node.core.publishExists = false := by
  intro ref resolved browse published start closing closed now
  let house : House := {
    index := 0
    registry := 0
    member := fun _ => 0
    token := fun kind => if kind = .browse then 1 else 2 }
  have hstands : house.Stands start.world := by
    constructor
    · exact ⟨_, rfl, rfl, rfl⟩
    · intro kind
      cases kind <;> exact ⟨_, rfl, rfl, rfl⟩
    · refine ⟨_, rfl, ?_⟩
      intro kind
      cases kind <;> decide
    · intro kind place s found _ howns
      match place, kind with
      | 0, _ => rfl
      | 1, .browse | 1, .publication =>
          cases found
          exact absurd howns (by decide)
      | place + 2, .browse | place + 2, .publication => cases found
  have hunclosed : ∀ kind s, start.world.standing? kind (house.member kind) = some s →
      s.closed = false := by
    intro kind s found
    cases kind <;> cases found <;> rfl
  have hunrung : ∀ task ∈ start.agenda, task.callback? house.index = none := by decide +kernel
  have huncalled : ∀ task ∈ closing.agenda.tail, task.isCalling house.index = false := by
    decide +kernel
  have hcalm : ∀ task ∈ closing.agenda.tail, task.rouses house.index = false := by
    decide +kernel
  have hreturns : Returns .staged closing.agenda.tail closing (trail .staged 24 closing)
      closed := by
    apply returns_run (List.tail_suffix _)
    · decide +kernel
    · decide +kernel
  have hmoves : ∀ moment ∈ trail .staged 47 closed, ∀ move ∈ moment.moves .staged,
      move.work.rouses house.index = false := by
    decide +kernel
  have hunstrayed : ∀ moment ∈ trail .staged 47 closed, ∀ work ∈ moment.agenda.head?,
      house.intrudes moment.world work = false := by
    decide +kernel
  have hagenda : closing.agenda = .facade 0 (.call .close) :: closing.agenda.tail := by
    have hfront : closing.agenda.head?.any (·.isClose 0) = true := by decide +kernel
    obtain ⟨first, hfirst, hclose⟩ := (Option.any_eq_true ..).mp hfront
    obtain ⟨rest, hrest⟩ := List.head?_eq_some_iff.mp hfirst
    rw [hrest, Work.eq_of_isClose hclose, List.tail_cons]
  have hundirected : ∀ event, .facade house.index (.call (.publish event)) ∉
      closing.agenda.tail := by
    intro event hmem
    have hrouses := hcalm _ hmem
    simp [Work.rouses] at hrouses
  have hunprovoked : ∀ moment ∈ trail .staged 47 closed, moment.Unprovoked .staged house := by
    intro moment hmem
    exact ⟨hmoves moment hmem, hunstrayed moment hmem⟩
  refine ⟨by decide +kernel, by decide +kernel, ?_⟩
  have hcourse : Course .staged start (trail .staged 59 start) closing := course_run ..
  have hgoes : Course .staged closed (trail .staged 47 closed) now := course_run ..
  exact closed_facade_keeps_silent Surroundings.staged_quiet.log hstands hunclosed hunrung
    hcourse hagenda huncalled hundirected hreturns hgoes hunprovoked

end Configuration

end ServiceDiscovery
