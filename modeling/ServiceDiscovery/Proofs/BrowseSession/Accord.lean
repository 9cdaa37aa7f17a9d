import ServiceDiscovery.Proofs.BrowseSession.Passage
import ServiceDiscovery.Proofs.BrowseSession.Place

/-!
A browse session and the platform that it asks to browse. The session counts as active from its
request on, the platform has a browser open only once the network made one, and what the platform
says about the end of a browse does not tell which browse it means. As long as the session never
starts again before all its stops are finished, the two agree whenever nothing is under way between
them.
-/

namespace ServiceDiscovery

open Mdns Mdns.Platform

variable {ι σ : Type}

namespace Configuration

/-- Nothing stirs the accord between the session at a place and the platform at another. -/
def Unstirred (index place : Nat) (agenda : List (Work ι)) : Prop :=
  ∀ work ∈ agenda, work.stirs index place = false

/-- Does the session at a place ask the platform at another to browse, and is that accepted, while
an earlier start or stop of its is not finished? -/
def restarts (index place : Nat) (now : Configuration ι σ) : Bool :=
  match now.doing? place with
  | some (.call (.request (.discover type) asker), core) =>
      asker = .member index && (core.handle asker (.discover type)).2.isEmpty &&
        !(((now.docket place core).queued asker).isEmpty &&
          ((now.docket place core).called asker).isEmpty)
  | _ => false

/-- Nobody but the session at a place asks the platform at another to browse for it, nobody but that
platform tells the session of an end, and browsers are made at once or not at all, as far as the
next step goes. -/
structure Undisturbed (surroundings : Surroundings ι σ) (index place : Nat)
    (now : Configuration ι σ) : Prop where
  moves : ∀ move ∈ now.moves surroundings, move.work.stirs index place = false
  silent : ∀ other, other ≠ place → ∀ task core, now.doing? other = some (task, core) →
    Untold (.member index) (Platform.step task core).2
  prompt : ∀ ticket type rest,
    now.agenda = .call (.network place ticket (.browse type)) :: rest →
      ∃ response, now.moves surroundings = [.perform (.platform place (.reply ticket response))]

/-- A session that is not active, and a platform that is started, has nothing to do and no browser
open for it. -/
structure Dormant (index place : Nat) (now : Configuration ι σ) (node : BrowseNode)
    (core : Mdns.Platform) : Prop where
  idle : now.Idle place
  found : now.world.platforms[place]? = some (.mdns core)
  started : core.started = true
  session : now.world.browsers[index]? = some node
  wired : node.platform = place
  inactive : node.core.active = false
  unopened : core.browsers.lookup (.member index) = none
  off : Unstirred index place now.agenda

/-- No start or stop of a session is unfinished: none is in line, none waits for the network, and
nothing about one is on its way. -/
structure Settled (index place : Nat) (now : Configuration ι σ) (core : Mdns.Platform) : Prop where
  off : Unstirred index place now.agenda
  queued : (now.docket place core).queued (.member index) = []
  called : (now.docket place core).called (.member index) = []

/-- What a session that is active or not can count on: a browser is open for it if and only if it is
active. If it is, then stopping or closing it has the platform stop the browser. If it is not, then
it can start again, and the platform takes on any start for a type that is well formed. -/
structure Concord (index : Nat) (session : BrowseSession) (core : Mdns.Platform) : Prop where
  browsing : (core.browsers.lookup (.member index)).isSome = session.active
  stops : session.active = true → session.stop = (session, [.request .stopDiscovery]) ∧
    (session.closed = false → session.close = (session, [.own (.call .stop), .own .closing])) ∧
    core.handle (.member index) .stopDiscovery = (core.submit (.stop (.member index)), [])
  starts : session.active = false → session.closed = false → ∀ type,
    let bare := ServiceType.normalize type
    (session.start type).2 = [.request (.discover bare), .own (.starting bare)] ∧
      (checkType (ServiceType.qualify bare) = .ok () →
        core.handle (.member index) (.discover bare) =
          (core.submit (.discover (ServiceType.qualify bare) (.member index)), []))

/-- How a start or an end of a browse passes between the session at a place and the platform at
another, by the agenda and whether the session is active. -/
inductive Phase (index place : Nat) (core : Mdns.Platform) (docket : Docket) :
    List (Work ι) → Bool → Prop where
  | calm {agenda : List (Work ι)} {active : Bool}
      (agrees : docket.Agrees (.member index) active) (off : Unstirred index place agenda) :
      Phase index place core docket agenda active
  | asking {rest : List (Work ι)} (type : Text.Points)
      (agrees : docket.Agrees (.member index) false) (off : Unstirred index place rest) :
      Phase index place core docket
        (.request place (.discover type) (.member index) :: .browse index (.starting type) :: rest)
        true
  | calling {rest : List (Work ι)} (type : Text.Points)
      (agrees : docket.Agrees (.member index) false) (off : Unstirred index place rest) :
      Phase index place core docket
        (.platform place (.call (.request (.discover type) (.member index))) ::
          .browse index (.starting type) :: rest) true
  | refused {rest : List (Work ι)} (type : Text.Points) (fault : Fault)
      (agrees : docket.Agrees (.member index) false) (off : Unstirred index place rest) :
      Phase index place core docket (.raise fault :: .browse index (.starting type) :: rest) true
  | accepted {rest : List (Work ι)} (type : Text.Points)
      (agrees : docket.Agrees (.member index) true) (off : Unstirred index place rest) :
      Phase index place core docket (.browse index (.starting type) :: rest) true
  | opening {rest : List (Work ι)} {type : Text.Points} {ticket : Nat}
      (waits : core.waiting.lookup ticket = some (.opening type (.member index)))
      (pends : docket.Pends (.member index) none) (off : Unstirred index place rest) :
      Phase index place core docket (.call (.network place ticket (.browse type)) :: rest) true
  | replied {rest : List (Work ι)} {type : Text.Points} {ticket : Nat} (response : Response)
      (waits : core.waiting.lookup ticket = some (.opening type (.member index)))
      (pends : docket.Pends (.member index) none) (off : Unstirred index place rest) :
      Phase index place core docket (.platform place (.call (.reply ticket response)) :: rest) true
  | resuming {rest : List (Work ι)} {type : Text.Points} {response : Response}
      (pends : docket.Pends (.member index) (some response)) (off : Unstirred index place rest) :
      Phase index place core docket
        (.platform place (.resume (.opening type (.member index)) response) :: rest) true
  | telling {lines rest : List (Work ι)} {active : Bool} {notice : BrowseNotice}
      (ends : notice.ends) (agrees : docket.Agrees (.member index) false)
      (logged : ∀ line ∈ lines, line.isLine) (off : Unstirred index place rest) :
      Phase index place core docket (lines ++ .notify (.member index) (.browse notice) :: rest)
        active
  | hearing {rest : List (Work ι)} {active : Bool} {notice : BrowseNotice} (ends : notice.ends)
      (agrees : docket.Agrees (.member index) false) (off : Unstirred index place rest) :
      Phase index place core docket (.browse index (.call (.notice notice)) :: rest) active

/-- A session and its platform at a time in a run. -/
structure Tracks (index place : Nat) (now : Configuration ι σ) (node : BrowseNode)
    (core : Mdns.Platform) : Prop extends now.Keeps place core where
  session : now.world.browsers[index]? = some node
  wired : node.platform = place
  opened : (now.docket place core).Open
  phase : Phase index place core (now.docket place core) now.agenda node.core.active

section

variable {surroundings : Surroundings ι σ} {start now after : Configuration ι σ}
  {past : List (Configuration ι σ)} {index place : Nat} {node : BrowseNode}
  {core : Mdns.Platform} {rest : List (Work ι)}

/-- What comes up while all is calm, and is no task of the session or of the platform, is calm. -/
theorem Unstirred.step {work : Work ι} (off : Unstirred index place now.agenda)
    (undisturbed : now.Undisturbed surroundings index place)
    (hagenda : now.agenda = work :: rest) (hsession : ∀ task, work ≠ .browse index task)
    (hplatform : ∀ task, work ≠ .platform place task)
    (hstep : now.step surroundings = some after) : Unstirred index place after.agenda := by
  rw [hagenda] at off
  obtain ⟨hwork, hrest⟩ := List.forall_mem_cons.mp off
  refine off_of_step hstep hagenda hrest undisturbed.moves (fun brought hbrings => ?_)
    fun fault source changed tasks hsource hrecover brought hmem => ?_
  · refine hbrings.not_stirs hwork hsession hplatform ?_
    rintro other task core rfl hfound
    have hother : other ≠ place := fun heq => hplatform task (by rw [heq])
    exact undisturbed.silent other hother task core (by simp [doing?, hagenda, hfound])
  -- A fault may reach a task far behind the front. No platform does anything then, and the session
  -- does only while it asks, which is no calm moment.
  · by_cases hown : ∃ other task, source = .platform other task
    · obtain ⟨other, task, rfl⟩ := hown
      rw [(World.recover_platforms hrecover).2 other task rfl] at hmem
      cases hmem
    · have hbrings := World.brings_of_recover hrecover hmem
      refine hbrings.not_stirs (hrest source hsource) ?_ (fun task heq => hown ⟨place, task, heq⟩)
        fun other task _ heq => absurd ⟨other, task, heq⟩ hown
      rintro task rfl
      obtain ⟨type, rfl⟩ := World.recover_browse hrecover
      simpa [Work.stirs] using hrest _ hsource

/-- A new ticket is for the job that waits with it. -/
theorem lookup_ask (tidy : core.ledger.Tidy) (call : NetworkCall) (job : Job) :
    (core.ask call job).1.waiting.lookup core.tickets = some job := by
  have hnew : core.waiting.lookup core.tickets = none := by
    refine List.lookup_eq_none_iff.mpr fun entry hmem => ?_
    have hissued : entry.1 < core.tickets := tidy.issued entry hmem
    simp only [bne_iff_ne, ne_eq]
    omega
  simp [ask, wait, List.lookup_append, hnew]

/-- A task of the platform that goes on with the browse of the session leads on to a phase. -/
theorem phase_of_proceeds {task : Platform.Task} {docket : Docket} {active : Bool}
    (proceeds : Proceeds (.member index) active docket task (Platform.step task core).2)
    (fits : task.Fits) (tidy : core.ledger.Tidy) (started : core.started = true)
    (off : Unstirred index place rest) :
    Phase index place (Platform.step task core).1 docket
      ((Platform.step task core).2.map (·.work place) ++ rest) active := by
  have huncalled := (turned fits core).not_call
  generalize heffects : (Platform.step task core).2 = effects at proceeds huncalled
  cases proceeds with
  | goes agrees untold =>
      have hcalm : Unstirred index place (effects.map (·.work (ι := ι) place)) :=
        Work.stirs_of_effects (fun _ => huncalled) untold
      exact .calm agrees (List.forall_mem_append.mpr ⟨hcalm, off⟩)
  | ends agrees logged ends =>
      rw [List.map_append, List.append_assoc]
      exact .telling ends agrees (Work.isLine_of_lines logged place) off
  | @opens type effects wanted pends =>
      subst wanted
      have hasks : Platform.step (.run (.discover type (.member index))) core =
          core.ask (.browse type) (.opening type (.member index)) := by
        simp [Platform.step, Platform.run, started]
      rw [← heffects, hasks]
      exact .opening (lookup_ask tidy _ _) pends off

namespace Tracks

variable (h : Tracks index place now node core) (hstep : now.step surroundings = some after)

include h hstep

/-- A step that does no task of the platform leaves it and its matters as they are. -/
theorem keeps_docket (hplatform : ∀ task rest, now.agenda ≠ .platform place task :: rest) :
    after.Keeps place core ∧ after.docket place core = now.docket place core := by
  rcases h.toKeeps.haul hstep with ⟨task, rest, hagenda, -⟩ | ⟨-, -, hkeeps, hdocket⟩
  · exact absurd hagenda (hplatform task rest)
  · exact ⟨hkeeps, hdocket⟩

/-- A step that does neither a task of the session nor one of the platform. -/
theorem passes_on (hsession : ∀ task rest, now.agenda ≠ .browse index task :: rest)
    (hplatform : ∀ task rest, now.agenda ≠ .platform place task :: rest)
    (hwaiting : ∀ fault rest type, now.agenda = .raise fault :: rest →
      .browse index (.starting type) ∉ rest)
    (phase : Phase index place core (now.docket place core) after.agenda node.core.active) :
    ∃ changed core, Tracks index place after changed core := by
  obtain ⟨hkeeps, hdocket⟩ := h.keeps_docket hstep hplatform
  refine ⟨node, core, hkeeps, step_spares_browse hstep h.session hsession hwaiting, h.wired, ?_, ?_⟩
  · rw [hdocket]
    exact h.opened
  · rw [hdocket]
    exact phase

/-- A step that changes the session only. -/
theorem turns {session : BrowseSession} {tasks : List (Work ι)}
    (hplatform : ∀ task rest, now.agenda ≠ .platform place task :: rest)
    (hafter : after = { now with
      world := { now.world with
        browsers := now.world.browsers.set index { node with core := session } }
      agenda := tasks })
    (phase : Phase index place core (now.docket place core) tasks session.active) :
    ∃ changed core, Tracks index place after changed core := by
  obtain ⟨hkeeps, hdocket⟩ := h.keeps_docket hstep hplatform
  have hlt := (List.getElem?_eq_some_iff.mp h.session).1
  refine ⟨{ node with core := session }, core, hkeeps, ?_, h.wired, ?_, ?_⟩
  · rw [hafter]
    exact List.getElem?_set_self hlt
  · rw [hdocket]
    exact h.opened
  · rw [hdocket, hafter]
    exact phase

/-- A task of the platform leaves the session as it is. -/
theorem works {task : Platform.Task} (hagenda : now.agenda = .platform place task :: rest)
    (unclosed : now.closes place = false)
    (phase : task ≠ .call .close →
      Hauled (now.docket place core) task (answering? task core)
        (after.docket place (Platform.step task core).1) (Platform.step task core).2 →
      Phase index place (Platform.step task core).1
        (after.docket place (Platform.step task core).1)
        ((Platform.step task core).2.map (·.work place) ++ rest) node.core.active) :
    ∃ changed core, Tracks index place after changed core := by
  have hsame : after.world.browsers[index]? = some node :=
    step_spares_browse hstep h.session (by simp [hagenda]) (by simp [hagenda])
  rcases h.toKeeps.haul hstep with
    ⟨next, behind, hnext, hdoing, hkeeps, hafter, hhauled⟩ | ⟨hforeign, -⟩
  · obtain ⟨hwork, rfl⟩ := List.cons.inj (hnext.symm.trans hagenda)
    cases hwork
    have hopen := not_close_of_doing hdoing unclosed
    refine ⟨node, _, hkeeps, hsame, h.wired, hhauled.keeps_open h.opened hopen, ?_⟩
    rw [hafter]
    exact phase hopen hhauled
  · exact absurd hagenda (hforeign task rest)

/-- While all is calm, the session may ask to browse and the platform may open a browser or come to
the end of one. All else leaves things as they are. -/
theorem calms (agrees : (now.docket place core).Agrees (.member index) node.core.active)
    (off : Unstirred index place now.agenda)
    (undisturbed : now.Undisturbed surroundings index place) (unclosed : now.closes place = false) :
    ∃ changed core, Tracks index place after changed core := by
  obtain ⟨work, rest, hagenda, -⟩ := step_cases hstep
  have hall := off
  rw [hagenda] at hall
  obtain ⟨hwork, hrest⟩ := List.forall_mem_cons.mp hall
  by_cases hsession : ∃ task, work = .browse index task
  · obtain ⟨task, rfl⟩ := hsession
    have hafter := Option.some.inj (hstep.symm.trans (step_browse h.session hagenda))
    refine h.turns hstep (by simp [hagenda]) hafter ?_
    rcases BrowseSession.turn_stirs hwork node.core node with
      ⟨type, hinactive, hactive, heffects⟩ | ⟨hsame, hcalm⟩
    · obtain rfl := h.wired
      rw [hinactive] at agrees
      rw [hactive, heffects]
      exact .asking type agrees hrest
    · rw [hsame]
      exact .calm agrees (List.forall_mem_append.mpr ⟨hcalm, hrest⟩)
  · by_cases hplatform : ∃ task, work = .platform place task
    · obtain ⟨task, rfl⟩ := hplatform
      have hfits := h.fits task (by simp [hagenda])
      have hunasked (type : Text.Points) :
          task ≠ .call (.request (.discover type) (.member index)) := by
        rintro rfl
        simp [Work.stirs] at hwork
      refine h.works hstep hagenda unclosed fun hopen hhauled => ?_
      exact phase_of_proceeds (hhauled.proceeds h.opened hopen hfits hunasked agrees) hfits h.tidy
        h.opened.started hrest
    · have hsession' := not_exists.mp hsession
      have hplatform' := not_exists.mp hplatform
      refine h.passes_on hstep (by simp [hagenda, hsession']) (by simp [hagenda, hplatform'])
        (fun fault behind type heq hmem => ?_)
        (.calm agrees (off.step undisturbed hagenda hsession' hplatform' hstep))
      obtain ⟨-, rfl⟩ := List.cons.inj (hagenda.symm.trans heq)
      simpa [Work.stirs] using hrest _ hmem

/-- The platform is asked to browse. It takes the start on, unless a browser is open or the type is
malformed. -/
theorem calls {type : Text.Points}
    (hagenda : now.agenda = .platform place (.call (.request (.discover type) (.member index))) ::
      .browse index (.starting type) :: rest) (hactive : node.core.active = true)
    (agrees : (now.docket place core).Agrees (.member index) false)
    (off : Unstirred index place rest) (unclosed : now.closes place = false)
    (unrestarted : now.restarts index place = false) :
    ∃ changed core, Tracks index place after changed core := by
  have hdoing : now.doing? place =
      some (.call (.request (.discover type) (.member index)), core) := by
    simp [doing?, hagenda, h.found]
  refine h.works hstep hagenda unclosed fun _ hhauled => ?_
  have hsole (heffects : (Platform.step
        (.call (.request (.discover type) (.member index))) core).2 = []) :
      (now.docket place core).queued (.member index) = [] ∧
        (now.docket place core).called (.member index) = [] := by
    have hhandled : (core.handle (.member index) (.discover type)).2 = [] := heffects
    simpa [restarts, hdoing, hhandled] using unrestarted
  rw [hactive]
  rcases hhauled.discovered h.opened hsole agrees with
    ⟨fault, heffects, hagrees⟩ | ⟨heffects, hagrees⟩
  · rw [heffects]
    exact .refused type fault hagrees off
  · rw [heffects]
    exact .accepted type hagrees off

/-- The network says whether it made a browser. -/
theorem replies {type : Text.Points} {ticket : Nat} {response : Response}
    (hagenda : now.agenda = .platform place (.call (.reply ticket response)) :: rest)
    (hactive : node.core.active = true)
    (waits : core.waiting.lookup ticket = some (.opening type (.member index)))
    (pends : (now.docket place core).Pends (.member index) none) (off : Unstirred index place rest)
    (unclosed : now.closes place = false) :
    ∃ changed core, Tracks index place after changed core := by
  have hanswers : answering? (.call (.reply ticket response)) core =
      some (.browse (.member index), response) := by
    simp [answering?, waits, Job.matter?]
  have heffects : (Platform.step (.call (.reply ticket response)) core).2 =
      [.own (.resume (.opening type (.member index)) response)] := by
    simp [Platform.step, Platform.call, takeWaiting, waits]
  refine h.works hstep hagenda unclosed fun _ hhauled => ?_
  rw [hanswers] at hhauled
  rw [hactive, heffects]
  exact .resuming (hhauled.replied h.opened (by simp) pends) off

/-- Each phase leads on to the next. -/
theorem step (quiet : surroundings.Quiet) (undisturbed : now.Undisturbed surroundings index place)
    (unclosed : now.closes place = false) (unrestarted : now.restarts index place = false) :
    ∃ changed core, Tracks index place after changed core := by
  have hphase := h.phase
  generalize hagenda : now.agenda = agenda at hphase
  generalize hactive : node.core.active = active at hphase
  cases hphase with
  | calm agrees off =>
      subst hagenda hactive
      exact h.calms hstep agrees off undisturbed unclosed
  | asking type agrees off =>
      have hafter := Option.some.inj (hstep.symm.trans (step_request h.found hagenda))
      refine h.passes_on hstep (by simp [hagenda]) (by simp [hagenda]) (by simp [hagenda]) ?_
      rw [hafter, hactive]
      exact .calling type agrees off
  | calling type agrees off =>
      exact h.calls hstep hagenda hactive agrees off unclosed unrestarted
  | refused type fault agrees off =>
      have hafter := Option.some.inj (hstep.symm.trans (step_startRefused h.session hagenda))
      obtain ⟨hinactive, hcalm⟩ := BrowseSession.startRefused_stirs type fault node.core node
      refine h.turns hstep (by simp [hagenda]) hafter ?_
      rw [hinactive]
      exact .calm agrees (List.forall_mem_append.mpr ⟨hcalm, off⟩)
  | @accepted rest type agrees off =>
      have hafter := Option.some.inj (hstep.symm.trans (step_browse h.session hagenda))
      refine h.turns hstep (by simp [hagenda]) hafter ?_
      change Phase index place core _ (.call (.log _) :: rest) node.core.active
      rw [hactive]
      exact .calm agrees (List.forall_mem_cons.mpr ⟨rfl, off⟩)
  | opening waits pends off =>
      obtain ⟨response, hmoves⟩ := undisturbed.prompt _ _ _ hagenda
      refine h.passes_on hstep (by simp [hagenda]) (by simp [hagenda]) (by simp [hagenda]) ?_
      rw [agenda_of_call hagenda hstep, hmoves, hactive]
      exact .replied response waits pends off
  | replied response waits pends off =>
      exact h.replies hstep hagenda hactive waits pends off unclosed
  | resuming pends off =>
      refine h.works hstep hagenda unclosed fun _ hhauled => ?_
      rw [hactive]
      exact phase_of_proceeds (hhauled.resumed h.opened pends) (h.fits _ (by simp [hagenda])) h.tidy
        h.opened.started off
  | @telling lines rest active notice ends agrees logged off =>
      cases lines with
      | nil =>
          have hafter := Option.some.inj (hstep.symm.trans (step_notify hagenda))
          refine h.passes_on hstep (by simp [hagenda]) (by simp [hagenda]) (by simp [hagenda]) ?_
          rw [hafter, hactive]
          exact .hearing ends agrees off
      | cons line lines =>
          obtain ⟨hline, hlines⟩ := List.forall_mem_cons.mp logged
          obtain ⟨record, rfl⟩ := Work.eq_of_isLine hline
          refine h.passes_on hstep (by simp [hagenda]) (by simp [hagenda]) (by simp [hagenda]) ?_
          rw [agenda_of_line quiet hline hagenda hstep, hactive]
          exact .telling ends agrees hlines off
  | hearing ends agrees off =>
      have hafter := Option.some.inj (hstep.symm.trans (step_browse h.session hagenda))
      obtain ⟨hinactive, hcalm⟩ := BrowseSession.hear_ends ends node.core node
      refine h.turns hstep (by simp [hagenda]) hafter ?_
      rw [BrowseSession.step, BrowseSession.call, hinactive]
      exact .calm agrees (List.forall_mem_append.mpr ⟨hcalm, off⟩)

end Tracks

theorem Dormant.tracks (dormant : start.Dormant index place node core) :
    Tracks index place start node core := by
  obtain ⟨hkeeps, hline, haway, hopen⟩ := dormant.idle.docket dormant.found
  refine ⟨hkeeps, dormant.session, dormant.wired, hopen dormant.started, ?_⟩
  rw [dormant.inactive]
  refine .calm (.started ?_ ?_ ?_ ?_) dormant.off
  · simp [Docket.queued, hline]
  · simp [Docket.called, haway]
  · simp [Docket.browsing, Configuration.docket, Platform.docket, dormant.unopened]
  · simp [Docket.browsing, Configuration.docket, Platform.docket, dormant.unopened]

theorem Course.tracks (quiet : surroundings.Quiet) (dormant : start.Dormant index place node core)
    (course : Course surroundings start past now)
    (undisturbed : ∀ moment ∈ past, moment.Undisturbed surroundings index place)
    (unclosed : ∀ moment ∈ past, moment.closes place = false)
    (unrestarted : ∀ moment ∈ past, moment.restarts index place = false) :
    ∃ node core, Tracks index place now node core := by
  induction course with
  | start => exact ⟨node, core, dormant.tracks⟩
  | step _ step ih =>
      obtain ⟨node, core, htracks⟩ := ih
        (fun moment hmem => undisturbed moment (List.mem_append_left _ hmem))
        (fun moment hmem => unclosed moment (List.mem_append_left _ hmem))
        (fun moment hmem => unrestarted moment (List.mem_append_left _ hmem))
      exact htracks.step step quiet (undisturbed _ (by simp)) (unclosed _ (by simp))
        (unrestarted _ (by simp))

/-- When nothing is unfinished, a browser is open for an active session and for no other. -/
theorem Tracks.browsing (h : Tracks index place now node core)
    (settled : now.Settled index place core) :
    (core.browsers.lookup (.member index)).isSome = node.core.active := by
  obtain ⟨hoff, hqueued, hcalled⟩ := settled
  have hphase := h.phase
  generalize now.agenda = agenda at hphase hoff
  generalize hactive : node.core.active = active at hphase
  have hpending {answer : Option Response}
      (pends : (now.docket place core).Pends (.member index) answer) : False := by
    cases hcalled.symm.trans pends.asked
  -- In every phase but the first an affair waits, or something about a start or an end is on its
  -- way.
  cases hphase with
  | calm agrees =>
      rw [Docket.Agrees, hqueued, hcalled] at agrees
      exact agrees.settled
  | opening _ pends | replied _ _ pends | resuming pends => exact (hpending pends).elim
  | @telling _ _ _ notice ends =>
      have htold := hoff (.notify (.member index) (.browse notice)) (by simp)
      simp [Work.stirs, ends] at htold
  | hearing ends => simp [Unstirred, Work.stirs, ends] at hoff
  | _ => simp [Unstirred, Work.stirs] at hoff

theorem Tracks.concord (h : Tracks index place now node core)
    (settled : now.Settled index place core) : Concord index node.core core := by
  have hbrowsing := h.browsing settled
  have hstarted : core.started = true := h.opened.started
  refine ⟨hbrowsing, fun hactive => ⟨?_, fun hopen => ?_, ?_⟩, fun hinactive hopen type =>
    ⟨?_, fun hformed => ?_⟩⟩
  · simp [BrowseSession.stop, hactive]
  · simp [BrowseSession.close, hactive, hopen]
  · simp [handle, submitOrRaise, hstarted]
  · simp [BrowseSession.start, hinactive, hopen]
  · rw [hinactive] at hbrowsing
    simp [handle, requestDiscover, submitOrRaise, hbrowsing, hformed, hstarted]

/-- As long as a session never starts again before all its stops are finished, it is in concord with
its platform whenever no start or stop of its is unfinished. Until then it may be started, stopped
and closed at any moment, and the network may fail to make a browser or to cancel one, and take its
time to cancel. -/
theorem settled_session_in_concord {first : BrowseNode} {opened : Mdns.Platform}
    (quiet : surroundings.Quiet) (dormant : start.Dormant index place first opened)
    (course : Course surroundings start past now)
    (undisturbed : ∀ moment ∈ past, moment.Undisturbed surroundings index place)
    (unclosed : ∀ moment ∈ past, moment.closes place = false)
    (unrestarted : ∀ moment ∈ past, moment.restarts index place = false) :
    ∃ node core, now.world.browsers[index]? = some node ∧ node.platform = place ∧
      now.world.platforms[place]? = some (.mdns core) ∧
      (now.Settled index place core → Concord index node.core core) := by
  obtain ⟨node, core, htracks⟩ := course.tracks quiet dormant undisturbed unclosed unrestarted
  exact ⟨node, core, htracks.session, htracks.wired, htracks.found, htracks.concord⟩

end

end Configuration

/-- Surroundings that say at once whether a browser was made, as a list of answers has it, and do
nothing else. -/
def Surroundings.browsable : Surroundings ι (List Response) where
  act _ _ answers := (answers, [])
  answer
    | .network place ticket (.browse _), _, answers =>
        (answers.tail, [.perform (.platform place (.reply ticket (answers.headD .done)))])
    | _, _, answers => (answers, [])

theorem Surroundings.browsable_quiet : (browsable (ι := ι)).Quiet where
  log _ _ _ := rfl
  startTimer _ _ _ _ _ := rfl
  cancelTimer _ _ _ _ := rfl

namespace Configuration

/-- A session over a platform of its own that is started, the answers of the network to whether it
made a browser, and what is to be asked of session and platform. -/
def browser (answers : List Response) (operations : List Operation) :
    Configuration ι (List Response) where
  world := (World.addBrowse 0 0 0 (.outside 0) {
    registries := [{}]
    queues := [{ platform := 0, registry := 0, core := {} }]
    platforms := [.mdns {
      host := { ownName := "host", ownAddress := .ok "127.0.0.1" }, timeout := 3000
      started := true }] }).2
  around := answers
  agenda := operations.map Operation.work

theorem browser_idle (answers : List Response) (operations : List Operation) :
    (browser (ι := ι) answers operations).Idle 0 :=
  ⟨_, rfl, rfl, rfl, rfl, fun _ => Operation.not_job_of_mem⟩

theorem browser_dormant (answers : List Response) {operations : List Operation}
    (off : Unstirred (ι := ι) 0 0 (operations.map Operation.work)) :
    ∃ node core, (browser (ι := ι) answers operations).Dormant 0 0 node core :=
  ⟨_, _, browser_idle answers operations, rfl, rfl, rfl, rfl, rfl, rfl, off⟩

theorem settled_of_idle {now : Configuration ι σ} {place : Nat} {core : Mdns.Platform}
    (hagenda : now.agenda = []) (hready : core.ready = []) (hwaiting : core.waiting = [])
    (index : Nat) : now.Settled index place core := by
  refine ⟨by simp [Unstirred, hagenda], ?_, ?_⟩
  · simp [Docket.queued, docket, Platform.docket, Platform.line, hagenda, hready]
  · simp [Docket.called, docket, Platform.docket, Platform.away, hagenda, hready, hwaiting]

/-- Where there is one platform, nobody disturbs it and its session. -/
theorem undisturbed_of_one {now : Configuration ι (List Response)}
    (hplatforms : now.world.platforms.length = 1) (index : Nat) :
    now.Undisturbed .browsable index 0 where
  moves := by
    intro move hmem
    unfold moves at hmem
    split at hmem
    · simp only [Surroundings.browsable] at hmem
      split at hmem
      · obtain rfl := List.mem_singleton.mp hmem
        rfl
      · cases hmem
    · cases hmem
    · cases hmem
  silent := by
    intro other hother task core hdoing
    obtain ⟨_, _, hfound⟩ := agenda_of_doing hdoing
    have hlt := (List.getElem?_eq_some_iff.mp hfound).1
    omega
  prompt := by
    intro ticket type rest hagenda
    exact ⟨now.around.headD .done, by simp [moves, hagenda, Surroundings.browsable]⟩

/-- The network fails to make a browser, makes the next one, takes its time to cancel that one, and
makes a third. The session is stopped twice in a row, and starts again when it heard of both. -/
theorem settled_session_in_concord_of_renewed :
    let start : Configuration Empty (List Response) :=
      browser [.failed (.system "no socket"), .done, .done] [
        .browse 0 (.start "_ipp._tcp"), .platform 0 .turn, .platform 0 .turn,
        .browse 0 (.start "_ipp._tcp"), .platform 0 .turn, .platform 0 .turn, .browse 0 .stop,
        .platform 0 .turn, .platform 0 .turn, .browse 0 .stop, .platform 0 (.wake 2 .done),
        .platform 0 .turn, .platform 0 .turn, .platform 0 .turn,
        .browse 0 (.start "_ipp._tcp"), .platform 0 .turn, .platform 0 .turn]
    let now := run .browsable 89 start
    ∃ node core, now.world.browsers[0]? = some node ∧
      now.world.platforms[0]? = some (.mdns core) ∧ core.browsers.map (·.2.number) = [1] ∧
      now.Settled 0 0 core ∧ Concord 0 node.core core := by
  intro start now
  let past := trail .browsable 89 start
  have hone : ∀ moment ∈ past, moment.world.platforms.length = 1 := by decide +kernel
  have hunclosed : ∀ moment ∈ past, moment.closes 0 = false := by decide +kernel
  have hunrestarted : ∀ moment ∈ past, moment.restarts 0 0 = false := by decide +kernel
  have hdormant : ∃ node core, start.Dormant 0 0 node core :=
    browser_dormant _ (by simp [Unstirred, Operation.work, Work.stirs])
  have hagenda : now.agenda.isEmpty := by decide +kernel
  have hplatform : (now.world.mdns? 0).map (fun core =>
      (core.ready, core.waiting, core.browsers.map (·.2.number))) = some ([], [], [1]) := by
    decide +kernel
  have hcourse : Course .browsable start past now := course_run .browsable 89 start
  obtain ⟨_, _, hdormant⟩ := hdormant
  obtain ⟨node, core, hsession, -, hfound, hconcord⟩ :=
    settled_session_in_concord Surroundings.browsable_quiet hdormant hcourse
      (fun moment hmem => undisturbed_of_one (hone moment hmem) 0) hunclosed hunrestarted
  rw [World.mdns?_eq_some hfound, Option.map_some, Option.some.injEq, Prod.mk.injEq,
    Prod.mk.injEq] at hplatform
  obtain ⟨hready, hwaiting, hbrowsers⟩ := hplatform
  have hsettled : now.Settled 0 0 core :=
    settled_of_idle (List.isEmpty_iff.mp hagenda) hready hwaiting 0
  exact ⟨node, core, hsession, hfound, hbrowsers, hsettled, hconcord hsettled⟩

/-- A session that browses is stopped three times in a row, and starts again when it heard that the
second stop found nothing to stop. The other two stops come to their ends after that, and each of
them leaves the session inactive. Then nothing is under way any more and the new browser is open for
ever: stopping or closing the session does not reach it, and no other start is taken on. -/
theorem restarted_too_early_browses_on :
    let start : Configuration Empty (List Response) := browser [] [
      .browse 0 (.start "_ipp._tcp"), .platform 0 .turn, .platform 0 .turn, .browse 0 .stop,
      .browse 0 .stop, .browse 0 .stop, .platform 0 .turn, .platform 0 .turn, .platform 0 .turn,
      .platform 0 .turn, .platform 0 .turn, .browse 0 (.start "_ipp._tcp"), .platform 0 .turn,
      .platform 0 .turn, .platform 0 (.wake 1 .done), .platform 0 .turn, .platform 0 .turn]
    let now := run .browsable 83 start
    ∃ node core, now.world.browsers[0]? = some node ∧
      now.world.platforms[0]? = some (.mdns core) ∧ core.started = true ∧
      now.Settled 0 0 core ∧ (core.browsers.lookup (.member 0)).isSome ∧
      node.core.active = false ∧ node.core.stop = (node.core, [BrowseSession.report false false]) ∧
      node.core.close = (node.core, [.own .closing]) ∧
      core.handle (.member 0) (.discover "_ipp._tcp") =
        (core, [.raise (.invalidService "Listener is already browsing")]) := by
  intro start now
  have hcourse : Course .browsable start (trail .browsable 83 start) now :=
    course_run .browsable 83 start
  obtain ⟨core, haccounts⟩ := hcourse.accounts (browser_idle _ _)
  have hagenda : now.agenda.isEmpty := by decide +kernel
  have hsession : now.world.browsers[0]?.map (fun node => (node.core.active, node.core.closed)) =
      some (false, false) := by decide +kernel
  have hplatform : (now.world.mdns? 0).map (fun core =>
      (core.ready, core.waiting, core.browsers)) =
        some ([], [], [(.member 0, { number := 1, type := "_ipp._tcp" })]) := by
    decide +kernel
  have hstarted : (now.world.mdns? 0).any (·.started) := by decide +kernel
  obtain ⟨node, hfound, hnode⟩ := Option.map_eq_some_iff.mp hsession
  obtain ⟨hinactive, hopen⟩ := Prod.mk.inj hnode
  have hcore := World.mdns?_eq_some haccounts.found
  rw [hcore, Option.map_some, Option.some.injEq, Prod.mk.injEq, Prod.mk.injEq] at hplatform
  rw [hcore, Option.any_some] at hstarted
  obtain ⟨hready, hwaiting, hbrowsers⟩ := hplatform
  refine ⟨node, core, hfound, haccounts.found, hstarted,
    settled_of_idle (List.isEmpty_iff.mp hagenda) hready hwaiting 0, ?_, hinactive, ?_, ?_, ?_⟩
  · simp [hbrowsers]
  · simp [BrowseSession.stop, hinactive]
  · simp [BrowseSession.close, hinactive, hopen]
  · simp [handle, requestDiscover, hbrowsers]

end Configuration

end ServiceDiscovery
