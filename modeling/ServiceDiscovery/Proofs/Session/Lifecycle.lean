import ServiceDiscovery.Proofs.Machine.Shelter
import ServiceDiscovery.Proofs.Session.Standing

/-!
The life cycle of a session. The calls by which it asks its platform to start may nest, since a
channel that hears from the session may start it again, and each call may return or raise long after
another one was made. What carries all of this is who has heard what: a call during which the
platform said nothing is the last one that was made, and the session is still active because of it.
-/

namespace ServiceDiscovery

variable {ι σ : Type}

open Standing

section

variable {acts before since : List Act} {act : Act}

/-- The calls to the platform that are under way, the latest first: has the platform said anything
since the call was made? -/
def calls (acts : List Act) : List Bool :=
  acts.foldl (fun flags act =>
    match act with
    | .asked => false :: flags
    | .returned | .raised => flags.tail
    | .confirmed | .ended | .told => flags.map fun _ => true
    | .closed => flags) []

/-- After a call to the platform, either that call raised or the platform said that what it started
came to an end. -/
def Freed (since : List Act) : Prop :=
  .ended ∈ since ∨
    ∃ before after, since = before ++ .raised :: after ∧ .returned ∉ before ∧ .raised ∉ before

theorem calls_append (acts : List Act) (act : Act) : calls (acts ++ [act]) =
    match act with
    | .asked => false :: calls acts
    | .returned | .raised => (calls acts).tail
    | .confirmed | .ended | .told => (calls acts).map fun _ => true
    | .closed => calls acts := by
  simp only [calls, List.foldl_append, List.foldl_cons, List.foldl_nil]

theorem Freed.append (h : Freed since) (act : Act) : Freed (since ++ [act]) := by
  rcases h with hended | ⟨before, after, rfl, hreturned, hraised⟩
  · exact Or.inl (List.mem_append_left _ hended)
  · exact Or.inr ⟨before, after ++ [act], by simp, hreturned, hraised⟩

/-- Where a longer history is split: right before its last act, or where it was split before. -/
theorem split_of_append {last split : Act} (h : acts ++ [last] = before ++ split :: since) :
    (before = acts ∧ split = last ∧ since = []) ∨
      ∃ less, since = less ++ [last] ∧ acts = before ++ split :: less := by
  rcases List.eq_nil_or_concat since with rfl | ⟨less, final, rfl⟩
  · obtain ⟨hbefore, hlast⟩ := List.append_inj' h rfl
    exact Or.inl ⟨hbefore.symm, (List.singleton_inj.mp hlast).symm, rfl⟩
  · rw [List.concat_eq_append, ← List.cons_append, ← List.append_assoc] at h
    obtain ⟨hacts, hlast⟩ := List.append_inj' h rfl
    exact Or.inr ⟨less, by rw [List.concat_eq_append, List.singleton_inj.mp hlast], hacts⟩

/-- What came after the last call is the same however it is found. -/
theorem since_unique {other later : List Act}
    (h : before ++ .asked :: since = other ++ .asked :: later) (hsince : .asked ∉ since)
    (hlater : .asked ∉ later) : since = later := by
  rcases List.append_eq_append_iff.mp h with ⟨more, -, hright⟩ | ⟨more, -, hright⟩
  · cases more with
    | nil =>
        rw [List.nil_append] at hright
        exact (List.cons.inj hright).2
    | cons first rest =>
        obtain ⟨-, rfl⟩ := List.cons.inj hright
        exact absurd (List.mem_append_right _ List.mem_cons_self) hsince
  · cases more with
    | nil =>
        rw [List.nil_append] at hright
        exact (List.cons.inj hright).2.symm
    | cons first rest =>
        obtain ⟨-, rfl⟩ := List.cons.inj hright
        exact absurd (List.mem_append_right _ List.mem_cons_self) hlater

end

/-- Between any two calls the session became free, and after it was closed there is no call. -/
structure Spaced (acts : List Act) : Prop where
  freed : ∀ before between after,
    acts = before ++ .asked :: (between ++ .asked :: after) → .asked ∉ between → Freed between
  silent : ∀ before after, acts = before ++ .closed :: after → .asked ∉ after

/-- The session may make a call: the last one is over, and all that are under way have heard from
the platform. -/
structure Ready (acts : List Act) : Prop where
  freed : ∀ before since, acts = before ++ .asked :: since → .asked ∉ since → Freed since
  heard : ∀ flag ∈ calls acts, flag = true

/-- A session stands as its history says. -/
structure Sound (acts : List Act) (s : Standing) : Prop where
  active_of_running : s.running = true → s.active = true
  known_of_active : s.active = true → s.known = true
  closed_of_act : .closed ∈ acts → s.closed = true
  spaced : Spaced acts
  /-- Only the last call may have heard nothing. -/
  heard : ∀ flag ∈ (calls acts).tail, flag = true
  /-- As long as it has not, it is the last one, and the session is active because of it. -/
  unheard : (calls acts).head? = some false → s.active = true ∧ s.running = false ∧
    ∃ before since, acts = before ++ .asked :: since ∧ .asked ∉ since ∧ .returned ∉ since ∧
      .raised ∉ since
  /-- An inactive session is free again. -/
  freed : s.active = false →
    ∀ before since, acts = before ++ .asked :: since → .asked ∉ since → Freed since

section

variable {acts : List Act} {s : Standing} {act : Act}

theorem Spaced.append (spaced : Spaced acts) (hact : act ≠ .asked) : Spaced (acts ++ [act]) where
  freed := by
    intro before between after heq hbetween
    rw [← List.cons_append, ← List.append_assoc] at heq
    rcases split_of_append heq with ⟨-, hlast, -⟩ | ⟨less, -, hacts⟩
    · exact absurd hlast.symm hact
    · apply spaced.freed before between less _ hbetween
      rw [hacts, List.append_assoc, List.cons_append]
  silent := by
    intro before after heq hmem
    rcases split_of_append heq with ⟨-, -, rfl⟩ | ⟨less, rfl, hacts⟩
    · cases hmem
    · rcases List.mem_append.mp hmem with hold | hlast
      · exact spaced.silent before less hacts hold
      · exact hact (List.mem_singleton.mp hlast).symm

theorem Sound.ready (sound : Sound acts s) (idle : s.active = false) : Ready acts where
  freed := sound.freed idle
  heard := by
    intro flag hmem
    cases hcalls : calls acts with
    | nil =>
        rw [hcalls] at hmem
        cases hmem
    | cons first rest =>
        have hfirst : first = true := by
          cases first with
          | true => rfl
          | false =>
              have hactive := (sound.unheard (by simp [hcalls])).1
              simp [idle] at hactive
        rw [hcalls] at hmem
        rcases List.mem_cons.mp hmem with rfl | hrest
        · exact hfirst
        · apply sound.heard
          rw [hcalls]
          exact hrest

/-- A session that is free may make a call, and it is active from then on. -/
theorem Sound.began (sound : Sound acts s) (idle : s.active = false) :
    Sound acts { s with known := true, running := false, active := true } where
  active_of_running := by simp
  known_of_active := by simp
  closed_of_act := sound.closed_of_act
  spaced := sound.spaced
  heard := sound.heard
  unheard := by
    intro hhead
    have hflag := (sound.ready idle).heard false (List.mem_of_head? hhead)
    cases hflag
  freed := by simp

/-- The call is made. -/
theorem Sound.asked (sound : Sound acts s) (ready : Ready acts) (active : s.active = true)
    (rests : s.running = false) (unclosed : s.closed = false) :
    Sound (acts ++ [.asked]) s := by
  have hclosed : .closed ∉ acts := by
    intro hmem
    simp [sound.closed_of_act hmem] at unclosed
  constructor
  · exact sound.active_of_running
  · exact sound.known_of_active
  · intro hmem
    rcases List.mem_append.mp hmem with hold | hlast
    · exact absurd hold hclosed
    · cases List.mem_singleton.mp hlast
  · constructor
    · intro before between after heq hbetween
      rw [← List.cons_append, ← List.append_assoc] at heq
      rcases split_of_append heq with ⟨hacts, -, -⟩ | ⟨less, -, hacts⟩
      · exact ready.freed before between hacts.symm hbetween
      · apply sound.spaced.freed before between less _ hbetween
        rw [hacts, List.append_assoc, List.cons_append]
    · intro before after heq
      rcases split_of_append heq with ⟨-, hlast, -⟩ | ⟨less, -, hacts⟩
      · cases hlast
      · refine absurd ?_ hclosed
        rw [hacts]
        exact List.mem_append_right _ List.mem_cons_self
  · rw [calls_append]
    exact ready.heard
  · intro _
    exact ⟨active, rests, acts, [], rfl, by simp, by simp, by simp⟩
  · intro idle
    simp [active] at idle

/-- What else happens, apart from closing: the rest follows from what it does to the calls and to
the session. -/
theorem Sound.append {later : Standing} (sound : Sound acts s)
    (hact : act ≠ .asked ∧ act ≠ .closed)
    (active_of_running : later.running = true → later.active = true)
    (known_of_active : later.active = true → later.known = true)
    (closed : later.closed = s.closed)
    (heard : ∀ flag ∈ calls (acts ++ [act]), flag = true)
    (freed : later.active = false → s.active = true →
      ∀ before since, acts = before ++ .asked :: since → .asked ∉ since →
        Freed (since ++ [act])) : Sound (acts ++ [act]) later where
  active_of_running := active_of_running
  known_of_active := known_of_active
  closed_of_act := by
    intro hmem
    rw [closed]
    rcases List.mem_append.mp hmem with hold | hlast
    · exact sound.closed_of_act hold
    · exact absurd (List.mem_singleton.mp hlast).symm hact.2
  spaced := sound.spaced.append hact.1
  heard := fun flag hmem => heard flag (List.mem_of_mem_tail hmem)
  unheard := by
    intro hhead
    cases heard false (List.mem_of_head? hhead)
  freed := by
    intro idle before since heq hsince
    rcases split_of_append heq with ⟨-, hlast, -⟩ | ⟨less, rfl, hacts⟩
    · exact absurd hlast.symm hact.1
    · have hless : .asked ∉ less := fun hmem => hsince (List.mem_append_left _ hmem)
      cases hactive : s.active with
      | true => exact freed idle hactive before less hacts hless
      | false => exact (sound.freed hactive before less hacts hless).append act

/-- A session that is closed goes on as it was otherwise. -/
theorem Sound.closed (sound : Sound acts s) :
    Sound (acts ++ [.closed]) { s with closed := true } where
  active_of_running := sound.active_of_running
  known_of_active := sound.known_of_active
  closed_of_act := fun _ => rfl
  spaced := sound.spaced.append (by simp)
  heard := by
    rw [calls_append]
    exact sound.heard
  unheard := by
    rw [calls_append]
    intro hhead
    obtain ⟨active, rests, before, since, rfl, hasked, hreturned, hraised⟩ := sound.unheard hhead
    exact ⟨active, rests, before, since ++ [.closed], by simp, by simpa using hasked,
      by simpa using hreturned, by simpa using hraised⟩
  freed := by
    intro idle before since heq hsince
    rcases split_of_append heq with ⟨-, hlast, -⟩ | ⟨less, rfl, hacts⟩
    · cases hlast
    · have hless : .asked ∉ less := fun hmem => hsince (List.mem_append_left _ hmem)
      exact (sound.freed idle before less hacts hless).append .closed

/-- A call that has heard nothing raises: the session is inactive and free. -/
theorem Sound.refused (sound : Sound acts s) (hcall : (calls acts).head? = some false) :
    Sound (acts ++ [.raised]) { s with active := false } := by
  obtain ⟨-, rests, before, since, hacts, hasked, hreturned, hraised⟩ := sound.unheard hcall
  apply sound.append (by simp)
  · intro running
    simp [rests] at running
  · simp
  · rfl
  · rw [calls_append]
    exact sound.heard
  · intro _ _ other later hother hlater
    have hsame : since = later := since_unique (hacts.symm.trans hother) hasked hlater
    exact Or.inr ⟨later, [], rfl, hsame ▸ hreturned, hsame ▸ hraised⟩

/-- A session goes on as its history says with every turn that it takes, if no start is confirmed
that it did not ask for, and no call raises that has heard anything. -/
theorem Sound.turns {kind : SessionKind} {index : Nat} {act : Option Act} {later : Standing}
    {tasks : List (Work ι)} (sound : Sound acts s) (turns : Turns kind index s act later tasks)
    (confirms : act = some .confirmed → s.active = true)
    (hushed : act = some .raised → (calls acts).head? = some false) :
    Sound (acts ++ act.toList) later := by
  have hheard (act : Act) (h : calls (acts ++ [act]) = (calls acts).map fun _ => true) :
      ∀ flag ∈ calls (acts ++ [act]), flag = true := by
    intro flag hmem
    rw [h] at hmem
    obtain ⟨_, _, rfl⟩ := List.mem_map.mp hmem
    rfl
  cases turns with
  | rested hact tells =>
      rcases hact with rfl | rfl | rfl
      · simpa using sound
      · apply sound.append (by simp) sound.active_of_running sound.known_of_active rfl
        · rw [calls_append]
          exact sound.heard
        · intro idle active
          cases idle.symm.trans active
      · apply sound.append (by simp) sound.active_of_running sound.known_of_active rfl
        · exact hheard .told (calls_append acts .told)
        · intro idle active
          cases idle.symm.trans active
  | began unclosed idle hasks hwaiting => simpa using sound.began idle
  | rejected active tells => simpa using sound
  | unneeded idle tells => simpa using sound
  | refused hreport tells => exact sound.refused (hushed rfl)
  | confirmed known tells =>
      have hactive := confirms rfl
      apply sound.append (by simp)
      · intro _
        exact hactive
      · exact sound.known_of_active
      · rfl
      · exact hheard .confirmed (calls_append acts .confirmed)
      · intro idle active
        cases idle.symm.trans active
  | strayed unknown tells =>
      have hknown := sound.known_of_active (confirms rfl)
      simp [unknown] at hknown
  | ended known tells =>
      apply sound.append (by simp)
      · simp
      · simp
      · rfl
      · exact hheard .ended (calls_append acts .ended)
      · intro _ _ before since _ _
        exact Or.inl (List.mem_append_right _ (List.mem_singleton.mpr rfl))
  | faltered tells =>
      apply sound.append (by simp)
      · simp
      · exact sound.known_of_active
      · rfl
      · exact hheard .told (calls_append acts .told)
      · intro idle active
        cases idle.symm.trans active
  | closed tells => exact sound.closed

end

/-- What a session reports when it takes a turn: whether it runs now, behind log lines only, or
nothing if it runs or not as it did. -/
inductive Standing.Reports (kind : SessionKind) (s later : Standing) : List (Work ι) → Prop where
  | nothing {tasks : List (Work ι)} (same : later.running = s.running)
      (hushed : ∀ work ∈ tasks, work.reports = false) : Reports kind s later tasks
  | state {lines others : List (Work ι)} (error : Bool)
      (hlines : ∀ line ∈ lines, ∃ record, line = .call (.log record))
      (hushed : ∀ work ∈ others, work.reports = false) :
      Reports kind s later (lines ++
        .registry s.registry (.call (.deliver s.token (kind.state later.running error))) :: others)

theorem Sound.reports {acts : List Act} {s later : Standing} {kind : SessionKind} {index : Nat}
    {act : Option Act} {tasks : List (Work ι)} (sound : Sound acts s)
    (turns : Turns kind index s act later tasks)
    (confirms : act = some .confirmed → s.active = true)
    (hushed : act = some .raised → (calls acts).head? = some false) :
    Reports kind s later tasks := by
  have hnothing (tells : Says kind index s none tasks) (same : later.running = s.running) :
      Reports kind s later tasks := by
    cases tells with
    | nothing plain => exact .nothing same fun work hmem => (plain work hmem).reports
  have hstate {running : Bool} (tells : Says kind index s (some running) tasks)
      (hrunning : later.running = running) : Reports kind s later tasks := by
    subst hrunning
    cases tells with
    | state _ error hlines plain =>
        exact .state error hlines fun work hmem => (plain work hmem).reports
  have hidle (idle : s.active = false) : s.running = false := by
    apply Bool.eq_false_iff.mpr
    intro running
    cases idle.symm.trans (sound.active_of_running running)
  cases turns with
  | rested hact tells => exact hnothing tells rfl
  | began unclosed idle hasks hwaiting =>
      apply Reports.nothing (hidle idle).symm
      intro work hmem
      rcases List.mem_cons.mp hmem with rfl | hwaiter
      · rfl
      · rw [List.mem_singleton.mp hwaiter]
        rcases Work.eq_of_isOf (Work.isOf_of_waits hwaiting) with
          ⟨-, task, rfl⟩ | ⟨-, task, rfl⟩
        · rfl
        · rfl
  | rejected active tells => exact hstate tells rfl
  | unneeded idle tells => exact hstate tells (hidle idle)
  | @refused report _ hreport tells =>
      cases report with
      | none => exact hnothing tells rfl
      | some running =>
          obtain rfl := hreport running rfl
          exact hstate tells (sound.unheard (hushed rfl)).2.1
  | confirmed known tells => exact hstate tells rfl
  | strayed unknown tells =>
      have hknown := sound.known_of_active (confirms rfl)
      cases unknown.symm.trans hknown
  | ended known tells => exact hstate tells rfl
  | faltered tells => exact hstate tells rfl
  | closed tells => exact hnothing tells rfl

/-- A turn begins with a request to the platform and the task that waits for it, or else nobody asks
or waits because of it. -/
theorem Standing.Turns.began_or_calm {kind : SessionKind} {index : Nat} {s later : Standing}
    {act : Option Act} {tasks : List (Work ι)} (turns : Turns kind index s act later tasks) :
    (∃ platform request waiting, act = none ∧
        tasks = [.request platform request (.member index), waiting] ∧
        (Work.request (ι := ι) platform request (.member index)).asks kind index = true ∧
        waiting.waits kind index = true ∧ s.closed = false ∧ s.active = false ∧
        later = { s with known := true, running := false, active := true }) ∨
      ∀ work ∈ tasks, work.asks kind index = false ∧ work.waits kind index = false := by
  cases turns with
  | began unclosed idle hasks hwaiting =>
      exact Or.inl ⟨_, _, _, rfl, rfl, hasks, hwaiting, unclosed, idle, rfl⟩
  | rested _ tells | rejected _ tells | unneeded _ tells | refused _ tells | confirmed _ tells
  | strayed _ tells | ended _ tells | faltered tells | closed tells => exact Or.inr tells.calm

theorem Standing.Turns.act_ne_asked {kind : SessionKind} {index : Nat} {s later : Standing}
    {act : Option Act} {tasks : List (Work ι)} (turns : Turns kind index s act later tasks) :
    act ≠ some .asked := by
  cases turns with
  | rested hact tells =>
      rintro rfl
      simp at hact
  | _ => simp

/-- As many calls come back as are said to. -/
theorem length_calls {act : Option Act} (hact : act ≠ some .asked) (acts : List Act) :
    (calls (acts ++ act.toList)).length = (calls acts).length - Act.leaves act := by
  cases act with
  | none => simp [Act.leaves]
  | some act =>
      rw [Option.toList_some, calls_append]
      cases act with
      | asked => exact absurd rfl hact
      | returned | raised => simp [Act.leaves]
      | confirmed | ended | told => simp [Act.leaves]
      | closed => rfl

theorem BrowseSession.start_rejected (type : Text.Points) (session : BrowseSession)
    (active : session.active = true) (unclosed : session.closed = false) :
    ∃ record, session.start type = (session, [.log record, report session.running true]) := by
  unfold start
  rw [if_neg (Bool.eq_false_iff.mp unclosed), if_pos active]
  exact ⟨_, rfl⟩

theorem PublicationSession.register_rejected (name type : Text.Points) (port : Value)
    (txt : List (Value × Value)) (session : PublicationSession) (active : session.active = true)
    (unclosed : session.closed = false) :
    ∃ record, session.register name type port txt =
      (session, [.log record, report session.running true]) := by
  unfold register
  rw [if_neg (Bool.eq_false_iff.mp unclosed), if_pos active]
  exact ⟨_, rfl⟩

/-- Is the work a call that starts the session? -/
def Work.starts (kind : SessionKind) (index : Nat) : Work ι → Bool
  | .browse place (.call (.start _)) => kind = .browse && place = index
  | .publication place (.call (.register _ _ _ _)) => kind = .publication && place = index
  | _ => false

namespace Configuration

variable {surroundings : Surroundings ι σ} {start now after : Configuration ι σ}
  {past : List (Configuration ι σ)} {kind : SessionKind} {index : Nat} {s : Standing}

/-- What happened to a session, in order. -/
def acts (kind : SessionKind) (index : Nat) (past : List (Configuration ι σ)) : List Act :=
  past.filterMap (act? kind index)

/-- The platform of a session says that it started only while the session is active, and a call to
it that raises has said nothing before. -/
structure Fair (kind : SessionKind) (index : Nat) (past : List (Configuration ι σ)) : Prop where
  confirms : ∀ moment ∈ past, moment.act? kind index = some .confirmed →
    (moment.world.standing? kind index).all (·.active) = true
  hushed : ∀ n < past.length, past[n]?.bind (act? kind index) = some .raised →
    (calls (acts kind index (past.take n))).head? ≠ some true

/-- Where the calls of a session are: all of them wait on the agenda, and one may be about to be
made. -/
inductive Placing (kind : SessionKind) (index : Nat) (acts : List Act) (s : Standing) :
    List (Work ι) → Prop where
  | calm {agenda : List (Work ι)} (unasked : ∀ work ∈ agenda, work.asks kind index = false)
      (waiting : agenda.countP (·.waits kind index) = (calls acts).length) :
      Placing kind index acts s agenda
  | asking {work : Work ι} {rest : List (Work ι)} (hasks : work.asks kind index = true)
      (unasked : ∀ other ∈ rest, other.asks kind index = false)
      (waiting : (work :: rest).countP (·.waits kind index) = (calls acts).length + 1)
      (ready : Ready acts) (active : s.active = true) (rests : s.running = false)
      (unclosed : s.closed = false) : Placing kind index acts s (work :: rest)

/-- A session stands as its history says, and its calls are where they belong. -/
structure Lives (kind : SessionKind) (index : Nat) (acts : List Act) (s : Standing)
    (now : Configuration ι σ) : Prop where
  found : now.world.standing? kind index = some s
  sound : Sound acts s
  place : Placing kind index acts s now.agenda

theorem acts_append (past : List (Configuration ι σ)) (now : Configuration ι σ) :
    acts kind index (past ++ [now]) = acts kind index past ++ (now.act? kind index).toList := by
  simp only [acts, List.filterMap_append]
  cases h : now.act? kind index <;> simp [h]

/-- A session asks when what asks is in front. -/
theorem asks_of_act (h : now.act? kind index = some .asked) :
    ∃ work ∈ now.agenda, work.asks kind index = true := by
  unfold act? at h
  split at h
  · cases h
  · obtain ⟨task, -, hcaught⟩ := Option.bind_eq_some_iff.mp h
    exact absurd hcaught task.caught_ne_asked
  · rename_i work rest _ hagenda
    exact ⟨work, by simp [hagenda], work.asks_of_act h⟩

/-- A call that raises, and said nothing before, is the last one. -/
theorem Lives.unheard_of_raised {acts : List Act} (lives : now.Lives kind index acts s)
    (h : now.step surroundings = some after)
    (hushed : now.act? kind index = some .raised → (calls acts).head? ≠ some true)
    (hact : now.act? kind index = some .raised) : (calls acts).head? = some false := by
  have hsome : calls acts ≠ [] := by
    intro hnone
    obtain ⟨gone, kept, tasks, hagenda, -, -, hcount, -⟩ := step_meets h lives.found
    have hplace := lives.place
    generalize hall : now.agenda = agenda at hplace
    cases hplace with
    | calm unasked waiting =>
        rw [← hall, hagenda, List.countP_append, hcount, hact, hnone] at waiting
        simp only [Act.leaves, List.length_nil] at waiting
        omega
    | asking hasks =>
        obtain ⟨hforeign, -, platform, request, rfl⟩ := Work.of_asks hasks
        rw [act?_of_front hall (by simp)] at hact
        simp [Work.act?, hforeign, hasks] at hact
  have hfirst := hushed hact
  cases hcalls : calls acts with
  | nil => exact absurd hcalls hsome
  | cons first rest =>
      rw [hcalls] at hfirst
      cases first with
      | true => exact absurd rfl hfirst
      | false => rfl

/-- While no call is about to be made, a turn of the session may bring one about. -/
theorem Lives.of_calm {acts : List Act} (lives : now.Lives kind index acts s)
    (unasked : ∀ work ∈ now.agenda, work.asks kind index = false)
    (waiting : now.agenda.countP (·.waits kind index) = (calls acts).length)
    (h : now.step surroundings = some after)
    (confirms : now.act? kind index = some .confirmed → s.active = true)
    (hushed : now.act? kind index = some .raised → (calls acts).head? ≠ some true) :
    ∃ later, after.Lives kind index (acts ++ (now.act? kind index).toList) later := by
  obtain ⟨gone, kept, tasks, hagenda, -, hafter, hcount, hmeets⟩ := step_meets h lives.found
  have hnot : now.act? kind index ≠ some .asked := by
    intro hact
    obtain ⟨work, hmem, hasks⟩ := asks_of_act hact
    simp [unasked work hmem] at hasks
  have hkept : ∀ work ∈ kept, work.asks kind index = false := by
    intro work hmem
    apply unasked
    rw [hagenda]
    exact List.mem_append_right _ hmem
  rw [hagenda, List.countP_append, hcount] at waiting
  have hlength := length_calls hnot acts
  have hcalm (hquiet : ∀ work ∈ tasks, work.asks kind index = false ∧
      work.waits kind index = false) (later : Standing) :
      Placing kind index (acts ++ (now.act? kind index).toList) later after.agenda := by
    rw [hafter]
    apply Placing.calm
    · intro work hmem
      rcases List.mem_append.mp hmem with hnew | hold
      · exact (hquiet work hnew).1
      · exact hkept work hold
    · have hnone : tasks.countP (·.waits kind index) = 0 := by
        apply List.countP_eq_zero.mpr
        intro work hmem
        simp [(hquiet work hmem).2]
      rw [List.countP_append, hnone]
      omega
  cases hmeets with
  | passed found hact quiet =>
      have hnone : now.act? kind index = none := hact.resolve_right hnot
      refine ⟨s, found, ?_, hcalm quiet s⟩
      simpa [hnone] using lives.sound
  | @turned later found turns =>
      have hraised := lives.unheard_of_raised h hushed
      have hsound := lives.sound.turns turns confirms hraised
      refine ⟨later, found, hsound, ?_⟩
      rcases turns.began_or_calm with
        ⟨platform, request, waiter, hact, htasks, hasks, hwaits, unclosed, idle, rfl⟩ | hquiet
      · rw [hact] at waiting ⊢
        rw [hafter, htasks, Option.toList_none, List.append_nil]
        have hwaiter : waiter.asks kind index = false := by
          apply Bool.eq_false_iff.mpr
          intro hasks'
          have hown := Work.isOf_of_waits hwaits
          simp [(Work.of_asks hasks').1] at hown
        apply Placing.asking hasks
        · intro other hmem
          rcases List.mem_append.mp hmem with hnew | hold
          · obtain rfl := List.mem_singleton.mp hnew
            exact hwaiter
          · exact hkept other hold
        · have hrequest := Bool.eq_false_iff.mp (Work.of_asks hasks).2.1
          have hrest : ([waiter] ++ kept).countP (·.waits kind index) =
              kept.countP (·.waits kind index) + 1 := List.countP_cons_of_pos hwaits
          refine (List.countP_cons_of_neg hrequest).trans (hrest.trans ?_)
          simp only [Act.leaves] at waiting
          omega
        · exact lives.sound.ready idle
        · rfl
        · rfl
        · exact unclosed
      · exact hcalm hquiet later

theorem Lives.step {acts : List Act} (lives : now.Lives kind index acts s)
    (h : now.step surroundings = some after)
    (confirms : now.act? kind index = some .confirmed → s.active = true)
    (hushed : now.act? kind index = some .raised → (calls acts).head? ≠ some true) :
    ∃ later, after.Lives kind index (acts ++ (now.act? kind index).toList) later := by
  have hplace := lives.place
  generalize hagenda : now.agenda = agenda at hplace
  cases hplace with
  | calm unasked waiting =>
      subst hagenda
      exact lives.of_calm unasked waiting h confirms hushed
  | @asking work rest hasks unasked waiting ready active rests unclosed =>
      obtain ⟨hforeign, hnot, platform, request, rfl⟩ := Work.of_asks hasks
      have hact : now.act? kind index = some .asked := by
        rw [act?_of_front hagenda (by simp)]
        simp [Work.act?, hforeign, hasks]
      obtain ⟨gone, kept, tasks, hgone, hsome, hafter, hcount, hmeets⟩ := step_meets h lives.found
      rw [hact] at hcount hmeets ⊢
      rw [← hagenda, hgone, List.countP_append, hcount] at waiting
      cases hmeets with
      | turned found turns => exact absurd rfl turns.act_ne_asked
      | passed found _ quiet =>
          refine ⟨s, found, lives.sound.asked ready active rests unclosed, ?_⟩
          rw [hafter]
          apply Placing.calm
          · intro other hmem
            rcases List.mem_append.mp hmem with hnew | hold
            · exact (quiet other hnew).1
            · cases gone with
              | nil => exact absurd rfl hsome
              | cons first others =>
                  rw [hagenda, List.cons_append] at hgone
                  obtain ⟨-, hrest⟩ := List.cons.inj hgone
                  apply unasked
                  rw [hrest]
                  exact List.mem_append_right _ hold
          · have hnone : tasks.countP (·.waits kind index) = 0 := by
              apply List.countP_eq_zero.mpr
              intro other hmem
              simp [(quiet other hmem).2]
            have hcalls : calls (acts ++ (some Act.asked).toList) = false :: calls acts :=
              calls_append acts .asked
            rw [List.countP_append, hnone, hcalls, List.length_cons]
            simp only [Act.leaves] at waiting
            omega

/-- The life of a session that was not used so far. -/
theorem lives_of_unused (found : start.world.standing? kind index = some s)
    (unused : s.running = false ∧ s.active = false)
    (untouched : ∀ work ∈ start.agenda,
      work.asks kind index = false ∧ work.waits kind index = false) :
    start.Lives kind index [] s where
  found := found
  sound := by
    constructor
    · intro running
      cases unused.1.symm.trans running
    · intro active
      cases unused.2.symm.trans active
    · simp
    · constructor
      · intro before between after heq
        simp at heq
      · intro before after heq
        simp at heq
    · simp [calls]
    · simp [calls]
    · intro _ before since heq
      simp at heq
  place := by
    apply Placing.calm
    · intro work hmem
      exact (untouched work hmem).1
    · apply List.countP_eq_zero.mpr
      intro work hmem
      simp [(untouched work hmem).2]

theorem Fair.init (fair : Fair kind index (past ++ [now])) : Fair kind index past where
  confirms := fun moment hmem => fair.confirms moment (List.mem_append_left _ hmem)
  hushed := by
    intro n hlt hraised
    have hhushed := fair.hushed n (by rw [List.length_append]; omega)
    rw [List.getElem?_append_left hlt, List.take_append_of_le_length (by omega)] at hhushed
    exact hhushed hraised

/-- What the last moment of a fair past says of the session. -/
theorem Fair.last {acts : List Act} (fair : Fair kind index (past ++ [now]))
    (lives : now.Lives kind index acts s) :
    (now.act? kind index = some .confirmed → s.active = true) ∧
      (now.act? kind index = some .raised →
        (calls (Configuration.acts kind index past)).head? ≠ some true) := by
  constructor
  · intro hact
    have hactive := fair.confirms now (by simp) hact
    rw [lives.found] at hactive
    exact hactive
  · intro hact
    have hhushed := fair.hushed past.length (by simp)
    rw [List.getElem?_concat_length, List.take_left, Option.bind_some] at hhushed
    exact hhushed hact

theorem Course.lives (course : Course surroundings start past now) (fair : Fair kind index past)
    (begins : start.Lives kind index [] s) :
    ∃ later, now.Lives kind index (acts kind index past) later := by
  induction course with
  | start => exact ⟨s, begins⟩
  | step course step ih =>
      obtain ⟨later, hlives⟩ := ih fair.init
      obtain ⟨confirms, hushed⟩ := fair.last hlives
      rw [acts_append]
      exact hlives.step step confirms hushed

/-- A start is rejected while the session is active. It changes nothing and asks the platform for
nothing: a line is logged, and how the session stands is reported. -/
theorem step_rejected {work : Work ι} {rest : List (Work ι)}
    (found : now.world.standing? kind index = some s) (active : s.active = true)
    (unclosed : s.closed = false) (hagenda : now.agenda = work :: rest)
    (hstarts : work.starts kind index = true) :
    ∃ record, now.step surroundings = some { now with
      agenda := .call (.log record) ::
        .registry s.registry (.call (.deliver s.token (kind.state s.running true))) :: rest } := by
  obtain ⟨world, around, agenda⟩ := now
  obtain rfl : agenda = _ := hagenda
  change world.standing? kind index = some s at found
  unfold Work.starts at hstarts
  split at hstarts
  · rename_i place type
    simp only [Bool.and_eq_true, decide_eq_true_eq] at hstarts
    obtain ⟨rfl, rfl⟩ := hstarts
    obtain ⟨node, hnode, rfl⟩ := Option.map_eq_some_iff.mp found
    obtain ⟨record, hstart⟩ := node.core.start_rejected type active unclosed
    obtain ⟨hlt, hsame⟩ := List.getElem?_eq_some_iff.mp hnode
    have hset : world.browsers.set place node = world.browsers := by
      rw [← hsame]
      exact List.set_getElem_self hlt
    refine ⟨record, ?_⟩
    simp only [Configuration.step, World.run, World.runBrowse, hnode, BrowseSession.step,
      BrowseSession.call, hstart, hset]
    rfl
  · rename_i place name type port txt
    simp only [Bool.and_eq_true, decide_eq_true_eq] at hstarts
    obtain ⟨rfl, rfl⟩ := hstarts
    obtain ⟨node, hnode, rfl⟩ := Option.map_eq_some_iff.mp found
    obtain ⟨record, hregister⟩ :=
      node.core.register_rejected name type port txt active unclosed
    obtain ⟨hlt, hsame⟩ := List.getElem?_eq_some_iff.mp hnode
    have hset : world.publications.set place node = world.publications := by
      rw [← hsame]
      exact List.set_getElem_self hlt
    refine ⟨record, ?_⟩
    simp only [Configuration.step, World.run, World.runPublication, hnode,
      PublicationSession.step, PublicationSession.call, hregister, hset]
    rfl
  · cases hstarts

/-- What holds of a session at any time, whoever calls it and whatever its platform says. If it runs
it is active, and if it is active it has a state. It asks its platform to start only when it became
free since it asked last, and never after it was closed. While it is active, a start changes nothing
and asks the platform for nothing. -/
theorem session_state_invariant (found : start.world.standing? kind index = some s)
    (unused : s.running = false ∧ s.active = false)
    (untouched : ∀ work ∈ start.agenda,
      work.asks kind index = false ∧ work.waits kind index = false)
    (course : Course surroundings start past now) (fair : Fair kind index past) :
    ∃ later, now.world.standing? kind index = some later ∧
      (later.running = true → later.active = true) ∧
      (later.active = true → later.known = true) ∧
      Spaced (acts kind index past) ∧
      (later.active = true → later.closed = false →
        ∀ work rest, now.agenda = work :: rest → work.starts kind index = true →
          ∃ record, now.step surroundings = some { now with
            agenda := .call (.log record) :: .registry later.registry
              (.call (.deliver later.token (kind.state later.running true))) :: rest }) := by
  have hbegins := lives_of_unused found unused untouched
  obtain ⟨later, hfound, hlater, -⟩ := course.lives fair hbegins
  refine ⟨later, hfound, hlater.active_of_running, hlater.known_of_active, hlater.spaced, ?_⟩
  intro active unclosed work rest hagenda hstarts
  exact step_rejected hfound active unclosed hagenda hstarts

/-- The platform refuses to browse, and the channel starts the session again when it hears of that.
This time the platform starts right away, and the channel starts the session once more, in vain:
that is the moment looked at. In the end the browse is stopped and the session is closed. -/
theorem session_state_invariant_of_restarted :
    let browse (operation : BrowseSession.Operation) : Move Empty := .perform (.browse 0 operation)
    let start : Configuration Empty (List (List (Move Empty))) := run .staged 2 {
      world := {
        registries := [{}]
        queues := [{ platform := 0, registry := 0, core := {} }]
        platforms := [.outside] }
      around := [[.raise (.outside .value "no such type")], [browse (.start "_ipp._tcp")],
        [browse (.notice (.started "_ipp._tcp"))], [browse (.start "_ipp._tcp")], [],
        [browse (.notice (.stopped "_ipp._tcp"))]]
      agenda := [.build (.browse 0 0 0 (.outside 0)), .browse 0 (.call (.start "_http._tcp")),
        .browse 0 (.call .stop), .browse 0 (.call .close), .browse 0 (.call (.start "_ipp._tcp"))] }
    let past := trail .staged 13 start
    let now := run .staged 13 start
    acts .browse 0 (trail .staged 60 start) =
        [.asked, .raised, .asked, .confirmed, .returned, .ended, .closed] ∧
      ∃ later, now.world.standing? .browse 0 = some later ∧
        (later.running = true → later.active = true) ∧
        (later.active = true → later.known = true) ∧
        Spaced (acts .browse 0 past) ∧
        (later.active = true → later.closed = false →
          ∀ work rest, now.agenda = work :: rest → work.starts .browse 0 = true →
            ∃ record, now.step .staged = some { now with
              agenda := .call (.log record) :: .registry later.registry
                (.call (.deliver later.token
                  (SessionKind.browse.state later.running true))) :: rest }) := by
  intro browse start past now
  have hfound : start.world.standing? .browse 0 = some {
      registry := 0, token := 1, known := false, running := false, active := false
      closed := false } := rfl
  have huntouched : ∀ work ∈ start.agenda,
      work.asks .browse 0 = false ∧ work.waits .browse 0 = false := by decide +kernel
  have hcourse : Course .staged start past now := course_run ..
  have hfair : Fair .browse 0 past := ⟨by decide +kernel, by decide +kernel⟩
  refine ⟨by decide +kernel, ?_⟩
  exact session_state_invariant hfound ⟨rfl, rfl⟩ huntouched hcourse hfair

end Configuration

end ServiceDiscovery
