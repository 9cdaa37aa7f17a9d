import ServiceDiscovery.Proofs.Machine.Shelter
import ServiceDiscovery.Proofs.Mdns.Ledger
import ServiceDiscovery.Proofs.Mdns.Place

/-!
What becomes of the resolves that a platform takes on, whatever its listeners, the network and the
rest of the world do. Each of them is answered once, to the listener that asked for it and about the
service that it asked for, and the resolver is free again when none is left. All this fails for a
malformed name that finds the resolver free: nobody hears of it again, and the resolver is never
given back.
-/

namespace ServiceDiscovery

open Mdns Mdns.Platform

variable {ι σ : Type}

/-- The errand of a job of the platform at a place. -/
def Work.errand? (place : Nat) : Work ι → Option Errand
  | .platform index task => if index = place then task.errand? else none
  | _ => none

def Work.isLine : Work ι → Bool
  | .call (.log _) => true
  | _ => false

theorem Work.eq_of_isLine {work : Work ι} (h : work.isLine) :
    ∃ record, work = .call (.log record) := by
  cases work with
  | call call =>
      cases call with
      | log record => exact ⟨record, rfl⟩
      | _ => cases h
  | _ => cases h

theorem Work.isLine_of_lines {lines : List Effect} (logged : lines.all Effect.isLine)
    (place : Nat) : ∀ line ∈ lines.map (·.work (ι := ι) place), line.isLine := by
  intro line hmem
  obtain ⟨effect, heffect, rfl⟩ := List.mem_map.mp hmem
  have hline := List.all_eq_true.mp logged effect heffect
  cases effect with
  | log record => rfl
  | _ => cases hline

namespace Configuration

/-- The task of the platform at a place, if the next task is one of its own. -/
def doing? (place : Nat) (now : Configuration ι σ) : Option (Task × Mdns.Platform) :=
  match now.agenda, now.world.platforms[place]? with
  | .platform index task :: _, some (.mdns core) =>
      if index = place then some (task, core) else none
  | _, _ => none

/-- What happened to the errands of the platform at a place. -/
def reports (place : Nat) (past : List (Configuration ι σ)) : List Report :=
  past.filterMap fun moment => (moment.doing? place).bind fun doing => report? doing.1 doing.2

/-- What listeners are about to be told of their resolves. -/
def answers (place : Nat) (now : Configuration ι σ) : List (Listener × ResolveOutcome) :=
  match now.doing? place with
  | some (task, core) => (Mdns.Platform.step task core).2.filterMap Effect.answer?
  | none => []

/-- The errands that are under way: their jobs are kept by the platform, or go on right now. -/
def unfinished (place : Nat) (now : Configuration ι σ) : List Errand :=
  (match now.world.platforms[place]? with
    | some (.mdns core) => core.ledger.errands
    | _ => []) ++ now.agenda.filterMap (Work.errand? place)

/-- The platform at a place has nothing to do yet, and its resolver is free. -/
def Idle (place : Nat) (now : Configuration ι σ) : Prop :=
  ∃ core, now.world.platforms[place]? = some (.mdns core) ∧ core.resolving = none ∧
    core.ready = [] ∧ core.waiting = [] ∧
    ∀ task, .platform place task ∈ now.agenda → task.isJob = false

/-- What holds of a platform and its jobs at any time in a run. Jobs go on at once, so a job that is
on the agenda is in front. -/
structure Keeps (place : Nat) (now : Configuration ι σ) (core : Mdns.Platform) : Prop where
  found : now.world.platforms[place]? = some (.mdns core)
  tidy : core.ledger.Tidy
  fits : ∀ task, .platform place task ∈ now.agenda → task.Fits
  alone : ∀ task, .platform place task ∈ now.agenda.tail → task.isJob = false

section

variable {surroundings : Surroundings ι σ} {start now after : Configuration ι σ}
  {past : List (Configuration ι σ)} {place : Nat} {core : Mdns.Platform} {works : List (Work ι)}

theorem agenda_of_doing {task : Task} (h : now.doing? place = some (task, core)) :
    ∃ rest, now.agenda = .platform place task :: rest ∧
      now.world.platforms[place]? = some (.mdns core) := by
  unfold doing? at h
  split at h
  · rename_i index first rest found hagenda hfound
    split at h
    · cases h
      exact ⟨rest, ‹index = place› ▸ hagenda, hfound⟩
    · cases h
  · cases h

theorem fits_of_not_job {task : Task} (h : task.isJob = false) : task.Fits := by
  cases task with
  | call | turning => trivial
  | run | resume => cases h

theorem errands_of_no_jobs (h : ∀ task, .platform place task ∈ works → task.isJob = false) :
    works.filterMap (Work.errand? place) = [] := by
  refine List.filterMap_eq_nil_iff.mpr fun work hmem => ?_
  cases work with
  | platform index task =>
      by_cases hplace : index = place
      · subst hplace
        have hjob := h task hmem
        cases task with
        | call | turning => simp [Work.errand?, Task.errand?]
        | run | resume => cases hjob
      · simp [Work.errand?, hplace]
  | _ => rfl

theorem errands_of_effects (place : Nat) (effects : List Effect) :
    (effects.map fun effect => effect.work (ι := ι) place).filterMap (Work.errand? place) =
      effects.filterMap Effect.errand? := by
  rw [List.filterMap_map]
  congr 1
  funext effect
  cases effect with
  | own task => simp [Effect.work, Work.errand?, Effect.errand?]
  | _ => rfl

theorem own_of_mem {effects : List Effect} {task : Task}
    (h : (.platform place task : Work ι) ∈ effects.map (·.work place)) : .own task ∈ effects := by
  obtain ⟨effect, hmem, heq⟩ := List.mem_map.mp h
  cases effect with
  | own next =>
      cases heq
      exact hmem
  | _ => cases heq

theorem Idle.keeps (idle : start.Idle place) :
    ∃ core, start.Keeps place core ∧ core.resolving = none ∧ start.unfinished place = [] := by
  obtain ⟨core, hfound, hresolving, hready, hwaiting, hjobs⟩ := idle
  refine ⟨core, ⟨hfound, ?_, fun task hmem => fits_of_not_job (hjobs task hmem),
    fun task hmem => hjobs task (List.mem_of_mem_tail hmem)⟩, hresolving, ?_⟩
  · constructor <;> simp [ledger, hready, hwaiting]
  · simp [unfinished, hfound, errands_of_no_jobs hjobs, Ledger.errands, ledger, hready, hwaiting]

theorem doing?_of_foreign (hforeign : ∀ task rest, now.agenda ≠ .platform place task :: rest) :
    now.doing? place = none := by
  unfold doing?
  split
  · rename_i index task rest _ hagenda _
    refine if_neg ?_
    rintro rfl
    exact hforeign task rest hagenda
  · rfl

/-- Where no task of the platform is in front, none of its jobs is on the agenda. -/
theorem Keeps.no_job (keeps : now.Keeps place core)
    (hforeign : ∀ task rest, now.agenda ≠ .platform place task :: rest) :
    ∀ task, .platform place task ∈ now.agenda → task.isJob = false := by
  intro task hmem
  cases hagenda : now.agenda with
  | nil => simp [hagenda] at hmem
  | cons first rest =>
      rw [hagenda] at hmem
      rcases List.mem_cons.mp hmem with rfl | hrest
      · exact absurd hagenda (hforeign task rest)
      · exact keeps.alone task (by simpa [hagenda] using hrest)

/-- Other work brings none of its jobs up. -/
theorem Keeps.no_job_after (keeps : now.Keeps place core) (h : now.step surroundings = some after)
    (hforeign : ∀ task rest, now.agenda ≠ .platform place task :: rest) :
    ∀ task, .platform place task ∈ after.agenda → task.isJob = false := by
  rcases step_platform h keeps.found with
    ⟨task, rest, hagenda, -⟩ | ⟨-, -, tasks, kept, hkept, hafter, hjobs⟩
  · exact absurd hagenda (hforeign task rest)
  · intro task hmem
    rw [hafter] at hmem
    rcases List.mem_append.mp hmem with hnew | hold
    · exact hjobs task hnew
    · exact keeps.alone task (hkept.subset hold)

/-- A step does a task of the platform, and its errands move on by that task, or it leaves the
platform and its errands alone. -/
theorem Keeps.step (keeps : now.Keeps place core) (h : now.step surroundings = some after) :
    (∃ task, now.doing? place = some (task, core) ∧ task.Fits ∧
      after.Keeps place (Mdns.Platform.step task core).1 ∧
      now.unfinished place = core.ledger.errands ++ task.errand?.toList ∧
      after.unfinished place = (Mdns.Platform.step task core).1.ledger.errands ++
        (Mdns.Platform.step task core).2.filterMap Effect.errand?) ∨
    (now.doing? place = none ∧ after.Keeps place core ∧
      after.unfinished place = now.unfinished place) := by
  rcases step_platform h keeps.found with
    ⟨task, rest, hagenda, hfound, hafter⟩ | ⟨hforeign, hfound, -⟩
  · left
    have hmem : Work.platform place task ∈ now.agenda := by simp [hagenda]
    have hrest : ∀ task, .platform place task ∈ rest → task.isJob = false := by
      simpa [hagenda] using keeps.alone
    have hturned := turned (keeps.fits task hmem) core
    obtain ⟨hfits, halone⟩ := hturned.fits keeps.tidy
    refine ⟨task, by simp [doing?, hagenda, keeps.found], keeps.fits task hmem,
      ⟨hfound, hturned.tidy keeps.tidy, ?_, ?_⟩, ?_, ?_⟩
    · intro next hnext
      rw [hafter] at hnext
      rcases List.mem_append.mp hnext with heffect | hold
      · exact hfits next (own_of_mem heffect)
      · exact fits_of_not_job (hrest next hold)
    · intro next hnext
      rw [hafter] at hnext
      cases heffects : (Mdns.Platform.step task core).2 with
      | nil =>
          rw [heffects] at hnext
          exact hrest next (List.mem_of_mem_tail hnext)
      | cons first others =>
          rw [heffects] at hnext halone
          rcases List.mem_append.mp hnext with heffect | hold
          · exact halone next (own_of_mem heffect)
          · exact hrest next hold
    · cases herrand : task.errand? <;>
        simp [unfinished, keeps.found, hagenda, Work.errand?, errands_of_no_jobs hrest, herrand]
    · rw [unfinished, hfound, hafter, List.filterMap_append, errands_of_effects,
        errands_of_no_jobs hrest, List.append_nil]
  · right
    have hnone := keeps.no_job_after h hforeign
    refine ⟨doing?_of_foreign hforeign, ⟨hfound, keeps.tidy, fun task hmem =>
      fits_of_not_job (hnone task hmem), fun task hmem =>
      hnone task (List.mem_of_mem_tail hmem)⟩, ?_⟩
    rw [unfinished, unfinished, hfound, keeps.found, errands_of_no_jobs hnone,
      errands_of_no_jobs (keeps.no_job hforeign)]

theorem reports_append (place : Nat) (past : List (Configuration ι σ))
    (now : Configuration ι σ) : reports place (past ++ [now]) =
      reports place past ++
        ((now.doing? place).bind fun doing => report? doing.1 doing.2).toList := by
  cases hreport : (now.doing? place).bind fun doing => report? doing.1 doing.2 <;>
    simp [reports, List.filterMap_append, hreport]

/-- The account of a platform's errands at a time in a run: errands that were taken on were told,
lost or are under way, and as long as one that holds the resolver is under way or was lost, the
resolver is taken. -/
structure Accounts (place : Nat) (past : List (Configuration ι σ)) (now : Configuration ι σ)
    (core : Mdns.Platform) : Prop extends now.Keeps place core where
  balance : ∀ p, (errandsAccepted (reports place past)).countP p =
    (errandsTold (reports place past)).countP p + (errandsLost (reports place past)).countP p +
      (now.unfinished place).countP p
  slot : ∀ ref, (errandsLost (reports place past)).countP (Errand.holds ref) +
    (now.unfinished place).countP (Errand.holds ref) = core.resolving.toList.count ref
  told : ∀ errand ∈ errandsTold (reports place past), ¬ errand.Doomed
  lost : ∀ errand ∈ errandsLost (reports place past), errand.Doomed
  answers : (past.flatMap (answers place)).map (fun answer => (answer.1, answer.2.ref)) =
    (errandsTold (reports place past)).map fun errand => (errand.listener, errand.ref)

theorem Accounts.step (accounts : Accounts place past now core)
    (h : now.step surroundings = some after) :
    ∃ changed, Accounts place (past ++ [now]) after changed := by
  rcases accounts.toKeeps.step h with
    ⟨task, hdoing, hfits, hkeeps, hbefore, hafter⟩ | ⟨hdoing, hkeeps, hsame⟩
  · have hturned := turned hfits core
    obtain ⟨htold, hlost⟩ := hturned.doomed
    have hreports : reports place (past ++ [now]) =
        reports place past ++ (report? task core).toList := by
      rw [reports_append, hdoing, Option.bind_some]
    refine ⟨_, hkeeps, ?_, ?_, ?_, ?_, ?_⟩
    · intro p
      have hold := accounts.balance p
      have hstep := hturned.balance accounts.tidy p
      rw [hbefore] at hold
      rw [hreports, hafter]
      simp only [errandsAccepted_append, errandsTold_append, errandsLost_append,
        List.countP_append] at hold ⊢
      omega
    · intro ref
      have hheld := accounts.slot
      have hstep := hturned.balance accounts.tidy (Errand.holds ref)
      simp only [hbefore, List.countP_append] at hheld
      have hslot := hturned.slot hheld (fun ref => by omega) ref
      rw [hreports, hafter]
      simp only [ledger_resolving, errandsLost_append, List.countP_append] at hslot ⊢
      omega
    · intro errand hmem
      rw [hreports, errandsTold_append] at hmem
      exact (List.mem_append.mp hmem).elim (accounts.told errand) (htold errand)
    · intro errand hmem
      rw [hreports, errandsLost_append] at hmem
      exact (List.mem_append.mp hmem).elim (accounts.lost errand) (hlost errand)
    · have hanswers : now.answers place =
          (Mdns.Platform.step task core).2.filterMap Effect.answer? := by
        simp [Configuration.answers, hdoing]
      rw [hreports, errandsTold_append, List.flatMap_append, List.map_append, List.map_append,
        accounts.answers, ← hturned.answers]
      simp [hanswers]
  · refine ⟨core, hkeeps, ?_, ?_, ?_, ?_, ?_⟩
    · simpa [reports_append, hdoing, hsame] using accounts.balance
    · simpa [reports_append, hdoing, hsame] using accounts.slot
    · simpa [reports_append, hdoing] using accounts.told
    · simpa [reports_append, hdoing] using accounts.lost
    · simpa [reports_append, hdoing, Configuration.answers] using accounts.answers

/-- An errand that was lost holds the resolver for ever. -/
theorem Accounts.resolving (accounts : Accounts place past now core) {errand : Errand}
    (hmem : errand ∈ errandsLost (reports place past)) : core.resolving = some errand.ref := by
  have hslot := accounts.slot errand.ref
  have hpos : 0 < (errandsLost (reports place past)).countP (Errand.holds errand.ref) :=
    List.countP_pos_iff.mpr ⟨errand, hmem, by simp [Errand.holds, (accounts.lost errand hmem).1]⟩
  have hcount : 0 < core.resolving.toList.count errand.ref := by omega
  simpa using List.count_pos_iff.mp hcount

theorem Idle.accounts (idle : start.Idle place) : ∃ core, Accounts place [] start core := by
  obtain ⟨core, hkeeps, hresolving, hnone⟩ := idle.keeps
  refine ⟨core, hkeeps, ?_, ?_, ?_, ?_, ?_⟩ <;>
    simp [reports, errandsAccepted, errandsTold, errandsLost, hnone, hresolving]

theorem Course.accounts (idle : start.Idle place)
    (course : Course surroundings start past now) :
    ∃ core, Accounts place past now core := by
  induction course with
  | start => exact idle.accounts
  | step _ step ih =>
      obtain ⟨core, haccounts⟩ := ih
      exact haccounts.step step

/-- A line in front is written, and what was behind it is next. -/
theorem agenda_of_line {line : Work ι} {rest : List (Work ι)} (quiet : surroundings.Quiet)
    (logged : line.isLine) (hagenda : now.agenda = line :: rest)
    (h : now.step surroundings = some after) : after.agenda = rest := by
  obtain ⟨record, rfl⟩ := Work.eq_of_isLine logged
  simp [agenda_of_call hagenda h, moves, hagenda, quiet.log]

/-- Lines for the log are written one after the other, and nothing comes of them. -/
theorem run_lines (quiet : surroundings.Quiet) (place : Nat) {lines : List Effect}
    (logged : lines.all Effect.isLine) {rest : List (Work ι)}
    (hagenda : now.agenda = lines.map (·.work place) ++ rest) :
    (run surroundings lines.length now).agenda = rest := by
  induction lines generalizing now with
  | nil => exact hagenda
  | cons line lines ih =>
      rw [List.all_cons, Bool.and_eq_true] at logged
      cases line with
      | log record =>
          obtain ⟨world, around, agenda⟩ := now
          obtain rfl : agenda = _ := hagenda
          refine ih logged.2 ?_
          simp [quiet.log]
      | _ => cases logged.1

/-- Whatever listeners are about to be told reaches them next, after lines for the log. -/
theorem Keeps.reaches_listener (quiet : surroundings.Quiet) (keeps : now.Keeps place core)
    {answer : Listener × ResolveOutcome} (hanswer : answer ∈ now.answers place) :
    ∃ steps rest, (run surroundings steps now).agenda =
      .notify answer.1 (.resolve answer.2) :: rest := by
  obtain ⟨task, rest, hagenda, hanswer⟩ : ∃ task rest, now.agenda = .platform place task :: rest ∧
      answer ∈ (Mdns.Platform.step task core).2.filterMap Effect.answer? := by
    unfold Configuration.answers at hanswer
    split at hanswer
    · obtain ⟨rest, hagenda, hfound⟩ := agenda_of_doing ‹_›
      cases keeps.found.symm.trans hfound
      exact ⟨_, rest, hagenda, hanswer⟩
    · cases hanswer
  have hturned := turned (keeps.fits task (by simp [hagenda])) core
  obtain ⟨lines, hlogged, heffects⟩ := hturned.lines hanswer
  have hstep : now.step surroundings = some _ := step_own keeps.found hagenda
  refine ⟨lines.length + 1, rest, ?_⟩
  rw [run, hstep]
  refine run_lines quiet place hlogged ?_
  simp [heffects, Effect.work, tellResolve]

/-- Whatever a platform is asked for and the network answers, each resolve that it took on was
answered once, was lost or is under way. Those lost are the doomed ones, and then the resolver stays
taken. If none is doomed, the resolver is free when none is under way. -/
theorem resolve_answered_unless_malformed (quiet : surroundings.Quiet) (idle : start.Idle place)
    (course : Course surroundings start past now) :
    ∃ core, now.world.platforms[place]? = some (.mdns core) ∧
      (errandsAccepted (reports place past)).Perm (errandsTold (reports place past) ++
        errandsLost (reports place past) ++ now.unfinished place) ∧
      (∀ errand ∈ errandsTold (reports place past), ¬ errand.Doomed) ∧
      (∀ errand ∈ errandsLost (reports place past),
        errand.Doomed ∧ core.resolving = some errand.ref) ∧
      (now.unfinished place = [] →
        (∀ errand ∈ errandsAccepted (reports place past), ¬ errand.Doomed) →
          core.resolving = none) ∧
      (past.flatMap (answers place)).map (fun answer => (answer.1, answer.2.ref)) =
        (errandsTold (reports place past)).map (fun errand => (errand.listener, errand.ref)) ∧
      ∀ moment ∈ past, ∀ answer ∈ moment.answers place, ∃ steps rest,
        (run surroundings steps moment).agenda = .notify answer.1 (.resolve answer.2) :: rest := by
  obtain ⟨core, haccounts⟩ := course.accounts idle
  have hperm : (errandsAccepted (reports place past)).Perm (errandsTold (reports place past) ++
      errandsLost (reports place past) ++ now.unfinished place) := by
    refine List.perm_iff_count.mpr fun errand => ?_
    simp only [List.count_append]
    exact haccounts.balance (· == errand)
  refine ⟨core, haccounts.found, hperm, haccounts.told, fun errand hmem => ?_,
    fun hdone hnone => ?_, haccounts.answers, fun moment hmem answer hanswer => ?_⟩
  · exact ⟨haccounts.lost errand hmem, haccounts.resolving hmem⟩
  · have hlost : errandsLost (reports place past) = [] := by
      refine List.eq_nil_iff_forall_not_mem.mpr fun errand hmem => ?_
      exact hnone errand (hperm.mem_iff.mpr (by simp [hmem])) (haccounts.lost errand hmem)
    cases hslot : core.resolving with
    | none => rfl
    | some holder =>
        have hcount := haccounts.slot holder
        simp [hdone, hlost, hslot] at hcount
  · obtain ⟨earlier, _, hearlier, _⟩ := course.before hmem
    obtain ⟨found, hfound⟩ := hearlier.accounts idle
    exact hfound.toKeeps.reaches_listener quiet hanswer

end

/-- A platform on its own that is not started yet, and what is to be asked of it. -/
def lonePlatform (operations : List Mdns.Platform.Operation) :
    Configuration ι (List (List (Move ι))) where
  world := {
    platforms := [.mdns {
      host := { ownName := "host", ownAddress := .ok "127.0.0.1" }, timeout := 3000 }] }
  around := []
  agenda := operations.map fun operation => .platform 0 (.call operation)

theorem lonePlatform_idle (operations : List Mdns.Platform.Operation) :
    (lonePlatform (ι := ι) operations).Idle 0 := by
  refine ⟨_, rfl, rfl, rfl, rfl, fun task hmem => ?_⟩
  obtain ⟨operation, -, heq⟩ := List.mem_map.mp hmem
  cases heq
  rfl

/-- A service that the network does not find is answered all the same. -/
theorem resolve_answered_of_notFound :
    let ref : ServiceRef := { name := "Printer", type := "_ipp._tcp" }
    let errand : Errand := { ref, listener := .outside "desk", busy := false }
    let start : Configuration Empty (List (List (Move Empty))) := lonePlatform [.start,
      .request (.resolve ref) (.outside "desk"), .turn, .turn, .reply 0 .notFound]
    let now := run .scripted 12 start
    let past := trail .scripted 12 start
    errandsTold (reports 0 past) = [errand] ∧ now.unfinished 0 = [] ∧
    ∃ core, now.world.platforms[0]? = some (.mdns core) ∧
      (errandsAccepted (reports 0 past)).Perm (errandsTold (reports 0 past) ++
        errandsLost (reports 0 past) ++ now.unfinished 0) ∧
      (∀ errand ∈ errandsTold (reports 0 past), ¬ errand.Doomed) ∧
      (∀ errand ∈ errandsLost (reports 0 past),
        errand.Doomed ∧ core.resolving = some errand.ref) ∧
      (now.unfinished 0 = [] →
        (∀ errand ∈ errandsAccepted (reports 0 past), ¬ errand.Doomed) →
          core.resolving = none) ∧
      (past.flatMap (answers 0)).map (fun answer => (answer.1, answer.2.ref)) =
        (errandsTold (reports 0 past)).map (fun errand => (errand.listener, errand.ref)) ∧
      ∀ moment ∈ past, ∀ answer ∈ moment.answers 0, ∃ steps rest,
        (run .scripted steps moment).agenda = .notify answer.1 (.resolve answer.2) :: rest := by
  intro ref errand start now past
  exact ⟨by decide +kernel, by decide +kernel, resolve_answered_unless_malformed
    Surroundings.scripted_quiet (lonePlatform_idle _) (course_run ..)⟩

/-- A service with a malformed name takes up the resolver for ever. Its listener hears nothing of
it, and whoever asks for another service is told that the resolver is at work. -/
theorem malformed_name_never_answered :
    let malformed : Errand := {
      ref := { name := "Printer", type := "_a--b._tcp" }, listener := .outside "desk"
      busy := false }
    let other : Errand := {
      ref := { name := "Scanner", type := "_ipp._tcp" }, listener := .outside "desk"
      busy := true }
    let start : Configuration Empty (List (List (Move Empty))) := lonePlatform [.start,
      .request (.resolve malformed.ref) malformed.listener, .turn, .turn,
      .request (.resolve other.ref) other.listener, .turn, .turn]
    let now := run .scripted 15 start
    let past := trail .scripted 15 start
    now.agenda.isEmpty ∧ now.unfinished 0 = [] ∧
      errandsAccepted (reports 0 past) = [malformed, other] ∧
      (past.flatMap (answers 0)).map (fun answer => (answer.1, answer.2.ref)) =
        [(other.listener, other.ref)] ∧
      ∃ core, now.world.platforms[0]? = some (.mdns core) ∧
        core.resolving = some malformed.ref := by
  intro malformed other start now past
  have hdone : now.unfinished 0 = [] := by decide +kernel
  have hlost : errandsLost (reports 0 past) = [malformed] := by decide +kernel
  have hcourse : Course .scripted start past now := course_run .scripted 15 start
  obtain ⟨core, haccounts⟩ := hcourse.accounts (lonePlatform_idle _)
  have hheld : core.resolving = some malformed.ref :=
    haccounts.resolving (hlost ▸ List.mem_singleton_self malformed)
  exact ⟨by decide +kernel, hdone, by decide +kernel, by decide +kernel, core, haccounts.found,
    hheld⟩

end Configuration

end ServiceDiscovery
