import ServiceDiscovery.Proofs.Lookup
import ServiceDiscovery.Proofs.Mdns.Answer

/-!
What a platform does about registrations and browses. Each request that it accepts becomes a matter.
Matters stand in line and come up in the order in which they were accepted, the network is asked
about each, and when it has answered, the platform keeps what came of it and tells the listener.
-/

namespace ServiceDiscovery

open Mdns Mdns.Platform

variable {ι σ : Type}

namespace Mdns

/-- What a job is about, at whatever point it goes on. Resolves are errands and no matters. -/
inductive Matter where
  | registration (info : Nat) (listener : Listener)
  | announcement (info : Nat) (listener : Listener)
  | withdrawal (info : Nat) (listener : Listener)
  | retraction (info : Nat) (listener : Listener)
  | browse (listener : Listener)
  | stop (listener : Listener)
  | closing
  deriving DecidableEq, Repr

def Job.matter? : Job → Option Matter
  | .register info listener | .registering info listener => some (.registration info listener)
  | .announcing info listener => some (.announcement info listener)
  | .unregister info listener | .unregistering info listener => some (.withdrawal info listener)
  | .retracting info listener => some (.retraction info listener)
  | .discover _ listener | .opening _ listener => some (.browse listener)
  | .stop listener | .cancelling _ listener => some (.stop listener)
  | .closingBrowsers _ | .closing => some .closing
  | .reportBusy _ _ | .resolve _ _ | .requesting _ _ _ => none

/-- What becomes of a matter that the network did something about: the news are broadcast. -/
def Matter.news? : Matter → Option Matter
  | .registration info listener => some (.announcement info listener)
  | .withdrawal info listener => some (.retraction info listener)
  | _ => none

/-- A matter that the network was asked about, and how it answered, if it did yet. -/
structure Affair where
  matter : Matter
  answer : Option Response
  deriving DecidableEq, Repr

/-- Did the network do what it was asked for? -/
def Response.succeeded : Response → Bool
  | .failed _ => false
  | .done | .notFound => true

def Ready.begun? : Ready → Option Matter
  | .begun job => job.matter?
  | _ => none

def Ready.submitted? : Ready → Option Matter
  | .submitted job => job.matter?
  | _ => none

def Ready.answered? : Ready → Option Affair
  | .resumed job response => job.matter?.map fun matter => { matter, answer := some response }
  | _ => none

/-- The affair of a job that waits for the network. -/
def Job.unanswered? (job : Job) : Option Affair :=
  job.matter?.map fun matter => { matter, answer := none }

end Mdns

/-- Does the notice say that a listener does not browse any more? -/
def BrowseNotice.ends : BrowseNotice → Bool
  | .stopped _ | .startFailed _ _ | .stopFailed _ _ => true
  | .started _ | .found _ | .lost _ => false

namespace Mdns.Platform

/-- The matters that the network was not asked about yet, as they come up. A job that was admitted
comes up before all that were not. -/
def line (platform : Platform) : List Matter :=
  platform.ready.filterMap Ready.begun? ++ platform.ready.filterMap Ready.submitted?

def away (platform : Platform) : List Affair :=
  platform.waiting.filterMap (fun entry => entry.2.unanswered?) ++
    platform.ready.filterMap Ready.answered?

def Task.running? : Task → Option Matter
  | .run job => job.matter?
  | _ => none

def Task.answered? : Task → Option Affair
  | .resume job response => job.matter?.map fun matter => { matter, answer := some response }
  | _ => none

/-- Does a task go on with a matter, or ask for one to be taken on? -/
def Task.isMatter : Task → Bool
  | .call (.request (.resolve _) _) => false
  | .call (.request _ _) => true
  | .run job | .resume job _ => job.matter?.isSome
  | .call _ | .turning => false

def Effect.task? : Effect → Option Task
  | .own task => some task
  | _ => none

/-- Does an effect tell no listener that its browse is over? -/
def Effect.isHushed : Effect → Bool
  | .notify _ (.browse notice) => !notice.ends
  | _ => true

/-- What a platform keeps of registrations and browsers, and the matters that may change it. -/
structure Docket where
  started : Bool
  registrations : List (Listener × Nat)
  browsers : List (Listener × Browser)
  line : List Matter
  away : List Affair

/-- All that is under way: the network was not asked about what stands in line. -/
def Docket.affairs (docket : Docket) : List Affair :=
  docket.line.map (Affair.mk · none) ++ docket.away

/-- The docket of a platform, with the jobs that are about to go on. -/
def docket (tasks : List Task) (platform : Platform) : Docket where
  started := platform.started
  registrations := platform.registrations
  browsers := platform.browsers
  line := tasks.filterMap Task.running? ++ platform.line
  away := tasks.filterMap Task.answered? ++ platform.away

/-- The platform is started, and nothing of a closing is under way. -/
structure Docket.Open (docket : Docket) : Prop where
  started : docket.started = true
  line : .closing ∉ docket.line
  away : ∀ affair ∈ docket.away, affair.matter ≠ .closing

/-- The matter that the network answers about. -/
def answering? : Task → Platform → Option (Matter × Response)
  | .call (.reply ticket response), platform | .call (.wake ticket response), platform =>
      (platform.waiting.lookup ticket).bind fun job => job.matter?.map (·, response)
  | _, _ => none

/-- All that a task can mean for registrations and browses: the answer that it brings, what is kept
of them afterwards, and the effects that it has. Nothing is said of a platform that is not started
or that closes. -/
inductive Hauled (before : Docket) :
    Task → Option (Matter × Response) → Docket → List Effect → Prop where
  | lapsed {task : Task} {brought : Option (Matter × Response)} {after : Docket}
      {effects : List Effect} (lapse : before.started = false ∨ task = .call .close ∨
        ∃ affair ∈ before.away, affair.matter = .closing) :
      Hauled before task brought after effects
  | aside {task : Task} {away : List Affair} {effects : List Effect}
      (foreign : task.isMatter = false) (same : before.away.Perm away)
      (hushed : effects.all Effect.isHushed) :
      Hauled before task none { before with away } effects
  | refused (request : Request) (listener : Listener) (fault : Fault) :
      Hauled before (.call (.request request listener)) none before [.raise fault]
  | registers {name type : Text.Points} {port : Value} {txt : List (Value × Value)}
      {listener : Listener} (free : before.registrations.lookup listener = none) (info : Nat) :
      Hauled before (.call (.request (.register name type port txt) listener)) none
        { before with
          registrations := setEntry listener info before.registrations
          line := before.line ++ [.registration info listener] } []
  | withdraws {listener : Listener} {info : Nat}
      (held : before.registrations.lookup listener = some info) :
      Hauled before (.call (.request .unregister listener)) none
        { before with line := before.line ++ [.withdrawal info listener] } []
  | discovers {type : Text.Points} {listener : Listener}
      (free : before.browsers.lookup listener = none) :
      Hauled before (.call (.request (.discover type) listener)) none
        { before with line := before.line ++ [.browse listener] } []
  | stops {listener : Listener} :
      Hauled before (.call (.request .stopDiscovery listener)) none
        { before with line := before.line ++ [.stop listener] } []
  | asked {job : Job} {matter : Matter} {rest : List Matter} {away : List Affair}
      (own : job.matter? = some matter) (starts : ∀ listener, matter ≠ .stop listener)
      (first : before.line = matter :: rest)
      (brings : away.Perm ({ matter, answer := none } :: before.away)) (ticket : Nat)
      (call : NetworkCall) :
      Hauled before (.run job) none { before with line := rest, away } [.network ticket call]
  | cancels {listener : Listener} {rest : List Matter} {away : List Affair} {browser : Browser}
      (first : before.line = .stop listener :: rest)
      (opened : before.browsers.lookup listener = some browser)
      (brings : away.Perm ({ matter := .stop listener, answer := none } :: before.away))
      (ticket : Nat) (call : NetworkCall) :
      Hauled before (.run (.stop listener)) none
        { before with browsers := eraseEntry listener before.browsers, line := rest, away }
        [.network ticket call]
  | idle {listener : Listener} {rest : List Matter}
      (first : before.line = .stop listener :: rest)
      (unopened : before.browsers.lookup listener = none) :
      Hauled before (.run (.stop listener)) none { before with line := rest }
        [tellBrowse listener (.stopFailed "" FailureCode.notRunning)]
  | answered {operation : Operation} {matter : Matter} {response : Response}
      {others away : List Affair} {effects : List Effect}
      (waits : before.away.Perm ({ matter, answer := none } :: others))
      (brings : away.Perm ({ matter, answer := some response } :: others))
      (hushed : effects.all Effect.isHushed) :
      Hauled before (.call operation) (some (matter, response)) { before with away } effects
  | advances {job : Job} {matter news : Matter} {response : Response} {others away : List Affair}
      {effects : List Effect} (own : job.matter? = some matter) (leads : matter.news? = some news)
      (success : response.succeeded = true)
      (waits : before.away = { matter, answer := response } :: others)
      (brings : away.Perm ({ matter := news, answer := none } :: others))
      (hushed : effects.all Effect.isHushed) :
      Hauled before (.resume job response) none { before with away } effects
  | registered {job : Job} {matter : Matter} {info : Nat} {listener : Listener}
      {response : Response} {away : List Affair} {effects : List Effect}
      (own : job.matter? = some matter)
      (ends : matter = .registration info listener ∧ response.succeeded = false ∨
        matter = .announcement info listener)
      (waits : before.away = { matter, answer := response } :: away)
      (hushed : effects.all Effect.isHushed) :
      Hauled before (.resume job response) none
        { before with
          registrations := if response.succeeded then before.registrations
            else eraseEntry listener before.registrations
          away } effects
  | withdrawn {job : Job} {matter : Matter} {info : Nat} {listener : Listener}
      {response : Response} {away : List Affair} {effects : List Effect}
      (own : job.matter? = some matter)
      (ends : matter = .withdrawal info listener ∧ response.succeeded = false ∨
        matter = .retraction info listener)
      (waits : before.away = { matter, answer := response } :: away)
      (hushed : effects.all Effect.isHushed) :
      Hauled before (.resume job response) none
        { before with
          registrations := if response.succeeded then eraseEntry listener before.registrations
            else before.registrations
          away } effects
  | opened {type : Text.Points} {listener : Listener} {response : Response} {away : List Affair}
      {effects : List Effect}
      (waits : before.away = { matter := .browse listener, answer := response } :: away)
      (hushed : effects.all Effect.isHushed) (browser : Browser) :
      Hauled before (.resume (.opening type listener) response) none
        { before with browsers := setEntry listener browser before.browsers, away } effects
  | unopened {type : Text.Points} {listener : Listener} {response : Response} {away : List Affair}
      (waits : before.away = { matter := .browse listener, answer := response } :: away)
      {lines : List Effect} (logged : lines.all Effect.isLine) {notice : BrowseNotice}
      (ends : notice.ends) :
      Hauled before (.resume (.opening type listener) response) none { before with away }
        (lines ++ [tellBrowse listener notice])
  | stopped {type : Text.Points} {listener : Listener} {response : Response} {away : List Affair}
      (waits : before.away = { matter := .stop listener, answer := response } :: away)
      {lines : List Effect} (logged : lines.all Effect.isLine) {notice : BrowseNotice}
      (ends : notice.ends) :
      Hauled before (.resume (.cancelling type listener) response) none { before with away }
        (lines ++ [tellBrowse listener notice])

theorem filter_of_own {α : Type} {p : α → Bool} {first : α} {all others : List α}
    (same : all.Perm (first :: others)) (own : p first = true) :
    (all.filter p).Perm (first :: others.filter p) := by
  have hperm := same.filter p
  rwa [List.filter_cons_of_pos own] at hperm

theorem filter_of_foreign {α : Type} {p : α → Bool} {first : α} {all others : List α}
    (same : all.Perm (first :: others)) (foreign : p first = false) :
    (all.filter p).Perm (others.filter p) := by
  have hperm := same.filter p
  rwa [List.filter_cons_of_neg (by simp [foreign])] at hperm

section

variable {before : Docket} {matter : Matter} {rest line : List Matter} {affair : Affair}
  {away others : List Affair}

theorem affairs_append (line : List Matter) (matter : Matter) (away : List Affair) :
    ((line ++ [matter]).map (Affair.mk · none) ++ away).Perm
      ({ matter, answer := none } :: (line.map (Affair.mk · none) ++ away)) := by
  rw [List.map_append, List.append_assoc]
  exact List.perm_middle

theorem affairs_of_away (line : List Matter) (h : away.Perm (affair :: others)) :
    (line.map (Affair.mk · none) ++ away).Perm
      (affair :: (line.map (Affair.mk · none) ++ others)) :=
  (h.append_left _).trans List.perm_middle

/-- The first in line stays under way when the network is asked about it. -/
theorem affairs_asked (first : before.line = matter :: rest)
    (brings : away.Perm ({ matter, answer := none } :: before.away)) :
    before.affairs.Perm (rest.map (Affair.mk · none) ++ away) := by
  rw [Docket.affairs, first]
  exact (affairs_of_away rest brings).symm

end

section

variable {before after : Docket} {task : Task} {brought : Option (Matter × Response)}
  {effects : List Effect}

theorem Docket.Open.not_lapsed (opened : before.Open) (unclosed : task ≠ .call .close) :
    ¬ (before.started = false ∨ task = .call .close ∨
      ∃ affair ∈ before.away, affair.matter = .closing) := by
  rintro (hstopped | hclose | ⟨affair, hmem, hclosing⟩)
  · cases hstopped.symm.trans opened.started
  · exact unclosed hclose
  · exact opened.away affair hmem hclosing

/-- A platform stays open until it is closed. -/
theorem Hauled.keeps_open (h : Hauled before task brought after effects) (opened : before.Open)
    (unclosed : task ≠ .call .close) : after.Open := by
  have hline {matter : Matter} (hmatter : matter ≠ .closing) :
      .closing ∉ before.line ++ [matter] := by
    simp [opened.line, hmatter.symm]
  have hrest {matter : Matter} {rest : List Matter} (first : before.line = matter :: rest) :
      matter ≠ .closing ∧ .closing ∉ rest := by
    have hnone := opened.line
    rw [first, List.mem_cons, not_or] at hnone
    exact ⟨Ne.symm hnone.1, hnone.2⟩
  have haway {affair : Affair} {away : List Affair} (waits : before.away = affair :: away) :
      ∀ affair ∈ away, affair.matter ≠ .closing := by
    intro other hmem
    exact opened.away other (by simp [waits, hmem])
  have hasked {matter : Matter} {away : List Affair} (hmatter : matter ≠ .closing)
      (brings : away.Perm ({ matter, answer := none } :: before.away)) :
      ∀ affair ∈ away, affair.matter ≠ .closing := by
    intro affair hmem
    rcases List.mem_cons.mp (brings.mem_iff.mp hmem) with rfl | hold
    · exact hmatter
    · exact opened.away affair hold
  cases h with
  | lapsed lapse => exact absurd lapse (opened.not_lapsed unclosed)
  | aside foreign same =>
      exact ⟨opened.started, opened.line, fun affair hmem =>
        opened.away affair (same.mem_iff.mpr hmem)⟩
  | refused => exact opened
  | registers | withdraws | discovers | stops =>
      exact ⟨opened.started, hline (by simp), opened.away⟩
  | asked own starts first brings =>
      exact ⟨opened.started, (hrest first).2, hasked (hrest first).1 brings⟩
  | cancels first _ brings =>
      exact ⟨opened.started, (hrest first).2, hasked (hrest first).1 brings⟩
  | idle first => exact ⟨opened.started, (hrest first).2, opened.away⟩
  | answered waits brings =>
      refine ⟨opened.started, opened.line, fun affair hmem => ?_⟩
      have hmatter := opened.away _ (waits.mem_iff.mpr List.mem_cons_self)
      rcases List.mem_cons.mp (brings.mem_iff.mp hmem) with rfl | hold
      · exact hmatter
      · exact opened.away affair (waits.mem_iff.mpr (List.mem_cons_of_mem _ hold))
  | advances _ leads _ waits brings =>
      refine ⟨opened.started, opened.line, fun affair hmem => ?_⟩
      rcases List.mem_cons.mp (brings.mem_iff.mp hmem) with rfl | hold
      · rintro rfl
        unfold Matter.news? at leads
        split at leads <;> cases leads
      · exact haway waits affair hold
  | registered _ _ waits | withdrawn _ _ waits | opened waits | unopened waits | stopped waits =>
      exact ⟨opened.started, opened.line, haway waits⟩

end

@[simp] theorem lookup_setEntry {α : Type} (listener : Listener) (value : α)
    (entries : List (Listener × α)) (other : Listener) :
    (setEntry listener value entries).lookup other =
      if other = listener then some value else entries.lookup other := by
  induction entries with
  | nil => exact lookup_entry_cons listener value [] other
  | cons entry rest ih =>
      obtain ⟨owner, kept⟩ := entry
      by_cases howner : owner = listener
      · simp only [setEntry, howner, if_true, lookup_entry_cons]
        split <;> rfl
      · simp only [setEntry, howner, if_false, lookup_entry_cons, ih]
        by_cases h : other = owner
        · simp [h, howner]
        · simp [h]

@[simp] theorem lookup_eraseEntry {α : Type} (listener : Listener)
    (entries : List (Listener × α)) (other : Listener) :
    (eraseEntry listener entries).lookup other =
      if other = listener then none else entries.lookup other :=
  lookup_filter_ne listener entries other

section

variable {platform : Platform}

theorem docket_submit (job : Job) (platform : Platform) :
    (platform.submit job).docket [] = { platform.docket [] with
      line := platform.line ++ job.matter?.toList } := by
  have hnone : ([.submitted job] : List Ready).filterMap Ready.answered? = [] := rfl
  have hline : ([.submitted job] : List Ready).filterMap Ready.submitted? = job.matter?.toList := by
    cases h : job.matter? <;> simp [Ready.submitted?, h]
  simp [docket, line, away, submit, Ready.begun?, hnone, hline]

/-- A request is refused as a whole, or nothing comes of it at once. -/
theorem handle_refused (request : Request) (listener : Listener) (platform : Platform) :
    (platform.handle listener request).2 = [] ∨
      ∃ fault, platform.handle listener request = (platform, [.raise fault]) := by
  cases request with
  | resolve ref =>
      simp only [handle, requestResolve, submitOrRaise]
      split <;> split <;> simp
  | discover type =>
      simp only [handle, requestDiscover, submitOrRaise]
      split
      · simp
      · split
        · simp
        · split <;> simp
  | stopDiscovery =>
      simp only [handle, submitOrRaise]
      split <;> simp
  | register name type port txt =>
      simp only [handle, requestRegister]
      split
      · simp
      · split
        · simp
        · split <;> simp
  | unregister =>
      simp only [handle, requestUnregister, submitOrRaise]
      split
      · simp
      · split <;> simp

theorem resolve_hauled (ref : ServiceRef) (listener : Listener) (platform : Platform) :
    Hauled (platform.docket []) (.call (.request (.resolve ref) listener)) none
      ((platform.requestResolve ref listener).1.docket [])
      (platform.requestResolve ref listener).2 := by
  have haside : Hauled (platform.docket []) (.call (.request (.resolve ref) listener)) none
      { platform.docket [] with line := platform.line ++ [] } [] := by
    rw [List.append_nil]
    exact .aside rfl (.refl _) rfl
  unfold requestResolve submitOrRaise
  split
  · split
    · rw [docket_submit]
      exact haside
    · exact .refused ..
  · split
    · rw [docket_submit]
      exact haside
    · exact .refused ..

theorem request_hauled (request : Request) (listener : Listener) (platform : Platform) :
    Hauled (platform.docket []) (.call (.request request listener)) none
      ((platform.handle listener request).1.docket []) (platform.handle listener request).2 := by
  cases request with
  | resolve ref => exact resolve_hauled ref listener platform
  | discover type =>
      simp only [handle, requestDiscover, submitOrRaise]
      split
      · exact .refused ..
      · rename_i hfree
        split
        · exact .refused ..
        · split
          · rw [docket_submit]
            exact .discovers (Option.not_isSome_iff_eq_none.mp hfree)
          · exact .refused ..
  | stopDiscovery =>
      simp only [handle, submitOrRaise]
      split
      · rw [docket_submit]
        exact .stops
      · exact .refused ..
  | register name type port txt =>
      simp only [handle, requestRegister]
      split
      · exact .refused ..
      · rename_i hfree
        split
        · exact .refused ..
        · split
          · rw [docket_submit]
            exact .registers (Option.not_isSome_iff_eq_none.mp hfree) _
          · exact .refused ..
  | unregister =>
      simp only [handle, requestUnregister, submitOrRaise]
      split
      · exact .refused ..
      · rename_i hheld
        split
        · rw [docket_submit]
          exact .withdraws hheld
        · exact .refused ..

/-- Whatever the loop takes up, nothing changes its place in line. -/
theorem turn_hauled (platform : Platform) :
    Hauled (platform.docket []) (.call .turn) none
      (platform.turn.1.docket (platform.turn.2.filterMap Effect.task?)) platform.turn.2 := by
  unfold turn
  split
  · exact .aside rfl (.refl _) rfl
  · rename_i job rest hready
    have hline : ({ platform with ready := rest ++ [.begun job] } : Platform).line =
        platform.line := by
      cases h : job.matter? <;>
        simp [line, hready, List.filterMap_cons, Ready.begun?, Ready.submitted?, h]
    have haway : ({ platform with ready := rest ++ [.begun job] } : Platform).away =
        platform.away := by
      simp [away, hready, List.filterMap_cons, Ready.answered?]
    have hsame : ({ platform with ready := rest ++ [.begun job] } : Platform).docket [] =
        platform.docket [] := by
      simp only [docket, hline, haway]
    rw [List.filterMap_nil, hsame]
    exact .aside rfl (.refl _) rfl
  · rename_i job rest hready
    have hline : [Task.run job, .turning].filterMap Task.running? ++
        ({ platform with ready := rest } : Platform).line = platform.line := by
      cases h : job.matter? <;>
        simp [line, hready, List.filterMap_cons, Ready.begun?, Ready.submitted?, Task.running?, h]
    have haway : ({ platform with ready := rest } : Platform).away = platform.away := by
      simp [away, hready, List.filterMap_cons, Ready.answered?]
    have hsame : ({ platform with ready := rest } : Platform).docket [.run job, .turning] =
        platform.docket [] := by
      simp only [docket, hline, haway]
      rfl
    simp only [List.filterMap_cons, List.filterMap_nil, Effect.task?, hsame]
    exact .aside rfl (.refl _) rfl
  · rename_i job response rest hready
    have hline : ({ platform with ready := rest } : Platform).line = platform.line := by
      simp [line, hready, List.filterMap_cons, Ready.begun?, Ready.submitted?]
    have haway : platform.away.Perm
        ([Task.resume job response, .turning].filterMap Task.answered? ++
          ({ platform with ready := rest } : Platform).away) := by
      cases h : job.matter? with
      | none => simp [away, hready, List.filterMap_cons, Ready.answered?, Task.answered?, h]
      | some matter =>
          simp only [away, hready, List.filterMap_cons, List.filterMap_nil, Ready.answered?,
            Task.answered?, h, Option.map_some, List.singleton_append]
          exact List.perm_middle
    have hsame : ({ platform with ready := rest } : Platform).docket
        [.resume job response, .turning] = { platform.docket [] with
          away := [Task.resume job response, .turning].filterMap Task.answered? ++
            ({ platform with ready := rest } : Platform).away } := by
      simp only [docket, hline]
      rfl
    simp only [List.filterMap_cons, List.filterMap_nil, Effect.task?]
    rw [hsame]
    exact .aside rfl haway rfl

/-- Tickets are given out once, so an answer is for one job. -/
theorem away_of_found (tidy : platform.ledger.Tidy) {ticket : Nat} {job : Job}
    (found : platform.waiting.lookup ticket = some job) :
    platform.away.Perm (job.unanswered?.toList ++
      ({ platform with waiting := platform.waiting.filter (·.1 ≠ ticket) } : Platform).away) := by
  obtain ⟨front, rest, hwaiting, hfilter⟩ := tidy.split found
  change platform.waiting = _ at hwaiting
  change platform.waiting.filter _ = _ at hfilter
  simp only [away, hfilter]
  rw [hwaiting]
  cases h : job.unanswered? with
  | none => simp [h]
  | some affair =>
      simp only [List.filterMap_append, List.filterMap_cons, h, Option.toList_some,
        List.append_assoc, List.cons_append]
      exact List.perm_middle

/-- The network answers, and a job goes on: at once, or when the loop comes round to it. -/
theorem answer_hauled (tidy : platform.ledger.Tidy) {ticket : Nat} {job : Job}
    (found : platform.waiting.lookup ticket = some job) {operation : Operation}
    (foreign : (Task.call operation).isMatter = false) {response : Response} {after : Platform}
    {tasks : List Task} {effects : List Effect}
    (kept : (after.docket tasks).away.Perm
      ((job.matter?.map fun matter => Affair.mk matter (some response)).toList ++
        ({ platform with waiting := platform.waiting.filter (·.1 ≠ ticket) } : Platform).away))
    (same : after.docket tasks = { platform.docket [] with away := (after.docket tasks).away })
    (hushed : effects.all Effect.isHushed) :
    Hauled (platform.docket []) (.call operation) (job.matter?.map (·, response))
      (after.docket tasks) effects := by
  have hwaits := away_of_found tidy found
  rw [same]
  cases hmatter : job.matter? with
  | none =>
      rw [hmatter] at kept
      rw [Job.unanswered?, hmatter] at hwaits
      exact .aside foreign (hwaits.trans kept.symm) hushed
  | some matter =>
      rw [hmatter] at kept
      rw [Job.unanswered?, hmatter] at hwaits
      exact .answered hwaits kept hushed

theorem call_hauled (tidy : platform.ledger.Tidy) (operation : Operation) :
    Hauled (platform.docket []) (.call operation) (answering? (.call operation) platform)
      ((platform.call operation).1.docket ((platform.call operation).2.filterMap Effect.task?))
      (platform.call operation).2 := by
  cases operation with
  | start =>
      obtain ⟨_, _, started, _, _, _, _, _, _, _, _⟩ := platform
      cases started with
      | true => exact .aside rfl (.refl _) rfl
      | false => exact .lapsed (Or.inl rfl)
  | close => exact .lapsed (Or.inr (Or.inl rfl))
  | request request listener =>
      have hnone : (platform.handle listener request).2.filterMap Effect.task? = [] := by
        rcases platform.handle_refused request listener with heq | ⟨fault, heq⟩ <;> rw [heq] <;> rfl
      rw [call, hnone]
      exact request_hauled request listener platform
  | turn => exact turn_hauled platform
  | announce browser change name type =>
      simp only [call, announce]
      split
      · exact .aside rfl (.refl _) rfl
      · exact .aside rfl (.refl _) (by split <;> rfl)
  | update ticket change =>
      simp only [call, update]
      split <;> exact .aside rfl (.refl _) rfl
  | reply ticket response =>
      simp only [call, takeWaiting, answering?]
      cases hfound : platform.waiting.lookup ticket with
      | none => exact .aside rfl (.refl _) rfl
      | some job =>
          refine answer_hauled tidy hfound rfl ?_ rfl rfl
          cases h : job.matter? <;>
            simp [docket, List.filterMap_cons, Effect.task?, Task.answered?, away, h]
  | wake ticket response =>
      simp only [call, takeWaiting, answering?]
      cases hfound : platform.waiting.lookup ticket with
      | none => exact .aside rfl (.refl _) rfl
      | some job =>
          refine answer_hauled tidy hfound rfl ?_ ?_ rfl
          · cases h : job.matter? with
            | none => simp [docket, Ready.answered?, away, h]
            | some matter =>
                simp only [docket, List.filterMap_nil, List.nil_append, away,
                  List.filterMap_append, List.filterMap_cons, Ready.answered?, h, Option.map_some,
                  Option.toList_some, ← List.append_assoc]
                exact List.perm_append_comm
          · simp [docket, line, List.filterMap_cons, Ready.begun?, Ready.submitted?]
  | hostAddress found => exact .aside rfl (.refl _) rfl

theorem away_wait (job : Job) (platform : Platform) :
    (platform.wait job).away.Perm (job.unanswered?.toList ++ platform.away) := by
  cases h : job.unanswered? with
  | none => simp [away, wait, h]
  | some affair =>
      simp only [away, wait, List.filterMap_append, List.filterMap_cons, h, List.filterMap_nil,
        Option.toList_some, List.append_assoc, List.singleton_append]
      exact List.perm_middle

theorem resume_hauled {job : Job} (waits : job.Waits) (response : Response)
    (platform : Platform) :
    Hauled (platform.docket [.resume job response]) (.resume job response) none
      ((resume job response platform).1.docket
        ((resume job response platform).2.filterMap Effect.task?))
      (resume job response platform).2 := by
  cases job with
  | registering number listener =>
      have hnews := away_wait (.announcing number listener) platform
      cases response with
      | failed fault => exact .registered rfl (Or.inl ⟨rfl, rfl⟩) rfl rfl
      | done | notFound => exact .advances rfl rfl rfl rfl hnews rfl
  | announcing number listener =>
      cases response <;> exact .registered rfl (Or.inr rfl) rfl rfl
  | unregistering number listener =>
      have hnews := away_wait (.retracting number listener) platform
      cases response with
      | failed fault => exact .withdrawn rfl (Or.inl ⟨rfl, rfl⟩) rfl rfl
      | done | notFound => exact .advances rfl rfl rfl rfl hnews rfl
  | retracting number listener =>
      cases response <;> exact .withdrawn rfl (Or.inr rfl) rfl rfl
  | opening type listener =>
      cases response with
      | failed fault => exact @Hauled.unopened _ _ _ _ _ rfl [_] rfl _ rfl
      | done => exact .opened rfl rfl _
      | notFound => exact .opened rfl rfl _
  | cancelling type listener =>
      cases response with
      | failed fault => exact @Hauled.stopped _ _ _ _ _ rfl [_] rfl _ rfl
      | done => exact @Hauled.stopped _ _ _ _ _ rfl [] rfl _ rfl
      | notFound => exact @Hauled.stopped _ _ _ _ _ rfl [] rfl _ rfl
  | requesting ref number listener => cases response <;> exact .aside rfl (.refl _) rfl
  | closingBrowsers rest | closing =>
      exact .lapsed (Or.inr (Or.inr ⟨_, List.mem_cons_self, rfl⟩))
  | _ => cases waits

theorem run_hauled {job : Job} (fresh : job.Fresh) (platform : Platform) :
    Hauled (platform.docket [.run job]) (.run job) none
      ((run job platform).1.docket ((run job platform).2.filterMap Effect.task?))
      (run job platform).2 := by
  cases hstarted : platform.started with
  | false => exact .lapsed (Or.inl hstarted)
  | true =>
      cases job with
      | register number listener =>
          simp only [run, hstarted, if_true]
          exact .asked rfl (by simp) rfl (away_wait (.registering number listener) platform) _ _
      | unregister number listener =>
          simp only [run, hstarted, if_true]
          exact .asked rfl (by simp) rfl (away_wait (.unregistering number listener) platform) _ _
      | discover type listener =>
          simp only [run, hstarted, if_true]
          exact .asked rfl (by simp) rfl (away_wait (.opening type listener) platform) _ _
      | stop listener =>
          simp only [run]
          split
          · exact .idle rfl ‹_›
          · exact .cancels rfl ‹_› (away_wait (.cancelling _ listener) _) _ _
      | reportBusy ref listener => exact .aside rfl (.refl _) rfl
      | resolve ref listener =>
          simp only [run]
          split
          · exact .aside rfl (.refl _) rfl
          · rename_i made _
            rw [if_pos hstarted]
            have hasked := away_wait (.requesting ref platform.infos.length listener)
              { platform with infos := platform.infos ++ [made] }
            exact .aside rfl hasked.symm rfl
      | _ => cases fresh

/-- No task means anything else. -/
theorem hauled {task : Task} (fits : task.Fits) (tidy : platform.ledger.Tidy) :
    Hauled (platform.docket [task]) task (answering? task platform)
      ((step task platform).1.docket ((step task platform).2.filterMap Effect.task?))
      (step task platform).2 := by
  cases task with
  | call operation => exact call_hauled tidy operation
  | run job => exact run_hauled fits platform
  | resume job response => exact resume_hauled fits response platform
  | turning => exact .aside rfl (.refl _) rfl

/-- Tasks that are no jobs are no matters. -/
theorem docket_append (tasks : List Task) {others : List Task}
    (h : ∀ task ∈ others, task.isJob = false) (platform : Platform) :
    platform.docket (tasks ++ others) = platform.docket tasks := by
  have hrunning : others.filterMap Task.running? = [] := by
    refine List.filterMap_eq_nil_iff.mpr fun task hmem => ?_
    cases task with
    | run => cases h _ hmem
    | _ => rfl
  have hanswered : others.filterMap Task.answered? = [] := by
    refine List.filterMap_eq_nil_iff.mpr fun task hmem => ?_
    cases task with
    | resume => cases h _ hmem
    | _ => rfl
  simp only [docket, List.filterMap_append, hrunning, hanswered, List.append_nil]

end

end Mdns.Platform

/-- The task of the platform at a place. -/
def Work.task? (place : Nat) : Work ι → Option Task
  | .platform index task => if index = place then some task else none
  | _ => none

theorem Work.task?_eq_some {place : Nat} {work : Work ι} {task : Task}
    (h : work.task? place = some task) : work = .platform place task := by
  cases work with
  | platform index other =>
      obtain ⟨rfl, hsame⟩ := Option.ite_none_right_eq_some.mp h
      cases hsame
      rfl
  | _ => cases h

namespace Configuration

/-- The docket of the platform at a place, with the jobs that go on right now. -/
def docket (place : Nat) (core : Mdns.Platform) (now : Configuration ι σ) : Docket :=
  core.docket (now.agenda.filterMap (Work.task? place))

/-- Is the platform at a place about to be closed? -/
def closes (place : Nat) (now : Configuration ι σ) : Bool :=
  match now.doing? place with
  | some (.call .close, _) => true
  | _ => false

variable {surroundings : Surroundings ι σ} {now after : Configuration ι σ} {place : Nat}
  {core : Mdns.Platform}

theorem not_close_of_doing {task : Task} (hdoing : now.doing? place = some (task, core))
    (unclosed : now.closes place = false) : task ≠ .call .close := by
  rintro rfl
  simp [closes, hdoing] at unclosed

theorem not_job_of_tasks {agenda : List (Work ι)}
    (h : ∀ task, .platform place task ∈ agenda → task.isJob = false) :
    ∀ task ∈ agenda.filterMap (Work.task? place), task.isJob = false := by
  intro task hmem
  obtain ⟨work, hwork, htask⟩ := List.mem_filterMap.mp hmem
  exact h task (Work.task?_eq_some htask ▸ hwork)

theorem tasks_of_effects (place : Nat) (effects : List Effect) :
    (effects.map fun effect => effect.work (ι := ι) place).filterMap (Work.task? place) =
      effects.filterMap Effect.task? := by
  rw [List.filterMap_map]
  congr 1
  funext effect
  cases effect with
  | own task => simp [Effect.work, Work.task?, Effect.task?]
  | _ => rfl

/-- A step does a task of the platform, and its matters move on by that task, or it leaves them as
they are. -/
theorem Keeps.haul (keeps : now.Keeps place core) (h : now.step surroundings = some after) :
    (∃ task rest, now.agenda = .platform place task :: rest ∧
      now.doing? place = some (task, core) ∧
      after.Keeps place (Mdns.Platform.step task core).1 ∧
      after.agenda = (Mdns.Platform.step task core).2.map (·.work place) ++ rest ∧
      Hauled (now.docket place core) task (answering? task core)
        (after.docket place (Mdns.Platform.step task core).1)
        (Mdns.Platform.step task core).2) ∨
    ((∀ task rest, now.agenda ≠ .platform place task :: rest) ∧ now.doing? place = none ∧
      after.Keeps place core ∧ after.docket place core = now.docket place core) := by
  rcases keeps.step h with ⟨task, hdoing, hfits, hkeeps, -⟩ | ⟨hdoing, hkeeps, -⟩
  · left
    obtain ⟨rest, hagenda, -⟩ := agenda_of_doing hdoing
    have hafter : after.agenda = (Mdns.Platform.step task core).2.map (·.work place) ++ rest := by
      have hown : now.step surroundings = some _ := step_own keeps.found hagenda
      rw [Option.some.inj (h.symm.trans hown)]
    have hrest : ∀ task ∈ rest.filterMap (Work.task? place), task.isJob = false :=
      not_job_of_tasks (by simpa [hagenda] using keeps.alone)
    refine ⟨task, rest, hagenda, hdoing, hkeeps, hafter, ?_⟩
    have hbefore : now.docket place core = core.docket [task] := by
      have hfirst : (.platform place task : Work ι).task? place = some task := if_pos rfl
      rw [docket, hagenda, List.filterMap_cons_some hfirst]
      exact docket_append [task] hrest core
    have hnext : after.docket place (Mdns.Platform.step task core).1 =
        (Mdns.Platform.step task core).1.docket
          ((Mdns.Platform.step task core).2.filterMap Effect.task?) := by
      rw [docket, hafter, List.filterMap_append, tasks_of_effects]
      exact docket_append _ hrest _
    rw [hbefore, hnext]
    exact hauled hfits keeps.tidy
  · right
    have hforeign (task : Task) (rest : List (Work ι)) :
        now.agenda ≠ .platform place task :: rest := by
      intro hagenda
      simp [doing?, hagenda, keeps.found] at hdoing
    have hbefore := docket_append [] (not_job_of_tasks (keeps.no_job hforeign)) core
    have hnext := docket_append [] (not_job_of_tasks (keeps.no_job_after h hforeign)) core
    exact ⟨hforeign, hdoing, hkeeps, hnext.trans hbefore.symm⟩

/-- A platform that has nothing to do has nothing on its docket, and it is open if it is started. -/
theorem Idle.docket (idle : now.Idle place)
    (found : now.world.platforms[place]? = some (.mdns core)) :
    now.Keeps place core ∧ (now.docket place core).line = [] ∧ (now.docket place core).away = [] ∧
      (core.started = true → (now.docket place core).Open) := by
  obtain ⟨other, hkeeps, -⟩ := idle.keeps
  obtain ⟨blank, hfound, -, hready, hwaiting, hjobs⟩ := idle
  cases found.symm.trans hkeeps.found
  cases found.symm.trans hfound
  have hdocket : now.docket place core = core.docket [] :=
    docket_append [] (not_job_of_tasks hjobs) core
  have hline : (now.docket place core).line = [] := by
    simp [hdocket, Platform.docket, Platform.line, hready]
  have haway : (now.docket place core).away = [] := by
    simp [hdocket, Platform.docket, Platform.away, hready, hwaiting]
  exact ⟨hkeeps, hline, haway, fun started => ⟨started, by simp [hline], by simp [haway]⟩⟩

end Configuration

end ServiceDiscovery
