import ServiceDiscovery.Mdns.Platform

/-!
What a platform does about the resolves that it takes on. Each becomes an errand, carried by one job
at a time from the event loop to the network and back, until its listener is told of an outcome. An
errand takes up the resolver unless it found it taken. It is lost if its job fails before it asks
the network, and that happens just when the name of the service is malformed.
-/

namespace ServiceDiscovery.Mdns

/-- A resolve that was taken on, and whether the resolver was busy with another one then. -/
structure Errand where
  ref : ServiceRef
  listener : Listener
  busy : Bool
  deriving DecidableEq, Repr

def Job.errand? : Job → Option Errand
  | .reportBusy ref listener => some { ref, listener, busy := true }
  | .resolve ref listener | .requesting ref _ listener => some { ref, listener, busy := false }
  | _ => none

/-- Can a service with this reference be asked for at all? -/
def WellFormed (ref : ServiceRef) : Prop :=
  ∃ info, ServiceInfo.forResolving ref = .ok info

/-- An errand that nobody will hear of again: it took up the resolver for a malformed name. -/
def Errand.Doomed (errand : Errand) : Prop :=
  errand.busy = false ∧ ¬ WellFormed errand.ref

/-- Does the errand hold the resolver for a reference? -/
def Errand.holds (ref : ServiceRef) (errand : Errand) : Bool :=
  !errand.busy && errand.ref = ref

/-- Jobs that go on when the network answers. A request goes out for well formed names only. -/
def Job.Waits : Job → Prop
  | .registering _ _ | .announcing _ _ | .unregistering _ _ | .retracting _ _ | .opening _ _
  | .cancelling _ _ | .closingBrowsers _ | .closing => True
  | .requesting ref _ _ => WellFormed ref
  | _ => False

/-- Jobs that did not ask the network yet. -/
def Job.Fresh : Job → Prop
  | .register _ _ | .unregister _ _ | .discover _ _ | .stop _ | .reportBusy _ _ | .resolve _ _ =>
      True
  | _ => False

def Ready.job : Ready → Job
  | .submitted job | .begun job | .resumed job _ => job

/-- Only jobs that wait for the network are resumed. -/
def Ready.Fits : Ready → Prop
  | .submitted job | .begun job => job.Fresh
  | .resumed job _ => job.Waits

namespace Platform

/-- The errand of a job that is about to go on. -/
def Task.errand? : Task → Option Errand
  | .run job | .resume job _ => job.errand?
  | .call _ | .turning => none

/-- Does a job go on? -/
def Task.isJob : Task → Bool
  | .run _ | .resume _ _ => true
  | .call _ | .turning => false

def Task.Fits : Task → Prop
  | .run job => job.Fresh
  | .resume job _ => job.Waits
  | .call _ | .turning => True

def Effect.errand? : Effect → Option Errand
  | .own task => task.errand?
  | _ => none

/-- What a listener is told of a resolve. -/
def Effect.answer? : Effect → Option (Listener × ResolveOutcome)
  | .notify listener (.resolve outcome) => some (listener, outcome)
  | _ => none

/-- Does an effect neither go on with a task nor tell of a resolve? -/
def Effect.isAside : Effect → Bool
  | .own _ | .notify _ (.resolve _) => false
  | _ => true

def Effect.isLine : Effect → Bool
  | .log _ => true
  | _ => false

def Effect.isRaise : Effect → Bool
  | .raise _ => true
  | _ => false

/-- What becomes of errands. -/
inductive Report where
  | accepted (errand : Errand)
  | told (errand : Errand) (outcome : ResolveOutcome)
  | lost (errand : Errand)
  deriving Repr

def errandsAccepted (reports : List Report) : List Errand :=
  reports.filterMap fun
    | .accepted errand => some errand
    | _ => none

def errandsTold (reports : List Report) : List Errand :=
  reports.filterMap fun
    | .told errand _ => some errand
    | _ => none

def errandsLost (reports : List Report) : List Errand :=
  reports.filterMap fun
    | .lost errand => some errand
    | _ => none

section

variable (first second : List Report)

@[simp] theorem errandsAccepted_append :
    errandsAccepted (first ++ second) = errandsAccepted first ++ errandsAccepted second :=
  List.filterMap_append

@[simp] theorem errandsTold_append :
    errandsTold (first ++ second) = errandsTold first ++ errandsTold second :=
  List.filterMap_append

@[simp] theorem errandsLost_append :
    errandsLost (first ++ second) = errandsLost first ++ errandsLost second :=
  List.filterMap_append

end

/-- What a task does about an errand. -/
def report? : Task → Platform → Option Report
  | .call (.request (.resolve ref) listener), platform =>
      if (platform.requestResolve ref listener).2.any Effect.isRaise then none
      else some (.accepted { ref, listener, busy := platform.resolving.isSome })
  | .run (.reportBusy ref listener), _ =>
      some (.told { ref, listener, busy := true } (.failed ref FailureCode.alreadyActive))
  | .run (.resolve ref listener), platform =>
      match ServiceInfo.forResolving ref with
      | .error _ => some (.lost { ref, listener, busy := false })
      | .ok _ =>
          if platform.started then none
          else some (.told { ref, listener, busy := false } (.failed ref FailureCode.internal))
  | .resume (.requesting ref number listener) response, platform =>
      some (.told { ref, listener, busy := false }
        (outcome ref (response = .done) (platform.info number)))
  | _, _ => none

/-- What a platform keeps of its jobs. -/
structure Ledger where
  ready : List Ready
  waiting : List (Nat × Job)
  tickets : Nat
  resolving : Option ServiceRef

def ledger (platform : Platform) : Ledger where
  ready := platform.ready
  waiting := platform.waiting
  tickets := platform.tickets
  resolving := platform.resolving

theorem ledger_resolving (platform : Platform) :
    platform.ledger.resolving = platform.resolving :=
  rfl

/-- The errands that are under way: their jobs are on the event loop, or wait for the network. -/
def Ledger.errands (ledger : Ledger) : List Errand :=
  ledger.ready.filterMap (·.job.errand?) ++ ledger.waiting.filterMap (·.2.errand?)

/-- All that a task can mean for the jobs of a platform: what it reports, what is kept of them
afterwards, and the effects that it has. -/
inductive Turned (before : Ledger) : Task → Option Report → Ledger → List Effect → Prop where
  | idle {task : Task} {effects : List Effect} (errandless : task.errand? = none)
      (aside : effects.all Effect.isAside) : Turned before task none before effects
  | handed {operation : Operation} (job : Job) (fresh : job.Fresh)
      (errandless : job.errand? = none) :
      Turned before (.call operation) none
        { before with ready := before.ready ++ [.submitted job] } []
  | taken {ref : ServiceRef} {listener : Listener} (free : before.resolving = none) :
      Turned before (.call (.request (.resolve ref) listener))
        (some (.accepted { ref, listener, busy := false }))
        { before with
          ready := before.ready ++ [.submitted (.resolve ref listener)]
          resolving := some ref } []
  | turnedAway {ref : ServiceRef} {listener : Listener} (taken : before.resolving ≠ none) :
      Turned before (.call (.request (.resolve ref) listener))
        (some (.accepted { ref, listener, busy := true }))
        { before with ready := before.ready ++ [.submitted (.reportBusy ref listener)] } []
  | admitted {job : Job} {rest : List Ready} (first : before.ready = .submitted job :: rest) :
      Turned before (.call .turn) none { before with ready := rest ++ [.begun job] } []
  | begun {job : Job} {rest : List Ready} (first : before.ready = .begun job :: rest) :
      Turned before (.call .turn) none { before with ready := rest }
        [.own (.run job), .own .turning]
  | resumed {job : Job} {response : Response} {rest : List Ready}
      (first : before.ready = .resumed job response :: rest) :
      Turned before (.call .turn) none { before with ready := rest }
        [.own (.resume job response), .own .turning]
  | replied {ticket : Nat} {job : Job} {response : Response}
      (found : before.waiting.lookup ticket = some job) :
      Turned before (.call (.reply ticket response)) none
        { before with waiting := before.waiting.filter (·.1 ≠ ticket) }
        [.own (.resume job response)]
  | woken {ticket : Nat} {job : Job} {response : Response}
      (found : before.waiting.lookup ticket = some job) :
      Turned before (.call (.wake ticket response)) none
        { before with
          waiting := before.waiting.filter (·.1 ≠ ticket)
          ready := before.ready ++ [.resumed job response] } []
  | asked {task : Task} {effects : List Effect} (aside : effects.all Effect.isAside) (job : Job)
      (waits : job.Waits) (same : job.errand? = task.errand?) :
      Turned before task none
        { before with
          waiting := before.waiting ++ [(before.tickets, job)], tickets := before.tickets + 1 }
        effects
  | told {ref : ServiceRef} {listener : Listener} (outcome : ResolveOutcome)
      (same : outcome.ref = ref) :
      Turned before (.run (.reportBusy ref listener))
        (some (.told { ref, listener, busy := true } outcome)) before
        [tellResolve listener outcome]
  | answered {task : Task} {ref : ServiceRef} {listener : Listener}
      (own : task.errand? = some { ref, listener, busy := false }) (wellFormed : WellFormed ref)
      (outcome : ResolveOutcome) (same : outcome.ref = ref) {lines : List Effect}
      (logged : lines.all Effect.isLine) :
      Turned before task (some (.told { ref, listener, busy := false } outcome))
        { before with resolving := none } (lines ++ [tellResolve listener outcome])
  | lost {ref : ServiceRef} {listener : Listener} (malformed : ¬ WellFormed ref) (fault : Fault) :
      Turned before (.run (.resolve ref listener))
        (some (.lost { ref, listener, busy := false })) before [.raise fault]

variable {platform : Platform}

theorem closeBrowsers_turned {task : Task} (errandless : task.errand? = none)
    (toClose : List Browser) :
    Turned platform.ledger task none (platform.closeBrowsers toClose).1.ledger
      (platform.closeBrowsers toClose).2 := by
  cases toClose with
  | nil => exact .asked rfl .closing trivial errandless.symm
  | cons browser rest => exact .asked rfl (.closingBrowsers rest) trivial errandless.symm

theorem submitOrRaise_turned {operation : Operation} {job : Job} (fresh : job.Fresh)
    (errandless : job.errand? = none) :
    Turned platform.ledger (.call operation) none (platform.submitOrRaise job).1.ledger
      (platform.submitOrRaise job).2 := by
  unfold submitOrRaise
  split
  · exact .handed job fresh errandless
  · exact .idle rfl rfl

theorem requestResolve_turned (ref : ServiceRef) (listener : Listener) (platform : Platform) :
    Turned platform.ledger (.call (.request (.resolve ref) listener))
      (report? (.call (.request (.resolve ref) listener)) platform)
      (platform.requestResolve ref listener).1.ledger
      (platform.requestResolve ref listener).2 := by
  obtain ⟨_, _, started, _, _, _, _, resolving, _, _, _⟩ := platform
  cases started with
  | false => cases resolving <;> exact .idle rfl rfl
  | true =>
      cases resolving with
      | none => exact .taken rfl
      | some holder => exact .turnedAway (by simp [ledger])

theorem request_turned (request : Request) (listener : Listener) (platform : Platform) :
    Turned platform.ledger (.call (.request request listener))
      (report? (.call (.request request listener)) platform)
      (platform.handle listener request).1.ledger (platform.handle listener request).2 := by
  cases request with
  | resolve ref => exact requestResolve_turned ref listener platform
  | discover type =>
      simp only [handle, requestDiscover]
      split
      · exact .idle rfl rfl
      · split
        · exact .idle rfl rfl
        · exact submitOrRaise_turned trivial rfl
  | stopDiscovery => exact submitOrRaise_turned trivial rfl
  | register name type port txt =>
      simp only [handle, requestRegister]
      split
      · exact .idle rfl rfl
      · split
        · exact .idle rfl rfl
        · split
          · exact .handed (.register _ listener) trivial rfl
          · exact .idle rfl rfl
  | unregister =>
      simp only [handle, requestUnregister]
      split
      · exact .idle rfl rfl
      · exact submitOrRaise_turned trivial rfl

theorem turn_turned (platform : Platform) :
    Turned platform.ledger (.call .turn) none platform.turn.1.ledger platform.turn.2 := by
  unfold turn
  split
  · exact .idle rfl rfl
  · exact .admitted ‹_›
  · exact .begun ‹_›
  · exact .resumed ‹_›

theorem call_turned (operation : Operation) (platform : Platform) :
    Turned platform.ledger (.call operation) (report? (.call operation) platform)
      (platform.call operation).1.ledger (platform.call operation).2 := by
  cases operation with
  | start => exact .idle rfl rfl
  | close =>
      simp only [call, close]
      split
      · exact closeBrowsers_turned rfl _
      · exact .idle rfl rfl
  | request request listener => exact request_turned request listener platform
  | turn => exact turn_turned platform
  | announce browser change name type =>
      simp only [call, announce]
      split
      · exact .idle rfl rfl
      · exact .idle rfl (by split <;> rfl)
  | update ticket change =>
      simp only [call, update]
      split <;> exact .idle rfl rfl
  | reply ticket response =>
      simp only [call, takeWaiting]
      cases hfound : platform.waiting.lookup ticket with
      | none => exact .idle rfl rfl
      | some job => exact .replied hfound
  | wake ticket response =>
      simp only [call, takeWaiting]
      cases hfound : platform.waiting.lookup ticket with
      | none => exact .idle rfl rfl
      | some job => exact .woken hfound
  | hostAddress found => exact .idle rfl rfl

theorem outcome_ref (ref : ServiceRef) (found : Bool) (info : ServiceInfo) :
    (outcome ref found info).ref = ref := by
  unfold outcome
  split <;> rfl

theorem outcome_not_busy (ref : ServiceRef) (found : Bool) (info : ServiceInfo)
    (other : ServiceRef) : outcome ref found info ≠ .failed other FailureCode.alreadyActive := by
  unfold outcome
  split
  · simp
  · simp [FailureCode.internal, FailureCode.alreadyActive]

/-- Only an errand that found the resolver busy is told so. -/
theorem not_busy_of_told {task : Task} {platform : Platform} {errand : Errand}
    {outcome : ResolveOutcome} (h : report? task platform = some (.told errand outcome))
    (free : errand.busy = false) (ref : ServiceRef) :
    outcome ≠ .failed ref FailureCode.alreadyActive := by
  unfold report? at h
  split at h
  · split at h <;> cases h
  · cases h
    cases free
  · split at h
    · cases h
    · split at h
      · cases h
      · cases h
        simp [FailureCode.internal, FailureCode.alreadyActive]
  · cases h
    exact outcome_not_busy _ _ _ ref
  · cases h

theorem resume_turned {job : Job} (waits : job.Waits) (response : Response)
    (platform : Platform) :
    Turned platform.ledger (.resume job response) (report? (.resume job response) platform)
      (resume job response platform).1.ledger (resume job response platform).2 := by
  cases job with
  | registering number listener =>
      cases response with
      | failed fault => exact .idle rfl rfl
      | done | notFound => exact .asked rfl (.announcing number listener) trivial rfl
  | unregistering number listener =>
      cases response with
      | failed fault => exact .idle rfl rfl
      | done | notFound => exact .asked rfl (.retracting number listener) trivial rfl
  | announcing number listener => cases response <;> exact .idle rfl rfl
  | retracting number listener => cases response <;> exact .idle rfl rfl
  | opening type listener => cases response <;> exact .idle rfl rfl
  | cancelling type listener => cases response <;> exact .idle rfl rfl
  | requesting ref number listener =>
      exact .answered rfl waits _ (outcome_ref ref _ _) (by cases response <;> rfl)
  | closingBrowsers rest =>
      cases response with
      | failed fault => exact .idle rfl rfl
      | done => exact closeBrowsers_turned rfl rest
      | notFound => exact closeBrowsers_turned rfl rest
  | closing => cases response <;> exact .idle rfl rfl
  | _ => cases waits

theorem run_turned {job : Job} (fresh : job.Fresh) (platform : Platform) :
    Turned platform.ledger (.run job) (report? (.run job) platform) (run job platform).1.ledger
      (run job platform).2 := by
  cases job with
  | register number listener =>
      simp only [run]
      split
      · exact .asked rfl (.registering number listener) trivial rfl
      · exact .idle rfl rfl
  | unregister number listener =>
      simp only [run]
      split
      · exact .asked rfl (.unregistering number listener) trivial rfl
      · exact .idle rfl rfl
  | discover type listener =>
      simp only [run]
      split
      · exact .asked rfl (.opening type listener) trivial rfl
      · exact .idle rfl rfl
  | stop listener =>
      simp only [run]
      split
      · exact .idle rfl rfl
      · exact .asked rfl (.cancelling _ listener) trivial rfl
  | reportBusy ref listener => exact .told _ rfl
  | resolve ref listener =>
      simp only [run, report?]
      cases hmade : ServiceInfo.forResolving ref with
      | error fault => exact .lost (by simp [WellFormed, hmade]) fault
      | ok made =>
          cases platform.started with
          | true => exact .asked rfl (.requesting ref _ listener) ⟨made, hmade⟩ rfl
          | false => exact .answered rfl ⟨made, hmade⟩ _ rfl rfl
  | _ => cases fresh

/-- No task means anything else. -/
theorem turned {task : Task} (fits : task.Fits) (platform : Platform) :
    Turned platform.ledger task (report? task platform) (step task platform).1.ledger
      (step task platform).2 := by
  cases task with
  | call operation => exact call_turned operation platform
  | run job => exact run_turned fits platform
  | resume job response => exact resume_turned fits response platform
  | turning => exact .idle rfl rfl

end Platform

end ServiceDiscovery.Mdns
