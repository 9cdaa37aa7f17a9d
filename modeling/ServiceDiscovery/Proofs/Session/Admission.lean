import ServiceDiscovery.Proofs.BrowseSession.Place
import ServiceDiscovery.Proofs.Facade.Departure
import ServiceDiscovery.Proofs.Mdns.Refusal
import ServiceDiscovery.Proofs.Receiver.Guard
import ServiceDiscovery.Proofs.ResolveQueue.Balance

/-!
What becomes of a call that begins a browse or a publication. The session takes itself for active
and asks its platform, which hands a job in or refuses. A refusal for a malformed argument reaches
the session while it waits; it is idle again then, and reports the error to its channel. Nothing
that a receiver does on hearing of it comes back to the caller. Any other fault goes on to the
caller, and there is one: that of a type whose service has no name.
-/

namespace ServiceDiscovery

open Mdns

variable {ι σ : Type}

/-- What a session is called to begin: a browse for a type, or the publication of a service. -/
inductive Bid where
  | browse (type : Text.Points)
  | publication (name type : Text.Points) (port : Int) (txt : List (Value × Value))

namespace Bid

def kind : Bid → SessionKind
  | .browse _ => .browse
  | .publication _ _ _ _ => .publication

/-- The session at a place is called to begin. -/
def work (place : Nat) : Bid → Work ι
  | .browse type => .browse place (.call (.start type))
  | .publication name type port txt =>
      .publication place (.call (.register name type (.int port) txt))

/-- What the session asks of its platform. -/
def request : Bid → Request
  | .browse type => .discover (ServiceType.normalize type)
  | .publication name type port txt => .register name (ServiceType.normalize type) (.int port) txt

/-- The session at a place waits while the platform is asked. -/
def waiting (place : Nat) : Bid → Work ι
  | .browse type => .browse place (.starting (ServiceType.normalize type))
  | .publication name _ _ _ => .publication place (.registering name)

/-- The platform comes to look at the type, and there is no name to its service. -/
def Nameless (listener : Listener) (core : Mdns.Platform) : Bid → Prop
  | .browse type => core.browsers.lookup listener = none ∧
      Mdns.Nameless (ServiceType.qualify (ServiceType.normalize type))
  | .publication name type port _ => core.registrations.lookup listener = none ∧
      isInstance name = true ∧ isPort port = true ∧
      Mdns.Nameless (ServiceType.qualify (ServiceType.normalize type))

variable {bid : Bid} {core : Mdns.Platform} {listener : Listener}

theorem considers (started : core.started = true) (addresses : core.host.HasAddresses)
    (named : ¬ bid.Nameless listener core) :
    Platform.Considers core (core.handle listener bid.request) := by
  cases bid with
  | browse type =>
      change Platform.Considers core (core.requestDiscover (ServiceType.normalize type) listener)
      apply Platform.considers_discover started
      exact fun hfree nameless => named ⟨hfree, nameless⟩
  | publication name type port txt =>
      change Platform.Considers core
        (core.requestRegister name (ServiceType.normalize type) (.int port) txt listener)
      apply Platform.considers_register started addresses
      exact fun hfree nameless => named ⟨hfree, nameless⟩

theorem handle_nameless (nameless : bid.Nameless listener core) :
    core.handle listener bid.request = (core, [.raise .emptyServiceName]) := by
  cases bid with
  | browse type =>
      change core.requestDiscover (ServiceType.normalize type) listener = _
      exact Platform.requestDiscover_nameless nameless.1 nameless.2
  | publication name type port txt =>
      obtain ⟨hfree, hname, hport, hnameless⟩ := nameless
      change core.requestRegister name (ServiceType.normalize type) (.int port) txt listener = _
      exact Platform.requestRegister_nameless hfree hname hport hnameless

end Bid

namespace World

/-- The platform that a session asks. -/
def platform? (kind : SessionKind) (index : Nat) (world : World) : Option Nat :=
  match kind with
  | .browse => world.browsers[index]?.map (·.platform)
  | .publication => world.publications[index]?.map (·.platform)

/-- The error that a session met with last, if its state has one. -/
def lastError? (kind : SessionKind) (index : Nat) (world : World) : Option Int :=
  match kind with
  | .browse => world.browsers[index]?.bind fun node => node.core.state.bind (·.lastError)
  | .publication => world.publications[index]?.bind fun node => node.core.state.bind (·.lastError)

end World

namespace Configuration

variable {surroundings : Surroundings ι σ} {now middle after : Configuration ι σ}
  {past since : List (Configuration ι σ)} {behind rest : List (Work ι)} {bid : Bid}
  {index place : Nat} {s : Standing} {core : Mdns.Platform}

/-- What is delivered in the next step. -/
def delivery? (now : Configuration ι σ) : Option (Nat × Token × Event) :=
  now.agenda.head?.bind Work.delivery?

/-- For a while work is done in front of what waits behind, without a fault that gets there, and
nothing is delivered. -/
structure Proceeds (surroundings : Surroundings ι σ) (behind : List (Work ι))
    (now : Configuration ι σ) (past : List (Configuration ι σ)) (after : Configuration ι σ) : Prop
    extends Advances surroundings behind now past after where
  silent : ∀ moment ∈ past, moment.delivery? = none

theorem Proceeds.trans (first : Proceeds surroundings behind now past middle)
    (second : Proceeds surroundings behind middle since after) :
    Proceeds surroundings behind now (past ++ since) after where
  toAdvances := first.toAdvances.trans second.toAdvances
  silent := List.forall_mem_append.mpr ⟨first.silent, second.silent⟩

theorem Proceeds.task {work : Work ι} (hagenda : now.agenda = work :: rest)
    (hsuffix : behind <:+ rest) (hraise : ∀ raised, work ≠ .raise raised)
    (hdelivery : work.delivery? = none) (step : now.step surroundings = some after) :
    Proceeds surroundings behind now [now] after where
  toAdvances := .task hagenda hsuffix hraise step
  silent := by
    rw [List.forall_mem_singleton, delivery?, hagenda]
    exact hdelivery

theorem Proceeds.recovered {raised : Fault} {task : Work ι} {tasks : List (Work ι)} {world : World}
    (hagenda : now.agenda = .raise raised :: task :: rest) (hsuffix : behind <:+ rest)
    (htask : World.recover raised task now.world = some (world, tasks)) :
    Proceeds surroundings behind now [now] { now with world, agenda := tasks ++ rest } where
  toAdvances := by
    apply @Advances.recovered ι σ surroundings now behind raised [] rest tasks task world hagenda
      hsuffix (by simp) htask
  silent := by
    rw [List.forall_mem_singleton, delivery?, hagenda]
    rfl

/-- A log line is written, and that is all. -/
theorem proceeds_log (quiet : ∀ record world around,
      (surroundings.answer (.log record) world around).2 = [])
    {record : Log.Record} (hagenda : now.agenda = .call (.log record) :: rest)
    (hsuffix : behind <:+ rest) :
    ∃ after, Proceeds surroundings behind now [now] after ∧ after.agenda = rest ∧
      after.world = now.world := by
  have hstep : now.step surroundings = some { now with
      around := (surroundings.answer (.log record) now.world now.around).1
      agenda := rest } := by
    obtain ⟨world, around, agenda⟩ := now
    obtain rfl : agenda = _ := hagenda
    simp [step, quiet]
  exact ⟨_, .task hagenda hsuffix (by simp) rfl hstep, rfl, rfl⟩

/-- How a session stands that was called to begin. Where it reports to and whether it is closed
stays, and what it was told of an earlier run is gone. -/
structure Began (bid : Bid) (index : Nat) (s : Standing) (active : Bool) (error : Option Int)
    (world : World) : Prop where
  standing : world.standing? bid.kind index =
    some { s with known := true, running := false, active }
  error : world.lastError? bid.kind index = error

/-- The session begins: it asks its platform, and waits. -/
theorem step_bid (hs : now.world.standing? bid.kind index = some s) (unclosed : s.closed = false)
    (idle : s.active = false) (hplace : now.world.platform? bid.kind index = some place)
    (hagenda : now.agenda = bid.work index :: behind) :
    ∃ after, now.step surroundings = some after ∧
      after.agenda = .request place bid.request (.member index) :: bid.waiting index :: behind ∧
      after.world.platforms = now.world.platforms ∧ Began bid index s true none after.world := by
  cases bid with
  | browse type =>
      obtain ⟨node, hnode, rfl⟩ := Option.map_eq_some_iff.mp hs
      obtain ⟨_, hsame, rfl⟩ := Option.map_eq_some_iff.mp hplace
      obtain rfl := Option.some.inj (hnode.symm.trans hsame)
      have hlt := (List.getElem?_eq_some_iff.mp hnode).1
      have hopen : node.core.closed = false := unclosed
      have hidle : node.core.active = false := idle
      refine ⟨_, step_browse hnode hagenda, ?_, rfl, ?_⟩
      · simp only [BrowseSession.step, BrowseSession.call, BrowseSession.start, hopen, hidle]
        rfl
      · simp only [BrowseSession.step, BrowseSession.call, BrowseSession.start, hopen, hidle]
        constructor
        · simp [World.standing?, Bid.kind, hlt, BrowseNode.standing, BrowseSession.running, hopen]
        · simp [World.lastError?, Bid.kind, hlt]
  | publication name type port txt =>
      obtain ⟨node, hnode, rfl⟩ := Option.map_eq_some_iff.mp hs
      obtain ⟨_, hsame, rfl⟩ := Option.map_eq_some_iff.mp hplace
      obtain rfl := Option.some.inj (hnode.symm.trans hsame)
      have hlt := (List.getElem?_eq_some_iff.mp hnode).1
      have hopen : node.core.closed = false := unclosed
      have hidle : node.core.active = false := idle
      refine ⟨_, step_publication hnode hagenda, ?_, rfl, ?_⟩
      · simp only [PublicationSession.step, PublicationSession.call, PublicationSession.register,
          hopen, hidle]
        rfl
      · simp only [PublicationSession.step, PublicationSession.call, PublicationSession.register,
          hopen, hidle]
        constructor
        · simp [World.standing?, Bid.kind, hlt, PublicationNode.standing,
            PublicationSession.running, hopen]
        · simp [World.lastError?, Bid.kind, hlt]

/-- The platform is asked, and what waits behind hears of a fault if it refuses. -/
theorem proceeds_request {request : Request} {listener : Listener}
    (found : now.world.platforms[place]? = some (.mdns core))
    (hagenda : now.agenda = .request place request listener :: rest) (hsuffix : behind <:+ rest) :
    ∃ past after, Proceeds surroundings behind now past after ∧
      after.agenda = (core.handle listener request).2.map (·.work place) ++ rest ∧
      after.world = { now.world with
        platforms := now.world.platforms.set place (.mdns (core.handle listener request).1) } := by
  have hrouted : Proceeds surroundings behind now [now] { now with
      agenda := .platform place (.call (.request request listener)) :: rest } :=
    .task hagenda hsuffix (by simp) rfl (step_request found hagenda)
  refine ⟨_, _, hrouted.trans (.task rfl hsuffix (by simp) rfl (step_own found rfl)), rfl, rfl⟩

/-- When the platform has taken the request, the call of the session comes to its end. -/
theorem proceeds_waiting (quiet : ∀ record world around,
      (surroundings.answer (.log record) world around).2 = [])
    (hs : now.world.standing? bid.kind index = some s)
    (hagenda : now.agenda = bid.waiting index :: behind) :
    ∃ past after, Proceeds surroundings behind now past after ∧ after.agenda = behind ∧
      after.world = now.world := by
  cases bid with
  | browse type =>
      obtain ⟨node, hnode, rfl⟩ := Option.map_eq_some_iff.mp hs
      have hset := World.set_of_getElem? hnode
      have hstep := @step_browse ι σ surroundings now index node behind _ hnode hagenda
      simp only [BrowseSession.step, hset] at hstep
      obtain ⟨middle, hmiddle, hline, hsame⟩ : ∃ middle, now.step surroundings = some middle ∧
          middle.agenda = BrowseSession.Effect.work index node _ :: behind ∧
          middle.world = now.world := ⟨_, hstep, rfl, rfl⟩
      have hfirst : Proceeds surroundings behind now [now] middle :=
        .task hagenda (List.suffix_refl behind) (by simp [Bid.waiting]) rfl hmiddle
      obtain ⟨after, hlogged, hafter, hworld⟩ :=
        proceeds_log quiet hline (List.suffix_refl behind)
      exact ⟨_, after, hfirst.trans hlogged, hafter, hworld.trans hsame⟩
  | publication name type port txt =>
      obtain ⟨node, hnode, rfl⟩ := Option.map_eq_some_iff.mp hs
      have hset := World.set_of_getElem? hnode
      have hstep := @step_publication ι σ surroundings now index _ node behind hnode hagenda
      simp only [PublicationSession.step, hset] at hstep
      have hdone : Proceeds surroundings behind now [now] _ :=
        .task hagenda (List.suffix_refl behind) (by simp [Bid.waiting]) rfl hstep
      exact ⟨_, _, hdone, rfl, rfl⟩

/-- A fault of the platform makes the session idle again. If it says that an argument is malformed,
the session reports it, and else it goes on. -/
theorem Began.recover {world : World} (began : Began bid index s true none world) (fault : Fault) :
    ∃ changed tasks, World.recover (ι := ι) fault (bid.waiting index) world =
        some (changed, tasks) ∧
      changed.platforms = world.platforms ∧
      Began bid index s false (if fault.isMalformed then some FailureCode.badParameters else none)
        changed ∧
      (fault.isMalformed = true → ∃ record, tasks = [.call (.log record),
        .registry s.registry (.call (.deliver s.token (bid.kind.state false true)))]) ∧
      (fault.isMalformed = false → tasks = [.raise fault]) := by
  obtain ⟨registry, token, known, running, active, closed⟩ := s
  cases bid with
  | browse type =>
      obtain ⟨node, hnode, hstanding⟩ := Option.map_eq_some_iff.mp began.standing
      have hlt := (List.getElem?_eq_some_iff.mp hnode).1
      have herror := began.error
      simp only [World.lastError?, Bid.kind, hnode, Option.bind_some] at herror
      simp only [Bid.waiting, World.recover, World.recoverWith, hnode, BrowseSession.recover,
        BrowseSession.startRefused]
      obtain ⟨platform, queue, _, _, state, _, _⟩ := node
      cases state with
      | none => cases hstanding
      | some state =>
          simp only [BrowseNode.standing, BrowseSession.running, Standing.mk.injEq] at hstanding
          obtain ⟨rfl, rfl, -, hrunning, rfl, rfl⟩ := hstanding
          cases fault.isMalformed with
          | true =>
              refine ⟨_, _, rfl, rfl, ⟨?_, ?_⟩, fun _ => ⟨_, rfl⟩, by simp⟩
              · simpa [World.standing?, Bid.kind, hlt, BrowseNode.standing, BrowseSession.running,
                  BrowseSession.mapState] using hrunning
              · simp [World.lastError?, Bid.kind, hlt, BrowseSession.mapState]
          | false =>
              refine ⟨_, _, rfl, rfl, ⟨?_, ?_⟩, by simp, fun _ => rfl⟩
              · simpa [World.standing?, Bid.kind, hlt, BrowseNode.standing, BrowseSession.running]
                  using hrunning
              · simpa [World.lastError?, Bid.kind, hlt] using herror
  | publication name type port txt =>
      obtain ⟨node, hnode, hstanding⟩ := Option.map_eq_some_iff.mp began.standing
      have hlt := (List.getElem?_eq_some_iff.mp hnode).1
      have herror := began.error
      simp only [World.lastError?, Bid.kind, hnode, Option.bind_some] at herror
      simp only [Bid.waiting, World.recover, World.recoverWith, hnode, PublicationSession.recover,
        PublicationSession.registerRefused]
      obtain ⟨platform, _, _, state, _, _⟩ := node
      cases state with
      | none => cases hstanding
      | some state =>
          simp only [PublicationNode.standing, PublicationSession.running,
            Standing.mk.injEq] at hstanding
          obtain ⟨rfl, rfl, -, hrunning, rfl, rfl⟩ := hstanding
          cases fault.isMalformed with
          | true =>
              refine ⟨_, _, rfl, rfl, ⟨?_, ?_⟩, fun _ => ⟨_, rfl⟩, by simp⟩
              · simpa [World.standing?, Bid.kind, hlt, PublicationNode.standing,
                  PublicationSession.running] using hrunning
              · simp [World.lastError?, Bid.kind, hlt]
          | false =>
              refine ⟨_, _, rfl, rfl, ⟨?_, ?_⟩, by simp, fun _ => rfl⟩
              · simpa [World.standing?, Bid.kind, hlt, PublicationNode.standing,
                  PublicationSession.running] using hrunning
              · simpa [World.lastError?, Bid.kind, hlt] using herror

/-- The session takes itself for active, and its platform has been asked. -/
theorem proceeds_bid (hs : now.world.standing? bid.kind index = some s)
    (unclosed : s.closed = false) (idle : s.active = false)
    (hplace : now.world.platform? bid.kind index = some place)
    (found : now.world.platforms[place]? = some (.mdns core))
    (hagenda : now.agenda = bid.work index :: behind) :
    ∃ past middle, Proceeds surroundings behind now past middle ∧
      middle.agenda = (core.handle (.member index) bid.request).2.map (·.work place) ++
        bid.waiting index :: behind ∧
      middle.world.platforms = now.world.platforms.set place
        (.mdns (core.handle (.member index) bid.request).1) ∧
      Began bid index s true none middle.world := by
  obtain ⟨first, hstep, hfirst, hplatforms, hbegan⟩ :=
    @step_bid ι σ surroundings now behind bid index place s hs unclosed idle hplace hagenda
  have hasked : Proceeds surroundings behind now [now] first := by
    refine .task hagenda (List.suffix_refl behind) ?_ ?_ hstep
    · cases bid <;> simp [Bid.work]
    · cases bid <;> rfl
  rw [← hplatforms] at found
  obtain ⟨past, middle, hanswered, hmiddle, hworld⟩ := proceeds_request found hfirst
    (List.suffix_cons (bid.waiting index) behind)
  refine ⟨_, middle, hasked.trans hanswered, hmiddle, ?_, ?_⟩
  · rw [hworld, hplatforms]
  · rw [hworld]
    exact ⟨hbegan.standing, hbegan.error⟩

/-- The call returns and has told nobody anything: the session is active, and the platform has one
job more. -/
structure Admits (surroundings : Surroundings ι σ) (bid : Bid) (index place : Nat) (s : Standing)
    (core : Mdns.Platform) (behind : List (Work ι)) (now : Configuration ι σ)
    (past : List (Configuration ι σ)) (after : Configuration ι σ) : Prop where
  returns : Returns surroundings behind now past after
  silent : ∀ moment ∈ past, moment.delivery? = none
  submitted : ∃ changed job,
    after.world.platforms = now.world.platforms.set place (.mdns changed) ∧
      changed.ready = core.ready ++ [.submitted job] ∧ changed.browsers = core.browsers
  began : Began bid index s true none after.world

/-- All that is left of the call is to tell the channel that there was an error. The platform is as
it was, the session is idle and knows of the error, and whatever is done on hearing of it, no fault
comes back to the caller. -/
structure Declines (surroundings : Surroundings ι σ) (bid : Bid) (index : Nat) (s : Standing)
    (behind : List (Work ι)) (now : Configuration ι σ) (past : List (Configuration ι σ))
    (after : Configuration ι σ) : Prop where
  advances : Advances surroundings behind now past after
  silent : ∀ moment ∈ past, moment.delivery? = none
  unchanged : after.world.platforms = now.world.platforms
  began : Began bid index s false (some FailureCode.badParameters) after.world
  report : after.agenda =
    .registry s.registry (.call (.deliver s.token (bid.kind.state false true))) :: behind
  unfailing : after.Unfailing surroundings behind

/-- The call raises a fault, of which the channel is told nothing and the session knows nothing. -/
structure Breaks (surroundings : Surroundings ι σ) (bid : Bid) (index : Nat) (s : Standing)
    (behind : List (Work ι)) (fault : Fault) (now : Configuration ι σ)
    (past : List (Configuration ι σ)) (after : Configuration ι σ) : Prop where
  ends : Ends surroundings behind (some fault) now past after
  silent : ∀ moment ∈ past, moment.delivery? = none
  unchanged : after.world.platforms = now.world.platforms
  began : Began bid index s false none after.world

theorem Began.declines (quiet : ∀ record world around,
      (surroundings.answer (.log record) world around).2 = [])
    {fault : Fault} (malformed : fault.isMalformed = true)
    (began : Began bid index s true none middle.world)
    (proceeds : Proceeds surroundings behind now past middle)
    (unchanged : middle.world.platforms = now.world.platforms)
    (hagenda : middle.agenda = .raise fault :: bid.waiting index :: behind) :
    ∃ past after, Declines surroundings bid index s behind now past after := by
  obtain ⟨changed, tasks, hrecover, hplatforms, hbegan, hreported, -⟩ :=
    @Began.recover ι bid index s middle.world began fault
  rw [malformed] at hbegan
  obtain ⟨record, rfl⟩ := hreported malformed
  obtain ⟨after, hlogged, hafter, hworld⟩ := @proceeds_log ι σ surroundings
    { middle with world := changed, agenda := _ } behind _ quiet record rfl
    (List.suffix_cons _ behind)
  have hall := proceeds.trans (Proceeds.recovered hagenda (List.suffix_refl behind) hrecover)
    |>.trans hlogged
  refine ⟨_, after, hall.toAdvances, hall.silent, ?_, ?_, hafter, ?_⟩
  · rw [hworld]
    exact hplatforms.trans unchanged
  · rw [hworld]
    exact hbegan
  · exact (Delivering.ahead hafter).unfailing quiet

/-- An open and idle session over a started platform whose host has addresses is called to begin.
Unless its service has no name, the call is accepted, or it is reported as malformed, and raises
nothing. If the service has no name, the call raises the fault of that. -/
theorem begun_or_reported_unless_nameless (quiet : ∀ record world around,
      (surroundings.answer (.log record) world around).2 = [])
    (hs : now.world.standing? bid.kind index = some s) (unclosed : s.closed = false)
    (idle : s.active = false) (hplace : now.world.platform? bid.kind index = some place)
    (found : now.world.platforms[place]? = some (.mdns core)) (started : core.started = true)
    (addresses : core.host.HasAddresses) (hagenda : now.agenda = bid.work index :: behind) :
    (¬ bid.Nameless (.member index) core →
      (∃ past after, Admits surroundings bid index place s core behind now past after) ∨
        ∃ past after, Declines surroundings bid index s behind now past after) ∧
    (bid.Nameless (.member index) core → ∃ past after,
      Breaks surroundings bid index s behind .emptyServiceName now past after) := by
  have hset := World.set_of_getElem? found
  obtain ⟨past, middle, hproceeds, hmiddle, hplatforms, hbegan⟩ :=
    @proceeds_bid ι σ surroundings now behind bid index place s core hs unclosed idle hplace found
      hagenda
  constructor
  · intro named
    have hconsiders := bid.considers started addresses named
    generalize core.handle (.member index) bid.request = answer at *
    cases hconsiders with
    | @accepted changed job ready browsers =>
        obtain ⟨since, after, hreturned, hafter, hworld⟩ :=
          proceeds_waiting quiet hbegan.standing hmiddle
        have hall := hproceeds.trans hreturned
        refine Or.inl ⟨_, after, hall.toAdvances.returns hafter, hall.silent, ?_, ?_⟩
        · exact ⟨changed, job, hworld ▸ hplatforms, ready, browsers⟩
        · exact hworld ▸ hbegan
    | refused malformed =>
        -- The platform refuses before it writes anything, so what was put back is what was there.
        exact Or.inr (hbegan.declines quiet malformed hproceeds (hplatforms.trans hset) hmiddle)
  · intro nameless
    rw [bid.handle_nameless nameless] at hmiddle hplatforms
    obtain ⟨changed, tasks, hrecover, hkept, hidle, -, hraised⟩ :=
      @Began.recover ι bid index s middle.world hbegan .emptyServiceName
    obtain rfl := hraised rfl
    have hall := hproceeds.trans (.recovered hmiddle (List.suffix_refl behind) hrecover)
    refine ⟨_, _, ⟨hall.course, hall.above, [], rfl, by simp⟩, hall.silent, ?_, hidle⟩
    exact hkept.trans (hplatforms.trans hset)

/-- A session of each kind over a started platform of their own, and what is to be asked of them. -/
def desk (operations : List Operation) : Configuration ι (List (List (Move ι))) where
  world := (World.addPublication 0 0 (.outside 1) (World.addBrowse 0 0 0 (.outside 0) {
    registries := [{}]
    queues := [{ platform := 0, registry := 0, core := {} }]
    platforms := [.mdns {
      host := { ownName := "host", ownAddress := .ok "127.0.0.1" }, timeout := 3000
      started := true }] }).2).2
  around := []
  agenda := operations.map Operation.work

/-- A browse and a publication of a type with a service, and a browse for a type without one. -/
theorem begun_or_reported_of_named :
    let browse : Bid := .browse "_ipp._tcp"
    let publication : Bid := .publication "Printer" "_ipp._tcp" 631 []
    let nameless : Bid := .browse "_._tcp"
    let idle (token : Token) : Standing := {
      registry := 0, token, known := false, running := false, active := false, closed := false }
    let start (bid : Bid) : Configuration Empty (List (List (Move Empty))) :=
      { desk [] with agenda := [bid.work 0] }
    ∃ core, (desk (ι := Empty) []).world.mdns? 0 = some core ∧
      ((∃ past after, Admits .scripted browse 0 0 (idle 1) core [] (start browse) past after) ∨
        ∃ past after, Declines .scripted browse 0 (idle 1) [] (start browse) past after) ∧
      ((∃ past after,
          Admits .scripted publication 0 0 (idle 2) core [] (start publication) past after) ∨
        ∃ past after, Declines .scripted publication 0 (idle 2) [] (start publication) past after) ∧
      ∃ past after,
        Breaks .scripted nameless 0 (idle 1) [] .emptyServiceName (start nameless) past after := by
  intro browse publication nameless idle start
  have hnamed : ¬ Nameless (ServiceType.qualify (ServiceType.normalize "_ipp._tcp")) := by
    rw [← checkType_emptyLabel]
    decide +kernel
  have hnameless : Nameless (ServiceType.qualify (ServiceType.normalize "_._tcp")) := by
    rw [← checkType_emptyLabel]
    decide +kernel
  refine ⟨_, rfl, ?_, ?_, ?_⟩
  · exact (@begun_or_reported_unless_nameless Empty _ .scripted (start browse) [] browse 0 0
      (idle 1) _ Surroundings.scripted_quiet.log rfl rfl rfl rfl rfl rfl ⟨_, _, rfl, rfl⟩ rfl).1
        fun held => hnamed held.2
  · exact (@begun_or_reported_unless_nameless Empty _ .scripted (start publication) [] publication 0
      0 (idle 2) _ Surroundings.scripted_quiet.log rfl rfl rfl rfl rfl rfl ⟨_, _, rfl, rfl⟩ rfl).1
        fun held => hnamed held.2.2.2
  · exact (@begun_or_reported_unless_nameless Empty _ .scripted (start nameless) [] nameless 0 0
      (idle 1) _ Surroundings.scripted_quiet.log rfl rfl rfl rfl rfl rfl ⟨_, _, rfl, rfl⟩ rfl).2
        ⟨rfl, hnameless⟩

/-- The call to browse for a type without a service raises, and so does the call to publish under
it. Nobody is told, and the session has no error to show. -/
theorem nameless_service_raises :
    let browse : Configuration Empty (List (List (Move Empty))) :=
      desk [.browse 0 (.start "_._tcp")]
    let publish : Configuration Empty (List (List (Move Empty))) :=
      desk [.publication 0 (.register "Printer" "_._tcp" (.int 631) [])]
    let idle (token : Token) : Standing := {
      registry := 0, token, known := true, running := false, active := false, closed := false }
    let browsed := run .scripted 4 browse
    let published := run .scripted 4 publish
    browsed.raised? = some .emptyServiceName ∧ browsed.agenda.length = 1 ∧
      (trail .scripted 4 browse).filterMap delivery? = [] ∧
      browsed.world.standing? .browse 0 = some (idle 1) ∧
      browsed.world.lastError? .browse 0 = none ∧
    published.raised? = some .emptyServiceName ∧ published.agenda.length = 1 ∧
      (trail .scripted 4 publish).filterMap delivery? = [] ∧
      published.world.standing? .publication 0 = some (idle 2) ∧
      published.world.lastError? .publication 0 = none := by
  decide +kernel

end Configuration

end ServiceDiscovery
