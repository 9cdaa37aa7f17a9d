import ServiceDiscovery.Proofs.Mdns.Docket

/-!
What the network has of the services that a platform registers. A listener registers one service at
a time. The network puts it in and broadcasts it, and the platform keeps it until it is taken out
and that is broadcast too. As long as no listener asks for its service to be withdrawn while that
service is still being registered or withdrawn, and no service that was put in fails to be
broadcast, all that the network has of a listener is the one service that the platform keeps for it.
Where requests overlap, or where the platform forgets a service that the network has, the network
may be left with a service that the platform does not know any more.
-/

namespace ServiceDiscovery

open Mdns Mdns.Platform

variable {ι σ : Type}

namespace Mdns

/-- Is a matter about the service of a listener? -/
def Matter.enrols (listener : Listener) : Matter → Bool
  | .registration _ owner | .announcement _ owner | .withdrawal _ owner | .retraction _ owner =>
      owner = listener
  | _ => false

def Affair.enrols (listener : Listener) (affair : Affair) : Bool :=
  affair.matter.enrols listener

/-- What the network has of the services of a listener once it has answered. A service is in or out
before that is broadcast, and a broadcast that fails changes nothing of it. -/
def listed (listener : Listener) (services : List Nat) : Matter × Response → List Nat
  | (.registration info owner, response) =>
      if owner = listener ∧ response.succeeded then services ++ [info] else services
  | (.withdrawal info owner, response) =>
      if owner = listener ∧ response.succeeded then services.filter (· ≠ info) else services
  | _ => services

/-- Is it the broadcast of a listener's service, which was put in, that fails? -/
def breaksOff (listener : Listener) : Matter × Response → Bool
  | (.announcement _ owner, response) => owner = listener && !response.succeeded
  | _ => false

/-- How far the service of a listener got, by the affairs that are under way, the service that the
platform keeps, and those that the network has. A service that was taken out is still kept if that
was not broadcast. -/
inductive Enrolment (listener : Listener) : List Affair → Option Nat → List Nat → Prop where
  | resting {kept : Option Nat} {services : List Nat}
      (known : ∀ info ∈ services, kept = some info) :
      Enrolment listener [] kept services
  | registering (info : Nat) (answer : Option Response) :
      Enrolment listener [{ matter := .registration info listener, answer }] (some info)
        (if answer.any Response.succeeded then [info] else [])
  | announcing (info : Nat) {answer : Option Response} (sound : answer.all Response.succeeded) :
      Enrolment listener [{ matter := .announcement info listener, answer }] (some info) [info]
  | withdrawing {info : Nat} {services : List Nat} (known : ∀ other ∈ services, other = info)
      (answer : Option Response) :
      Enrolment listener [{ matter := .withdrawal info listener, answer }] (some info)
        (if answer.any Response.succeeded then [] else services)
  | retracting (info : Nat) (answer : Option Response) :
      Enrolment listener [{ matter := .retraction info listener, answer }] (some info) []

/-- The affairs that are about the service of a listener. -/
def enrolling (listener : Listener) (affairs : List Affair) : List Affair :=
  affairs.filter (Affair.enrols listener)

section

variable {listener : Listener} {affairs others left : List Affair} {kept changed : Option Nat}
  {services found : List Nat} {matter news : Matter} {response : Response}

theorem Enrolment.perm (h : Enrolment listener affairs kept services)
    (same : affairs.Perm others) : Enrolment listener others kept services := by
  cases h with
  | resting known =>
      obtain rfl := same.symm.eq_nil
      exact .resting known
  | registering info answer =>
      obtain rfl := List.perm_singleton.mp same.symm
      exact .registering info answer
  | announcing info sound =>
      obtain rfl := List.perm_singleton.mp same.symm
      exact .announcing info sound
  | withdrawing known answer =>
      obtain rfl := List.perm_singleton.mp same.symm
      exact .withdrawing known answer
  | retracting info answer =>
      obtain rfl := List.perm_singleton.mp same.symm
      exact .retracting info answer

theorem listed_of_foreign (foreign : matter.enrols listener = false) (services : List Nat)
    (response : Response) : listed listener services (matter, response) = services := by
  cases matter with
  | registration info owner | withdrawal info owner =>
      have howner : owner ≠ listener := by simpa [Matter.enrols] using foreign
      simp [listed, howner]
  | _ => rfl

/-- The news of a service are about the same listener. -/
theorem enrols_of_news (leads : matter.news? = some news) :
    news.enrols listener = matter.enrols listener := by
  cases matter <;> cases leads <;> rfl

theorem Enrolment.unkept (h : Enrolment listener affairs none services) :
    affairs = [] ∧ services = [] := by
  cases h with
  | resting known => exact ⟨rfl, List.eq_nil_iff_forall_not_mem.mpr fun info hmem => by
      cases known info hmem⟩

/-- The network has nothing but what is kept. -/
theorem Enrolment.kept_of_mem (h : Enrolment listener affairs kept services) {info : Nat}
    (hmem : info ∈ services) : kept = some info := by
  cases h with
  | resting known => exact known info hmem
  | registering =>
      split at hmem
      · rw [List.mem_singleton.mp hmem]
      · cases hmem
  | announcing => rw [List.mem_singleton.mp hmem]
  | withdrawing known =>
      split at hmem
      · cases hmem
      · rw [known info hmem]
  | retracting => cases hmem

/-- Some affairs give way to others. If they are about the service of the listener, that moves on
with them, and if they are not, nothing of it changes. -/
theorem Enrolment.moves (h : Enrolment listener (enrolling listener affairs) kept services)
    (owned : Bool) (old next others : List Affair)
    (before : affairs.Perm (old ++ others)) (after : left.Perm (next ++ others))
    (same : ∀ affair ∈ old ++ next, affair.enrols listener = owned)
    (own : owned = true → Enrolment listener (old ++ enrolling listener others) kept services →
      Enrolment listener (next ++ enrolling listener others) changed found)
    (foreign : owned = false → changed = kept ∧ found = services) :
    Enrolment listener (enrolling listener left) changed found := by
  have hbefore := before.filter (Affair.enrols listener)
  have hafter := after.filter (Affair.enrols listener)
  rw [List.filter_append] at hbefore hafter
  have hold : ∀ affair ∈ old, affair.enrols listener = owned := fun affair hmem =>
    same affair (List.mem_append_left _ hmem)
  have hnext : ∀ affair ∈ next, affair.enrols listener = owned := fun affair hmem =>
    same affair (List.mem_append_right _ hmem)
  cases owned with
  | true =>
      rw [List.filter_eq_self.mpr hold] at hbefore
      rw [List.filter_eq_self.mpr hnext] at hafter
      exact (own rfl (h.perm hbefore)).perm hafter.symm
  | false =>
      have hnone {some : List Affair} (hsome : ∀ affair ∈ some, affair.enrols listener = false) :
          some.filter (Affair.enrols listener) = [] :=
        List.filter_eq_nil_iff.mpr fun affair hmem => by simp [hsome affair hmem]
      obtain ⟨rfl, rfl⟩ := foreign rfl
      rw [hnone hold] at hbefore
      rw [hnone hnext] at hafter
      exact (h.perm hbefore).perm hafter.symm

theorem Enrolment.answered (h : Enrolment listener ({ matter, answer := none } :: others) kept
      services) (unbroken : breaksOff listener (matter, response) = false) :
    Enrolment listener ({ matter, answer := some response } :: others) kept
      (listed listener services (matter, response)) := by
  cases h with
  | registering info =>
      have hlisted : listed listener [] (.registration info listener, response) =
          if (some response).any Response.succeeded then [info] else [] := by
        simp [listed]
      exact hlisted ▸ .registering info (some response)
  | announcing info =>
      have hsound : response.succeeded = true := by simpa [breaksOff] using unbroken
      exact .announcing info hsound
  | @withdrawing info services known =>
      have hlisted : listed listener services (.withdrawal info listener, response) =
          if (some response).any Response.succeeded then [] else services := by
        have hnone : services.filter (· ≠ info) = [] := by simpa using known
        simp only [listed, hnone, true_and, Option.any_some]
      exact hlisted ▸ .withdrawing known (some response)
  | retracting info => exact .retracting info (some response)

/-- Once a service is in or out, that is broadcast. -/
theorem Enrolment.advanced (h : Enrolment listener ({ matter, answer := response } :: others) kept
      services) (leads : matter.news? = some news) (success : response.succeeded = true) :
    Enrolment listener ({ matter := news, answer := none } :: others) kept services := by
  cases h with
  | registering info =>
      cases leads
      rw [Option.any_some, success]
      exact .announcing info rfl
  | withdrawing =>
      cases leads
      rw [Option.any_some, success]
      exact .retracting _ none
  | announcing | retracting => cases leads

theorem Enrolment.registered {info : Nat}
    (h : Enrolment listener ({ matter, answer := response } :: others) kept services)
    (ends : matter = .registration info listener ∧ response.succeeded = false ∨
      matter = .announcement info listener) :
    Enrolment listener others (if response.succeeded then kept else none) services := by
  rcases ends with ⟨rfl, failure⟩ | rfl <;> cases h
  case registering =>
    rw [Option.any_some, failure]
    exact .resting (by simp)
  case announcing sound =>
    have success : response.succeeded = true := sound
    rw [success]
    exact .resting (by simp)

theorem Enrolment.withdrawn {info : Nat}
    (h : Enrolment listener ({ matter, answer := response } :: others) kept services)
    (ends : matter = .withdrawal info listener ∧ response.succeeded = false ∨
      matter = .retraction info listener) :
    Enrolment listener others (if response.succeeded then none else kept) services := by
  rcases ends with ⟨rfl, failure⟩ | rfl <;> cases h
  case withdrawing services known =>
    rw [Option.any_some, failure]
    exact .resting fun other hmem => congrArg some (known other hmem).symm
  case retracting => exact .resting (by simp)

end

namespace Platform

section

variable {before after : Docket} {task : Task} {brought : Option (Matter × Response)}
  {effects : List Effect} {listener : Listener} {services : List Nat}

theorem Hauled.enrols (h : Hauled before task brought after effects)
    (opened : before.Open) (unclosed : task ≠ .call .close)
    (sole : task = .call (.request .unregister listener) →
      enrolling listener before.affairs = [])
    (unbroken : ∀ answer ∈ brought, breaksOff listener answer = false)
    (enrolment : Enrolment listener (enrolling listener before.affairs)
      (before.registrations.lookup listener) services) :
    Enrolment listener (enrolling listener after.affairs) (after.registrations.lookup listener)
      (brought.toList.foldl (listed listener) services) := by
  have hforeign {line : List Matter} {away : List Affair} {affair : Affair}
      (same : before.affairs.Perm (affair :: (line.map (Affair.mk · none) ++ away)))
      (foreign : affair.enrols listener = false) :
      Enrolment listener (enrolling listener (line.map (Affair.mk · none) ++ away))
        (before.registrations.lookup listener) services :=
    enrolment.perm (filter_of_foreign same foreign)
  have hnew {matter : Matter} (foreign : matter.enrols listener = false) :
      Enrolment listener (enrolling listener
          ((before.line ++ [matter]).map (Affair.mk · none) ++ before.away))
        (before.registrations.lookup listener) services :=
    enrolment.perm (filter_of_foreign (affairs_append ..) foreign).symm
  -- Browses and stops are about no service. What is about one moves on, and that matters only if it
  -- is about the service of the listener.
  cases h with
  | lapsed lapse => exact absurd lapse (opened.not_lapsed unclosed)
  | aside _ same => exact enrolment.perm ((same.append_left _).filter _)
  | refused => exact enrolment
  | @registers _ _ _ _ owner free info =>
      have hnext := affairs_append before.line (.registration info owner) before.away
      refine enrolment.moves (decide (owner = listener)) [] [_] before.affairs (.refl _) hnext
        (by simp [Affair.enrols, Matter.enrols]) ?_ ?_
      · intro howner henrolment
        obtain rfl := of_decide_eq_true howner
        rw [List.nil_append, free] at henrolment
        obtain ⟨hnone, rfl⟩ := henrolment.unkept
        rw [lookup_setEntry, if_pos rfl, hnone]
        exact .registering info none
      · intro hother
        rw [lookup_setEntry, if_neg (Ne.symm (of_decide_eq_false hother))]
        exact ⟨rfl, rfl⟩
  | @withdraws owner info held =>
      have hnext := affairs_append before.line (.withdrawal info owner) before.away
      refine enrolment.moves (decide (owner = listener)) [] [_] before.affairs (.refl _) hnext
        (by simp [Affair.enrols, Matter.enrols]) ?_ fun _ => ⟨rfl, rfl⟩
      intro howner henrolment
      obtain rfl := of_decide_eq_true howner
      rw [List.nil_append, sole rfl, held] at henrolment
      rw [sole rfl, held]
      cases henrolment with
      | resting known =>
          exact .withdrawing (fun other hmem => (Option.some.inj (known other hmem)).symm) none
  | discovers | stops => exact hnew rfl
  | asked own starts first brings => exact enrolment.perm ((affairs_asked first brings).filter _)
  | cancels first opened brings => exact enrolment.perm ((affairs_asked first brings).filter _)
  | @idle owner rest first =>
      have hfirst : before.affairs.Perm ({ matter := .stop owner, answer := none } ::
          (rest.map (Affair.mk · none) ++ before.away)) := by
        rw [Docket.affairs, first]
        exact .refl _
      exact hforeign hfirst rfl
  | @answered _ matter response others away _ waits brings =>
      refine enrolment.moves (matter.enrols listener) [_] [_] _
        (affairs_of_away before.line waits) (affairs_of_away before.line brings)
        (by simp [Affair.enrols]) ?_ ?_
      · exact fun _ henrolment => henrolment.answered (unbroken _ rfl)
      · exact fun hother => ⟨rfl, listed_of_foreign hother services response⟩
  | @advances _ matter news response others away _ _ leads success waits brings =>
      refine enrolment.moves (matter.enrols listener) [_] [_] _
        (affairs_of_away before.line (.of_eq waits)) (affairs_of_away before.line brings)
        (by simp [Affair.enrols, enrols_of_news leads]) ?_ fun _ => ⟨rfl, rfl⟩
      exact fun _ henrolment => henrolment.advanced leads success
  | @registered _ matter info owner response away _ _ ends waits =>
      have howner : matter.enrols listener = decide (owner = listener) := by
        rcases ends with ⟨rfl, -⟩ | rfl <;> rfl
      rw [apply_ite (List.lookup listener), lookup_eraseEntry]
      refine enrolment.moves (decide (owner = listener)) [_] [] _
        (affairs_of_away before.line (.of_eq waits)) (.refl _)
        (by simpa [Affair.enrols] using howner) ?_ fun hother => ⟨?_, rfl⟩
      · intro hown henrolment
        obtain rfl := of_decide_eq_true hown
        rw [if_pos rfl]
        exact henrolment.registered ends
      · rw [if_neg (Ne.symm (of_decide_eq_false hother)), ite_self]
  | @withdrawn _ matter info owner response away _ _ ends waits =>
      have howner : matter.enrols listener = decide (owner = listener) := by
        rcases ends with ⟨rfl, -⟩ | rfl <;> rfl
      rw [apply_ite (List.lookup listener), lookup_eraseEntry]
      refine enrolment.moves (decide (owner = listener)) [_] [] _
        (affairs_of_away before.line (.of_eq waits)) (.refl _)
        (by simpa [Affair.enrols] using howner) ?_ fun hother => ⟨?_, rfl⟩
      · intro hown henrolment
        obtain rfl := of_decide_eq_true hown
        rw [if_pos rfl]
        exact henrolment.withdrawn ends
      · rw [if_neg (Ne.symm (of_decide_eq_false hother)), ite_self]
  | opened waits => exact hforeign (affairs_of_away _ (.of_eq waits)) rfl
  | unopened waits => exact hforeign (affairs_of_away _ (.of_eq waits)) rfl
  | stopped waits => exact hforeign (affairs_of_away _ (.of_eq waits)) rfl

end

end Platform

end Mdns

namespace Configuration

/-- The matter that the network answers about next, and how. -/
def answering (place : Nat) (now : Configuration ι σ) : Option (Matter × Response) :=
  (now.doing? place).bind fun doing => answering? doing.1 doing.2

/-- The services of a listener that the network has after all that it answered so far. -/
def published (place : Nat) (listener : Listener) (past : List (Configuration ι σ)) : List Nat :=
  (past.filterMap (answering place)).foldl (listed listener) []

/-- Does a listener ask for its service to be withdrawn while that service is still being registered
or withdrawn? -/
def overlaps (place : Nat) (listener : Listener) (now : Configuration ι σ) : Bool :=
  match now.doing? place with
  | some (.call (.request .unregister asker), core) =>
      asker = listener && !(enrolling listener (now.docket place core).affairs).isEmpty
  | _ => false

/-- Does the network fail to broadcast a service of a listener that it has put in? -/
def silences (place : Nat) (listener : Listener) (now : Configuration ι σ) : Bool :=
  (now.answering place).any (breaksOff listener)

/-- Is the service of a listener lost to the platform, by requests that overlap or by a broadcast
that fails? -/
def parts (place : Nat) (listener : Listener) (now : Configuration ι σ) : Bool :=
  now.overlaps place listener || now.silences place listener

section

variable {surroundings : Surroundings ι σ} {start now after : Configuration ι σ}
  {past : List (Configuration ι σ)} {place : Nat} {core : Mdns.Platform} {listener : Listener}

theorem published_append (place : Nat) (listener : Listener) (past : List (Configuration ι σ))
    (now : Configuration ι σ) : published place listener (past ++ [now]) =
      (now.answering place).toList.foldl (listed listener) (published place listener past) := by
  cases h : now.answering place <;> simp [published, List.filterMap_append, h]

/-- What holds of the services of all listeners at any time in a run: the platform parted from a
listener's service, or that service is somewhere on its way. -/
structure Enrols (place : Nat) (past : List (Configuration ι σ)) (now : Configuration ι σ)
    (core : Mdns.Platform) : Prop extends now.Keeps place core where
  opened : (now.docket place core).Open
  enrolments : ∀ listener, (∃ moment ∈ past, moment.parts place listener = true) ∨
    Enrolment listener (enrolling listener (now.docket place core).affairs)
      (core.registrations.lookup listener) (published place listener past)

theorem Enrols.step (enrols : Enrols place past now core)
    (h : now.step surroundings = some after) (unclosed : now.closes place = false) :
    ∃ changed, Enrols place (past ++ [now]) after changed := by
  have hold {listener : Listener}
      (parted : ∃ moment ∈ past, moment.parts place listener = true) :
      ∃ moment ∈ past ++ [now], moment.parts place listener = true := by
    obtain ⟨moment, hmem, hparts⟩ := parted
    exact ⟨moment, List.mem_append_left _ hmem, hparts⟩
  rcases enrols.toKeeps.haul h with
    ⟨task, -, -, hdoing, hkeeps, -, hhauled⟩ | ⟨-, hdoing, hkeeps, hdocket⟩
  · have hopen : task ≠ .call .close := not_close_of_doing hdoing unclosed
    have hanswering : now.answering place = answering? task core := by
      rw [answering, hdoing, Option.bind_some]
    refine ⟨_, hkeeps, hhauled.keeps_open enrols.opened hopen, fun listener => ?_⟩
    rcases enrols.enrolments listener with hparted | henrolment
    · exact Or.inl (hold hparted)
    · cases hparts : now.parts place listener with
      | true => exact Or.inl ⟨now, by simp, hparts⟩
      | false =>
          rw [parts, Bool.or_eq_false_iff] at hparts
          have hsole : task = .call (.request .unregister listener) →
              enrolling listener (now.docket place core).affairs = [] := by
            rintro rfl
            simpa [overlaps, hdoing] using hparts.1
          have hunbroken : ∀ answer ∈ answering? task core, breaksOff listener answer = false := by
            intro answer hmem
            simpa [silences, hanswering, Option.mem_def.mp hmem] using hparts.2
          rw [published_append, hanswering]
          exact Or.inr (hhauled.enrols enrols.opened hopen hsole hunbroken henrolment)
  · have hanswering : now.answering place = none := by
      rw [answering, hdoing, Option.bind_none]
    refine ⟨core, hkeeps, hdocket ▸ enrols.opened, fun listener => ?_⟩
    rw [published_append, hanswering, hdocket]
    exact (enrols.enrolments listener).imp_left hold

theorem Course.enrols {opened : Mdns.Platform} (idle : start.Idle place)
    (found : start.world.platforms[place]? = some (.mdns opened)) (started : opened.started = true)
    (blank : opened.registrations = []) (course : Course surroundings start past now)
    (unclosed : ∀ moment ∈ past, moment.closes place = false) :
    ∃ core, Enrols place past now core := by
  induction course with
  | start =>
      obtain ⟨hkeeps, hline, haway, hopen⟩ := idle.docket found
      refine ⟨opened, hkeeps, hopen started, fun listener => Or.inr ?_⟩
      simp only [Docket.affairs, hline, haway, blank]
      exact .resting (by simp [published])
  | step _ step ih =>
      obtain ⟨core, henrols⟩ := ih fun moment hmem => unclosed moment (List.mem_append_left _ hmem)
      exact henrols.step step (unclosed _ (by simp))

/-- As long as a listener never asks for its service to be withdrawn while that service is still
being registered or withdrawn, and no service of its own that was put in fails to be broadcast,
whatever the network has of it is what the platform keeps, and the listener can have it
withdrawn. -/
theorem published_is_kept {opened : Mdns.Platform} (idle : start.Idle place)
    (found : start.world.platforms[place]? = some (.mdns opened)) (started : opened.started = true)
    (blank : opened.registrations = []) (course : Course surroundings start past now)
    (unclosed : ∀ moment ∈ past, moment.closes place = false) :
    ∃ core, now.world.platforms[place]? = some (.mdns core) ∧
      ∀ listener, (∀ moment ∈ past, moment.overlaps place listener = false) →
        (∀ moment ∈ past, moment.silences place listener = false) →
        ∀ info ∈ published place listener past,
          core.registrations.lookup listener = some info ∧
          core.handle listener .unregister = (core.submit (.unregister info listener), []) := by
  obtain ⟨core, henrols⟩ := course.enrols idle found started blank unclosed
  refine ⟨core, henrols.found, fun listener hsole hloud info hmem => ?_⟩
  have hstarted : core.started = true := henrols.opened.started
  have hkept : core.registrations.lookup listener = some info := by
    rcases henrols.enrolments listener with ⟨moment, hpast, hparts⟩ | henrolment
    · rw [parts, hsole moment hpast, hloud moment hpast] at hparts
      cases hparts
    · exact henrolment.kept_of_mem hmem
  refine ⟨hkept, ?_⟩
  simp [handle, requestUnregister, submitOrRaise, hkept, hstarted]

end

/-- A session over a platform of its own that is started, and what is to be asked of both. -/
def publisher (operations : List Operation) : Configuration ι (List (List (Move ι))) where
  world := (World.addPublication 0 0 (.outside 0) {
    registries := [{}]
    platforms := [.mdns {
      host := { ownName := "host", ownAddress := .ok "127.0.0.1" }, timeout := 3000
      started := true }] }).2
  around := []
  agenda := operations.map Operation.work

theorem publisher_idle (operations : List Operation) :
    (publisher (ι := ι) operations).Idle 0 :=
  ⟨_, rfl, rfl, rfl, rfl, fun _ => Operation.not_job_of_mem⟩

/-- A service is withdrawn in good order, and another one takes its place. -/
theorem published_is_kept_of_renewed :
    let start : Configuration Empty (List (List (Move Empty))) := publisher [
      .publication 0 (.register "Printer" "_ipp._tcp" (.int 631) []), .platform 0 .turn,
      .platform 0 .turn, .platform 0 (.reply 0 .done), .platform 0 (.reply 1 .done),
      .publication 0 .unregister, .platform 0 .turn, .platform 0 .turn,
      .platform 0 (.reply 2 .done), .platform 0 (.reply 3 .done),
      .publication 0 (.register "Scanner" "_ipp._tcp" (.int 632) []), .platform 0 .turn,
      .platform 0 .turn, .platform 0 (.reply 4 .done), .platform 0 (.reply 5 .done)]
    let now := run .scripted 65 start
    let past := trail .scripted 65 start
    published 0 (.member 0) past = [1] ∧
      ∃ core, now.world.platforms[0]? = some (.mdns core) ∧
        core.registrations.lookup (.member 0) = some 1 ∧
        core.handle (.member 0) .unregister = (core.submit (.unregister 1 (.member 0)), []) := by
  intro start now past
  have hpublished : published 0 (.member 0) past = [1] := by decide +kernel
  have hunclosed : ∀ moment ∈ past, moment.closes 0 = false := by decide +kernel
  have hsole : ∀ moment ∈ past, moment.overlaps 0 (.member 0) = false := by decide +kernel
  have hloud : ∀ moment ∈ past, moment.silences 0 (.member 0) = false := by decide +kernel
  have hcourse : Course .scripted start past now := course_run .scripted 65 start
  obtain ⟨core, hfound, hkept⟩ :=
    published_is_kept (publisher_idle _) rfl rfl rfl hcourse hunclosed
  exact ⟨hpublished, core, hfound, hkept (.member 0) hsole hloud 1 (by simp [hpublished])⟩

/-- A session has its service withdrawn before the network has put that service in. The network has
nothing to take out yet and says so to everybody, the platform forgets the service, and then the
network has it for ever: nothing is under way any more, and whoever asks for it to be withdrawn is
refused. -/
theorem withdrawn_too_early_stays_published :
    let start : Configuration Empty (List (List (Move Empty))) := publisher [
      .publication 0 (.register "Printer" "_ipp._tcp" (.int 631) []), .publication 0 .unregister,
      .platform 0 .turn, .platform 0 .turn, .platform 0 .turn, .platform 0 .turn,
      .platform 0 (.wake 1 .done), .platform 0 .turn, .platform 0 (.wake 2 .done),
      .platform 0 .turn, .platform 0 (.wake 0 .done), .platform 0 .turn,
      .platform 0 (.wake 3 .done), .platform 0 .turn]
    let now := run .scripted 50 start
    let past := trail .scripted 50 start
    now.agenda.isEmpty ∧ published 0 (.member 0) past = [0] ∧
      ∃ core, now.world.platforms[0]? = some (.mdns core) ∧ core.started = true ∧
        core.ready = [] ∧ core.waiting = [] ∧ core.registrations = [] ∧
        core.handle (.member 0) .unregister =
          (core, [.raise (.invalidService "Listener has no registered service")]) := by
  intro start now past
  have hunclosed : ∀ moment ∈ past, moment.closes 0 = false := by decide +kernel
  have hcourse : Course .scripted start past now := course_run .scripted 50 start
  obtain ⟨core, henrols⟩ := hcourse.enrols (publisher_idle _) rfl rfl rfl hunclosed
  have hleft : (now.world.mdns? 0).map (fun core =>
      (core.ready, core.waiting, core.registrations)) = some ([], [], []) := by decide +kernel
  rw [World.mdns?_eq_some henrols.found, Option.map_some, Option.some.injEq, Prod.mk.injEq,
    Prod.mk.injEq] at hleft
  obtain ⟨hready, hwaiting, hblank⟩ := hleft
  refine ⟨by decide +kernel, by decide +kernel, core, henrols.found, henrols.opened.started, hready,
    hwaiting, hblank, ?_⟩
  simp [handle, requestUnregister, hblank]

end Configuration

end ServiceDiscovery
