import ServiceDiscovery.Proofs.ResolveQueue.Record
import ServiceDiscovery.Proofs.ResolveQueue.View

/-!
How many resolves are open at once. An account follows the calls to the platform: which of them
raised, and which call each outcome is for. A platform may answer a call once, while the call lasts
or at any later time. The queue tells outcomes apart by their references only, so an outcome that
comes late, for a call that had raised or was given up, can end a request that it is not meant for.
But for those, there is one open call while a request is under way, and none otherwise.
-/

namespace ServiceDiscovery

variable {ι σ : Type}

namespace ResolveQueue

/-- A call to the platform, and what came of it so far. -/
structure Resolve where
  ref : ServiceRef
  raised : Bool := false
  answered : Bool := false
  deriving DecidableEq, Repr

def Resolve.isOpen (call : Resolve) : Bool :=
  !call.raised && !call.answered

/-- An account of the calls to the platform. -/
structure Account where
  /-- For each outcome that is still to come, the place of the call that it answers. -/
  answers : List Nat
  calls : List Resolve := []
  /-- The places of calls that did not return yet, the innermost first. -/
  running : List Nat := []
  /-- How many outcomes came for calls that had raised before. -/
  late : Nat := 0
  deriving DecidableEq, Repr

namespace Account

def openCalls (account : Account) : Nat :=
  account.calls.countP Resolve.isOpen

def ask (ref : ServiceRef) (account : Account) : Account :=
  { account with
    calls := account.calls ++ [{ ref }]
    running := account.calls.length :: account.running }

/-- The innermost call returns. -/
def giveBack (account : Account) : Account :=
  { account with running := account.running.tail }

/-- The innermost call raises. -/
def refuse (account : Account) : Account :=
  match account.running with
  | [] => account
  | place :: rest =>
      match account.calls[place]? with
      | none => account
      | some call =>
          { account with
            calls := account.calls.set place { call with raised := true }, running := rest }

/-- An outcome comes for the call that it is meant for. That call asked for the same reference, and
was not answered before. -/
def answer (ref : ServiceRef) (account : Account) : Option Account :=
  match account.answers with
  | [] => none
  | place :: rest =>
      match account.calls[place]? with
      | none => none
      | some call =>
          if call.ref = ref ∧ call.answered = false then
            some { account with
              answers := rest
              calls := account.calls.set place { call with answered := true }
              late := account.late + if call.raised then 1 else 0 }
          else none

/-- The account after something happened. There is none if an outcome came that is for no call. -/
def next (account : Account) : Happening → Option Account
  | .made (.resolve ref) => some (account.ask ref)
  | .turn (.run (.resolving _)) _ => some account.giveBack
  | .turn (.refused _ _) _ => some account.refuse
  | .turn (.run (.call (.outcome outcome))) _ => account.answer outcome.ref
  | _ => some account

/-- The account of a history, given which calls the outcomes are for. -/
def of? (answers : List Nat) (history : List Happening) : Option Account :=
  history.foldlM next { answers }

theorem of?_append {answers : List Nat} {history : List Happening} {happening : Happening}
    {account : Account} (h : of? answers (history ++ [happening]) = some account) :
    ∃ before, of? answers history = some before ∧ before.next happening = some account := by
  simpa [of?, Option.bind_eq_some_iff] using h

variable {account after : Account} {ref : ServiceRef}

/-- What is no longer open counts no more. -/
theorem countP_set {calls : List Resolve} {place : Nat} {call : Resolve} (marked : Resolve)
    (found : calls[place]? = some call) (hmarked : marked.isOpen = false) :
    (calls.set place marked).countP Resolve.isOpen + (if call.isOpen then 1 else 0) =
      calls.countP Resolve.isOpen := by
  obtain ⟨hlt, hcall⟩ := List.getElem?_eq_some_iff.mp found
  rw [List.countP_set hlt, hcall, hmarked]
  split
  · have hpos : 0 < calls.countP Resolve.isOpen :=
      List.countP_pos_iff.mpr ⟨call, List.mem_of_getElem? found, ‹_›⟩
    simp only [Bool.false_eq_true, ↓reduceIte]
    omega
  · simp

theorem answer_eq_some (h : account.answer ref = some after) :
    ∃ place rest call, account.answers = place :: rest ∧ account.calls[place]? = some call ∧
      call.ref = ref ∧ call.answered = false ∧ after = { account with
        answers := rest
        calls := account.calls.set place { call with answered := true }
        late := account.late + if call.raised then 1 else 0 } := by
  unfold answer at h
  split at h
  · cases h
  · rename_i place rest hanswers
    split at h
    · cases h
    · rename_i call hcall
      split at h
      · rename_i hfits
        cases h
        exact ⟨place, rest, call, hanswers, hcall, hfits.1, hfits.2, rfl⟩
      · cases h

/-- A fault ends the call that was made last when no other is under way. -/
theorem refuse_eq (hrunning : account.running = [account.calls.length - 1])
    (hcalls : account.calls ≠ []) :
    ∃ call, account.calls.getLast? = some call ∧ account.refuse = { account with
      calls := account.calls.set (account.calls.length - 1) { call with raised := true }
      running := [] } := by
  obtain ⟨call, hlast⟩ := Option.isSome_iff_exists.mp (List.getLast?_isSome.mpr hcalls)
  refine ⟨call, hlast, ?_⟩
  rw [List.getLast?_eq_getElem?] at hlast
  simp only [refuse, hrunning, hlast]

/-- An outcome closes an open call or comes late. -/
theorem answer_openCalls (h : account.answer ref = some after) :
    after.openCalls + 1 + account.late = account.openCalls + after.late := by
  obtain ⟨place, rest, call, _, hcall, _, hanswered, rfl⟩ := answer_eq_some h
  have hcount := countP_set { call with answered := true } hcall (by simp [Resolve.isOpen])
  have hone : (if call.isOpen then 1 else 0) + (if call.raised then 1 else 0) = 1 := by
    simp only [Resolve.isOpen, hanswered]
    cases call.raised <;> rfl
  change (account.calls.set place _).countP Resolve.isOpen + 1 + account.late =
    account.calls.countP Resolve.isOpen + (account.late + if call.raised then 1 else 0)
  omega

end Account

/-- Is the effect the task that waits for a call to the platform to return? -/
def Effect.isResolving : Effect → Bool
  | own (.resolving _) => true
  | _ => false

namespace Deed

variable {deed : Deed} {before after : ResolveQueue} {request : ResolveRequest}

/-- Does the deed end the try of a request under way? -/
def settles : Deed → Bool
  | resolved _ _ | failed _ | requeued _ => true
  | _ => false

/-- The slot is filled by a claim, and freed by what settles or gives up the request in it. -/
theorem Turns.slot (turns : deed.Turns before after) :
    after.inFlight.toList.length + (deed.met .abandoned).length +
        (if deed.settles then 1 else 0) =
      before.inFlight.toList.length + (deed.met .claimed).length := by
  have hallowed := turns.allowed
  rw [turns.inFlight]
  cases deed with
  | claimed claimed => simp [met, onSlot, settles, hallowed.1]
  | cleared dropped abandoned => simp [met, onSlot, settles, hallowed.2]
  | resolved settled | failed settled | requeued settled =>
      change before.inFlight = some settled at hallowed
      simp [met, onSlot, settles, hallowed]
  | _ => simp [met, onSlot, settles]

/-- A request under way was so before, unless it is claimed. -/
theorem Turns.flying (turns : deed.Turns before after) (hflying : after.inFlight = some request)
    (hclaimed : deed.met .claimed = []) :
    before.inFlight = some request ∧ deed.settles = false := by
  rw [turns.inFlight] at hflying
  cases deed with
  | claimed claimed => cases hclaimed
  | cleared | resolved | failed | requeued => cases hflying
  | _ => exact ⟨hflying, rfl⟩

end Deed

namespace Scene

variable {queue : ResolveQueue} {due : List Effect} {history : List Happening}
  {account later : Account}

/-- Is a call to the platform under way? -/
def waits (scene : Scene) : Bool :=
  scene.asking.isEmpty && scene.due.any Effect.isResolving

theorem waits_of_calm (queue : ResolveQueue) (calm : ∀ effect ∈ due, effect.isOwn) :
    waits ⟨queue, due⟩ = due.any Effect.isResolving := by
  simp [waits, asking_of_calm _ calm]

theorem any_resolving_of_sole (hsole : due.countP Effect.isDraining = 0) :
    due.any Effect.isResolving = false := by
  rw [List.any_eq_false]
  intro effect hmem hresolving
  refine List.countP_eq_zero.mp hsole effect hmem ?_
  cases effect with
  | own task => cases task <;> first | rfl | cases hresolving
  | _ => cases hresolving

/-- A turn neither begins nor ends a call to the platform, but for the task that waits for it. -/
theorem waits_after (turn : Turn) (calm : ∀ effect ∈ due, effect.isOwn)
    (orderly : (after turn queue due).Orderly) :
    (after turn queue due).waits = due.any Effect.isResolving := by
  have hquiet (hfront : ∀ effect ∈ (take turn queue).2.filter Effect.isDue,
      effect.ref? = none ∧ effect.isResolving = false) :
      (after turn queue due).waits = due.any Effect.isResolving := by
    have hasks : ((take turn queue).2.filter Effect.isDue).filterMap Effect.ref? = [] :=
      List.filterMap_eq_nil_iff.mpr fun effect hmem => (hfront effect hmem).1
    have hnone : ((take turn queue).2.filter Effect.isDue).any Effect.isResolving = false :=
      List.any_eq_false.mpr fun effect hmem => by simp [(hfront effect hmem).2]
    have hdue : due.filterMap Effect.ref? = [] := asking_of_calm queue calm
    simp [waits, asking, after, List.filterMap_append, hasks, hnone, hdue]
  have hbatch := (taken turn queue).batch
  generalize htake : (take turn queue).2 = effects at hbatch hquiet
  cases hbatch with
  | plain h =>
      refine hquiet fun effect hmem => ?_
      have hplain := h effect (List.mem_filter.mp hmem).1
      cases effect with
      | own task => cases task <;> first | exact ⟨rfl, rfl⟩ | cases hplain
      | resolve ref => cases hplain
      | _ => exact ⟨rfl, rfl⟩
  | asking message ref =>
      have hafter : (after turn queue due).due = .resolve ref :: .own (.resolving ref) :: due := by
        change (take turn queue).2.filter Effect.isDue ++ due = _
        rw [htake]
        rfl
      -- Whoever waits for the new call owns the drain, so nobody behind it waits for another one.
      have hsole : due.countP Effect.isDraining = 0 := by
        have hone : (after turn queue due).due.countP Effect.isDraining ≤ 1 := by
          rw [orderly.owner]
          split <;> omega
        rw [hafter] at hone
        simp only [List.countP_cons, Effect.isDraining] at hone
        simp at hone
        simpa using hone
      rw [any_resolving_of_sole hsole]
      simp [waits, asking, hafter, Effect.ref?]
  | holding message timer =>
      refine hquiet fun effect hmem => ?_
      simp only [List.mem_filter, List.mem_cons, List.not_mem_nil, or_false] at hmem
      rcases hmem with ⟨rfl | rfl, _⟩ <;> exact ⟨rfl, rfl⟩
  | releasing timer h =>
      refine hquiet fun effect hmem => ?_
      rcases List.mem_cons.mp (List.mem_filter.mp hmem).1 with rfl | hreport
      · exact ⟨rfl, rfl⟩
      · obtain ⟨message, rfl⟩ := h effect hreport
        exact ⟨rfl, rfl⟩

/-- The account knows which call is under way. -/
structure Traced (scene : Scene) (account : Account) : Prop where
  running : account.running = if scene.waits then [account.calls.length - 1] else []
  called : scene.waits → account.calls ≠ []

/-- An account stays right about what is under way when only calls of the past are looked at. -/
theorem Traced.congr {scene next : Scene} (h : scene.Traced account)
    (hwaits : next.waits = scene.waits) (hrunning : later.running = account.running)
    (hlength : later.calls.length = account.calls.length) : next.Traced later where
  running := by rw [hrunning, h.running, hwaits, hlength]
  called := by
    intro hwaiting hnil
    refine h.called (hwaits ▸ hwaiting) (List.length_eq_zero_iff.mp ?_)
    rw [← hlength, hnil, List.length_nil]

theorem traced_of_idle {scene : Scene} (hwaits : scene.waits = false)
    (hrunning : account.running = []) : scene.Traced account where
  running := by simp [hwaits, hrunning]
  called := by simp [hwaits]

theorem step_traced {scene next : Scene} {happening : Happening} (step : Step scene happening next)
    (orderly : scene.Orderly) (h : scene.Traced account)
    (hnext : account.next happening = some later) : next.Traced later := by
  have horderly := step_orderly step orderly
  cases step with
  | @called queue due operation calm =>
      have hwaits := (waits_after _ calm horderly).trans (waits_of_calm queue calm).symm
      cases operation with
      | outcome outcome =>
          obtain ⟨_, _, _, _, _, _, _, rfl⟩ := Account.answer_eq_some hnext
          exact h.congr hwaits rfl (by simp)
      | _ =>
          cases hnext
          exact h.congr hwaits rfl rfl
  | @ran queue due task inner calm =>
      have hwaits := waits_after _ calm horderly
      have hbefore : waits ⟨queue, .own task :: due⟩ =
          (Effect.own task :: due).any Effect.isResolving :=
        waits_of_calm queue (List.forall_mem_cons.mpr ⟨rfl, calm⟩)
      cases task with
      | call operation => exact absurd rfl (inner operation)
      | resolving ref =>
          cases hnext
          have hidle := any_resolving_of_sole (orderly.sole rfl).2
          refine traced_of_idle (hwaits.trans hidle) ?_
          rw [Account.giveBack, h.running, hbefore]
          rfl
      | _ =>
          cases hnext
          exact h.congr (hwaits.trans hbefore.symm) rfl rfl
  | @refused queue due ref fault calm =>
      cases hnext
      have hidle := any_resolving_of_sole (orderly.sole rfl).2
      have hbefore : waits ⟨queue, .own (.resolving ref) :: due⟩ = true :=
        waits_of_calm queue (List.forall_mem_cons.mpr ⟨rfl, calm⟩)
      have hrunning : account.running = [account.calls.length - 1] := by
        rw [h.running, hbefore]
        rfl
      obtain ⟨call, _, heq⟩ := account.refuse_eq hrunning (h.called hbefore)
      exact traced_of_idle ((waits_after _ calm horderly).trans hidle) (by rw [heq])
  | @made queue due call outer =>
      have hafter : waits ⟨queue, due⟩ = due.any Effect.isResolving :=
        waits_of_calm queue orderly.prompt
      cases call with
      | own task => cases outer
      | resolve ref =>
          cases hnext
          obtain ⟨-, behind, hdue⟩ := orderly.asking ref due rfl
          have hwaiting : waits ⟨queue, due⟩ = true := by
            rw [hafter, hdue]
            rfl
          have hidle : account.running = [] := by
            rw [h.running]
            rfl
          constructor
          · simp [Account.ask, hwaiting, hidle]
          · simp [Account.ask]
      | _ =>
          cases hnext
          exact h.congr rfl rfl rfl

/-- The open calls are those that the queue knows of: the one for the request under way, and at most
one for each request that was given up and for each outcome that came late. -/
structure Tallied (history : List Happening) (scene : Scene) (account : Account) : Prop where
  bound : account.openCalls + scene.asking.length ≤ scene.queue.inFlight.toList.length +
    (met .abandoned history).length + account.late
  /-- The call for the request under way is open, once it was made. -/
  flying : ∀ request, scene.queue.inFlight = some request → scene.asking = [] →
    ∃ call, account.calls.getLast? = some call ∧ call.ref = request.ref ∧ call.isOpen

variable {scene : Scene} {turn : Turn}

/-- A turn keeps the tally: a claim fills the slot for the call to come, what is given up is
counted, and with each request that it settles an open call is closed or an outcome comes late. -/
theorem Tallied.turned (h : Tallied history ⟨queue, due⟩ account)
    (calm : ∀ effect ∈ due, effect.isOwn)
    (hclosed : later.openCalls + (if (deed turn queue).settles then 1 else 0) + account.late ≤
      account.openCalls + later.late)
    (hlast : (deed turn queue).settles = false → ∀ request, queue.inFlight = some request →
      ∀ call, account.calls.getLast? = some call → call.ref = request.ref →
        later.calls.getLast? = some call) :
    Tallied (history ++ [.turn turn queue]) (after turn queue due) later := by
  have turns := (taken turn queue).turns
  have hasking := asking_after turn queue calm
  have hnone : asking ⟨queue, due⟩ = [] := asking_of_calm queue calm
  constructor
  · have hslot := turns.slot
    have hbound := h.bound
    rw [hnone] at hbound
    rw [hasking, met_append]
    simp only [List.length_nil, List.length_append, List.length_map] at hbound ⊢
    change later.openCalls + _ ≤ (take turn queue).1.inFlight.toList.length +
      (_ + ((deed turn queue).met .abandoned).length) + later.late
    omega
  · intro request hrequest hasked
    rw [hasking, List.map_eq_nil_iff] at hasked
    obtain ⟨hbefore, hsettles⟩ := turns.flying hrequest hasked
    obtain ⟨call, hcall, href, hopen⟩ := h.flying request hbefore hnone
    exact ⟨call, hlast hsettles request hbefore call hcall href, href, hopen⟩

theorem Tallied.unsettled (h : Tallied history ⟨queue, due⟩ account)
    (calm : ∀ effect ∈ due, effect.isOwn) (hcalls : later.calls = account.calls)
    (hlate : later.late = account.late) (hunsettled : (deed turn queue).settles = false) :
    Tallied (history ++ [.turn turn queue]) (after turn queue due) later := by
  refine h.turned calm ?_ fun _ _ _ call hcall _ => hcalls ▸ hcall
  simp [Account.openCalls, hcalls, hlate, hunsettled]

/-- An outcome settles the request under way, or it is for another reference and so for another
call. -/
theorem outcome_tallied {outcome : ResolveOutcome} (h : Tallied history ⟨queue, due⟩ account)
    (calm : ∀ effect ∈ due, effect.isOwn) (hanswer : account.answer outcome.ref = some later) :
    Tallied (history ++ [.turn (.run (.call (.outcome outcome))) queue])
      (after (.run (.call (.outcome outcome))) queue due) later := by
  have hclosed := Account.answer_openCalls hanswer
  cases hanswered : queue.answered outcome.ref with
  | some request =>
      have hsettled : (queue.settle outcome).settles = true := by
        cases outcome <;> simp only [settle, hanswered] <;> split <;> rfl
      refine h.turned calm ?_ fun hnot => by cases hsettled.symm.trans hnot
      simp only [deed, hsettled, ↓reduceIte]
      omega
  | none =>
      have hunsettled : (queue.settle outcome).settles = false := by
        simp [settle, hanswered, Deed.settles]
      refine h.turned calm ?_ fun _ request hrequest call hcall href => ?_
      · simp only [deed, hunsettled, Bool.false_eq_true, ↓reduceIte]
        omega
      obtain ⟨place, rest, other, _, hother, hsame, _, rfl⟩ := Account.answer_eq_some hanswer
      -- The last call asked for the request under way, so the outcome is for an earlier one.
      have hdiffer : request.ref ≠ outcome.ref := by simpa [answered, hrequest] using hanswered
      rw [List.getLast?_eq_getElem?] at hcall ⊢
      have hne : place ≠ account.calls.length - 1 := by
        rintro rfl
        obtain rfl : other = call := Option.some.inj (hother.symm.trans hcall)
        exact hdiffer (href.symm.trans hsame)
      simp only [List.length_set]
      rw [List.getElem?_set_ne hne]
      exact hcall

/-- A fault settles the request under way, which is the one that the platform was asked for, unless
the call was answered or given up before. -/
theorem refused_tallied {ref : ServiceRef} {fault : Fault}
    (h : Tallied history ⟨queue, .own (.resolving ref) :: due⟩ account)
    (orderly : Orderly ⟨queue, .own (.resolving ref) :: due⟩)
    (traced : Traced ⟨queue, .own (.resolving ref) :: due⟩ account)
    (calm : ∀ effect ∈ due, effect.isOwn) :
    Tallied (history ++ [.turn (.refused ref fault) queue])
      (after (.refused ref fault) queue due) account.refuse := by
  have hcalm : ∀ effect ∈ Effect.own (.resolving ref) :: due, effect.isOwn :=
    List.forall_mem_cons.mpr ⟨rfl, calm⟩
  have hwaits : waits ⟨queue, .own (.resolving ref) :: due⟩ = true := waits_of_calm queue hcalm
  obtain ⟨call, hcall, heq⟩ :=
    account.refuse_eq (by rw [traced.running, hwaits]; rfl) (traced.called hwaits)
  have hcount := Account.countP_set { call with raised := true }
    (by rw [← List.getLast?_eq_getElem?]; exact hcall) (by simp [Resolve.isOpen])
  have hopen : account.refuse.openCalls + (if call.isOpen then 1 else 0) = account.openCalls := by
    rw [heq]
    exact hcount
  have hlate : account.refuse.late = account.late := by rw [heq]
  have h' : Tallied history ⟨queue, due⟩ account := {
    bound := h.bound
    flying := fun request hrequest _ => h.flying request hrequest (asking_of_calm _ hcalm) }
  cases hslot : queue.inFlight with
  | some request =>
      have href : request.ref = ref := orderly.resolving ref List.mem_cons_self request hslot
      have hanswered : queue.answered ref = some request := by simp [answered, hslot, href]
      obtain ⟨last, hlast, _, hflying⟩ := h.flying request hslot (asking_of_calm _ hcalm)
      obtain rfl : call = last := Option.some.inj (hcall.symm.trans hlast)
      have hsettled : (deed (.refused ref fault) queue).settles = true := by
        simp [deed, hanswered, Deed.settles]
      refine h'.turned calm ?_ fun hnot => by cases hsettled.symm.trans hnot
      simp only [hflying, hsettled, ↓reduceIte] at hopen ⊢
      omega
  | none =>
      have hanswered : queue.answered ref = none := by simp [answered, hslot]
      have hunsettled : (deed (.refused ref fault) queue).settles = false := by
        simp [deed, hanswered, Deed.settles]
      refine h'.turned calm ?_ fun _ request hrequest => by cases hslot.symm.trans hrequest
      simp only [hunsettled, Bool.false_eq_true, ↓reduceIte]
      omega

/-- A call that is made is open. -/
theorem made_tallied {call : Effect} (h : Tallied history ⟨queue, call :: due⟩ account)
    (orderly : Orderly ⟨queue, call :: due⟩) (outer : call.isOwn = false)
    (hnext : account.next (.made call) = some later) :
    Tallied (history ++ [.made call]) ⟨queue, due⟩ later := by
  have hmet : met .abandoned (history ++ [.made call]) = met .abandoned history := by
    simp [met_append, Happening.deed, Deed.met]
  have hbound := h.bound
  cases call with
  | own task => cases outer
  | resolve ref =>
      cases hnext
      constructor
      · rw [hmet]
        simp [asking, Account.ask, Account.openCalls, Resolve.isOpen, Effect.ref?] at hbound ⊢
        omega
      · intro request hrequest _
        obtain ⟨-, behind, hdue⟩ := orderly.asking ref due rfl
        change due = _ at hdue
        refine ⟨{ ref }, by simp [Account.ask], ?_, rfl⟩
        exact (orderly.resolving ref (by simp [hdue]) request hrequest).symm
  | _ =>
      cases hnext
      exact ⟨by rw [hmet]; exact hbound, h.flying⟩

theorem step_tallied {next : Scene} {happening : Happening} (step : Step scene happening next)
    (orderly : scene.Orderly) (traced : scene.Traced account) (h : scene.Tallied history account)
    (hnext : account.next happening = some later) :
    next.Tallied (history ++ [happening]) later := by
  cases step with
  | called operation calm =>
      cases operation with
      | outcome outcome => exact outcome_tallied h calm hnext
      | enqueue ref session =>
          cases hnext
          refine h.unsettled calm rfl rfl ?_
          simp only [deed, intake]
          split <;> rfl
      | _ =>
          cases hnext
          exact h.unsettled calm rfl rfl rfl
  | @ran queue due task inner calm =>
      have h' : Tallied history ⟨queue, due⟩ account := {
        bound := h.bound
        flying := fun request hrequest _ =>
          h.flying request hrequest (asking_of_calm _ (List.forall_mem_cons.mpr ⟨rfl, calm⟩)) }
      have hclaim : queue.claim.settles = false := by
        unfold claim
        split <;> rfl
      cases task with
      | call operation => exact absurd rfl (inner operation)
      | drain =>
          cases hnext
          exact h'.unsettled calm rfl rfl rfl
      | next =>
          cases hnext
          exact h'.unsettled calm rfl rfl hclaim
      | resolving ref =>
          cases hnext
          exact h'.unsettled calm rfl rfl hclaim
  | refused ref fault calm =>
      cases hnext
      exact refused_tallied h orderly traced calm
  | made call outer => exact made_tallied h orderly outer hnext

/-- Whatever the platform does, as long as its outcomes are for calls that were made, the account
tallies with the queue. -/
theorem run_tallied {deduplicate : Bool} {retryDelay : Double} {answers : List Nat}
    (run : Run (fresh deduplicate retryDelay) history scene)
    (hof : Account.of? answers history = some account) :
    scene.Traced account ∧ scene.Tallied history account := by
  induction run generalizing account with
  | start =>
      cases hof
      exact ⟨traced_of_idle rfl rfl, Nat.le_refl _, by simp [fresh]⟩
  | step run step ih =>
      obtain ⟨before, hbefore, hnext⟩ := Account.of?_append hof
      obtain ⟨htraced, htallied⟩ := ih hbefore
      have horderly := run_orderly run
      exact ⟨step_traced step horderly htraced hnext,
        step_tallied step horderly htraced htallied hnext⟩

/-- The platform is about to be asked for the request under way, or for nothing. -/
theorem Orderly.asking_cases (orderly : scene.Orderly) : scene.asking = [] ∨
    ∃ request, scene.queue.inFlight = some request ∧ scene.asking = [request.ref] := by
  obtain ⟨queue, due⟩ := scene
  cases due with
  | nil => exact Or.inl rfl
  | cons effect rest =>
      have hrest : rest.filterMap Effect.ref? = [] := asking_of_calm queue orderly.prompt
      cases effect with
      | resolve ref =>
          obtain ⟨hslot, behind, hbehind⟩ := orderly.asking ref rest rfl
          obtain ⟨request, hrequest⟩ := Option.ne_none_iff_exists'.mp hslot
          have href : request.ref = ref :=
            orderly.resolving ref (by simp [hbehind]) request hrequest
          refine Or.inr ⟨request, hrequest, ?_⟩
          change ref :: rest.filterMap Effect.ref? = [request.ref]
          rw [hrest, href]
      | _ => exact Or.inl hrest

/-- If nothing was given up and nothing came late, the open calls are those for the request under
way. -/
theorem Tallied.open_eq (h : scene.Tallied history account) (orderly : scene.Orderly)
    (habandoned : met .abandoned history = []) (hlate : account.late = 0) :
    (account.calls.filter Resolve.isOpen).map (·.ref) ++ scene.asking =
      scene.queue.inFlight.toList.map (·.ref) := by
  have hbound := h.bound
  rw [habandoned, hlate, Account.openCalls, List.countP_eq_length_filter] at hbound
  rcases orderly.asking_cases with hnone | ⟨request, hrequest, hasking⟩
  · rw [hnone, List.append_nil]
    rw [hnone] at hbound
    cases hslot : scene.queue.inFlight with
    | none =>
        have hclosed : account.calls.filter Resolve.isOpen = [] := by
          simpa [hslot] using hbound
        simp [hclosed]
    | some request =>
        obtain ⟨call, hcall, href, hopen⟩ := h.flying request hslot hnone
        have hmem : call ∈ account.calls.filter Resolve.isOpen :=
          List.mem_filter.mpr ⟨List.mem_of_getLast? hcall, hopen⟩
        have hone : (account.calls.filter Resolve.isOpen).length = 1 := by
          have hpos := List.length_pos_of_mem hmem
          simp [hslot] at hbound
          omega
        obtain ⟨only, honly⟩ := List.length_eq_one_iff.mp hone
        rw [honly, List.mem_singleton] at hmem
        subst hmem
        simp [honly, href]
  · have hclosed : account.calls.filter Resolve.isOpen = [] := by
      simpa [hrequest, hasking] using hbound
    simp [hclosed, hrequest, hasking]

end Scene

end ResolveQueue

namespace Configuration

open ResolveQueue

variable {surroundings : Surroundings ι σ} {start now : Configuration ι σ}
  {past : List (Configuration ι σ)} {index : Nat} {node : QueueNode} {answers : List Nat}
  {account : Account}

/-- At every moment there are at most as many open calls as requests under way and given up, and
outcomes that came for calls that had raised before. A request under way has an open call, unless
the platform is just about to be asked for it. If no request was given up and no such outcome came,
then the open calls are exactly those for the request under way, so there is never more than one. -/
theorem single_flight (quiet : surroundings.Quiet) (fresh : start.Fresh index node)
    (course : Course surroundings start past now)
    (hof : Account.of? answers (history index past) = some account) :
    ∃ found, now.world.queues[index]? = some found ∧
      account.openCalls ≤ found.core.inFlight.toList.length +
        (met .abandoned (history index past)).length + account.late ∧
      (∀ request, found.core.inFlight = some request →
        (∀ ref, .resolve ref ∉ now.due index) →
        ∃ call ∈ account.calls, call.isOpen ∧ call.ref = request.ref) ∧
      (met .abandoned (history index past) = [] → account.late = 0 →
        (account.calls.filter Resolve.isOpen).map (·.ref) ++ (now.due index).filterMap Effect.ref? =
          found.core.inFlight.toList.map (·.ref)) := by
  obtain ⟨scene, hrun, hshows⟩ := course.shows quiet fresh
  obtain ⟨_, htallied⟩ := Scene.run_tallied hrun hof
  have hbound := htallied.bound
  refine ⟨_, hshows.queue, by dsimp only; omega, ?_, ?_⟩
  · intro request hrequest hasked
    have hasking : scene.asking = [] := by
      refine List.filterMap_eq_nil_iff.mpr fun effect hmem => ?_
      rw [← hshows.due] at hmem
      cases effect with
      | resolve ref => exact absurd hmem (hasked ref)
      | _ => rfl
    obtain ⟨call, hcall, href, hopen⟩ := htallied.flying request hrequest hasking
    exact ⟨call, List.mem_of_getLast? hcall, hopen, href⟩
  · intro habandoned hlate
    rw [hshows.due]
    exact htallied.open_eq (Scene.run_orderly hrun) habandoned hlate

/-- While a platform works on its only call, that call is the only open one. -/
theorem single_flight_of_open :
    let ref : ServiceRef := { name := "Printer", type := "_ipp._tcp" }
    let start : Configuration Empty _ := alone false .zero [] [.enqueue ref 1, .enqueue ref 2]
    let now := run .scripted 20 start
    let past := history 0 (trail .scripted 20 start)
    let account : Account := { answers := [], calls := [{ ref }] }
    Account.of? [] past = some account ∧ ∃ found, now.world.queues[0]? = some found ∧
      account.openCalls ≤ found.core.inFlight.toList.length +
        (met .abandoned past).length + account.late ∧
      (∀ request, found.core.inFlight = some request → (∀ ref, .resolve ref ∉ now.due 0) →
        ∃ call ∈ account.calls, call.isOpen ∧ call.ref = request.ref) ∧
      (met .abandoned past = [] → account.late = 0 →
        (account.calls.filter Resolve.isOpen).map (·.ref) ++ (now.due 0).filterMap Effect.ref? =
          found.core.inFlight.toList.map (·.ref)) :=
  ⟨rfl, single_flight Surroundings.scripted_quiet (alone_fresh ..) (course_run ..) rfl⟩

/-- A platform that raises and answers the same call later ends a request that it still works on:
nothing was given up, and yet a call is open while no request is under way. -/
theorem open_call_without_request :
    let ref : ServiceRef := { name := "Printer", type := "_ipp._tcp" }
    let start : Configuration Empty _ := alone false .zero [[.raise (.outside .runtime "busy")]]
      [.enqueue ref 1, .enqueue ref 2, .outcome (.failed ref FailureCode.internal)]
    let now := run .scripted 40 start
    let past := history 0 (trail .scripted 40 start)
    let account : Account := {
      answers := []
      calls := [{ ref, raised := true, answered := true }, { ref }]
      late := 1 }
    Surroundings.Quiet (Surroundings.scripted (ι := Empty)) ∧
      (∃ node, start.Fresh 0 node) ∧ Course .scripted start (trail .scripted 40 start) now ∧
      Account.of? [0] past = some account ∧ ∃ found, now.world.queues[0]? = some found ∧
      ¬ account.openCalls ≤ found.core.inFlight.toList.length + (met .abandoned past).length :=
  ⟨Surroundings.scripted_quiet, ⟨_, alone_fresh ..⟩, course_run .., rfl, _, rfl, by decide⟩

end Configuration

end ServiceDiscovery
