import ServiceDiscovery.Proofs.Mdns.Errand

/-!
The books of a platform. Whatever a task does, the errands that were under way and those that it
takes on are the errands that are under way afterwards and those that are told of an outcome or
lost. The resolver is taken as long as an errand that took it up is under way, or if one was lost.
-/

namespace ServiceDiscovery.Mdns.Platform

/-- What holds of the jobs of a platform at all times. -/
structure Ledger.Tidy (ledger : Ledger) : Prop where
  ready : ∀ entry ∈ ledger.ready, entry.Fits
  waiting : ∀ entry ∈ ledger.waiting, entry.2.Waits
  distinct : (ledger.waiting.map (·.1)).Nodup
  issued : ∀ entry ∈ ledger.waiting, entry.1 < ledger.tickets

section

variable {before after : Ledger} {task next : Task} {report : Option Report}
  {effects : List Effect} {ticket : Nat} {job : Job}

theorem Effect.errand?_of_aside (h : effects.all Effect.isAside) :
    effects.filterMap Effect.errand? = [] := by
  refine List.filterMap_eq_nil_iff.mpr fun effect hmem => ?_
  have haside := List.all_eq_true.mp h effect hmem
  cases effect with
  | own task => cases haside
  | _ => rfl

theorem Effect.answer?_of_aside (h : effects.all Effect.isAside) :
    effects.filterMap Effect.answer? = [] := by
  refine List.filterMap_eq_nil_iff.mpr fun effect hmem => ?_
  have haside := List.all_eq_true.mp h effect hmem
  cases effect with
  | notify listener notice =>
      cases notice with
      | resolve outcome => cases haside
      | _ => rfl
  | _ => rfl

theorem Effect.aside_of_lines (h : effects.all Effect.isLine) : effects.all Effect.isAside := by
  refine List.all_eq_true.mpr fun effect hmem => ?_
  have hline := List.all_eq_true.mp h effect hmem
  cases effect with
  | log record => rfl
  | _ => cases hline

theorem Effect.not_own_of_aside (h : effects.all Effect.isAside) : .own next ∉ effects :=
  fun hmem => nomatch List.all_eq_true.mp h _ hmem

/-- Tickets are given out once, so taking out a ticket takes out the job that has it. -/
theorem Ledger.Tidy.split (tidy : before.Tidy) (found : before.waiting.lookup ticket = some job) :
    ∃ front rest, before.waiting = front ++ (ticket, job) :: rest ∧
      before.waiting.filter (·.1 ≠ ticket) = front ++ rest := by
  obtain ⟨front, rest, hwaiting, -⟩ := List.lookup_eq_some_iff.mp found
  refine ⟨front, rest, hwaiting, ?_⟩
  have hdistinct := tidy.distinct
  rw [hwaiting, List.map_append, List.map_cons, List.perm_middle.nodup_iff, List.nodup_cons,
    ← List.map_append] at hdistinct
  have hothers : ∀ entry ∈ front ++ rest, entry.1 ≠ ticket :=
    fun entry hmem heq => hdistinct.1 (List.mem_map.mpr ⟨entry, hmem, heq⟩)
  have hkept : (front ++ rest).filter (·.1 ≠ ticket) = front ++ rest :=
    List.filter_eq_self.mpr (by simpa using hothers)
  rw [hwaiting, List.filter_append, List.filter_cons_of_neg (by simp), ← List.filter_append, hkept]

theorem Ledger.Tidy.waits (tidy : before.Tidy) (found : before.waiting.lookup ticket = some job) :
    job.Waits := by
  obtain ⟨front, rest, hwaiting, -⟩ := tidy.split found
  exact tidy.waiting (ticket, job) (by simp [hwaiting])

/-- A task goes on with a job only if that job fits, and then with nothing else before it. -/
theorem Turned.fits (h : Turned before task report after effects) (tidy : before.Tidy) :
    (∀ next, .own next ∈ effects → next.Fits) ∧
      ∀ next, .own next ∈ effects.tail → next.isJob = false := by
  cases h with
  | idle _ aside | asked aside =>
      exact ⟨fun _ hmem => absurd hmem (Effect.not_own_of_aside aside), fun _ hmem =>
        absurd (List.mem_of_mem_tail hmem) (Effect.not_own_of_aside aside)⟩
  | @answered _ _ listener _ _ outcome _ lines logged =>
      have hnone (next : Task) : .own next ∉ lines ++ [tellResolve listener outcome] := by
        simp [Effect.not_own_of_aside (Effect.aside_of_lines logged), tellResolve]
      exact ⟨fun next hmem => absurd hmem (hnone next), fun next hmem =>
        absurd (List.mem_of_mem_tail hmem) (hnone next)⟩
  | @begun job rest first =>
      have hjob : (Ready.begun job).Fits := tidy.ready _ (by simp [first])
      simp only [List.mem_cons, Effect.own.injEq, List.not_mem_nil, or_false, List.tail_cons,
        forall_eq_or_imp, forall_eq]
      exact ⟨⟨hjob, trivial⟩, rfl⟩
  | @resumed job response rest first =>
      have hjob : (Ready.resumed job response).Fits := tidy.ready _ (by simp [first])
      simp only [List.mem_cons, Effect.own.injEq, List.not_mem_nil, or_false, List.tail_cons,
        forall_eq_or_imp, forall_eq]
      exact ⟨⟨hjob, trivial⟩, rfl⟩
  | replied found => simpa [Task.Fits] using tidy.waits found
  | _ => simp [tellResolve]

theorem Ledger.Tidy.set (tidy : before.Tidy) {ready : List Ready}
    (fits : ∀ entry ∈ ready, entry.Fits) (resolving : Option ServiceRef) :
    ({ before with ready, resolving } : Ledger).Tidy :=
  ⟨fits, tidy.waiting, tidy.distinct, tidy.issued⟩

theorem Ledger.Tidy.append (tidy : before.Tidy) (last : Ready) (fits : last.Fits) :
    ∀ entry ∈ before.ready ++ [last], entry.Fits := by
  intro entry hmem
  rcases List.mem_append.mp hmem with hold | hlast
  · exact tidy.ready entry hold
  · obtain rfl := List.mem_singleton.mp hlast
    exact fits

theorem Ledger.Tidy.rest (tidy : before.Tidy) {first : Ready} {rest : List Ready}
    (h : before.ready = first :: rest) : first.Fits ∧ ∀ entry ∈ rest, entry.Fits := by
  have hall := tidy.ready
  rw [h] at hall
  exact List.forall_mem_cons.mp hall

theorem Ledger.Tidy.take (tidy : before.Tidy) (ticket : Nat) :
    ({ before with waiting := before.waiting.filter (·.1 ≠ ticket) } : Ledger).Tidy where
  ready := tidy.ready
  waiting := fun entry hmem => tidy.waiting entry (List.mem_filter.mp hmem).1
  distinct := tidy.distinct.sublist (List.filter_sublist.map _)
  issued := fun entry hmem => tidy.issued entry (List.mem_filter.mp hmem).1

/-- A new ticket is none of those that jobs wait with. -/
theorem Ledger.Tidy.ask (tidy : before.Tidy) (waits : job.Waits) :
    ({ before with
      waiting := before.waiting ++ [(before.tickets, job)]
      tickets := before.tickets + 1 } : Ledger).Tidy where
  ready := tidy.ready
  waiting := by
    intro entry hmem
    rcases List.mem_append.mp hmem with hold | hlast
    · exact tidy.waiting entry hold
    · obtain rfl := List.mem_singleton.mp hlast
      exact waits
  distinct := by
    rw [List.map_append, List.nodup_append]
    refine ⟨tidy.distinct, by simp, ?_⟩
    intro ticket hold other hnew heq
    obtain ⟨entry, hmem, rfl⟩ := List.mem_map.mp hold
    have hless := tidy.issued entry hmem
    simp only [List.map_cons, List.map_nil, List.mem_singleton] at hnew
    omega
  issued := by
    intro entry hmem
    rcases List.mem_append.mp hmem with hold | hlast
    · exact Nat.lt_succ_of_lt (tidy.issued entry hold)
    · obtain rfl := List.mem_singleton.mp hlast
      exact Nat.lt_succ_self _

theorem Turned.tidy (h : Turned before task report after effects) (tidy : before.Tidy) :
    after.Tidy := by
  cases h with
  | idle | told | lost => exact tidy
  | answered => exact tidy.set tidy.ready none
  | handed job fresh => exact tidy.set (tidy.append (.submitted job) fresh) _
  | taken => exact tidy.set (tidy.append (.submitted (.resolve _ _)) trivial) _
  | turnedAway => exact tidy.set (tidy.append (.submitted (.reportBusy _ _)) trivial) _
  | @admitted job rest first =>
      obtain ⟨hjob, hrest⟩ := tidy.rest first
      refine tidy.set (fun entry hmem => ?_) _
      rcases List.mem_append.mp hmem with hold | hlast
      · exact hrest entry hold
      · obtain rfl := List.mem_singleton.mp hlast
        exact hjob
  | begun first | resumed first => exact tidy.set (tidy.rest first).2 _
  | replied found => exact tidy.take _
  | woken found => exact (tidy.take _).set (tidy.append (.resumed _ _) (tidy.waits found)) _
  | asked aside job waits => exact tidy.ask waits

theorem countP_filterMap_cons {α : Type} (p : Errand → Bool) (f : α → Option Errand) (a : α)
    (rest : List α) : ((a :: rest).filterMap f).countP p =
      (f a).toList.countP p + (rest.filterMap f).countP p := by
  cases h : f a with
  | none => simp [h]
  | some errand =>
      rw [List.filterMap_cons_some h, List.countP_cons, Option.toList_some, List.countP_singleton]
      omega

section

variable (p : Errand → Bool)

theorem Ledger.countP_submit (entry : Ready) (resolving : Option ServiceRef) :
    ({ before with ready := before.ready ++ [entry], resolving } : Ledger).errands.countP p =
      before.errands.countP p + entry.job.errand?.toList.countP p := by
  simp only [Ledger.errands, List.filterMap_append, List.countP_append, countP_filterMap_cons,
    List.filterMap_nil, List.countP_nil]
  omega

theorem Ledger.countP_of_first {first : Ready} {rest : List Ready}
    (h : before.ready = first :: rest) :
    before.errands.countP p = first.job.errand?.toList.countP p +
      ({ before with ready := rest } : Ledger).errands.countP p := by
  simp only [Ledger.errands, h, List.countP_append, countP_filterMap_cons]
  omega

theorem Ledger.countP_ask (job : Job) (tickets : Nat) :
    ({ before with
      waiting := before.waiting ++ [(before.tickets, job)], tickets } : Ledger).errands.countP p =
        before.errands.countP p + job.errand?.toList.countP p := by
  simp only [Ledger.errands, List.filterMap_append, List.countP_append, countP_filterMap_cons,
    List.filterMap_nil, List.countP_nil]
  omega

theorem Ledger.countP_of_found (tidy : before.Tidy)
    (found : before.waiting.lookup ticket = some job) :
    before.errands.countP p = job.errand?.toList.countP p +
      ({ before with waiting := before.waiting.filter (·.1 ≠ ticket) } : Ledger).errands.countP p
      := by
  obtain ⟨front, rest, hwaiting, hfilter⟩ := tidy.split found
  simp only [Ledger.errands, hfilter]
  rw [hwaiting]
  simp only [List.filterMap_append, List.countP_append, countP_filterMap_cons]
  omega

end

/-- Errands come in and are told or lost, and meanwhile they go on from job to job. -/
theorem Turned.balance (h : Turned before task report after effects) (tidy : before.Tidy)
    (p : Errand → Bool) :
    before.errands.countP p + task.errand?.toList.countP p +
        (errandsAccepted report.toList).countP p =
      after.errands.countP p + (effects.filterMap Effect.errand?).countP p +
        (errandsTold report.toList).countP p + (errandsLost report.toList).countP p := by
  cases h with
  | idle errandless aside =>
      simp [errandless, Effect.errand?_of_aside aside, errandsAccepted, errandsTold, errandsLost]
  | told | lost =>
      simp [Task.errand?, Job.errand?, Effect.errand?, tellResolve, errandsAccepted, errandsTold,
        errandsLost]
  | answered own _ _ _ logged =>
      simp [own, Ledger.errands, Effect.errand?_of_aside (Effect.aside_of_lines logged),
        Effect.errand?, tellResolve, errandsAccepted, errandsTold, errandsLost]
  | handed job fresh errandless =>
      rw [Ledger.countP_submit]
      simp [Ready.job, errandless, Task.errand?, errandsAccepted, errandsTold, errandsLost]
  | taken | turnedAway =>
      rw [Ledger.countP_submit]
      simp [Ready.job, Task.errand?, Job.errand?, errandsAccepted, errandsTold, errandsLost]
  | @admitted job rest first =>
      have hbefore := Ledger.countP_of_first p first
      have hafter := @Ledger.countP_submit { before with ready := rest } p (.begun job)
        before.resolving
      simp only [Ready.job, Task.errand?, Option.toList_none, List.countP_nil, errandsAccepted,
        errandsTold, errandsLost, List.filterMap_nil] at hbefore hafter ⊢
      omega
  | begun first | resumed first =>
      rw [Ledger.countP_of_first p first]
      simp only [Ready.job, Task.errand?, Effect.errand?, Option.toList_none, List.countP_nil,
        errandsAccepted, errandsTold, errandsLost, List.filterMap_nil, countP_filterMap_cons]
      omega
  | replied found =>
      rw [Ledger.countP_of_found p tidy found]
      simp only [Task.errand?, Effect.errand?, Option.toList_none, List.countP_nil,
        errandsAccepted, errandsTold, errandsLost, List.filterMap_nil, countP_filterMap_cons]
      omega
  | @woken ticket job response found =>
      have hbefore := Ledger.countP_of_found p tidy found
      have hafter := @Ledger.countP_submit
        { before with waiting := before.waiting.filter (·.1 ≠ ticket) } p
        (.resumed job response) before.resolving
      simp only [Ready.job, Task.errand?, Option.toList_none, List.countP_nil, errandsAccepted,
        errandsTold, errandsLost, List.filterMap_nil] at hbefore hafter ⊢
      omega
  | asked aside job waits same =>
      rw [Ledger.countP_ask, same]
      simp [Effect.errand?_of_aside aside, errandsAccepted, errandsTold, errandsLost]

/-- What was under way and what is taken on is what is told, lost or under way afterwards. -/
theorem Turned.perm (h : Turned before task report after effects) (tidy : before.Tidy) :
    (errandsAccepted report.toList ++ (before.errands ++ task.errand?.toList)).Perm
      (errandsTold report.toList ++ errandsLost report.toList ++
        (after.errands ++ effects.filterMap Effect.errand?)) := by
  refine List.perm_iff_count.mpr fun errand => ?_
  have hbalance := h.balance tidy (· == errand)
  simp only [← List.count_eq_countP] at hbalance
  simp only [List.count_append]
  omega

/-- If the errands that hold the resolver, for each reference, are as many as it says, then they
stay so, where a lost errand goes on holding it. -/
theorem Turned.slot (h : Turned before task report after effects) {held : ServiceRef → Nat}
    (hheld : ∀ ref, held ref = before.resolving.toList.count ref)
    (hown : ∀ ref, task.errand?.toList.countP (Errand.holds ref) ≤ held ref) (ref : ServiceRef) :
    held ref + (errandsAccepted report.toList).countP (Errand.holds ref) =
      (errandsTold report.toList).countP (Errand.holds ref) +
        after.resolving.toList.count ref := by
  cases h with
  | taken free =>
      simp [hheld, free, errandsAccepted, errandsTold, Errand.holds, List.count_singleton]
  | @answered _ holder _ own =>
      have hholder : before.resolving = some holder := by
        have hpos : 0 < before.resolving.toList.count holder := by
          rw [← hheld]
          exact Nat.lt_of_lt_of_le (by simp [own, Errand.holds]) (hown holder)
        simpa using List.count_pos_iff.mp hpos
      simp [hheld, hholder, errandsAccepted, errandsTold, Errand.holds, List.count_singleton]
  | turnedAway | told => simp [hheld, errandsAccepted, errandsTold, Errand.holds]
  | _ => simp [hheld, errandsAccepted, errandsTold]

/-- Listeners are told what the report says, about the service that they asked for. -/
theorem Turned.answers (h : Turned before task report after effects) :
    (effects.filterMap Effect.answer?).map (fun answer => (answer.1, answer.2.ref)) =
      (errandsTold report.toList).map fun errand => (errand.listener, errand.ref) := by
  cases h with
  | idle _ aside | asked aside => simp [Effect.answer?_of_aside aside, errandsTold]
  | told _ same => simp [Effect.answer?, tellResolve, errandsTold, same]
  | answered _ _ _ same logged =>
      simp [Effect.answer?_of_aside (Effect.aside_of_lines logged), Effect.answer?, tellResolve,
        errandsTold, same]
  | _ => simp [Effect.answer?, errandsTold]

/-- Errands that are told of an outcome are not doomed, and those that are lost are. -/
theorem Turned.doomed (h : Turned before task report after effects) :
    (∀ errand ∈ errandsTold report.toList, ¬ errand.Doomed) ∧
      ∀ errand ∈ errandsLost report.toList, errand.Doomed := by
  cases h with
  | told => simp [errandsTold, errandsLost, Errand.Doomed]
  | answered _ wellFormed => simp [errandsTold, errandsLost, Errand.Doomed, wellFormed]
  | lost malformed => simp [errandsTold, errandsLost, Errand.Doomed, malformed]
  | _ => simp [errandsTold, errandsLost]

/-- A platform calls none of its own operations. -/
theorem Turned.not_call (h : Turned before task report after effects) (operation : Operation) :
    .own (.call operation) ∉ effects := by
  cases h with
  | idle _ aside | asked aside => exact Effect.not_own_of_aside aside
  | answered _ _ _ _ logged =>
      simp [Effect.not_own_of_aside (Effect.aside_of_lines logged), tellResolve]
  | _ => simp [tellResolve]

/-- An errand that is told is told of its own service, after lines for the log. -/
theorem Turned.tells {errand : Errand} {outcome : ResolveOutcome}
    (h : Turned before task (some (.told errand outcome)) after effects) :
    outcome.ref = errand.ref ∧ ∃ lines, lines.all Effect.isLine ∧
      effects = lines ++ [tellResolve errand.listener outcome] := by
  cases h with
  | told _ same => exact ⟨same, [], rfl, rfl⟩
  | answered _ _ _ same logged => exact ⟨same, _, logged, rfl⟩

/-- Whatever a listener is told is reported. -/
theorem Turned.told_of_answer (h : Turned before task report after effects)
    {answer : Listener × ResolveOutcome} (hmem : answer ∈ effects.filterMap Effect.answer?) :
    ∃ errand, report = some (.told errand answer.2) := by
  cases h with
  | idle _ aside | asked aside => simp [Effect.answer?_of_aside aside] at hmem
  | told outcome same =>
      obtain rfl := List.mem_singleton.mp hmem
      exact ⟨_, rfl⟩
  | answered own wellFormed outcome same logged =>
      rw [List.filterMap_append, Effect.answer?_of_aside (Effect.aside_of_lines logged)] at hmem
      obtain rfl := List.mem_singleton.mp hmem
      exact ⟨_, rfl⟩
  | _ => simp [Effect.answer?] at hmem

/-- Only lines for the log come before what a listener is told. -/
theorem Turned.lines (h : Turned before task report after effects) {listener : Listener}
    {outcome : ResolveOutcome} (hmem : (listener, outcome) ∈ effects.filterMap Effect.answer?) :
    ∃ lines, lines.all Effect.isLine ∧ effects = lines ++ [tellResolve listener outcome] := by
  cases h with
  | idle _ aside | asked aside => simp [Effect.answer?_of_aside aside] at hmem
  | told =>
      obtain ⟨rfl, rfl⟩ : listener = _ ∧ outcome = _ := by
        simpa [Effect.answer?, tellResolve] using hmem
      exact ⟨[], rfl, rfl⟩
  | answered _ _ _ _ logged =>
      obtain ⟨rfl, rfl⟩ : listener = _ ∧ outcome = _ := by
        simpa [Effect.answer?_of_aside (Effect.aside_of_lines logged), Effect.answer?,
          tellResolve] using hmem
      exact ⟨_, logged, rfl⟩
  | _ => simp [Effect.answer?] at hmem

end

end ServiceDiscovery.Mdns.Platform
