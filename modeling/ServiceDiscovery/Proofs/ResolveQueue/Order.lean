import ServiceDiscovery.Proofs.ResolveQueue.Record
import ServiceDiscovery.Proofs.ResolveQueue.View

/-!
The order of requests. Each request that is added to those that wait, be it new or put back after a
busy answer, gets the next number. Requests are claimed by their numbers, and what is dropped leaves
no trace, so the claimed ones and after them the waiting ones are all that were ever added but for
those that were dropped.
-/

namespace ServiceDiscovery

variable {ι σ : Type}

namespace ResolveQueue

/-- All requests that were ever added to those that wait, and what became of them. Numbers count
from zero in the order of the additions. -/
structure Line where
  appended : List ResolveRequest := []
  claimed : List (ResolveRequest × Nat) := []
  waiting : List (ResolveRequest × Nat) := []
  dropped : List (ResolveRequest × Nat) := []
  deriving DecidableEq, Repr

namespace Line

def append (request : ResolveRequest) (line : Line) : Line :=
  { line with
    appended := line.appended ++ [request]
    waiting := line.waiting ++ [(request, line.appended.length)] }

def claim (line : Line) : Line :=
  { line with claimed := line.claimed ++ line.waiting.take 1, waiting := line.waiting.drop 1 }

def drop (goes : ResolveRequest → Bool) (line : Line) : Line :=
  { line with
    waiting := line.waiting.filter fun entry => !goes entry.1
    dropped := line.dropped ++ line.waiting.filter fun entry => goes entry.1 }

/-- What a deed does to the line. -/
def after (line : Line) : Deed → Line
  | .accepted request | .requeued request => line.append request
  | .claimed _ => line.claim
  | .discarded session _ => line.drop fun request => request.session = session
  | .cleared _ _ => line.drop fun _ => true
  | .nothing | .skipped _ | .resolved _ _ | .failed _ => line

def of (history : List Happening) : Line :=
  history.foldl (fun line happening => line.after happening.deed) {}

theorem of_append (history : List Happening) (happening : Happening) :
    of (history ++ [happening]) = (of history).after happening.deed := by
  simp [of]

/-- The entries of the line that were not dropped, in order. -/
def kept (line : Line) : List (ResolveRequest × Nat) :=
  line.appended.zipIdx.filter (· ∉ line.dropped)

/-- Claimed entries come first, waiting ones after them, and no other entries are left. -/
structure Ordered (line : Line) : Prop where
  whole : line.claimed ++ line.waiting = line.kept
  known : ∀ entry ∈ line.dropped, entry ∈ line.appended.zipIdx

theorem pairwise_zipIdx (requests : List ResolveRequest) :
    requests.zipIdx.Pairwise fun first second => first.2 < second.2 := by
  have h : (requests.zipIdx.map Prod.snd).Pairwise (· < ·) := by
    rw [List.zipIdx_map_snd]
    exact List.pairwise_lt_range' _
  exact List.pairwise_map.mp h

variable {line : Line}

theorem Ordered.pairwise (h : line.Ordered) :
    (line.claimed ++ line.waiting).Pairwise fun first second => first.2 < second.2 := by
  rw [h.whole]
  exact (pairwise_zipIdx line.appended).filter _

theorem append_ordered (request : ResolveRequest) (h : line.Ordered) :
    (line.append request).Ordered := by
  have hzip : (line.append request).appended.zipIdx =
      line.appended.zipIdx ++ [(request, line.appended.length)] := by
    simp [append, List.zipIdx_append]
  have hnew : (request, line.appended.length) ∉ line.dropped := by
    intro hmem
    have hlt := List.snd_lt_of_mem_zipIdx (h.known _ hmem)
    simp at hlt
  constructor
  · have hone : [(request, line.appended.length)].filter (· ∉ line.dropped) =
        [(request, line.appended.length)] := by simp [hnew]
    rw [kept, hzip, List.filter_append]
    change line.claimed ++ (line.waiting ++ [(request, line.appended.length)]) =
      line.kept ++ [(request, line.appended.length)].filter (· ∉ line.dropped)
    rw [hone, ← h.whole, List.append_assoc]
  · intro entry hmem
    rw [hzip]
    exact List.mem_append_left _ (h.known entry hmem)

theorem claim_ordered (h : line.Ordered) : line.claim.Ordered where
  whole := by
    change line.claimed ++ line.waiting.take 1 ++ line.waiting.drop 1 = line.kept
    rw [List.append_assoc, List.take_append_drop, h.whole]
  known := h.known

theorem drop_ordered (goes : ResolveRequest → Bool) (h : line.Ordered) :
    (line.drop goes).Ordered where
  whole := by
    let gone := line.waiting.filter fun entry => goes entry.1
    -- Claimed entries have smaller numbers than all that wait, so none of them is dropped.
    have hclaimed : line.claimed.filter (· ∉ gone) = line.claimed := by
      refine List.filter_eq_self.mpr fun entry hmem => ?_
      have hbefore := (List.pairwise_append.mp h.pairwise).2.2 entry hmem
      have hstays : entry ∉ gone := fun hgone =>
        Nat.lt_irrefl _ (hbefore entry (List.mem_filter.mp hgone).1)
      simpa using hstays
    have hwaiting : line.waiting.filter (· ∉ gone) =
        line.waiting.filter fun entry => !goes entry.1 := by
      refine List.filter_congr fun entry hmem => ?_
      simp [gone, hmem]
    calc line.claimed ++ line.waiting.filter (fun entry => !goes entry.1)
        = (line.claimed ++ line.waiting).filter (· ∉ gone) := by
          rw [List.filter_append, hclaimed, hwaiting]
      _ = line.kept.filter (· ∉ gone) := by rw [h.whole]
      _ = (line.drop goes).kept := by
          rw [kept, kept, List.filter_filter]
          refine List.filter_congr fun entry _ => ?_
          simp [drop, gone, Bool.and_comm]
  known := by
    intro entry hmem
    rcases List.mem_append.mp hmem with hold | hnew
    · exact h.known entry hold
    · have hkept : entry ∈ line.kept := by
        rw [← h.whole]
        exact List.mem_append_right _ (List.mem_filter.mp hnew).1
      exact (List.mem_filter.mp hkept).1

theorem after_ordered (deed : Deed) (h : line.Ordered) : (line.after deed).Ordered := by
  cases deed with
  | accepted request => exact append_ordered request h
  | requeued request => exact append_ordered request h
  | claimed request => exact claim_ordered h
  | discarded session dropped => exact drop_ordered (fun request => request.session = session) h
  | cleared dropped abandoned => exact drop_ordered (fun _ => true) h
  | _ => exact h

/-- The order is kept whatever is done to requests. -/
theorem of_ordered (history : List Happening) : (of history).Ordered := by
  have hfold : ∀ (history : List Happening) (line : Line), line.Ordered →
      (history.foldl (fun line happening => line.after happening.deed) line).Ordered := by
    intro history
    induction history with
    | nil => exact fun line h => h
    | cons happening rest ih => exact fun line h => ih _ (after_ordered happening.deed h)
  exact hfold history {} ⟨rfl, by simp⟩

/-- Nobody overtakes: what was added before a claimed request was claimed before it, or dropped. -/
theorem Ordered.overtaking (h : line.Ordered) {front back : List (ResolveRequest × Nat)}
    {entry earlier : ResolveRequest × Nat} (hclaimed : line.claimed = front ++ entry :: back)
    (hadded : earlier ∈ line.appended.zipIdx) (hearlier : earlier.2 < entry.2) :
    earlier ∈ front ∨ earlier ∈ line.dropped := by
  by_cases hdropped : earlier ∈ line.dropped
  · exact Or.inr hdropped
  · have hkept : earlier ∈ line.kept := List.mem_filter.mpr ⟨hadded, by simpa using hdropped⟩
    have hpairwise := h.pairwise
    rw [← h.whole] at hkept
    rw [hclaimed, List.append_assoc, List.cons_append] at hkept hpairwise
    rcases List.mem_append.mp hkept with hfront | hbehind
    · exact Or.inl hfront
    · rcases List.mem_cons.mp hbehind with rfl | hback
      · omega
      · have hbehind := (List.pairwise_append.mp hpairwise).2.1
        have hlater := (List.pairwise_cons.mp hbehind).1 earlier hback
        omega

theorem after_appended (line : Line) (deed : Deed) : (line.after deed).appended =
    line.appended ++ (deed.met .accepted ++ deed.met .requeued) := by
  cases deed <;> simp [after, append, claim, drop, Deed.met]

section

variable {deed : Deed} {before later : ResolveQueue}

theorem filter_waiting (h : line.waiting.map Prod.fst = before.pending)
    (goes : ResolveRequest → Bool) :
    (line.waiting.filter fun entry => goes entry.1).map Prod.fst = before.pending.filter goes := by
  rw [← h, List.filter_map]
  rfl

theorem after_claimed (turns : deed.Turns before later)
    (h : line.waiting.map Prod.fst = before.pending) :
    (line.after deed).claimed.map Prod.fst = line.claimed.map Prod.fst ++ deed.met .claimed := by
  have hallowed := turns.allowed
  cases deed with
  | claimed request =>
      obtain ⟨_, _, rest, hfirst⟩ := hallowed
      rw [hfirst] at h
      cases hline : line.waiting with
      | nil => simp [hline] at h
      | cons entry others =>
          simp only [hline, List.map_cons, List.cons.injEq] at h
          simp [after, claim, Deed.met, hline, h.1]
  | _ => simp [after, append, drop, Deed.met]

theorem after_waiting (turns : deed.Turns before later)
    (h : line.waiting.map Prod.fst = before.pending) :
    (line.after deed).waiting.map Prod.fst = later.pending := by
  rw [turns.pending]
  cases deed with
  | discarded session dropped =>
      have hstays := filter_waiting h fun request => !decide (request.session = session)
      simpa [after, drop, Deed.onPending] using hstays
  | _ => simp [after, append, claim, drop, Deed.onPending, ← h]

theorem after_dropped (turns : deed.Turns before later)
    (h : line.waiting.map Prod.fst = before.pending) :
    (line.after deed).dropped.map Prod.fst =
      line.dropped.map Prod.fst ++ (deed.met .discarded ++ deed.met .cleared) := by
  have hallowed := turns.allowed
  cases deed with
  | discarded session dropped =>
      obtain rfl := hallowed
      have hgone := filter_waiting h fun request => decide (request.session = session)
      simp [after, drop, Deed.met, hgone]
  | cleared dropped abandoned =>
      obtain ⟨rfl, rfl⟩ := hallowed
      have hall : (line.waiting.filter fun _ => true).map Prod.fst = before.pending :=
        (filter_waiting h fun _ => true).trans (List.filter_eq_self.mpr fun _ _ => rfl)
      simpa [after, drop, Deed.met] using hall
  | _ => simp [after, append, claim, Deed.met]

end

/-- What was added stays added. -/
theorem appended_prefix (history more : List Happening) :
    (of history).appended <+: (of (history ++ more)).appended := by
  have hfold : ∀ (more : List Happening) (line : Line), line.appended <+:
      (more.foldl (fun line happening => line.after happening.deed) line).appended := by
    intro more
    induction more with
    | nil => exact fun line => List.prefix_refl _
    | cons happening rest ih =>
        intro line
        have hfirst : line.appended <+: (line.after happening.deed).appended := by
          cases happening.deed with
          | accepted request => exact List.prefix_append ..
          | requeued request => exact List.prefix_append ..
          | _ => exact List.prefix_refl _
        exact hfirst.trans (ih _)
  rw [of, of, List.foldl_append]
  exact hfold more _

/-- Between a busy answer and the next try, whatever waited at the answer is claimed or dropped. -/
theorem waiting_of_requeued {history more : List Happening} {happening : Happening}
    {front back : List (ResolveRequest × Nat)} {request : ResolveRequest}
    (hclaimed : (of (history ++ happening :: more)).claimed =
      front ++ (request, (of history).appended.length) :: back)
    {entry : ResolveRequest × Nat} (hwaiting : entry ∈ (of history).waiting) :
    entry ∈ front ∨ entry ∈ (of (history ++ happening :: more)).dropped := by
  have hbefore : entry ∈ (of history).appended.zipIdx := by
    have hkept : entry ∈ (of history).kept := by
      rw [← (of_ordered history).whole]
      exact List.mem_append_right _ hwaiting
    exact (List.mem_filter.mp hkept).1
  obtain ⟨added, hadded⟩ := appended_prefix history (happening :: more)
  refine (of_ordered _).overtaking hclaimed ?_ ?_
  · rw [← hadded, List.zipIdx_append]
    exact List.mem_append_left _ hbefore
  · simpa using List.snd_lt_of_mem_zipIdx hbefore

end Line

/-- The requests that were added to those that wait, in order. -/
def appends (history : List Happening) : List ResolveRequest :=
  history.flatMap fun happening => happening.deed.met .accepted ++ happening.deed.met .requeued

/-- The waiting requests that were dropped, in order. -/
def drops (history : List Happening) : List ResolveRequest :=
  history.flatMap fun happening => happening.deed.met .discarded ++ happening.deed.met .cleared

namespace Scene

variable {scene next : Scene} {happening : Happening} {history : List Happening} {line : Line}

/-- The line is about the requests of a queue. -/
structure Lined (history : List Happening) (queue : ResolveQueue) (line : Line) : Prop where
  appended : line.appended = appends history
  claimed : line.claimed.map Prod.fst = met .claimed history
  waiting : line.waiting.map Prod.fst = queue.pending
  dropped : line.dropped.map Prod.fst = drops history

theorem step_lined (step : Step scene happening next) (h : Lined history scene.queue line) :
    Lined (history ++ [happening]) next.queue (line.after happening.deed) := by
  have turns := step_turns step
  constructor
  · rw [Line.after_appended, h.appended]
    simp [appends]
  · rw [Line.after_claimed turns h.waiting, h.claimed, met_append]
  · exact Line.after_waiting turns h.waiting
  · rw [Line.after_dropped turns h.waiting, h.dropped]
    simp [drops]

theorem run_lined {deduplicate : Bool} {retryDelay : Double}
    (run : Run (fresh deduplicate retryDelay) history scene) :
    Lined history scene.queue (.of history) := by
  induction run with
  | start => exact ⟨rfl, rfl, rfl, rfl⟩
  | step _ step ih =>
      rw [Line.of_append]
      exact step_lined step ih

/-- What is claimed, and then what waits, is what was ever added without what was dropped. -/
structure FirstInFirstOut (history : List Happening) (queue : ResolveQueue) (line : Line) : Prop
    extends Lined history queue line where
  refines : met .claimed history ++ queue.pending = line.kept.map Prod.fst
  /-- Nobody overtakes. -/
  overtaking : ∀ front entry back, line.claimed = front ++ entry :: back →
    ∀ earlier ∈ line.appended.zipIdx, earlier.2 < entry.2 →
      earlier ∈ front ∨ earlier ∈ line.dropped
  /-- What waited at a busy answer is claimed before the next try, unless it is dropped. -/
  retrying : ∀ before turn queue after request, history = before ++ .turn turn queue :: after →
    deed turn queue = .requeued request →
    (Line.of before).waiting.map Prod.fst = queue.pending ∧ ∀ front back,
      line.claimed = front ++ (request, (Line.of before).appended.length) :: back →
      ∀ entry ∈ (Line.of before).waiting, entry ∈ front ∨ entry ∈ line.dropped

theorem run_firstInFirstOut {deduplicate : Bool} {retryDelay : Double}
    (run : Run (fresh deduplicate retryDelay) history scene) :
    FirstInFirstOut history scene.queue (.of history) := by
  have hlined := run_lined run
  have hordered := Line.of_ordered history
  refine { hlined with refines := ?_, overtaking := ?_, retrying := ?_ }
  · rw [← hordered.whole, List.map_append, hlined.claimed, hlined.waiting]
  · intro front entry back hclaimed earlier hadded hearlier
    exact hordered.overtaking hclaimed hadded hearlier
  · intro before turn queue after request hsplit _
    subst hsplit
    obtain ⟨middle, next, hbefore, hstep⟩ := run.split
    refine ⟨?_, fun front back hclaimed entry hwaiting => ?_⟩
    · rw [(run_lined hbefore).waiting, hstep.before]
    · exact Line.waiting_of_requeued hclaimed hwaiting

end Scene

end ResolveQueue

namespace Configuration

open ResolveQueue

variable {surroundings : Surroundings ι σ} {start now : Configuration ι σ}
  {past : List (Configuration ι σ)} {index : Nat} {node : QueueNode}

/-- At every moment the requests claimed so far, in the order in which the platform was asked for
them, and after them those that wait are exactly all that were ever added, be it new or after a busy
answer, without those that were dropped. So nobody overtakes, and between two tries of a request
whatever waited at the busy answer is claimed unless it is dropped. -/
theorem first_in_first_out (quiet : surroundings.Quiet) (fresh : start.Fresh index node)
    (course : Course surroundings start past now) :
    ∃ found, now.world.queues[index]? = some found ∧
      Scene.FirstInFirstOut (history index past) found.core (.of (history index past)) ∧
      asked (history index past) ++ (now.due index).filterMap Effect.ref? =
        (met .claimed (history index past)).map (·.ref) := by
  obtain ⟨scene, hrun, hshows⟩ := course.shows quiet fresh
  refine ⟨_, hshows.queue, Scene.run_firstInFirstOut hrun, ?_⟩
  rw [hshows.due]
  exact Scene.run_asked hrun

/-- A request that finds the resolver busy is tried again after the one that waited behind it. -/
theorem first_in_first_out_of_busy :
    let first : ServiceRef := { name := "Printer", type := "_ipp._tcp" }
    let second : ServiceRef := { name := "Scanner", type := "_ipp._tcp" }
    let start : Configuration Empty _ := alone false .zero []
      [.enqueue first 1, .enqueue second 1, .outcome (.failed first FailureCode.alreadyActive),
        .outcome (.failed second FailureCode.internal)]
    let now := run .scripted 60 start
    let past := history 0 (trail .scripted 60 start)
    asked past = [first, second, first] ∧ ∃ found, now.world.queues[0]? = some found ∧
      Scene.FirstInFirstOut past found.core (.of past) ∧
      asked past ++ (now.due 0).filterMap Effect.ref? = (met .claimed past).map (·.ref) :=
  ⟨rfl, first_in_first_out Surroundings.scripted_quiet (alone_fresh ..) (course_run ..)⟩

end Configuration

end ServiceDiscovery
