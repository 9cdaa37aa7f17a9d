import ServiceDiscovery.Proofs.ResolveQueue.Record
import ServiceDiscovery.Proofs.ResolveQueue.View

/-!
Deduplication. What a queue holds is its backlog: the request under way and then those that wait.
Only an enqueue adds to it, and a queue that deduplicates lets in what it does not hold already, so
nothing stands in its backlog twice. A busy answer merely moves a request from the front of the
backlog to its end. Requests are the same only if reference and session are, so sessions that ask
for one service do so side by side.
-/

namespace ServiceDiscovery

variable {ι σ : Type}

namespace ResolveQueue

section

variable {queue before after : ResolveQueue} {turn : Turn} {deed : Deed} {effects : List Effect}
  {ref : ServiceRef} {session : Token} {request : ResolveRequest}

/-- A deed leaves a part of the backlog, in whatever order, and what it takes in. -/
theorem Deed.Turns.backlog (turns : deed.Turns before after) :
    ∃ kept, kept.Sublist before.backlog ∧ after.backlog.Perm (kept ++ deed.met .accepted) := by
  have hallowed := turns.allowed
  have hwaits : before.pending.Sublist before.backlog := List.sublist_append_right ..
  have hafter : after.backlog = (deed.onSlot before.inFlight).toList ++
      deed.onPending before.pending := by
    rw [ResolveQueue.backlog, turns.inFlight, turns.pending]
  rw [hafter]
  cases deed with
  | nothing | skipped | accepted =>
      refine ⟨before.backlog, List.Sublist.refl _, ?_⟩
      simp [onSlot, onPending, met, ResolveQueue.backlog]
  | discarded session dropped =>
      refine ⟨before.inFlight.toList ++ before.pending.filter (·.session ≠ session), ?_, ?_⟩
      · exact (List.Sublist.refl _).append List.filter_sublist
      · simp [onSlot, onPending, met]
  | cleared dropped abandoned => exact ⟨[], List.nil_sublist _, by simp [onSlot, onPending, met]⟩
  | claimed taken =>
      obtain ⟨hslot, -, rest, hpending⟩ := hallowed
      refine ⟨before.backlog, List.Sublist.refl _, ?_⟩
      simp [onSlot, onPending, met, ResolveQueue.backlog, hslot, hpending]
  | resolved settled | failed settled =>
      exact ⟨before.pending, hwaits, by simp [onSlot, onPending, met]⟩
  | requeued settled =>
      change before.inFlight = some settled at hallowed
      refine ⟨before.backlog, List.Sublist.refl _, ?_⟩
      simp [onSlot, onPending, met, ResolveQueue.backlog, hallowed]

theorem Taken.deduplicate (h : Taken queue turn deed after effects) :
    after.deduplicate = queue.deduplicate := by
  cases h <;> rfl

/-- A queue that deduplicates takes in nothing that it holds. -/
theorem Taken.new (h : Taken queue turn deed after effects) (careful : queue.deduplicate = true) :
    ∀ request ∈ deed.met .accepted, request ∉ queue.backlog := by
  intro request hmem
  cases h with
  | accepted message unknown =>
      obtain rfl := List.mem_singleton.mp hmem
      rw [mem_backlog]
      simpa [careful] using unknown
  | _ => cases hmem

/-- The total of requests skipped is that of the deeds. -/
theorem Taken.skips (h : Taken queue turn deed after effects) :
    after.skipped = queue.skipped + (deed.met .skipped).length := by
  cases h <;> rfl

/-- What is held is skipped. -/
theorem take_held (careful : queue.deduplicate = true)
    (held : { ref, session } ∈ queue.backlog) :
    ∃ message, take (.run (.call (.enqueue ref session))) queue =
      ({ queue with skipped := queue.skipped + 1 }, [debug message]) := by
  refine ⟨"Already queued for resolve: " ++ ref.text, ?_⟩
  simp [take, step, call, enqueue, careful, mem_backlog.mp held]

/-- What is not held is taken in behind all that waits. -/
theorem take_new (new : { ref, session } ∉ queue.backlog) :
    ∃ message, take (.run (.call (.enqueue ref session))) queue =
      ({ queue with
          pending := queue.pending ++ [{ ref, session }], enqueued := queue.enqueued + 1 },
        [debug message, .own .drain]) := by
  refine ⟨"Queued for resolve: " ++ ref.text, ?_⟩
  rw [mem_backlog, Bool.not_eq_true] at new
  simp [take, step, call, enqueue, new]

end

namespace Scene

variable {scene next : Scene} {happening : Happening} {history : List Happening}

/-- A queue that deduplicates holds no request twice, and has counted what it skipped. -/
structure Distinct (history : List Happening) (queue : ResolveQueue) : Prop where
  careful : queue.deduplicate = true
  distinct : queue.backlog.Nodup
  skipped : queue.skipped = (met .skipped history).length

theorem turn_distinct {queue : ResolveQueue} (turn : Turn) (h : Distinct history queue) :
    Distinct (history ++ [.turn turn queue]) (take turn queue).1 := by
  have htaken := taken turn queue
  refine ⟨htaken.deduplicate.trans h.careful, ?_, ?_⟩
  · obtain ⟨kept, hkept, hperm⟩ := htaken.turns.backlog
    refine hperm.nodup_iff.mpr (List.nodup_append.mpr ⟨h.distinct.sublist hkept, ?_, ?_⟩)
    · generalize deed turn queue = done
      cases done with
      | accepted request => exact List.pairwise_singleton _ request
      | _ => exact List.nodup_nil
    · rintro request hold other hnew rfl
      exact htaken.new h.careful request hnew (hkept.subset hold)
  · rw [htaken.skips, met_append, List.length_append, h.skipped]
    rfl

theorem step_distinct (step : Step scene happening next) (h : Distinct history scene.queue) :
    Distinct (history ++ [happening]) next.queue := by
  cases step with
  | called operation => exact turn_distinct _ h
  | ran task => exact turn_distinct _ h
  | refused ref fault => exact turn_distinct _ h
  | made call =>
      refine ⟨h.careful, h.distinct, ?_⟩
      simpa [met_append, Happening.deed, Deed.met] using h.skipped

theorem run_distinct {retryDelay : Double} (run : Run (fresh true retryDelay) history scene) :
    Distinct history scene.queue := by
  induction run with
  | start => exact ⟨rfl, List.nodup_nil, rfl⟩
  | step _ step ih => exact step_distinct step ih

end Scene

end ResolveQueue

namespace Configuration

open ResolveQueue

variable {surroundings : Surroundings ι σ} {start now : Configuration ι σ}
  {past : List (Configuration ι σ)} {index : Nat} {node : QueueNode} {record : List Happening}

/-- What deduplication comes to at one moment, for the queue at a place and after all that happened
to it. -/
structure Deduplicates (surroundings : Surroundings ι σ) (index : Nat) (record : List Happening)
    (now : Configuration ι σ) (node : QueueNode) : Prop where
  /-- No request is under way or waits twice. -/
  distinct : node.core.backlog.Nodup
  /-- An enqueue of what is held changes the total of those skipped and nothing else. -/
  skips : ∀ ref session rest, now.agenda = .queue index (.call (.enqueue ref session)) :: rest →
    { ref, session } ∈ node.core.backlog → ∃ line, now.step surroundings = some { now with
      world := { now.world with
        queues := now.world.queues.set index
          { node with core := { node.core with skipped := node.core.skipped + 1 } } }
      agenda := .call (.log line) :: rest }
  /-- An enqueue of anything else is taken in, and then the queue is drained. -/
  accepts : ∀ ref session rest, now.agenda = .queue index (.call (.enqueue ref session)) :: rest →
    { ref, session } ∉ node.core.backlog → ∃ line, now.step surroundings = some { now with
      world := { now.world with
        queues := now.world.queues.set index
          { node with core := { node.core with
              pending := node.core.pending ++ [{ ref, session }]
              enqueued := node.core.enqueued + 1 } } }
      agenda := .call (.log line) :: .queue index .drain :: rest }
  /-- Requests of other sessions do not stand in the way, even for the same reference. -/
  apart : ∀ ref session rest, now.agenda = .queue index (.call (.enqueue ref session)) :: rest →
    (∀ request ∈ node.core.backlog, request.ref = ref → request.session ≠ session) →
      ∃ after found, now.step surroundings = some after ∧
        after.world.queues[index]? = some found ∧
        found.core.backlog = node.core.backlog ++ [({ ref, session } : ResolveRequest)] ∧
        found.core.skipped = node.core.skipped
  /-- What was skipped so far was held at that moment, and was asked for by an enqueue. -/
  skipped : node.core.skipped = (met .skipped record).length ∧
    ∀ turn queue request, .turn turn queue ∈ record → deed turn queue = .skipped request →
      turn = .run (.call (.enqueue request.ref request.session)) ∧ request ∈ queue.backlog

/-- Only an enqueue skips anything, and only what is held. -/
theorem held_of_skipped {turn : Turn} {queue : ResolveQueue} {request : ResolveRequest}
    (h : deed turn queue = .skipped request) :
    turn = .run (.call (.enqueue request.ref request.session)) ∧ request ∈ queue.backlog := by
  have htaken := taken turn queue
  rw [h] at htaken
  generalize (take turn queue).1 = after, (take turn queue).2 = effects at htaken
  cases htaken with
  | skipped message known =>
      rw [Bool.and_eq_true] at known
      exact ⟨rfl, mem_backlog.mpr known.2⟩

/-- At every moment of every run of a queue that deduplicates, no request is held twice, and just
those enqueues are skipped that ask for a request that is held. -/
theorem no_request_held_twice (quiet : surroundings.Quiet) (fresh : start.Fresh index node)
    (careful : node.core.deduplicate = true) (course : Course surroundings start past now) :
    ∃ found, now.world.queues[index]? = some found ∧
      now.Deduplicates surroundings index (history index past) found := by
  obtain ⟨scene, hrun, hshows⟩ := course.shows quiet fresh
  rw [careful] at hrun
  have hdistinct := Scene.run_distinct hrun
  have hqueue := hshows.queue
  have hlt : index < now.world.queues.length := (List.getElem?_eq_some_iff.mp hqueue).1
  have haccepts (ref : ServiceRef) (session : Token) (rest : List (Work ι))
      (hagenda : now.agenda = .queue index (.call (.enqueue ref session)) :: rest)
      (hnew : { ref, session } ∉ scene.queue.backlog) :
      ∃ line, now.step surroundings = some { now with
        world := { now.world with
          queues := now.world.queues.set index
            { node with core := { scene.queue with
                pending := scene.queue.pending ++ [{ ref, session }]
                enqueued := scene.queue.enqueued + 1 } } }
        agenda := .call (.log line) :: .queue index .drain :: rest } := by
    obtain ⟨message, htake⟩ := take_new hnew
    have hstep := @step_queue ι σ surroundings now index _ _ rest hqueue hagenda
    rw [htake] at hstep
    exact ⟨_, hstep⟩
  refine ⟨_, hqueue, hdistinct.distinct, ?_, haccepts, ?_, hdistinct.skipped, ?_⟩
  · intro ref session rest hagenda hheld
    obtain ⟨message, htake⟩ := take_held hdistinct.careful hheld
    have hstep := @step_queue ι σ surroundings now index _ _ rest hqueue hagenda
    rw [htake] at hstep
    exact ⟨_, hstep⟩
  · intro ref session rest hagenda hothers
    obtain ⟨line, hstep⟩ := haccepts ref session rest hagenda fun hmem =>
      hothers { ref, session } hmem rfl rfl
    refine ⟨_, _, hstep, List.getElem?_set_self hlt, ?_, rfl⟩
    simp [ResolveQueue.backlog]
  · intro turn queue request _ hdeed
    exact held_of_skipped hdeed

/-- Two sessions ask for one service, and the request of the first is put back behind that of the
second when the resolver is busy. The first session asks again. -/
theorem no_request_held_twice_of_requeued :
    let ref : ServiceRef := { name := "Printer", type := "_ipp._tcp" }
    let start : Configuration Empty _ := alone true .zero []
      [.enqueue ref 1, .enqueue ref 2, .outcome (.failed ref FailureCode.alreadyActive),
        .enqueue ref 1]
    let now := run .scripted 20 start
    let record := history 0 (trail .scripted 20 start)
    now.agenda = [.queue 0 (.call (.enqueue ref 1))] ∧
      now.world.queues.map (·.core.backlog) =
        [[{ ref, session := 2 }, { ref, session := 1 }]] ∧
      ∃ found, now.world.queues[0]? = some found ∧
        now.Deduplicates .scripted 0 record found :=
  ⟨rfl, rfl, no_request_held_twice Surroundings.scripted_quiet (alone_fresh ..) rfl
    (course_run ..)⟩

end Configuration

end ServiceDiscovery
