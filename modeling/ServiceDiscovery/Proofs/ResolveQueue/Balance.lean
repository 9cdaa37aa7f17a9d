import ServiceDiscovery.Proofs.ResolveQueue.Record
import ServiceDiscovery.Proofs.ResolveQueue.View
import ServiceDiscovery.Proofs.Service.Record

/-!
No request is lost and none counts twice. Each request that was accepted waits, is under way, or met
exactly one end, whatever the order of calls. The platform was asked once for each try, and whoever
asked for a request that was resolved hears of it exactly once.
-/

namespace ServiceDiscovery

variable {ι σ : Type}

namespace ResolveQueue

/-- The record of a run and the state of the queue agree. -/
structure Balanced (history : List Happening) (queue : ResolveQueue) : Prop where
  requests : ∀ request, (met .accepted history).count request =
    (met .resolved history).count request + (met .failed history).count request +
      queue.pending.count request + queue.inFlight.toList.count request +
      (met .discarded history).count request + (met .cleared history).count request +
      (met .abandoned history).count request
  enqueued : queue.enqueued = (met .accepted history).length
  resolved : queue.resolved = (met .resolved history).length
  failed : queue.failed = (met .failed history).length
  tries : (met .claimed history).length = queue.resolved + queue.failed + queue.retried +
    queue.inFlight.toList.length + (met .abandoned history).length

namespace Deed

variable {deed : Deed} {before after : ResolveQueue}

/-- What a deed takes in is what it brings to an end, with what it adds to the queue. -/
theorem Turns.count (turns : deed.Turns before after) (request : ResolveRequest) :
    (deed.met .accepted).count request + before.pending.count request +
        before.inFlight.toList.count request =
      (deed.met .resolved).count request + (deed.met .failed).count request +
        after.pending.count request + after.inFlight.toList.count request +
        (deed.met .discarded).count request + (deed.met .cleared).count request +
        (deed.met .abandoned).count request := by
  have hallowed := turns.allowed
  rw [turns.pending, turns.inFlight]
  cases deed with
  | claimed claimed =>
      obtain ⟨hslot, _, rest, hpending⟩ := hallowed
      simp [met, onPending, onSlot, hslot, hpending, List.count_cons]
  | discarded session dropped =>
      obtain rfl := hallowed
      simp only [met, onPending, onSlot, List.count_nil, count_session session before.pending]
      omega
  | cleared dropped abandoned =>
      obtain ⟨rfl, rfl⟩ := hallowed
      simp [met, onPending, onSlot]
  | resolved settled service =>
      change before.inFlight = some settled at hallowed
      simp [met, onPending, onSlot, hallowed]
      omega
  | failed settled =>
      change before.inFlight = some settled at hallowed
      simp [met, onPending, onSlot, hallowed]
      omega
  | requeued settled =>
      change before.inFlight = some settled at hallowed
      simp [met, onPending, onSlot, hallowed]
  | accepted request =>
      simp [met, onPending, onSlot]
      omega
  | _ => simp [met, onPending, onSlot]

/-- A try begins with a claim. It is under way until it is settled or given up. -/
theorem Turns.tries (turns : deed.Turns before after) :
    (deed.met .claimed).length + before.resolved + before.failed + before.retried +
        before.inFlight.toList.length =
      after.resolved + after.failed + after.retried + after.inFlight.toList.length +
        (deed.met .abandoned).length := by
  have hallowed := turns.allowed
  rw [turns.inFlight, turns.resolved, turns.failed, turns.retried]
  cases deed with
  | claimed claimed =>
      obtain ⟨hslot, _, rest, hpending⟩ := hallowed
      simp [met, onSlot, hslot]
      omega
  | cleared dropped abandoned =>
      obtain ⟨rfl, rfl⟩ := hallowed
      simp [met, onSlot]
  | resolved settled | failed settled | requeued settled =>
      change before.inFlight = some settled at hallowed
      simp [met, onSlot, hallowed]
      omega
  | _ => simp [met, onSlot]

end Deed

variable {queue : ResolveQueue} {request : ResolveRequest} {service : ResolvedService}

/-- Whoever waits for a request that is resolved is told next. -/
theorem Taken.told {turn : Turn} {after : ResolveQueue} {effects : List Effect}
    (h : Taken queue turn (.resolved request service) after effects) :
    ∃ answer message, turn = .run (.call (.outcome (.resolved request.ref answer))) ∧
      ResolvedService.ofAnswer answer = .ok service ∧ queue.inFlight = some request ∧ effects =
        [debug message, .deliver request.session (.serviceResolved service), .own .drain] := by
  cases h with
  | @resolved ref answer _ _ message asked usable =>
      obtain ⟨hslot, rfl⟩ := inFlight_of_answered asked
      exact ⟨answer, message, rfl, usable, hslot, rfl⟩

/-- A request is resolved exactly if it is under way and an answer for its reference comes that a
service can be made from, and then by that service. -/
theorem deed_eq_resolved_iff {turn : Turn} : deed turn queue = .resolved request service ↔
    queue.inFlight = some request ∧ ∃ answer,
      turn = .run (.call (.outcome (.resolved request.ref answer))) ∧ service.MadeFrom answer := by
  constructor
  · intro hdeed
    have htaken := taken turn queue
    rw [hdeed] at htaken
    obtain ⟨answer, -, hturn, hservice, hslot, -⟩ := htaken.told
    exact ⟨hslot, answer, hturn, ResolvedService.ofAnswer_ok_iff.mp hservice⟩
  · rintro ⟨hslot, answer, rfl, made⟩
    have hasked : queue.answered request.ref = some request := by simp [answered, hslot]
    have hservice := ResolvedService.ofAnswer_ok_iff.mpr made
    simp [deed, settle, ResolveOutcome.ref, hasked, hservice]

namespace Scene

variable {scene next : Scene} {happening : Happening} {history : List Happening}

theorem step_balanced (step : Step scene happening next) (h : Balanced history scene.queue) :
    Balanced (history ++ [happening]) next.queue := by
  have turns := step_turns step
  constructor
  · intro request
    have hcount := turns.count request
    have hbefore := h.requests request
    simp only [met_append, List.count_append]
    omega
  · rw [turns.enqueued, met_append, List.length_append, h.enqueued]
  · rw [turns.resolved, met_append, List.length_append, h.resolved]
  · rw [turns.failed, met_append, List.length_append, h.failed]
  · have htries := turns.tries
    have hbefore := h.tries
    simp only [met_append, List.length_append]
    omega

theorem run_balanced {deduplicate : Bool} {retryDelay : Double}
    (run : Run (fresh deduplicate retryDelay) history scene) : Balanced history scene.queue := by
  induction run with
  | start => exact ⟨fun _ => rfl, rfl, rfl, rfl, rfl⟩
  | step _ step ih => exact step_balanced step ih

end Scene

end ResolveQueue

/-- What work delivers, to which session of which registry. -/
def Work.delivery? : Work ι → Option (Nat × Token × Event)
  | .registry place (.call (.deliver session event)) => some (place, session, event)
  | _ => none

theorem Work.delivery_effect (effect : ResolveQueue.Effect) (index : Nat) (node : QueueNode) :
    (effect.work (ι := ι) index node).delivery? =
      effect.delivery?.map fun delivery => (node.registry, delivery) := by
  cases effect <;> rfl

namespace Configuration

open ResolveQueue

variable {surroundings : Surroundings ι σ} {start now after : Configuration ι σ}
  {past : List (Configuration ι σ)} {index : Nat} {node : QueueNode} {scene : Scene}

/-- Nothing is about to be logged, and the queue is not just about to ask its platform. It is so
whenever a platform or a channel is called, and when there is nothing left to do. -/
def Paused (index : Nat) (now : Configuration ι σ) : Prop :=
  ∀ work rest, now.agenda = work :: rest →
    work.isQuiet = false ∧ ∀ ref, work.part index ≠ some (.resolve ref)

/-- What a turn of the queue delivers is what its deed is due. A request is resolved by an answer
for its reference while it is under way, and the service made from that answer goes to the session
that asked for it, at once after a log line. -/
def Delivers (surroundings : Surroundings ι σ) (index : Nat) (node : QueueNode)
    (moment : Configuration ι σ) : Prop :=
  ∀ turn queue, moment.happening index = some (.turn turn queue) →
    (∀ request service, deed turn queue = .resolved request service ↔
      queue.inFlight = some request ∧ ∃ answer,
        turn = .run (.call (.outcome (.resolved request.ref answer))) ∧ service.MadeFrom answer) ∧
    ∃ after tasks rest, moment.step surroundings = some after ∧ after.agenda = tasks ++ rest ∧
      rest <:+ moment.agenda ∧
      tasks.filterMap Work.delivery? =
        (deed turn queue).deliveries.map (fun delivery => (node.registry, delivery)) ∧
      ∀ request service, deed turn queue = .resolved request service →
        ∃ next behind, after.step surroundings = some next ∧ next.agenda =
          .registry node.registry (.call (.deliver request.session (.serviceResolved service))) ::
            behind

theorem Shows.asking_of_paused (h : now.Shows index node scene) (paused : now.Paused index) :
    scene.asking = [] := by
  refine List.filterMap_eq_nil_iff.mpr fun effect hmem => ?_
  have hprompt := h.prompt
  rw [← h.due, Configuration.due] at hmem
  cases hagenda : now.agenda with
  | nil => simp [hagenda] at hmem
  | cons work rest =>
      obtain ⟨hloud, hasks⟩ := paused work rest hagenda
      rw [hagenda, Prompt, hloud] at hprompt
      rw [hagenda, List.filterMap_cons] at hmem
      have hbehind : effect ∈ rest.filterMap (Work.part index) → effect.ref? = none := by
        intro hrest
        have hown := hprompt effect hrest
        cases effect with
        | own task => rfl
        | _ => cases hown
      split at hmem
      · exact hbehind hmem
      · rename_i first hpart
        rcases List.mem_cons.mp hmem with rfl | hrest
        · cases effect with
          | resolve ref => exact absurd hpart (hasks ref)
          | _ => rfl
        · exact hbehind hrest

theorem delivery_work (effects : List Effect) (index : Nat) (node : QueueNode) :
    (effects.map (·.work (ι := ι) index node)).filterMap Work.delivery? =
      (effects.filterMap Effect.delivery?).map fun delivery => (node.registry, delivery) := by
  rw [List.filterMap_map, List.map_filterMap]
  congr 1
  funext effect
  exact Work.delivery_effect effect index node

theorem Shows.delivers (h : now.Shows index node scene) (quiet : surroundings.Quiet) :
    now.Delivers surroundings index node := by
  intro turn queue hhappening
  refine ⟨fun _ _ => deed_eq_resolved_iff, ?_⟩
  obtain ⟨found, hqueue, rfl, hcases⟩ := happening_turn hhappening
  obtain rfl : { node with core := scene.queue } = found :=
    Option.some.inj (h.queue.symm.trans hqueue)
  rcases hcases with ⟨task, rest, hagenda, rfl⟩ | ⟨fault, rest, ref, hagenda, hhandler, rfl⟩
  · obtain ⟨after, hstep, hafter⟩ : ∃ after, now.step surroundings = some after ∧
        after.agenda = (take (.run task) scene.queue).2.map
          (·.work index { node with core := scene.queue }) ++ rest :=
      ⟨_, step_queue hqueue hagenda, rfl⟩
    refine ⟨after, _, rest, hstep, hafter, ?_, ?_, ?_⟩
    · rw [hagenda]
      exact List.suffix_cons ..
    · rw [delivery_work, (taken _ _).delivers]
    · intro request service hdeed
      have htaken := taken (.run task) scene.queue
      rw [hdeed] at htaken
      obtain ⟨answer, message, -, -, -, htake⟩ := htaken.told
      obtain ⟨next, hnext, hbehind⟩ := step_log quiet (by rw [hafter, htake]; rfl)
      exact ⟨next, _, hnext, hbehind⟩
  · obtain ⟨after, kept, hstep, hkept, hafter⟩ :=
      step_refused surroundings hqueue hagenda hhandler
    refine ⟨after, _, kept, hstep, hafter, ?_, ?_, ?_⟩
    · rw [hagenda]
      exact hkept.trans (List.suffix_cons ..)
    · rw [delivery_work, (taken (.refused ref fault) _).delivers]
    · intro request service hdeed
      have htaken := taken (.refused ref fault) scene.queue
      rw [hdeed] at htaken
      cases htaken

/-- At every moment, each request was accepted as often as it was resolved, failed for good, waits,
is under way, or was dropped or given up, and the totals of the queue are those of the record. The
platform was asked once for each try. Each request that was resolved is delivered exactly once, to
its own session, as the service that is made from the outcome: its name, host, address and port, its
type in bare form, and its attributes as TXT records. -/
theorem no_loss_no_duplication (quiet : surroundings.Quiet) (fresh : start.Fresh index node)
    (course : Course surroundings start past now) :
    (∃ found, now.world.queues[index]? = some found ∧ Balanced (history index past) found.core ∧
      (now.Paused index → (asked (history index past)).length =
        found.core.resolved + found.core.failed + found.core.retried +
          found.core.inFlight.toList.length + (met .abandoned (history index past)).length)) ∧
      ∀ moment ∈ past, moment.Delivers surroundings index node := by
  obtain ⟨scene, hrun, hshows⟩ := course.shows quiet fresh
  have hbalanced := Scene.run_balanced hrun
  refine ⟨⟨_, hshows.queue, hbalanced, fun paused => ?_⟩, fun moment hmem => ?_⟩
  · have hasked := congrArg List.length (Scene.run_asked hrun)
    rw [hshows.asking_of_paused paused, List.append_nil, List.length_map] at hasked
    rw [hasked, hbalanced.tries]
  · obtain ⟨earlier, after, hearlier, hstep⟩ := course.before hmem
    obtain ⟨_, _, hshown⟩ := hearlier.shows quiet fresh
    exact hshown.delivers quiet

/-- A request that the platform answers at once is resolved and delivered. -/
theorem no_loss_no_duplication_of_answered :
    let ref : ServiceRef := { name := "Printer", type := "_ipp._tcp" }
    let answer : ResolveAnswer := {
      name := "Printer", type := "_ipp._tcp", hostname := "printer.local", address := "10.0.0.9"
      port := 631, attributes := some [(.text "rp", .text "queue"), (.text "duplex", .null)] }
    let start : Configuration Empty _ := alone false .zero
      [[.perform (.queue 0 (.outcome (.resolved ref answer)))]] [.enqueue ref 1]
    let now := run .scripted 40 start
    let past := trail .scripted 40 start
    (met .resolved (history 0 past)).length = 1 ∧
      (∃ found, now.world.queues[0]? = some found ∧ Balanced (history 0 past) found.core ∧
        (now.Paused 0 → (asked (history 0 past)).length =
          found.core.resolved + found.core.failed + found.core.retried +
            found.core.inFlight.toList.length + (met .abandoned (history 0 past)).length)) ∧
      ∀ moment ∈ past, moment.Delivers .scripted 0 { platform := 0, registry := 0, core := {} } :=
  ⟨rfl, no_loss_no_duplication Surroundings.scripted_quiet (alone_fresh ..) (course_run ..)⟩

end Configuration

end ServiceDiscovery
