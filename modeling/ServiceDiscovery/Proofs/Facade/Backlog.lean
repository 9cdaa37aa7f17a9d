import ServiceDiscovery.Proofs.BrowseSession.Closing
import ServiceDiscovery.Proofs.Facade.Departure

/-!
What a queue still holds for a browse session of a house that was closed. The session puts in what
it hears was found as long as it is open, and when it is closed the queue drops all of that. What
waits for it later was under way at that moment and is given back because the resolver was busy, or
it was put in under the token of the session by somebody outside.
-/

namespace ServiceDiscovery

variable {ι σ : Type}

open ResolveQueue

/-- Whatever waits after a deed waited before, was taken in or was given back. -/
theorem ResolveQueue.Deed.Turns.pending_from {before after : ResolveQueue} {deed : Deed}
    {request : ResolveRequest} (turns : deed.Turns before after) (h : request ∈ after.pending) :
    request ∈ before.pending ∨ request ∈ deed.met .accepted ∨ request ∈ deed.met .requeued := by
  have hwaiting := turns.waiting request
  have hafter := List.count_pos_iff.mpr h
  rw [← List.count_pos_iff, ← List.count_pos_iff, ← List.count_pos_iff]
  omega

/-- The browse session of a house feeds a queue. -/
structure House.Feeds (house : House) (queue : Nat) (world : World) : Prop where
  session : ∃ node, world.browsers[house.member .browse]? = some node ∧ node.queue = queue
  queue : ∃ node, world.queues[queue]? = some node

namespace Configuration

variable {surroundings : Surroundings ι σ} {start now after : Configuration ι σ}
  {past : List (Configuration ι σ)} {work : Work ι} {rest : List (Work ι)} {house : House}
  {queue : Nat} {ref : ServiceRef} {request : ResolveRequest} {s : Standing}

/-- Somebody outside has put a request into the queue at a place. -/
def Posted (surroundings : Surroundings ι σ) (queue : Nat) (past : List (Configuration ι σ))
    (request : ResolveRequest) : Prop :=
  ∃ moment ∈ past, .perform (.queue queue (.enqueue request.ref request.session)) ∈
    moment.moves surroundings

theorem Posted.append (posted : Posted surroundings queue past request)
    (later : List (Configuration ι σ)) : Posted surroundings queue (past ++ later) request := by
  obtain ⟨moment, hmem, hmove⟩ := posted
  exact ⟨moment, List.mem_append_left _ hmem, hmove⟩

theorem step_feeds (feeds : house.Feeds queue now.world) (h : now.step surroundings = some after) :
    house.Feeds queue after.world := by
  obtain ⟨node, found, hqueue⟩ := feeds.session
  obtain ⟨core, hcore⟩ := feeds.queue
  obtain ⟨later, hlater, hgoes⟩ := (step_ages h).browsers _ node found
  obtain ⟨changed, hchanged, -⟩ := step_deed h hcore
  exact ⟨⟨later, hlater, hgoes.queue.trans hqueue⟩, ⟨changed, hchanged⟩⟩

/-- Of what is to be put into the queue for the session of a house, all comes from outside, or the
session is just putting in what it heard was found. -/
inductive Serves (surroundings : Surroundings ι σ) (house : House) (queue : Nat)
    (past : List (Configuration ι σ)) (now : Configuration ι σ) : Prop where
  | posted (posted : ∀ ref, .queue queue (.call (.enqueue ref (house.token .browse))) ∈ now.agenda →
      Posted surroundings queue past { ref, session := house.token .browse })
  | serving {lines rest : List (Work ι)} {ref : ServiceRef} {s : Standing}
      (hagenda : now.agenda =
        lines ++ .queue queue (.call (.enqueue ref (house.token .browse))) :: rest)
      (hlines : ∀ line ∈ lines, ∃ record, line = .call (.log record))
      (found : now.world.standing? .browse (house.member .browse) = some s)
      (unclosed : s.closed = false)
      (posted : ∀ ref, .queue queue (.call (.enqueue ref (house.token .browse))) ∈ rest →
        Posted surroundings queue past { ref, session := house.token .browse })

/-- A step in which the session does not hear of anything found puts nothing in for it. -/
theorem posted_of_step (stands : house.Stands now.world) (wired : now.Wired queue house.registry)
    (h : now.step surroundings = some after) (hagenda : now.agenda = work :: rest)
    (unfound : ∀ ref, work ≠ .browse (house.member .browse) (.call (.notice (.found ref))))
    (posted : ∀ ref, .queue queue (.call (.enqueue ref (house.token .browse))) ∈ rest →
      Posted surroundings queue past { ref, session := house.token .browse }) :
    ∀ ref, .queue queue (.call (.enqueue ref (house.token .browse))) ∈ after.agenda →
      Posted surroundings queue (past ++ [now]) { ref, session := house.token .browse } := by
  obtain ⟨first, others, tasks, kept, hfirst, hkept, hafter, htasks⟩ := step_sources h
  obtain ⟨rfl, rfl⟩ := List.cons.inj (hfirst.symm.trans hagenda)
  intro ref hmem
  have hcustomer :
      (Work.queue (ι := ι) queue (.call (.enqueue ref (house.token .browse)))).customer? queue =
        some (house.token .browse) := by
    simp [Work.customer?]
  rw [hafter] at hmem
  rcases List.mem_append.mp hmem with hnew | hold
  · rcases htasks _ hnew with
      ⟨move, hmove, heq⟩ | hbrings | ⟨fault, source, changed, recovered, -, -, hrecover, hin⟩
    · refine ⟨now, by simp, ?_⟩
      cases move with
      | perform operation =>
          cases operation with
          | queue place task =>
              cases heq
              exact hmove
          | _ => cases heq
      | _ => cases heq
    · obtain ⟨place, node, found, rfl, hnode, hqueue, htoken, -⟩ := hbrings.customer hcustomer
      have hregistry : node.registry = house.registry :=
        wired node (List.mem_of_getElem? hnode) hqueue
      have hplace : place = house.member .browse := by
        apply stands.alone .browse place node.standing
        · simp [World.standing?, hnode]
        · exact hregistry
        · have howns := house.owns_token .browse
          rw [← htoken] at howns
          exact howns
      exact absurd (by rw [hplace]) (unfound found)
    · obtain ⟨place, node, found, rfl, -⟩ :=
        (World.brings_of_recover hrecover hin).customer hcustomer
      obtain ⟨type, htype⟩ := World.recover_browse hrecover
      cases htype
  · exact (posted ref (hkept.mem hold)).append [now]

/-- A session that hears of something found puts it in right away, unless it is closed. -/
theorem serves_of_found (stands : house.Stands now.world) (feeds : house.Feeds queue now.world)
    (h : now.step surroundings = some after)
    (hagenda : now.agenda =
      .browse (house.member .browse) (.call (.notice (.found ref))) :: rest)
    (posted : ∀ ref, .queue queue (.call (.enqueue ref (house.token .browse))) ∈ rest →
      Posted surroundings queue past { ref, session := house.token .browse }) :
    Serves surroundings house queue (past ++ [now]) after := by
  obtain ⟨node, found, hqueue⟩ := feeds.session
  obtain ⟨s, hs, -, htoken⟩ := stands.session .browse
  have hsame : s = node.standing := by
    simp only [World.standing?, found, Option.map_some] at hs
    exact (Option.some.inj hs).symm
  subst hsame
  have hlt := (List.getElem?_eq_some_iff.mp found).1
  have hafter := Option.some.inj (h.symm.trans (step_browse found hagenda))
  cases hclosed : node.core.closed with
  | true =>
      apply Serves.posted
      intro other hmem
      simp only [hafter, BrowseSession.step, BrowseSession.call, BrowseSession.hear, hclosed,
        ↓reduceIte, List.map_nil, List.nil_append] at hmem
      exact (posted other hmem).append [now]
  | false =>
      apply @Serves.serving ι σ surroundings house queue _ after [.call (.log _)] rest ref
        node.standing
      · simp only [hafter, BrowseSession.step, BrowseSession.call, BrowseSession.hear, hclosed]
        rw [← htoken, ← hqueue]
        rfl
      · intro line hmem
        exact ⟨_, List.mem_singleton.mp hmem⟩
      · rw [hafter]
        simp only [World.standing?, List.getElem?_set_self hlt]
        rfl
      · exact hclosed
      · intro other hmem
        exact (posted other hmem).append [now]

theorem Serves.step
    (hlog : ∀ record world around, (surroundings.answer (.log record) world around).2 = [])
    (serves : Serves surroundings house queue past now) (stands : house.Stands now.world)
    (feeds : house.Feeds queue now.world) (wired : now.Wired queue house.registry)
    (h : now.step surroundings = some after) :
    Serves surroundings house queue (past ++ [now]) after := by
  cases serves with
  | posted posted =>
      obtain ⟨work, rest, hagenda, -⟩ := step_cases h
      have hrest : ∀ ref, .queue queue (.call (.enqueue ref (house.token .browse))) ∈ rest →
          Posted surroundings queue past { ref, session := house.token .browse } := by
        intro ref hmem
        apply posted
        rw [hagenda]
        exact List.mem_cons_of_mem _ hmem
      by_cases hfound : ∃ ref, work = .browse (house.member .browse) (.call (.notice (.found ref)))
      · obtain ⟨ref, rfl⟩ := hfound
        exact serves_of_found stands feeds h hagenda hrest
      · apply Serves.posted
        exact posted_of_step stands wired h hagenda (fun ref heq => hfound ⟨ref, heq⟩) hrest
  | @serving lines rest ref s hagenda hlines found unclosed posted =>
      cases lines with
      | nil =>
          apply Serves.posted
          exact posted_of_step stands wired h hagenda (by simp) posted
      | cons line lines =>
          obtain ⟨record, rfl⟩ := hlines line List.mem_cons_self
          have hworld := world_of_call hagenda h
          have hafter := agenda_of_call hagenda h
          apply @Serves.serving ι σ surroundings house queue _ after lines rest ref s
          · rw [hafter]
            simp [moves, hagenda, hlog]
          · exact fun other hmem => hlines other (List.mem_cons_of_mem _ hmem)
          · rw [hworld]
            exact found
          · exact unclosed
          · exact fun other hmem => (posted other hmem).append [now]

/-- The browse session of a house is being closed, and the queue is about to drop what waits for it.
-/
inductive Discards (house : House) (queue : Nat) (past : List (Configuration ι σ))
    (now : Configuration ι σ) : Prop where
  | next {earlier : List (Configuration ι σ)} {moment : Configuration ι σ}
      {behind rest : List (Work ι)} {node : QueueNode} (hpast : past = earlier ++ [moment])
      (hclosing : moment.agenda = .browse (house.member .browse) .closing :: behind)
      (before : moment.world.queues[queue]? = some node)
      (present : now.world.queues[queue]? = some node)
      (hagenda : now.agenda = .queue queue (.call (.discard (house.token .browse))) :: rest)

/-- The browse session of a house was closed, and since then the queue had no request of it but the
one that was under way, which waits again only if the resolver was busy, and those that somebody
outside has put in. -/
inductive Forgets (surroundings : Surroundings ι σ) (house : House) (queue : Nat)
    (past : List (Configuration ι σ)) (now : Configuration ι σ) : Prop where
  | since {earlier later : List (Configuration ι σ)} {moment : Configuration ι σ}
      {behind : List (Work ι)} {node found : QueueNode} (hpast : past = earlier ++ moment :: later)
      (hclosing : moment.agenda = .browse (house.member .browse) .closing :: behind)
      (before : moment.world.queues[queue]? = some node)
      (present : now.world.queues[queue]? = some found)
      (pending : ∀ request ∈ found.core.pending, request.session = house.token .browse →
        (node.core.inFlight = some request ∧ request ∈ met .requeued (history queue later)) ∨
          Posted surroundings queue past request)
      (inFlight : ∀ request, found.core.inFlight = some request →
        request.session = house.token .browse →
        node.core.inFlight = some request ∨ Posted surroundings queue past request)

theorem closing_of_act {index : Nat} (h : now.act? .browse index = some .closed) :
    ∃ rest, now.agenda = .browse index .closing :: rest := by
  cases hagenda : now.agenda with
  | nil =>
      unfold act? at h
      rw [hagenda] at h
      cases h
  | cons work rest =>
      by_cases hraise : ∃ fault, work = .raise fault
      · obtain ⟨fault, rfl⟩ := hraise
        rw [act?_of_raise hagenda] at h
        obtain ⟨task, -, hcaught⟩ := Option.bind_eq_some_iff.mp h
        cases (Work.closing_of_caught hcaught).1
      · rw [act?_of_front hagenda fun fault heq => hraise ⟨fault, heq⟩] at h
        rcases Work.closing_of_act h with ⟨-, rfl⟩ | ⟨hkind, -⟩
        · exact ⟨rest, rfl⟩
        · cases hkind

/-- Once the session is marked as closed the queue drops what waits for it. -/
theorem discards_of_closing (stands : house.Stands now.world)
    (feeds : house.Feeds queue now.world) (h : now.step surroundings = some after)
    (hagenda : now.agenda = .browse (house.member .browse) .closing :: rest) :
    after.Discards house queue (past ++ [now]) := by
  obtain ⟨node, found, hqueue⟩ := feeds.session
  obtain ⟨core, hcore⟩ := feeds.queue
  obtain ⟨s, hs, -, htoken⟩ := stands.session .browse
  have hsame : s = node.standing := by
    simp only [World.standing?, found, Option.map_some] at hs
    exact (Option.some.inj hs).symm
  have hafter := Option.some.inj (h.symm.trans (step_browse found hagenda))
  apply Discards.next rfl hagenda hcore
  · rw [hafter]
    exact hcore
  · rw [hafter, ← htoken, hsame, ← hqueue]
    rfl

theorem Discards.step (discards : now.Discards house queue past)
    (h : now.step surroundings = some after) :
    Forgets surroundings house queue (past ++ [now]) after := by
  obtain @⟨earlier, moment, _, _, node, hpast, hclosing, before, present, hagenda⟩ := discards
  have hlt := (List.getElem?_eq_some_iff.mp present).1
  have hafter := Option.some.inj (h.symm.trans (step_queue present hagenda))
  have hsplit : past ++ [now] = earlier ++ moment :: [now] := by simp [hpast]
  apply Forgets.since hsplit hclosing before
  · rw [hafter]
    exact List.getElem?_set_self hlt
  · intro request hmem hsession
    have hkept := (List.mem_filter.mp hmem).2
    simp [hsession] at hkept
  · intro request hflight _
    exact Or.inl hflight

theorem Forgets.step (forgets : Forgets surroundings house queue past now)
    (posted : ∀ ref, .queue queue (.call (.enqueue ref (house.token .browse))) ∈ now.agenda →
      Posted surroundings queue past { ref, session := house.token .browse })
    (h : now.step surroundings = some after) :
    Forgets surroundings house queue (past ++ [now]) after := by
  obtain @⟨earlier, later, moment, _, node, _, hpast, hclosing, before, present, pending,
    inFlight⟩ := forgets
  obtain ⟨core, hcore, hturns⟩ := step_deed h present
  have haccepted (request : ResolveRequest) (hsession : request.session = house.token .browse)
      (hmem : request ∈ ((now.happening queue).elim .nothing Happening.deed).met .accepted) :
      Posted surroundings queue past request := by
    cases hhappening : now.happening queue with
    | none =>
        rw [hhappening] at hmem
        cases hmem
    | some happening =>
        rw [hhappening] at hmem
        obtain ⟨rest, hagenda⟩ := front_of_accepted hhappening hmem
        obtain ⟨ref, session⟩ := request
        obtain rfl : session = house.token .browse := hsession
        apply posted
        rw [hagenda]
        exact List.mem_cons_self
  have hrecord : met .requeued (history queue (later ++ [now])) = met .requeued
      (history queue later) ++
        ((now.happening queue).elim .nothing Happening.deed).met .requeued := by
    rw [history_append]
    cases now.happening queue with
    | none => simp [Deed.met]
    | some happening => exact met_append _ _ happening
  have hsplit : past ++ [now] = earlier ++ moment :: (later ++ [now]) := by simp [hpast]
  apply Forgets.since hsplit hclosing before hcore
  · intro request hmem hsession
    rw [hrecord]
    rcases hturns.pending_from hmem with hold | htaken | hback
    · rcases pending request hold hsession with ⟨hslot, hrequeued⟩ | hposted
      · exact Or.inl ⟨hslot, List.mem_append_left _ hrequeued⟩
      · exact Or.inr (hposted.append [now])
    · exact Or.inr ((haccepted request hsession htaken).append [now])
    · rcases inFlight request (hturns.inFlight_of_requeued hback) hsession with hslot | hposted
      · exact Or.inl ⟨hslot, List.mem_append_right _ hback⟩
      · exact Or.inr (hposted.append [now])
  · intro request hflight hsession
    rcases hturns.holds (holds_iff.mpr (Or.inl hflight)) with hheld | htaken
    · rcases holds_iff.mp hheld with hold | hwaiting
      · exact (inFlight request hold hsession).imp_right fun hposted => hposted.append [now]
      · rcases pending request hwaiting hsession with ⟨hslot, -⟩ | hposted
        · exact Or.inl hslot
        · exact Or.inr (hposted.append [now])
    · exact Or.inr ((haccepted request hsession htaken).append [now])

/-- A house as it was set up: its sessions are open, and nobody is about to put anything into the
queue for its browse session. -/
structure Hosts (house : House) (queue : Nat) (now : Configuration ι σ) : Prop where
  stands : house.Stands now.world
  feeds : house.Feeds queue now.world
  unclosed : ∀ kind s, now.world.standing? kind (house.member kind) = some s → s.closed = false
  unserved : ∀ ref, .queue queue (.call (.enqueue ref (house.token .browse))) ∉ now.agenda

theorem Course.feeds (course : Course surroundings start past now)
    (feeds : house.Feeds queue start.world) : house.Feeds queue now.world := by
  induction course with
  | start => exact feeds
  | step course step ih => exact step_feeds ih step

theorem Course.serves
    (hlog : ∀ record world around, (surroundings.answer (.log record) world around).2 = [])
    (course : Course surroundings start past now) (hosts : start.Hosts house queue)
    (wired : now.Wired queue house.registry) : Serves surroundings house queue past now := by
  induction course with
  | start =>
      apply Serves.posted
      intro ref hmem
      exact absurd hmem (hosts.unserved ref)
  | step course step ih =>
      have hwired := wired.of_step step
      exact (ih hwired).step hlog (course.stands hosts.stands) (course.feeds hosts.feeds) hwired
        step

/-- From the moment on that its browse session is closed, a house is forgotten by the queue. -/
theorem Course.forgets
    (hlog : ∀ record world around, (surroundings.answer (.log record) world around).2 = [])
    (course : Course surroundings start past now) (hosts : start.Hosts house queue)
    (wired : now.Wired queue house.registry)
    (found : now.world.standing? .browse (house.member .browse) = some s)
    (hclosed : s.closed = true) :
    now.Discards house queue past ∨ Forgets surroundings house queue past now := by
  induction course generalizing s with
  | start => cases (hosts.unclosed .browse s found).symm.trans hclosed
  | @step past now after course step ih =>
      have hwired := wired.of_step step
      have hstands := course.stands hosts.stands
      obtain ⟨before, hbefore, -⟩ := hstands.session .browse
      cases hsame : before.closed with
      | false =>
          obtain ⟨rest, hagenda⟩ :=
            closing_of_act (act_of_closed step hbefore hsame found hclosed)
          exact Or.inl (discards_of_closing hstands (course.feeds hosts.feeds) step hagenda)
      | true =>
          right
          rcases ih hwired hbefore hsame with hdiscards | hforgets
          · exact hdiscards.step step
          · apply hforgets.step _ step
            cases course.serves hlog hosts hwired with
            | posted posted => exact posted
            | serving _ _ hopen unclosed =>
                obtain rfl := Option.some.inj (hopen.symm.trans hbefore)
                cases unclosed.symm.trans hsame

end Configuration

end ServiceDiscovery
