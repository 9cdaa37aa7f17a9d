import ServiceDiscovery.Proofs.Machine.Course

/-!
Tokens tell sessions apart. A registry counts the tokens that it gives out, sessions keep the one
they were made with, and neither ever goes back, so no two sessions of a registry have the same
token. A session that was closed stays closed.
-/

namespace ServiceDiscovery

variable {ι σ : Type}

/-- A registry gives out no number again. -/
theorem ChannelRegistry.issued_le_step (task : ChannelRegistry.Task) (registry : ChannelRegistry) :
    registry.issued ≤ (ChannelRegistry.step task registry).1.issued := by
  cases task with
  | delivering token event => exact Nat.le_refl _
  | call operation =>
      cases operation with
      | attach receiver => exact Nat.le_succ _
      | detach token => exact Nat.le_refl _
      | isAttached token => exact Nat.le_refl _
      | deliver token event =>
          simp only [step]
          split <;> exact Nat.le_refl _

theorem ChannelRegistry.recover_fst {task : ChannelRegistry.Task} {fault : Fault}
    {registry changed : ChannelRegistry} {effects : List ChannelRegistry.Effect}
    (h : ChannelRegistry.recover task fault registry = some (changed, effects)) :
    changed = registry := by
  cases task with
  | call operation => cases h
  | delivering token event =>
      cases h
      rfl

namespace BrowseSession

/-- A session goes on with its token, and if it was closed it stays so. -/
structure Goes (before after : BrowseSession) : Prop where
  token : after.token = before.token
  closed : before.closed → after.closed

variable {before after : BrowseSession}

theorem Goes.refl (session : BrowseSession) : session.Goes session := ⟨rfl, id⟩

theorem Goes.of_eq (token : after.token = before.token) (closed : after.closed = before.closed) :
    before.Goes after := ⟨token, fun h => closed.trans h⟩

theorem goes_step (task : Task) (session : BrowseSession) :
    session.Goes (step task session).1 := by
  cases task with
  | starting type => exact .refl session
  | closing => exact ⟨rfl, fun _ => rfl⟩
  | call operation =>
      cases operation with
      | start type =>
          simp only [step, call, start]
          split
          · exact .refl session
          · split
            · exact .refl session
            · exact .of_eq rfl rfl
      | stop => exact .refl session
      | close =>
          simp only [step, call, close]
          split <;> exact .refl session
      | notice notice => cases notice <;> exact .of_eq rfl rfl

theorem goes_recover {task : Task} {fault : Fault} {session changed : BrowseSession}
    {effects : List Effect} (h : recover task fault session = some (changed, effects)) :
    session.Goes changed := by
  cases task with
  | call operation => cases h
  | closing => cases h
  | starting type =>
      have hchanged : (session.startRefused type fault).1 = changed :=
        congrArg Prod.fst (Option.some.inj h)
      rw [← hchanged, startRefused]
      split <;> exact .of_eq rfl rfl

end BrowseSession

/-- A session goes on with the wires that it was made with. -/
structure BrowseNode.Goes (before after : BrowseNode) : Prop where
  queue : after.queue = before.queue
  registry : after.registry = before.registry
  core : before.core.Goes after.core

/-- The session feeds one queue and reports through one registry. -/
def BrowseNode.Joins (node : BrowseNode) (queue registry : Nat) : Prop :=
  node.queue = queue ∧ node.registry = registry

namespace World

variable {world middle after : World} {queue registry : Nat}

/-- The registry gave a number of its own to each of its sessions that feed the queue. -/
structure Numbered (queue registry : Nat) (world : World) : Prop where
  issued : ∃ found, world.registries[registry]? = some found ∧
    ∀ node ∈ world.browsers, node.Joins queue registry → node.core.token ≤ found.issued
  distinct : ∀ (place other : Nat) (node twin : BrowseNode),
    world.browsers[place]? = some node → world.browsers[other]? = some twin →
    node.Joins queue registry → twin.Joins queue registry → node.core.token = twin.core.token →
    place = other

theorem Numbered.of_unjoined (hregistry : registry < world.registries.length)
    (h : ∀ node ∈ world.browsers, ¬ node.Joins queue registry) :
    world.Numbered queue registry where
  issued := ⟨_, List.getElem?_eq_getElem hregistry, fun node hmem hjoins =>
    absurd hjoins (h node hmem)⟩
  distinct := fun _ _ node _ hplace _ hjoins => absurd hjoins (h node (List.mem_of_getElem? hplace))

/-- One world comes from another, and its registries and sessions go on. -/
structure Ages (world after : World) : Prop where
  registries : ∀ (index : Nat) (found : ChannelRegistry), world.registries[index]? = some found →
    ∃ later, after.registries[index]? = some later ∧ found.issued ≤ later.issued
  browsers : ∀ (place : Nat) (node : BrowseNode), world.browsers[place]? = some node →
    ∃ later, after.browsers[place]? = some later ∧ node.Goes later
  numbered : ∀ queue registry, world.Numbered queue registry → after.Numbered queue registry

theorem Ages.refl (world : World) : world.Ages world where
  registries := fun _ found h => ⟨found, h, Nat.le_refl _⟩
  browsers := fun _ node h => ⟨node, h, rfl, rfl, .refl _⟩
  numbered := fun _ _ h => h

theorem Ages.trans (first : world.Ages middle) (second : middle.Ages after) :
    world.Ages after where
  registries := by
    intro index found h
    obtain ⟨between, hbetween, hle⟩ := first.registries index found h
    obtain ⟨later, hlater, hle'⟩ := second.registries index between hbetween
    exact ⟨later, hlater, Nat.le_trans hle hle'⟩
  browsers := by
    intro place node h
    obtain ⟨between, hbetween, hgoes⟩ := first.browsers place node h
    obtain ⟨later, hlater, hgoes'⟩ := second.browsers place between hbetween
    exact ⟨later, hlater, hgoes'.queue.trans hgoes.queue, hgoes'.registry.trans hgoes.registry,
      hgoes'.core.token.trans hgoes.core.token, fun h => hgoes'.core.closed (hgoes.core.closed h)⟩
  numbered := fun queue registry h =>
    second.numbered queue registry (first.numbered queue registry h)

/-- Where no session is added, each one has the number that it had. -/
theorem Ages.of_steady
    (registries : ∀ (index : Nat) (found : ChannelRegistry),
      world.registries[index]? = some found →
      ∃ later, after.registries[index]? = some later ∧ found.issued ≤ later.issued)
    (browsers : ∀ (place : Nat) (node : BrowseNode), world.browsers[place]? = some node →
      ∃ later, after.browsers[place]? = some later ∧ node.Goes later)
    (length : after.browsers.length = world.browsers.length) : world.Ages after where
  registries := registries
  browsers := browsers
  numbered := by
    have hback (place : Nat) (later : BrowseNode) (h : after.browsers[place]? = some later) :
        ∃ node, world.browsers[place]? = some node ∧ node.Goes later := by
      obtain ⟨hlt, _⟩ := List.getElem?_eq_some_iff.mp h
      have hnode := List.getElem?_eq_getElem (length ▸ hlt : place < world.browsers.length)
      obtain ⟨same, hsame, hgoes⟩ := browsers place _ hnode
      obtain rfl : later = same := Option.some.inj (h.symm.trans hsame)
      exact ⟨_, hnode, hgoes⟩
    have hjoins {node later : BrowseNode} (hgoes : node.Goes later) {queue registry : Nat}
        (h : later.Joins queue registry) : node.Joins queue registry :=
      ⟨hgoes.queue.symm.trans h.1, hgoes.registry.symm.trans h.2⟩
    intro queue registry h
    constructor
    · obtain ⟨found, hfound, hle⟩ := h.issued
      obtain ⟨later, hlater, hissued⟩ := registries registry found hfound
      refine ⟨later, hlater, fun node hmem hnode => ?_⟩
      obtain ⟨place, hplace⟩ := List.mem_iff_getElem?.mp hmem
      obtain ⟨earlier, hearlier, hgoes⟩ := hback place node hplace
      rw [hgoes.core.token]
      exact Int.le_trans (hle earlier (List.mem_of_getElem? hearlier) (hjoins hgoes hnode))
        (Int.ofNat_le.mpr hissued)
    · intro place other node twin hplace hother hnode htwin htoken
      obtain ⟨earlier, hearlier, hgoes⟩ := hback place node hplace
      obtain ⟨former, hformer, hgoes'⟩ := hback other twin hother
      refine h.distinct place other earlier former hearlier hformer (hjoins hgoes hnode)
        (hjoins hgoes' htwin) ?_
      rw [← hgoes.core.token, ← hgoes'.core.token]
      exact htoken

theorem Ages.of_eq (registries : after.registries = world.registries)
    (browsers : after.browsers = world.browsers) : world.Ages after :=
  .of_steady (fun _ found h => ⟨found, registries ▸ h, Nat.le_refl _⟩)
    (fun _ node h => ⟨node, browsers ▸ h, rfl, rfl, .refl _⟩) (congrArg List.length browsers)

theorem setRegistry_ages {index : Nat} {found changed : ChannelRegistry}
    (hfound : world.registries[index]? = some found) (hle : found.issued ≤ changed.issued) :
    world.Ages { world with registries := world.registries.set index changed } := by
  refine .of_steady ?_ (fun _ node h => ⟨node, h, rfl, rfl, .refl _⟩) rfl
  intro other registry h
  by_cases hsame : index = other
  · subst hsame
    obtain rfl := Option.some.inj (hfound.symm.trans h)
    have hlt := (List.getElem?_eq_some_iff.mp h).1
    exact ⟨changed, List.getElem?_set_self hlt, hle⟩
  · exact ⟨registry, (List.getElem?_set_ne hsame).trans h, Nat.le_refl _⟩

theorem setBrowse_ages {index : Nat} {found : BrowseNode} {core : BrowseSession}
    (hfound : world.browsers[index]? = some found) (hgoes : found.core.Goes core) :
    world.Ages { world with browsers := world.browsers.set index { found with core } } := by
  refine .of_steady (fun _ registry h => ⟨registry, h, Nat.le_refl _⟩) ?_ (by simp)
  intro other node h
  by_cases hsame : index = other
  · subst hsame
    obtain rfl := Option.some.inj (hfound.symm.trans h)
    have hlt := (List.getElem?_eq_some_iff.mp h).1
    exact ⟨{ found with core }, List.getElem?_set_self hlt, rfl, rfl, hgoes⟩
  · exact ⟨node, (List.getElem?_set_ne hsame).trans h, rfl, rfl, .refl _⟩

theorem attach_ages (registry : Nat) (receiver : Receiver) (world : World) :
    world.Ages (world.attach registry receiver).2 := by
  unfold attach
  split
  · exact .refl world
  · exact setRegistry_ages ‹_› (Nat.le_succ _)

theorem addRegistry_ages (world : World) : world.Ages world.addRegistry.2 := by
  refine .of_steady ?_ (fun _ node h => ⟨node, h, rfl, rfl, .refl _⟩) rfl
  intro index found h
  have hlt := (List.getElem?_eq_some_iff.mp h).1
  exact ⟨found, (List.getElem?_append_left hlt).trans h, Nat.le_refl _⟩

theorem addPublication_ages (platform registry : Nat) (receiver : Receiver) (world : World) :
    world.Ages (world.addPublication platform registry receiver).2 :=
  (attach_ages registry receiver world).trans (.of_eq rfl rfl)

/-- A receiver gets the number after all that were given out before. -/
theorem attach_eq {registry : Nat} {found : ChannelRegistry}
    (hfound : world.registries[registry]? = some found) (receiver : Receiver) :
    world.attach registry receiver = (((found.issued + 1 : Nat) : Int), { world with
      registries := world.registries.set registry (found.attach receiver).2 }) := by
  simp only [attach, hfound]
  rfl

theorem attach_browsers (registry : Nat) (receiver : Receiver) (world : World) :
    (world.attach registry receiver).2.browsers = world.browsers := by
  unfold attach
  split <;> rfl

/-- Sessions stay numbered when one is added with a number that is given out for it. -/
theorem Numbered.append {later : ChannelRegistry} {added : BrowseNode}
    (h : world.Numbered queue registry) (hbrowsers : after.browsers = world.browsers ++ [added])
    (hlater : after.registries[registry]? = some later)
    (hissued : ∀ found, world.registries[registry]? = some found → found.issued ≤ later.issued)
    (hadded : added.Joins queue registry → added.core.token = later.issued ∧
      ∀ found, world.registries[registry]? = some found → found.issued < later.issued) :
    after.Numbered queue registry := by
  obtain ⟨found, hfound, hle⟩ := h.issued
  have hcases (place : Nat) (node : BrowseNode) (hplace : after.browsers[place]? = some node) :
      world.browsers[place]? = some node ∨ place = world.browsers.length ∧ node = added := by
    rw [hbrowsers] at hplace
    rcases Nat.lt_or_ge place world.browsers.length with hlt | hge
    · exact Or.inl ((List.getElem?_append_left hlt).symm.trans hplace)
    · rw [List.getElem?_append_right hge, List.getElem?_singleton] at hplace
      split at hplace
      · exact Or.inr ⟨by omega, (Option.some.inj hplace).symm⟩
      · cases hplace
  -- Whoever was there before has a number below that of the one who is added.
  have hbelow {place : Nat} {node : BrowseNode} (hplace : world.browsers[place]? = some node)
      (hnode : node.Joins queue registry) (hjoins : added.Joins queue registry) :
      node.core.token ≠ added.core.token := by
    have hold := hle node (List.mem_of_getElem? hplace) hnode
    have hless := Int.ofNat_lt.mpr ((hadded hjoins).2 found hfound)
    rw [(hadded hjoins).1]
    exact Int.ne_of_lt (Int.lt_of_le_of_lt hold hless)
  constructor
  · refine ⟨later, hlater, fun node hmem hjoins => ?_⟩
    rw [hbrowsers] at hmem
    rcases List.mem_append.mp hmem with hold | hlast
    · exact Int.le_trans (hle node hold hjoins) (Int.ofNat_le.mpr (hissued found hfound))
    · obtain rfl := List.mem_singleton.mp hlast
      exact Int.le_of_eq (hadded hjoins).1
  · intro place other node twin hplace hother hnode htwin htoken
    rcases hcases place node hplace with hold | ⟨rfl, rfl⟩
    · rcases hcases other twin hother with hold' | ⟨rfl, rfl⟩
      · exact h.distinct place other node twin hold hold' hnode htwin htoken
      · exact absurd htoken (hbelow hold hnode htwin)
    · rcases hcases other twin hother with hold | ⟨rfl, _⟩
      · exact absurd htoken.symm (hbelow hold htwin hnode)
      · rfl

/-- A session that is added gets a number that no session before it had. -/
theorem addBrowse_ages (platform queue registry : Nat) (receiver : Receiver) (world : World) :
    world.Ages (world.addBrowse platform queue registry receiver).2 where
  registries := (attach_ages registry receiver world).registries
  browsers := by
    intro place node h
    obtain ⟨later, hlater, hgoes⟩ := (attach_ages registry receiver world).browsers place node h
    have hlt := (List.getElem?_eq_some_iff.mp hlater).1
    exact ⟨later, (List.getElem?_append_left hlt).trans hlater, hgoes⟩
  numbered := by
    intro known home h
    obtain ⟨found, hfound, _⟩ := h.issued
    obtain ⟨later, hlater, hissued⟩ :=
      (attach_ages registry receiver world).registries home found hfound
    refine h.append (congrArg (· ++ [_]) (attach_browsers registry receiver world)) hlater ?_ ?_
    · rintro other hother
      obtain rfl := Option.some.inj (hfound.symm.trans hother)
      exact hissued
    · rintro ⟨-, hhome⟩
      obtain rfl : registry = home := hhome
      have hattach := attach_eq hfound receiver
      have hlt := (List.getElem?_eq_some_iff.mp hfound).1
      have hcounted : (found.attach receiver).2 = later := by
        rw [hattach] at hlater
        simpa [hlt] using hlater
      rw [← hcounted]
      refine ⟨congrArg Prod.fst hattach, fun other hother => ?_⟩
      obtain rfl := Option.some.inj (hfound.symm.trans hother)
      exact Nat.lt_succ_self _

theorem additive_ages : Additive Ages where
  trans := Ages.trans
  registry := addRegistry_ages
  queue _ _ _ _ := .of_eq rfl rfl
  browse := addBrowse_ages
  publication := addPublication_ages
  facade _ _ := .of_eq rfl rfl
  platform _ _ := .of_eq rfl rfl

theorem Touches.ages {work : Work ι} (touches : Touches world work after) : world.Ages after := by
  cases touches with
  | built added => exact additive_ages.build added
  | registry found makes =>
      refine setRegistry_ages found ?_
      rcases makes with rfl | ⟨fault, effects, hrecover⟩
      · exact ChannelRegistry.issued_le_step _ _
      · exact Nat.le_of_eq (congrArg _ (ChannelRegistry.recover_fst hrecover).symm)
  | browse found makes =>
      refine setBrowse_ages found ?_
      rcases makes with rfl | ⟨fault, effects, hrecover⟩
      · exact BrowseSession.goes_step _ _
      · exact BrowseSession.goes_recover hrecover
  | _ => exact .of_eq rfl rfl

end World

namespace Configuration

variable {surroundings : Surroundings ι σ} {start now after : Configuration ι σ}
  {past : List (Configuration ι σ)}

theorem step_ages (h : now.step surroundings = some after) : now.world.Ages after.world := by
  obtain ⟨work, rest, hagenda, hcases⟩ := step_cases h
  rcases hcases with ⟨tasks, hbecomes, _⟩ | ⟨fault, _, hunwind⟩
  · generalize now.world = world at hbecomes ⊢
    generalize after.world = changed at hbecomes ⊢
    cases hbecomes with
    | called | acted => exact .refl world
    | watched => exact .of_eq rfl rfl
    | ran work => exact (World.touches_of_run work world).ages
  · have hworld : after.world = (now.world.unwind fault rest).1 := congrArg Prod.fst hunwind
    rw [hworld]
    rcases World.unwind_cases fault now.world rest with
      ⟨_, _, _, _, _, _, _, hrecover, heq⟩ | ⟨_, heq⟩
    · rw [heq]
      exact (World.touches_of_recover hrecover).ages
    · rw [heq]
      exact .of_eq rfl rfl

theorem Course.ages (course : Course surroundings start past now) :
    start.world.Ages now.world := by
  induction course with
  | start => exact .refl _
  | step _ step ih => exact ih.trans (step_ages step)

end Configuration

end ServiceDiscovery
