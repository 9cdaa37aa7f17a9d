import ServiceDiscovery.Proofs.Machine.Course

/-!
Members stay in their places. Sessions, facades and platforms are only ever added at the end, and
each of them changes by tasks of its own: the one in front, or the one that recovers from the fault
in front.
-/

namespace ServiceDiscovery

variable {ι σ : Type}

namespace World

variable {world middle after : World} {work : Work ι} {place : Nat}

/-- One world comes from another by adding members, each at the end. -/
structure Extends (world after : World) : Prop where
  browsers : world.browsers <+: after.browsers
  publications : world.publications <+: after.publications
  facades : world.facades <+: after.facades
  platforms : world.platforms <+: after.platforms

theorem Extends.refl (world : World) : world.Extends world :=
  ⟨List.prefix_refl _, List.prefix_refl _, List.prefix_refl _, List.prefix_refl _⟩

theorem Extends.trans (first : world.Extends middle) (second : middle.Extends after) :
    world.Extends after :=
  ⟨first.browsers.trans second.browsers, first.publications.trans second.publications,
    first.facades.trans second.facades, first.platforms.trans second.platforms⟩

/-- Whoever is given a token changes registries only. -/
theorem attach_snd (registry : Nat) (receiver : Receiver) (world : World) :
    ∃ registries, (world.attach registry receiver).2 = { world with registries } := by
  unfold attach
  split
  · exact ⟨world.registries, rfl⟩
  · exact ⟨_, rfl⟩

theorem additive_extends : Additive Extends where
  trans := Extends.trans
  registry world := { Extends.refl world with }
  queue _ _ _ world := { Extends.refl world with }
  browse _ _ registry receiver world := by
    obtain ⟨registries, hattach⟩ := attach_snd registry receiver world
    simp only [addBrowse, hattach]
    exact { Extends.refl world with browsers := List.prefix_append _ _ }
  publication _ registry receiver world := by
    obtain ⟨registries, hattach⟩ := attach_snd registry receiver world
    simp only [addPublication, hattach]
    exact { Extends.refl world with publications := List.prefix_append _ _ }
  facade world node := { Extends.refl world with facades := List.prefix_append _ [node] }
  platform world node := { Extends.refl world with platforms := List.prefix_append _ [node] }

/-- Whoever is at a place of a list is there in every longer one. -/
theorem getElem?_of_prefix {α : Type} {members later : List α} {member : α}
    (h : members <+: later) (found : members[place]? = some member) :
    later[place]? = some member := by
  obtain ⟨added, rfl⟩ := h
  rw [List.getElem?_append_left (List.getElem?_eq_some_iff.mp found).1]
  exact found

/-- A member that takes its own place changes nothing. -/
theorem set_of_getElem? {α : Type} {members : List α} {place : Nat} {member : α}
    (found : members[place]? = some member) : members.set place member = members := by
  obtain ⟨hlt, rfl⟩ := List.getElem?_eq_some_iff.mp found
  exact List.set_getElem_self hlt

/-- A browse session stays as it is unless a task is its own. -/
theorem Touches.browse_eq {node : BrowseNode} (touches : Touches world work after)
    (found : world.browsers[place]? = some node)
    (hforeign : ∀ task, work ≠ .browse place task) : after.browsers[place]? = some node := by
  cases touches with
  | built built => exact getElem?_of_prefix (additive_extends.build built).browsers found
  | @browse index task other core =>
      have hother : index ≠ place := fun h => hforeign task (h ▸ rfl)
      exact (List.getElem?_set_ne hother).trans found
  | _ => exact found

/-- A publication session stays as it is unless a task is its own. -/
theorem Touches.publication_eq {node : PublicationNode} (touches : Touches world work after)
    (found : world.publications[place]? = some node)
    (hforeign : ∀ task, work ≠ .publication place task) :
    after.publications[place]? = some node := by
  cases touches with
  | built built => exact getElem?_of_prefix (additive_extends.build built).publications found
  | @publication index task other core =>
      have hother : index ≠ place := fun h => hforeign task (h ▸ rfl)
      exact (List.getElem?_set_ne hother).trans found
  | _ => exact found

/-- A facade stays as it is unless a task is its own. -/
theorem Touches.facade_eq {node : FacadeNode} (touches : Touches world work after)
    (found : world.facades[place]? = some node)
    (hforeign : ∀ task, work ≠ .facade place task) : after.facades[place]? = some node := by
  cases touches with
  | built built => exact getElem?_of_prefix (additive_extends.build built).facades found
  | @facade index task other core =>
      have hother : index ≠ place := fun h => hforeign task (h ▸ rfl)
      exact (List.getElem?_set_ne hother).trans found
  | _ => exact found

/-- A platform stays as it is unless a task is its own. -/
theorem Touches.platform_eq {node : PlatformNode} (touches : Touches world work after)
    (found : world.platforms[place]? = some node)
    (hforeign : ∀ task, work ≠ .platform place task) : after.platforms[place]? = some node := by
  cases touches with
  | built built => exact getElem?_of_prefix (additive_extends.build built).platforms found
  | @platform index task core changed =>
      have hother : index ≠ place := fun h => hforeign task (h ▸ rfl)
      exact (List.getElem?_set_ne hother).trans found
  | _ => exact found

end World

namespace Configuration

variable {surroundings : Surroundings ι σ} {now after : Configuration ι σ}

theorem Becomes.touches {world changed : World} {work : Work ι} {tasks : List (Work ι)}
    (becomes : Becomes surroundings world work changed tasks) :
    World.Touches world work changed := by
  cases becomes with
  | called | acted | watched => exact .nothing ..
  | ran work => exact World.touches_of_run work world

/-- Whatever a step does to the world is the doing of the task in front, or of the task that
recovers from the fault in front. -/
theorem step_touches (h : now.step surroundings = some after) :
    ∃ work, World.Touches now.world work after.world ∧
      ((∃ rest, now.agenda = work :: rest) ∨
        ∃ fault rest tasks kept, now.agenda = .raise fault :: rest ∧ work ∈ rest ∧
          World.recover fault work now.world = some (after.world, tasks) ∧
          after.agenda = tasks ++ kept) := by
  obtain ⟨work, rest, hagenda, hcases⟩ := step_cases h
  rcases hcases with ⟨tasks, hbecomes, -⟩ | ⟨fault, rfl, hunwind⟩
  · exact ⟨work, hbecomes.touches, Or.inl ⟨rest, hagenda⟩⟩
  · obtain ⟨hworld, htasks⟩ := Prod.mk.inj hunwind
    rcases World.unwind_cases fault now.world rest with
      ⟨dropped, task, kept, changed, tasks, rfl, -, hrecover, heq⟩ | ⟨-, heq⟩
    · rw [heq] at hworld htasks
      refine ⟨task, hworld ▸ World.touches_of_recover hrecover, Or.inr ?_⟩
      exact ⟨fault, _, tasks, kept, hagenda, by simp, hworld ▸ hrecover, htasks⟩
    · rw [heq] at hworld
      exact ⟨_, hworld ▸ .nothing .., Or.inl ⟨rest, hagenda⟩⟩

end Configuration

end ServiceDiscovery
