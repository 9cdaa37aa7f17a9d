import ServiceDiscovery.Proofs.BrowseSession.Token
import ServiceDiscovery.Proofs.Facade.Place
import ServiceDiscovery.Proofs.Session.Standing

/-!
A facade and what belongs to it: a registry, a session of either kind, and the tokens under which
these two report to the facade through the registry. The wires between them stay as they are, and
nobody else is ever given one of the tokens. A token leads to whom it led unless it is detached, and
then it leads nowhere for good.
-/

namespace ServiceDiscovery

variable {ι σ : Type}

namespace ChannelRegistry

variable {token other : Token}

/-- Whoever is detached, the other tokens lead where they led. -/
theorem receiver?_detach (hother : other ≠ token) (registry : ChannelRegistry) :
    (registry.detach token).receiver? other = registry.receiver? other := by
  unfold receiver? detach
  rw [List.find?_filter]
  congr 2
  funext channel
  by_cases hsame : channel.1 = other
  · simp [hsame, hother]
  · simp [hsame]

theorem receiver?_detach_self (token : Token) (registry : ChannelRegistry) :
    (registry.detach token).receiver? token = none := by
  simp [receiver?, detach, List.find?_filter]

/-- Whoever is attached, tokens that were given out before lead where they led. -/
theorem receiver?_attach {registry : ChannelRegistry} (hissued : token ≤ registry.issued)
    (receiver : Receiver) :
    (registry.attach receiver).2.receiver? token = registry.receiver? token := by
  have hfresh : (registry.issued : Int) + 1 ≠ token := by
    intro heq
    rw [← heq] at hissued
    have hle : (registry.issued : Int) + 1 ≤ registry.issued := hissued
    omega
  simp [receiver?, attach, List.find?_append, hfresh]

end ChannelRegistry

/-- Where a token of a registry leads. -/
def World.leads? (registry : Nat) (token : Token) (world : World) : Option Receiver :=
  world.registries[registry]?.bind (·.receiver? token)

/-- A facade with its registry, its session of each kind, and the token of each session. -/
structure House where
  index : Nat
  registry : Nat
  member : SessionKind → Nat
  token : SessionKind → Token

namespace House

variable {house : House}

/-- Is the token one of the house? -/
def owns (house : House) (token : Token) : Bool :=
  token = house.token .browse || token = house.token .publication

/-- A registry has given out the tokens of the house. -/
def Known (house : House) (registry : ChannelRegistry) : Prop :=
  ∀ kind, house.token kind ≤ registry.issued

/-- The house is wired up, and no other session reports under its tokens. -/
structure Stands (house : House) (world : World) : Prop where
  facade : ∃ node, world.facades[house.index]? = some node ∧
    node.browser = house.member .browse ∧ node.publisher = house.member .publication
  session : ∀ kind, ∃ s, world.standing? kind (house.member kind) = some s ∧
    s.registry = house.registry ∧ s.token = house.token kind
  registry : ∃ found, world.registries[house.registry]? = some found ∧ house.Known found
  alone : ∀ kind place s, world.standing? kind place = some s → s.registry = house.registry →
    house.owns s.token = true → place = house.member kind

theorem owns_token (house : House) (kind : SessionKind) : house.owns (house.token kind) = true := by
  cases kind <;> simp [owns]

theorem exists_of_owns {token : Token} (h : house.owns token = true) :
    ∃ kind, token = house.token kind := by
  simp only [owns, Bool.or_eq_true, decide_eq_true_eq] at h
  rcases h with h | h
  · exact ⟨.browse, h⟩
  · exact ⟨.publication, h⟩

theorem Known.mono {registry later : ChannelRegistry} (known : house.Known registry)
    (hissued : registry.issued ≤ later.issued) : house.Known later := by
  intro kind
  exact Int.le_trans (known kind) (Int.ofNat_le.mpr hissued)

/-- Whoever is attached next gets a number of his own. -/
theorem Known.fresh {registry : ChannelRegistry} (known : house.Known registry) :
    house.owns ((registry.issued + 1 : Nat) : Int) = false := by
  apply Bool.eq_false_iff.mpr
  intro howns
  obtain ⟨kind, hkind⟩ := exists_of_owns howns
  have hissued := known kind
  rw [← hkind] at hissued
  have hle : registry.issued + 1 ≤ registry.issued := Int.ofNat_le.mp hissued
  omega

/-- Where a list gets longer by one, the one who is new is at the end. -/
theorem getElem?_of_append {α : Type} {members : List α} {added member : α} {place : Nat}
    (h : (members ++ [added])[place]? = some member) :
    members[place]? = some member ∨ place = members.length ∧ member = added := by
  rcases Nat.lt_or_ge place members.length with hlt | hge
  · exact Or.inl ((List.getElem?_append_left hlt).symm.trans h)
  · rw [List.getElem?_append_right hge, List.getElem?_singleton] at h
    split at h
    · exact Or.inr ⟨by omega, (Option.some.inj h).symm⟩
    · cases h

/-- Some registry knows the house, and it gives the next receiver a token of his own. -/
theorem attach_fresh {world : World} (h : ∃ found, world.registries[house.registry]? = some found ∧
      house.Known found) (place : Nat) (receiver : Receiver) :
    (∃ found, (world.attach place receiver).2.registries[house.registry]? = some found ∧
        house.Known found) ∧
      (place = house.registry → house.owns (world.attach place receiver).1 = false) := by
  obtain ⟨found, hfound, known⟩ := h
  obtain ⟨later, hlater, hissued⟩ :=
    (World.attach_ages place receiver world).registries house.registry found hfound
  refine ⟨⟨later, hlater, known.mono hissued⟩, ?_⟩
  rintro rfl
  rw [World.attach_eq hfound]
  exact known.fresh

/-- Whoever is added has no token of the house. -/
theorem additive_back (house : House) :
    World.Additive fun world after =>
      (∃ found, world.registries[house.registry]? = some found ∧ house.Known found) →
        (∃ found, after.registries[house.registry]? = some found ∧ house.Known found) ∧
          ∀ kind place later, after.standing? kind place = some later →
            later.registry = house.registry → house.owns later.token = true →
            world.standing? kind place = some later := by
  constructor
  · intro first second third hfirst hsecond h
    obtain ⟨hmiddle, hback⟩ := hfirst h
    obtain ⟨hafter, hback'⟩ := hsecond hmiddle
    refine ⟨hafter, fun kind place later hlater hregistry howns => ?_⟩
    exact hback kind place later (hback' kind place later hlater hregistry howns) hregistry howns
  · rintro world ⟨found, hfound, known⟩
    have hkept := World.getElem?_of_prefix (List.prefix_append _ [{}]) hfound
    exact ⟨⟨found, hkept, known⟩, fun _ _ _ hlater _ _ => hlater⟩
  · exact fun _ _ _ _ h => ⟨h, fun _ _ _ hlater _ _ => hlater⟩
  · intro platform queue registry receiver world h
    obtain ⟨hknown, hfresh⟩ := attach_fresh h registry receiver
    obtain ⟨registries, hattach⟩ := World.attach_snd registry receiver world
    refine ⟨hknown, fun kind place later hlater hregistry howns => ?_⟩
    cases kind with
    | publication =>
        simp only [World.addBrowse, hattach] at hlater
        exact hlater
    | browse =>
        obtain ⟨node, hnode, rfl⟩ := Option.map_eq_some_iff.mp hlater
        simp only [World.addBrowse, hattach] at hnode
        rcases getElem?_of_append hnode with hold | ⟨-, rfl⟩
        · simp [World.standing?, hold]
        · cases (hfresh hregistry).symm.trans howns
  · intro platform registry receiver world h
    obtain ⟨hknown, hfresh⟩ := attach_fresh h registry receiver
    obtain ⟨registries, hattach⟩ := World.attach_snd registry receiver world
    refine ⟨hknown, fun kind place later hlater hregistry howns => ?_⟩
    cases kind with
    | browse =>
        simp only [World.addPublication, hattach] at hlater
        exact hlater
    | publication =>
        obtain ⟨node, hnode, rfl⟩ := Option.map_eq_some_iff.mp hlater
        simp only [World.addPublication, hattach] at hnode
        rcases getElem?_of_append hnode with hold | ⟨-, rfl⟩
        · simp [World.standing?, hold]
        · cases (hfresh hregistry).symm.trans howns
  · exact fun _ _ h => ⟨h, fun _ _ _ hlater _ _ => hlater⟩
  · exact fun _ _ h => ⟨h, fun _ _ _ hlater _ _ => hlater⟩

/-- A facade keeps its sessions. -/
theorem facade_goes {world after : World} {work : Work ι} {place : Nat} {node : FacadeNode}
    (touches : World.Touches world work after) (found : world.facades[place]? = some node) :
    ∃ later, after.facades[place]? = some later ∧ later.browser = node.browser ∧
      later.publisher = node.publisher := by
  by_cases hown : ∃ task, work = .facade place task
  · obtain ⟨task, rfl⟩ := hown
    cases touches with
    | nothing => exact ⟨node, found, rfl, rfl⟩
    | @facade _ _ member core hmember makes =>
        have hlt : place < world.facades.length := (List.getElem?_eq_some_iff.mp found).1
        obtain rfl := Option.some.inj (found.symm.trans hmember)
        exact ⟨_, List.getElem?_set_self hlt, rfl, rfl⟩
  · exact ⟨node, touches.facade_eq found fun task heq => hown ⟨task, heq⟩, rfl, rfl⟩

/-- A house stands whatever work is done. -/
theorem Stands.touches {world after : World} {work : Work ι} (stands : house.Stands world)
    (touches : World.Touches world work after) : house.Stands after where
  facade := by
    obtain ⟨node, found, hbrowser, hpublisher⟩ := stands.facade
    obtain ⟨later, hlater, hsame, hsame'⟩ := facade_goes touches found
    exact ⟨later, hlater, hsame.trans hbrowser, hsame'.trans hpublisher⟩
  session := by
    intro kind
    obtain ⟨s, found, hregistry, htoken⟩ := stands.session kind
    obtain ⟨later, hlater, hsame, hsame', -⟩ := touches.standing_goes found
    exact ⟨later, hlater, hsame.trans hregistry, hsame'.trans htoken⟩
  registry := by
    obtain ⟨found, hfound, known⟩ := stands.registry
    obtain ⟨later, hlater, hissued⟩ := touches.ages.registries _ found hfound
    exact ⟨later, hlater, known.mono hissued⟩
  alone := by
    intro kind place later hlater hregistry howns
    -- A session with a token of the house was there before: what is built gets new tokens.
    have hbefore : ∃ s, world.standing? kind place = some s := by
      by_cases hbuild : ∃ made, work = .build made
      · obtain ⟨made, rfl⟩ := hbuild
        cases touches with
        | nothing => exact ⟨later, hlater⟩
        | built built =>
            have hback := ((additive_back house).build built stands.registry).2
            exact ⟨later, hback kind place later hlater hregistry howns⟩
      · exact touches.standing_back (fun made heq => hbuild ⟨made, heq⟩) hlater
    obtain ⟨s, found⟩ := hbefore
    obtain ⟨same, hsame, hwire, htoken, -⟩ := touches.standing_goes found
    obtain rfl := Option.some.inj (hsame.symm.trans hlater)
    exact stands.alone kind place s found (hwire.symm.trans hregistry) (htoken ▸ howns)

/-- New members change nothing about where a token leads that was given out before. -/
theorem additive_leads (registry : Nat) (token : Token) :
    World.Additive fun world after =>
      (∃ found, world.registries[registry]? = some found ∧ token ≤ found.issued) →
        (∃ found, after.registries[registry]? = some found ∧ token ≤ found.issued) ∧
          after.leads? registry token = world.leads? registry token := by
  have hattach (place : Nat) (receiver : Receiver) (world : World)
      (h : ∃ found, world.registries[registry]? = some found ∧ token ≤ found.issued) :
      (∃ found, (world.attach place receiver).2.registries[registry]? = some found ∧
          token ≤ found.issued) ∧
        (world.attach place receiver).2.leads? registry token = world.leads? registry token := by
    obtain ⟨found, hfound, hissued⟩ := h
    cases hplace : world.registries[place]? with
    | none =>
        have hnothing : (world.attach place receiver).2 = world := by
          simp only [World.attach, hplace]
        rw [hnothing]
        exact ⟨⟨found, hfound, hissued⟩, rfl⟩
    | some other =>
        have hlt := (List.getElem?_eq_some_iff.mp hplace).1
        rw [World.attach_eq hplace]
        by_cases hsame : place = registry
        · subst hsame
          obtain rfl := Option.some.inj (hplace.symm.trans hfound)
          have hset : (world.registries.set place (other.attach receiver).2)[place]? =
              some (other.attach receiver).2 := List.getElem?_set_self hlt
          refine ⟨⟨_, hset, Int.le_trans hissued (Int.ofNat_le.mpr (Nat.le_succ _))⟩, ?_⟩
          rw [World.leads?, World.leads?, hset, hplace]
          exact ChannelRegistry.receiver?_attach hissued receiver
        · have hset : (world.registries.set place (other.attach receiver).2)[registry]? =
              some found := (List.getElem?_set_ne hsame).trans hfound
          refine ⟨⟨found, hset, hissued⟩, ?_⟩
          rw [World.leads?, World.leads?, hset, hfound]
  constructor
  · intro _ _ _ first second h
    obtain ⟨hmiddle, hsame⟩ := first h
    obtain ⟨hafter, hsame'⟩ := second hmiddle
    exact ⟨hafter, hsame'.trans hsame⟩
  · rintro world ⟨found, hfound, hissued⟩
    have hkept : world.addRegistry.2.registries[registry]? = some found :=
      World.getElem?_of_prefix (List.prefix_append _ _) hfound
    refine ⟨⟨found, hkept, hissued⟩, ?_⟩
    rw [World.leads?, World.leads?, hkept, hfound]
  · exact fun _ _ _ _ h => ⟨h, rfl⟩
  · exact fun _ _ place receiver world h => hattach place receiver world h
  · exact fun _ place receiver world h => hattach place receiver world h
  · exact fun _ _ h => ⟨h, rfl⟩
  · exact fun _ _ h => ⟨h, rfl⟩

/-- A token of the house leads to whom it led, unless it is detached. -/
theorem Stands.leads_eq {world after : World} {work : Work ι} {kind : SessionKind}
    (stands : house.Stands world) (touches : World.Touches world work after)
    (hdetach : work ≠ .registry house.registry (.call (.detach (house.token kind)))) :
    after.leads? house.registry (house.token kind) =
      world.leads? house.registry (house.token kind) := by
  cases touches with
  | built built =>
      obtain ⟨found, hfound, known⟩ := stands.registry
      exact ((additive_leads _ _).build built ⟨found, hfound, known kind⟩).2
  | @registry place task registry changed found makes =>
      by_cases hplace : place = house.registry
      · subst hplace
        have hlt := (List.getElem?_eq_some_iff.mp found).1
        have hsame : changed.receiver? (house.token kind) =
            registry.receiver? (house.token kind) := by
          rcases makes with rfl | ⟨fault, effects, hrecover⟩
          · cases task with
            | delivering token event => rfl
            | call operation =>
                cases operation with
                | attach receiver =>
                    obtain ⟨home, hhome, known⟩ := stands.registry
                    obtain rfl := Option.some.inj (hhome.symm.trans found)
                    exact ChannelRegistry.receiver?_attach (known kind) receiver
                | isAttached token => rfl
                | deliver token event =>
                    simp only [ChannelRegistry.step]
                    split <;> rfl
                | detach token =>
                    apply ChannelRegistry.receiver?_detach
                    rintro rfl
                    exact hdetach rfl
          · rw [ChannelRegistry.recover_fst hrecover]
        rw [World.leads?, World.leads?, List.getElem?_set_self hlt, found]
        exact hsame
      · rw [World.leads?, World.leads?, List.getElem?_set_ne hplace]
  | _ => rfl

end House

namespace Configuration

variable {surroundings : Surroundings ι σ} {now after : Configuration ι σ} {house : House}

theorem step_stands (stands : house.Stands now.world) (h : now.step surroundings = some after) :
    house.Stands after.world := by
  obtain ⟨work, htouches, -⟩ := step_touches h
  exact stands.touches htouches

/-- Nobody but a task in front detaches a token. -/
theorem step_leads {kind : SessionKind} (stands : house.Stands now.world)
    (h : now.step surroundings = some after)
    (hdetach : ∀ rest, now.agenda ≠
      .registry house.registry (.call (.detach (house.token kind))) :: rest) :
    after.world.leads? house.registry (house.token kind) =
      now.world.leads? house.registry (house.token kind) := by
  obtain ⟨work, htouches, hwork⟩ := step_touches h
  apply stands.leads_eq htouches
  rintro rfl
  rcases hwork with ⟨rest, hagenda⟩ | ⟨fault, rest, tasks, kept, -, -, hrecover, -⟩
  · exact hdetach rest hagenda
  · cases (World.recover_operation (.registry _ _) _ _).symm.trans hrecover

end Configuration

end ServiceDiscovery
