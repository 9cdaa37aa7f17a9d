import ServiceDiscovery.Proofs.BrowseSession.Token
import ServiceDiscovery.Proofs.Mdns.Place

/-!
A browse session in a running world. It changes by tasks of its own only: the one in front, or the
one that waits while the platform is asked, if a fault reaches it.
-/

namespace ServiceDiscovery

variable {ι σ : Type}

namespace World

variable {world after : World} {place : Nat}

/-- A session recovers from a fault while it asks the platform to browse, and at no other time. -/
theorem recover_browse {fault : Fault} {task : BrowseSession.Task} {tasks : List (Work ι)}
    (h : recover fault (.browse place task) world = some (after, tasks)) :
    ∃ type, task = .starting type := by
  simp only [recover] at h
  obtain ⟨_, _, _, _, hnode, _, _⟩ := recoverWith_eq_some h
  obtain ⟨_, hstarting, _⟩ := Option.map_eq_some_iff.mp hnode
  cases task with
  | starting type => exact ⟨type, rfl⟩
  | _ => cases hstarting

end World

namespace Configuration

variable {surroundings : Surroundings ι σ} {now after : Configuration ι σ} {place : Nat}
  {node : BrowseNode} {rest : List (Work ι)}

theorem step_browse {task : BrowseSession.Task} (found : now.world.browsers[place]? = some node)
    (hagenda : now.agenda = .browse place task :: rest) :
    now.step surroundings = some { now with
      world := { now.world with
        browsers := now.world.browsers.set place
          { node with core := (BrowseSession.step task node.core).1 } }
      agenda := (BrowseSession.step task node.core).2.map (·.work place node) ++ rest } := by
  obtain ⟨world, around, agenda⟩ := now
  obtain rfl : agenda = _ := hagenda
  change world.browsers[place]? = _ at found
  simp only [step, World.run, World.runBrowse, found]

/-- A fault that comes up right in front of the task that waits for the platform reaches it. -/
theorem step_startRefused {type : Text.Points} {fault : Fault}
    (found : now.world.browsers[place]? = some node)
    (hagenda : now.agenda = .raise fault :: .browse place (.starting type) :: rest) :
    now.step surroundings = some { now with
      world := { now.world with
        browsers := now.world.browsers.set place
          { node with core := (node.core.startRefused type fault).1 } }
      agenda := (node.core.startRefused type fault).2.map (·.work place node) ++ rest } := by
  obtain ⟨world, around, agenda⟩ := now
  obtain rfl : agenda = _ := hagenda
  change world.browsers[place]? = _ at found
  simp only [step, World.unwind, World.recover, World.recoverWith, found]
  rfl

/-- A session stays as it is in a step that does no task of it, as long as none waits that could
recover from a fault. -/
theorem step_spares_browse (h : now.step surroundings = some after)
    (found : now.world.browsers[place]? = some node)
    (hforeign : ∀ task rest, now.agenda ≠ .browse place task :: rest)
    (hwaiting : ∀ fault rest type, now.agenda = .raise fault :: rest →
      .browse place (.starting type) ∉ rest) :
    after.world.browsers[place]? = some node := by
  obtain ⟨work, htouches, hwork⟩ := step_touches h
  refine htouches.browse_eq found ?_
  rintro task rfl
  rcases hwork with ⟨rest, hagenda⟩ | ⟨fault, rest, tasks, kept, hagenda, hmem, hrecover, -⟩
  · exact hforeign task rest hagenda
  · obtain ⟨type, rfl⟩ := World.recover_browse hrecover
    exact hwaiting fault rest type hagenda hmem

end Configuration

end ServiceDiscovery
