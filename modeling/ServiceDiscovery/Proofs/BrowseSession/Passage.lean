import ServiceDiscovery.Proofs.Facade.Place
import ServiceDiscovery.Proofs.Mdns.Browse
import ServiceDiscovery.Proofs.ResolveQueue.Part

/-!
What passes between a browse session and the platform that it asks to browse. Only the session asks
to browse in its name, only platforms tell it of the end of a browse, and a session changes from
inactive to active and back by these two only.
-/

namespace ServiceDiscovery

open Mdns Mdns.Platform

variable {ι : Type}

/-- Does work stir the accord between the session at a place and the platform at another? That is a
request to browse on its way there, the task that waits while the platform is asked, and a notice of
the end of a browse on its way back. -/
def Work.stirs (index place : Nat) : Work ι → Bool
  | .request other (.discover _) (.member asker)
  | .platform other (.call (.request (.discover _) (.member asker))) =>
      other = place && asker = index
  | .browse other (.starting _) => other = index
  | .notify (.member other) (.browse notice) | .browse other (.call (.notice notice)) =>
      other = index && notice.ends
  | _ => false

namespace Facade

/-- A facade starts, stops and closes its session, and tells it nothing. -/
theorem passes_no_notice {task : Task} {facade : Facade} (notice : BrowseNotice) :
    ¬ Yields step recover task facade (.browse (.notice notice)) := by
  rintro (hstep | ⟨fault, after, hrecover, hmem⟩)
  · cases task with
    | telling kind argument number =>
        obtain ⟨-, heq | heq | heq⟩ := mem_tell hstep <;> cases heq
    | calling kind => cases hstep
    | closing => simp [step, log] at hstep
    | call operation =>
        cases operation with
        | publish event => cases receive_telling event facade _ hstep
        | _ => simp [step, call] at hstep
  · obtain ⟨-, -, record, heffects⟩ := recover_eq_some hrecover
    rw [heffects] at hmem
    cases List.mem_singleton.mp hmem

end Facade

section

variable {index place : Nat} {world : World} {source brought : Work ι}

theorem Work.stirs_of_request {node : Nat} {request : Request} {listener : Listener}
    (h : ∀ type, request = .discover type → listener ≠ .member index) :
    (Work.request (ι := ι) node request listener).stirs index place = false := by
  cases request with
  | discover type =>
      cases listener with
      | outside label => rfl
      | member asker =>
          have hasker : asker ≠ index := fun heq => h type rfl (by rw [heq])
          simp [stirs, hasker]
  | _ => rfl

/-- Whatever another session does, the accord of this one is not stirred. -/
theorem Work.stirs_of_browse {other : Nat} (hother : other ≠ index)
    (effect : BrowseSession.Effect) (node : BrowseNode) :
    (effect.work (ι := ι) other node).stirs index place = false := by
  cases effect with
  | own task =>
      cases task with
      | call operation => cases operation <;> simp [BrowseSession.Effect.work, stirs, hother]
      | _ => simp [BrowseSession.Effect.work, stirs, hother]
  | request asked => exact stirs_of_request fun _ _ heq => hother (Listener.member.inj heq)
  | _ => rfl

theorem Work.stirs_of_effects {other : Nat} {effects : List Effect}
    (uncalled : other = place → ∀ operation, .own (.call operation) ∉ effects)
    (untold : Untold (.member index) effects) :
    ∀ work ∈ effects.map (·.work (ι := ι) other), work.stirs index place = false := by
  intro work hmem
  obtain ⟨effect, heffect, rfl⟩ := List.mem_map.mp hmem
  cases effect with
  | own task =>
      cases task with
      | call operation =>
          have hother : other ≠ place := fun heq => uncalled heq operation heffect
          cases operation with
          | request request listener =>
              cases request with
              | discover type => cases listener <;> simp [Effect.work, stirs, hother]
              | _ => rfl
          | _ => rfl
      | _ => rfl
  | notify listener notice =>
      cases notice with
      | browse notice =>
          cases listener with
          | outside label => rfl
          | member session =>
              cases hends : notice.ends with
              | false => simp [Effect.work, stirs, hends]
              | true =>
                  have hsession : session ≠ index := by
                    rintro rfl
                    exact untold notice hends heffect
                  simp [Effect.work, stirs, hsession]
      | _ => cases listener <;> rfl
  | _ => rfl

/-- The accord is stirred by the session and the platform only, as long as no other platform tells
the session of an end. -/
theorem Brings.not_stirs (h : Brings world source brought)
    (off : source.stirs index place = false) (hsession : ∀ task, source ≠ .browse index task)
    (hplatform : ∀ task, source ≠ .platform place task)
    (silent : ∀ other task core, source = .platform other task →
      world.platforms[other]? = some (.mdns core) →
      Untold (.member index) (Platform.step task core).2) :
    brought.stirs index place = false := by
  cases h with
  | @registry other task registry effect found yields =>
      cases effect with
      | publish receiver event => cases receiver <;> rfl
      | _ => rfl
  | @queue other task node effect found yields => cases effect <;> rfl
  | @browse other task node effect found yields =>
      exact Work.stirs_of_browse (fun heq => hsession task (by rw [heq])) effect node
  | @publication other task node effect found yields =>
      cases effect with
      | request asked =>
          refine Work.stirs_of_request ?_
          rintro type rfl
          have hasked := PublicationSession.asked_of_yields yields
          simp at hasked
      | _ => rfl
  | @facade other task node effect found yields =>
      cases effect with
      | browse operation =>
          cases operation with
          | notice notice => exact absurd yields (Facade.passes_no_notice notice)
          | _ => rfl
      | _ => rfl
  | @platform other task core effect found yields =>
      have hother : other ≠ place := fun heq => hplatform task (by rw [heq])
      rcases yields with hstep | ⟨fault, after, hrecover, hmem⟩
      · exact Work.stirs_of_effects (fun heq => absurd heq hother)
          (silent other task core rfl found) _ (List.mem_map_of_mem hstep)
      · cases task with
        | turning =>
            cases hrecover
            cases hmem
        | _ => cases hrecover
  | routed platform request listener =>
      simp only [World.route]
      split
      · cases request with
        | discover type => cases listener <;> exact off
        | _ => rfl
      · rfl
  | notified listener notice =>
      cases listener with
      | outside label => rfl
      | member session => cases notice <;> exact off
  | _ => rfl

end

namespace BrowseSession

variable {index place : Nat}

/-- A turn that no stirring work brings about either asks to browse, and the session is active from
then on, or leaves the session as active as it was. -/
theorem turn_stirs {task : Task}
    (off : (Work.browse (ι := ι) index task).stirs index place = false) (session : BrowseSession)
    (node : BrowseNode) :
    (∃ type, session.active = false ∧ (step task session).1.active = true ∧
        (step task session).2 = [.request (.discover type), .own (.starting type)]) ∨
      (step task session).1.active = session.active ∧
        ∀ work ∈ (step task session).2.map (·.work (ι := ι) index node),
          work.stirs index place = false := by
  cases task with
  | starting type => simp [Work.stirs] at off
  | closing => exact Or.inr ⟨rfl, by simp [step, Effect.work, Work.stirs]⟩
  | call operation =>
      cases operation with
      | start type =>
          simp only [step, call, start]
          split
          · exact Or.inr ⟨rfl, by simp [Effect.work, Work.stirs]⟩
          · split
            · exact Or.inr ⟨rfl, by simp [log, report, Effect.work, Work.stirs]⟩
            · exact Or.inl ⟨_, Bool.eq_false_iff.mpr ‹_›, rfl, rfl⟩
      | stop =>
          refine Or.inr ⟨rfl, ?_⟩
          simp only [step, call, stop]
          split <;> simp [report, Effect.work, Work.stirs]
      | close =>
          simp only [step, call, close]
          split
          · exact Or.inr ⟨rfl, by simp⟩
          · refine Or.inr ⟨rfl, ?_⟩
            split <;> simp [Effect.work, Work.stirs]
      | notice notice =>
          cases notice with
          | started type =>
              exact Or.inr ⟨rfl, by simp [step, call, hear, report, Effect.work, Work.stirs]⟩
          | found ref =>
              refine Or.inr ⟨rfl, ?_⟩
              simp only [step, call, hear]
              split <;> simp [log, Effect.work, Work.stirs]
          | lost ref =>
              exact Or.inr ⟨rfl, by simp [step, call, hear, log, Effect.work, Work.stirs]⟩
          | _ => simp [Work.stirs, BrowseNotice.ends] at off

/-- Whatever ends a browse leaves the session inactive. -/
theorem hear_ends {notice : BrowseNotice} (ends : notice.ends) (session : BrowseSession)
    (node : BrowseNode) :
    (hear notice session).1.active = false ∧
      ∀ work ∈ (hear notice session).2.map (·.work (ι := ι) index node),
        work.stirs index place = false := by
  cases notice with
  | stopped | startFailed | stopFailed =>
      exact ⟨rfl, by simp [hear, failed, log, report, Effect.work, Work.stirs]⟩
  | _ => cases ends

theorem startRefused_stirs (type : Text.Points) (fault : Fault) (session : BrowseSession)
    (node : BrowseNode) :
    (session.startRefused type fault).1.active = false ∧
      ∀ work ∈ (session.startRefused type fault).2.map (·.work (ι := ι) index node),
        work.stirs index place = false := by
  unfold startRefused
  split
  · exact ⟨rfl, by simp [log, report, Effect.work, Work.stirs]⟩
  · exact ⟨rfl, by simp [Effect.work, Work.stirs]⟩

end BrowseSession

end ServiceDiscovery
