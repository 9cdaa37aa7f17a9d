import Mathlib.Computability.Language
import ServiceDiscovery.Proofs.Lookup
import ServiceDiscovery.Facade

/-!
What callbacks hear of a facade's cache, in the order in which they hear it. A chronicle is a list
of changes each of which makes sense to somebody who knows the changes before it and nothing else: a
service that is added was not there, one that is updated was, and one that is removed is the one
that was there. Such a list tells the life of each service, again and again from its addition to its
removal.
-/

namespace ServiceDiscovery

open scoped Computability

/-- A change of the cache as a callback hears of it. -/
structure Change where
  kind : CallbackKind
  service : ResolvedService
  deriving DecidableEq, Repr

namespace Change

variable {change : Change} {known : Text.Points → Option ResolvedService} {name : Text.Points}

/-- The services known after a change, by name. -/
def apply (change : Change) (known : Text.Points → Option ResolvedService) :
    Text.Points → Option ResolvedService :=
  Function.update known change.service.name
    (if change.kind = .removed then none else some change.service)

/-- Does the change make sense to somebody who knows these services? -/
def Follows (known : Text.Points → Option ResolvedService) (change : Change) : Prop :=
  match change.kind with
  | .added => known change.service.name = none
  | .updated => known change.service.name ≠ none
  | .removed => known change.service.name = some change.service
  | .published | .renamed | .error => False

theorem apply_self : change.apply known change.service.name =
    if change.kind = .removed then none else some change.service := by
  simp [apply]

theorem apply_other (h : name ≠ change.service.name) : change.apply known name = known name := by
  simp [apply, h]

end Change

/-- The services that somebody knows who hears the changes and nothing else. -/
def replay (log : List Change) : Text.Points → Option ResolvedService :=
  log.foldl (fun known change => change.apply known) fun _ => none

/-- What became of the service of a name, in order. -/
def told (name : Text.Points) (log : List Change) : List CallbackKind :=
  (log.filter (·.service.name = name)).map (·.kind)

/-- The service of a name as it was when it was added or updated last. -/
def latest (name : Text.Points) (log : List Change) : Option ResolvedService :=
  ((log.filter fun change => change.service.name = name ∧ change.kind ≠ .removed).getLast?).map
    (·.service)

/-- The lives of a service: it is added, then updated any number of times, then removed, and all of
this again any number of times. -/
def lives : Language CallbackKind :=
  ({[.added]} * {[.updated]}∗ * {[.removed]})∗

/-- The lives of a service that is there: the last one goes on. -/
def living : Language CallbackKind :=
  lives * ({[.added]} * {[.updated]}∗)

section

variable {log earlier later : List Change} {change : Change} {service : ResolvedService}
  {name : Text.Points} {word : List CallbackKind}

theorem replay_append (log : List Change) (change : Change) :
    replay (log ++ [change]) = change.apply (replay log) := by
  simp [replay]

theorem told_append_self (log : List Change) (change : Change) :
    told change.service.name (log ++ [change]) = told change.service.name log ++ [change.kind] := by
  simp [told]

theorem told_append_other (h : change.service.name ≠ name) :
    told name (log ++ [change]) = told name log := by
  simp [told, h]

theorem latest_append_set (h : change.kind ≠ .removed) :
    latest change.service.name (log ++ [change]) = some change.service := by
  simp [latest, h]

theorem latest_append_other (h : change.service.name ≠ name) :
    latest name (log ++ [change]) = latest name log := by
  simp [latest, h]

theorem append_mem_kstar {α : Type} {language : Language α} {first last : List α}
    (hfirst : first ∈ language∗) (hlast : last ∈ language) : first ++ last ∈ language∗ := by
  have hmem : first ++ last ∈ language∗ * language := Language.append_mem_mul hfirst hlast
  have hle : language∗ * language ≤ language∗ := kstar_mul_le_kstar
  exact hle hmem

theorem living_of_added (h : word ∈ lives) : word ++ [.added] ∈ living := by
  apply Language.append_mem_mul h
  have hnone : ([] : List CallbackKind) ∈ ({[.updated]} : Language CallbackKind)∗ :=
    Language.nil_mem_kstar _
  exact Language.append_mem_mul (Set.mem_singleton [CallbackKind.added]) hnone

theorem living_of_updated (h : word ∈ living) : word ++ [.updated] ∈ living := by
  obtain ⟨whole, hwhole, part, hpart, rfl⟩ := Language.mem_mul.mp h
  obtain ⟨added, hadded, updated, hupdated, rfl⟩ := Language.mem_mul.mp hpart
  have honce : updated ++ [.updated] ∈ ({[.updated]} : Language CallbackKind)∗ :=
    append_mem_kstar hupdated (Set.mem_singleton _)
  have hmem : whole ++ (added ++ (updated ++ [.updated])) ∈ living :=
    Language.append_mem_mul hwhole (Language.append_mem_mul hadded honce)
  simpa only [List.append_assoc] using hmem

theorem lives_of_removed (h : word ∈ living) : word ++ [.removed] ∈ lives := by
  obtain ⟨whole, hwhole, part, hpart, rfl⟩ := Language.mem_mul.mp h
  have hlife : part ++ [.removed] ∈
      ({[.added]} * {[.updated]}∗ * {[.removed]} : Language CallbackKind) :=
    Language.append_mem_mul hpart (Set.mem_singleton _)
  rw [List.append_assoc]
  exact append_mem_kstar hwhole hlife

/-- Whoever lives can be told to be removed, so what was told of him is the beginning of lives. -/
theorem prefix_of_living (h : word ∈ living) : ∃ more, word ++ more ∈ lives :=
  ⟨[.removed], lives_of_removed h⟩

/-- A list of changes each of which makes sense to somebody who knows those before it. -/
inductive Chronicle : List Change → Prop where
  | nil : Chronicle []
  | snoc {log : List Change} {change : Change} (chronicle : Chronicle log)
      (follows : change.Follows (replay log)) : Chronicle (log ++ [change])

namespace Chronicle

theorem of_prefix (h : Chronicle log) (hstart : earlier <+: log) : Chronicle earlier := by
  induction h with
  | nil =>
      obtain rfl := List.prefix_nil.mp hstart
      exact .nil
  | snoc chronicle follows ih =>
      rcases List.prefix_concat_iff.mp hstart with rfl | hshorter
      · exact .snoc chronicle follows
      · exact ih hshorter

theorem follows_last (h : Chronicle (log ++ [change])) : change.Follows (replay log) := by
  generalize hwhole : log ++ [change] = whole at h
  cases h with
  | nil => simp at hwhole
  | snoc chronicle follows =>
      obtain ⟨rfl, hlast⟩ := List.append_inj' hwhole rfl
      obtain rfl := List.singleton_inj.mp hlast
      exact follows

/-- Services are known by their own names. -/
theorem name_of_replay (h : Chronicle log) (hknown : replay log name = some service) :
    service.name = name := by
  induction h with
  | nil => cases hknown
  | @snoc log change chronicle follows ih =>
      rw [replay_append] at hknown
      by_cases hname : name = change.service.name
      · subst hname
        rw [Change.apply_self] at hknown
        split at hknown
        · cases hknown
        · rw [Option.some.inj hknown]
      · rw [Change.apply_other hname] at hknown
        exact ih hknown

/-- What was told of a service that is not known is over, and what was told of one that is known
goes on. -/
theorem told_mem (h : Chronicle log) (name : Text.Points) :
    (replay log name = none → told name log ∈ lives) ∧
      (replay log name ≠ none → told name log ∈ living) := by
  induction h with
  | nil =>
      constructor
      · intro _
        exact Language.nil_mem_kstar _
      · intro hknown
        exact absurd rfl hknown
  | @snoc log change chronicle follows ih =>
      by_cases hname : change.service.name = name
      · subst hname
        obtain ⟨hover, hgoing⟩ := ih
        rw [replay_append, Change.apply_self, told_append_self]
        unfold Change.Follows at follows
        cases hkind : change.kind with
        | added =>
            rw [hkind] at follows
            simpa using living_of_added (hover follows)
        | updated =>
            rw [hkind] at follows
            simpa using living_of_updated (hgoing follows)
        | removed =>
            rw [hkind] at follows
            have hknown : replay log change.service.name ≠ none := by simp [follows]
            simpa using lives_of_removed (hgoing hknown)
        | published | renamed | error =>
            rw [hkind] at follows
            exact absurd follows id
      · rw [replay_append, Change.apply_other (Ne.symm hname), told_append_other hname]
        exact ih

/-- What was told of a service is the beginning of lives. -/
theorem prefix_of_lives (h : Chronicle log) (name : Text.Points) :
    ∃ more, told name log ++ more ∈ lives := by
  obtain ⟨hover, hgoing⟩ := h.told_mem name
  by_cases hknown : replay log name = none
  · exact ⟨[], by simpa using hover hknown⟩
  · exact prefix_of_living (hgoing hknown)

/-- A service is known as it was when it was added or updated last. -/
theorem latest_of_replay (h : Chronicle log) (hknown : replay log name = some service) :
    latest name log = some service := by
  induction h with
  | nil => cases hknown
  | @snoc log change chronicle follows ih =>
      rw [replay_append] at hknown
      by_cases hname : change.service.name = name
      · subst hname
        rw [Change.apply_self] at hknown
        split at hknown
        · cases hknown
        · rw [latest_append_set ‹_›]
          exact hknown
      · rw [Change.apply_other (Ne.symm hname)] at hknown
        rw [latest_append_other hname]
        exact ih hknown

/-- A service is removed as it was when it was added or updated last. -/
theorem latest_of_removed (h : Chronicle (earlier ++ ⟨.removed, service⟩ :: later)) :
    latest service.name earlier = some service := by
  have hstart : earlier ++ [⟨.removed, service⟩] <+: earlier ++ ⟨.removed, service⟩ :: later := by
    rw [List.append_cons earlier _ later]
    exact List.prefix_append _ _
  have hbefore : Chronicle earlier := h.of_prefix (List.prefix_append _ _)
  have hfollows := (h.of_prefix hstart).follows_last
  exact hbefore.latest_of_replay hfollows

end Chronicle

end

end ServiceDiscovery
