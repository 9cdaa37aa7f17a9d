import ServiceDiscovery.Proofs.Mdns.Docket

/-!
The browse of one listener, as the platform sees it. What is in line comes up in its order, so stops
that were asked for after a start come up after it. A stop takes the browser out at once, and only
then waits for the network.
-/

namespace ServiceDiscovery

open Mdns Mdns.Platform

namespace Mdns

/-- Is a matter about the browse of a listener? -/
def Matter.browses (listener : Listener) : Matter → Bool
  | .browse owner | .stop owner => owner = listener
  | _ => false

def Affair.browses (listener : Listener) (affair : Affair) : Bool :=
  affair.matter.browses listener

/-- What a listener that is active or not has to do with a platform that has a browser open for it
or not, with starts and stops of the listener in line, and others that the network was asked about.
-/
inductive Accord (listener : Listener) : Bool → Bool → List Matter → List Affair → Prop where
  /-- The browse will be opened before anything stops it. -/
  | starting {stops : List Matter} (behind : ∀ matter ∈ stops, matter = .stop listener) :
      Accord listener true false (.browse listener :: stops) []
  | started {active opened : Bool} {line : List Matter} {away : List Affair}
      (inLine : ∀ matter ∈ line, matter = .stop listener)
      (asked : ∀ affair ∈ away, affair.matter = .stop listener)
      (kept : opened = true → active = true ∧ away = [])
      (agreed : line = [] → away = [] → opened = active) :
      Accord listener active opened line away

section

variable {listener : Listener} {active opened : Bool} {line : List Matter}
  {away others : List Affair}

theorem Accord.perm (h : Accord listener active opened line away) (same : away.Perm others) :
    Accord listener active opened line others := by
  cases h with
  | starting behind =>
      obtain rfl := same.symm.eq_nil
      exact .starting behind
  | started inLine asked kept agreed =>
      refine .started inLine (fun affair hmem => asked affair (same.mem_iff.mpr hmem))
        (fun hopened => ?_) fun hline haway => ?_
      · obtain ⟨hactive, rfl⟩ := kept hopened
        exact ⟨hactive, same.symm.eq_nil⟩
      · subst haway
        exact agreed hline same.eq_nil

theorem Accord.stop (h : Accord listener active opened line away) :
    Accord listener active opened (line ++ [.stop listener]) away := by
  have hstops {stops : List Matter} (behind : ∀ matter ∈ stops, matter = .stop listener) :
      ∀ matter ∈ stops ++ [.stop listener], matter = .stop listener := by
    intro matter hmem
    rcases List.mem_append.mp hmem with hold | hlast
    · exact behind matter hold
    · exact List.mem_singleton.mp hlast
  cases h with
  | starting behind => exact .starting (hstops behind)
  | started inLine asked kept agreed => exact .started (hstops inLine) asked kept (by simp)

/-- A stop takes the browser out, and waits for the network. -/
theorem Accord.cancel (h : Accord listener active true (.stop listener :: line) away)
    (brings : others.Perm ({ matter := .stop listener, answer := none } :: away)) :
    Accord listener active false line others := by
  cases h with
  | started inLine asked =>
      refine .started (fun matter hmem => inLine matter (List.mem_cons_of_mem _ hmem))
        (fun affair hmem => ?_) (by simp) ?_
      · rcases List.mem_cons.mp (brings.mem_iff.mp hmem) with rfl | hold
        · rfl
        · exact asked affair hold
      · rintro - rfl
        cases brings.symm.eq_nil

/-- A stop that finds no browser open says so. -/
theorem Accord.idle (h : Accord listener active false (.stop listener :: line) away) :
    Accord listener false false line away := by
  cases h with
  | started inLine asked =>
      exact .started (fun matter hmem => inLine matter (List.mem_cons_of_mem _ hmem)) asked
        (by simp) fun _ _ => rfl

/-- Once the browser is opened, stops are all that the network was asked about. -/
theorem Accord.asked (h : Accord listener active opened line away) :
    ∀ affair ∈ away, affair.matter = .stop listener := by
  cases h with
  | starting => simp
  | started _ asked => exact asked

/-- A stop that comes to its end leaves no browser open. -/
theorem Accord.over {affair : Affair}
    (h : Accord listener active opened line (affair :: others)) :
    opened = false ∧ Accord listener false false line others := by
  cases h with
  | started inLine asked kept =>
      refine ⟨Bool.eq_false_iff.mpr fun hopened => ?_, .started inLine (fun affair hmem =>
        asked affair (List.mem_cons_of_mem _ hmem)) (by simp) fun _ _ => rfl⟩
      cases (kept hopened).2

theorem Accord.answered {matter : Matter}
    (h : Accord listener active opened line ({ matter, answer := none } :: others))
    (response : Response) :
    Accord listener active opened line ({ matter, answer := some response } :: others) := by
  cases h with
  | started inLine asked kept =>
      obtain ⟨hmatter, hothers⟩ := List.forall_mem_cons.mp asked
      refine .started inLine (List.forall_mem_cons.mpr ⟨hmatter, hothers⟩) (fun hopened => ?_)
        (by simp)
      cases (kept hopened).2

/-- Where nothing is under way, a browser is open for an active listener and for no other. -/
theorem Accord.settled (h : Accord listener active opened [] []) : opened = active := by
  cases h with
  | started inLine asked kept agreed => exact agreed rfl rfl

/-- A start that comes up is that of an active listener, and only stops are behind it. -/
theorem Accord.begins (h : Accord listener active opened (.browse listener :: line) away) :
    active = true ∧ opened = false ∧ away = [] ∧ ∀ matter ∈ line, matter = .stop listener := by
  cases h with
  | starting behind => exact ⟨rfl, rfl, rfl, behind⟩
  | started inLine => cases inLine _ List.mem_cons_self

end

namespace Platform

/-- The starts and stops of a listener that the network was not asked about yet. -/
def Docket.queued (listener : Listener) (docket : Docket) : List Matter :=
  docket.line.filter (Matter.browses listener)

/-- The starts and stops of a listener that the network was asked about. -/
def Docket.called (listener : Listener) (docket : Docket) : List Affair :=
  docket.away.filter (Affair.browses listener)

/-- Has the platform a browser open for a listener? -/
def Docket.browsing (listener : Listener) (docket : Docket) : Bool :=
  (docket.browsers.lookup listener).isSome

/-- A listener that is active or not is in accord with the platform. -/
def Docket.Agrees (listener : Listener) (active : Bool) (docket : Docket) : Prop :=
  Accord listener active (docket.browsing listener) (docket.queued listener)
    (docket.called listener)

/-- The network was asked to open a browser for a listener, and has perhaps answered. Only stops
come after that. -/
structure Docket.Pends (listener : Listener) (answer : Option Response) (docket : Docket) :
    Prop where
  unopened : docket.browsing listener = false
  behind : ∀ matter ∈ docket.queued listener, matter = .stop listener
  asked : docket.called listener = [{ matter := .browse listener, answer }]

/-- A listener is told nothing by which it would end its browse. -/
def Untold (listener : Listener) (effects : List Effect) : Prop :=
  ∀ notice, notice.ends → .notify listener (.browse notice) ∉ effects

/-- How a browse goes on with a task that does not ask for it: nothing is told of its end, or it
ends for the listener, or the network is asked to open a browser. -/
inductive Proceeds (listener : Listener) (active : Bool) (after : Docket) :
    Task → List Effect → Prop where
  | goes {task : Task} {effects : List Effect}
      (accord : after.Agrees listener active) (untold : Untold listener effects) :
      Proceeds listener active after task effects
  | ends {task : Task} {lines : List Effect} {notice : BrowseNotice}
      (accord : after.Agrees listener false) (logged : lines.all Effect.isLine)
      (ends : notice.ends) :
      Proceeds listener active after task (lines ++ [tellBrowse listener notice])
  | opens {type : Text.Points} {effects : List Effect} (wanted : active = true)
      (pends : after.Pends listener none) :
      Proceeds listener active after (.run (.discover type listener)) effects

section

variable {before after : Docket} {task : Task} {brought : Option (Matter × Response)}
  {effects lines : List Effect} {listener owner : Listener} {active : Bool}

theorem untold_of_hushed (hushed : effects.all Effect.isHushed) (listener : Listener) :
    Untold listener effects := by
  intro notice ends hmem
  have hhushed := List.all_eq_true.mp hushed _ hmem
  simp [Effect.isHushed, ends] at hhushed

/-- What another listener is told does not matter. -/
theorem untold_of_other (logged : lines.all Effect.isLine) (other : owner ≠ listener)
    (notice : BrowseNotice) : Untold listener (lines ++ [tellBrowse owner notice]) := by
  intro told _ hmem
  rcases List.mem_append.mp hmem with hline | hlast
  · cases List.all_eq_true.mp logged _ hline
  · obtain ⟨rfl, -⟩ := Effect.notify.inj (List.mem_singleton.mp hlast)
    exact other rfl

theorem foreign_of_news {matter news : Matter} (leads : matter.news? = some news)
    (listener : Listener) :
    matter.browses listener = false ∧ news.browses listener = false := by
  cases matter <;> cases leads <;> exact ⟨rfl, rfl⟩

/-- A docket is in accord with a listener as long as nothing about that listener changes. -/
theorem Docket.Agrees.of_same (accord : before.Agrees listener active)
    (browsing : after.browsing listener = before.browsing listener)
    (queued : after.queued listener = before.queued listener)
    (called : (before.called listener).Perm (after.called listener)) :
    after.Agrees listener active := by
  rw [Docket.Agrees, browsing, queued]
  exact accord.perm called

theorem Hauled.proceeds (h : Hauled before task brought after effects) (opened : before.Open)
    (unclosed : task ≠ .call .close) (fits : task.Fits)
    (unasked : ∀ type, task ≠ .call (.request (.discover type) listener))
    (accord : before.Agrees listener active) : Proceeds listener active after task effects := by
  -- Matters of others drop out of what is queued and called, so only a start or a stop of the
  -- listener's own moves the accord on.
  have hmore {matter : Matter} (foreign : matter.browses listener = false) :
      (before.line ++ [matter]).filter (Matter.browses listener) = before.queued listener := by
    simp [Docket.queued, List.filter_append, foreign]
  have hfirst {matter : Matter} {rest : List Matter} (first : before.line = matter :: rest)
      (own : matter.browses listener = true) :
      before.queued listener = matter :: rest.filter (Matter.browses listener) := by
    rw [Docket.queued, first, List.filter_cons_of_pos own]
  have hbehind {matter : Matter} {rest : List Matter} (first : before.line = matter :: rest)
      (foreign : matter.browses listener = false) :
      before.queued listener = rest.filter (Matter.browses listener) := by
    rw [Docket.queued, first, List.filter_cons_of_neg (by simp [foreign])]
  cases h with
  | lapsed lapse => exact absurd lapse (opened.not_lapsed unclosed)
  | aside foreign same hushed =>
      exact .goes (accord.perm (same.filter _)) (untold_of_hushed hushed listener)
  | refused => exact .goes accord (untold_of_hushed rfl listener)
  | registers | withdraws =>
      exact .goes (accord.of_same rfl (hmore rfl) (.refl _)) (untold_of_hushed rfl listener)
  | @discovers type owner free =>
      have hother : (Matter.browse owner).browses listener = false :=
        decide_eq_false fun heq => unasked type (by rw [heq])
      exact .goes (accord.of_same rfl (hmore hother) (.refl _)) (untold_of_hushed rfl listener)
  | @stops owner =>
      refine .goes ?_ (untold_of_hushed rfl listener)
      by_cases h : owner = listener
      · subst h
        have hqueued : (before.line ++ [Matter.stop owner]).filter (Matter.browses owner) =
            before.queued owner ++ [.stop owner] := by
          simp [Docket.queued, List.filter_append, Matter.browses]
        rw [Docket.Agrees, Docket.queued, hqueued]
        exact accord.stop
      · exact accord.of_same rfl (hmore (decide_eq_false h)) (.refl _)
  | @asked job matter rest away own starts first brings =>
      cases h : matter.browses listener with
      | false =>
          exact .goes (accord.of_same rfl (hbehind first h).symm (filter_of_foreign brings h).symm)
            (untold_of_hushed rfl listener)
      | true =>
          cases matter with
          | browse owner =>
              obtain rfl : owner = listener := of_decide_eq_true h
              rw [Docket.Agrees, hfirst first h] at accord
              obtain ⟨hactive, hunopened, hcalled, hstops⟩ := accord.begins
              have hasked : (away.filter (Affair.browses owner)).Perm (_ :: before.called owner) :=
                filter_of_own brings h
              rw [hcalled] at hasked
              cases job with
              | discover type other =>
                  cases own
                  exact .opens hactive ⟨hunopened, hstops, List.perm_singleton.mp hasked⟩
              | opening => cases fits
              | _ => cases own
          | stop owner => exact absurd rfl (starts owner)
          | _ => cases h
  | @cancels owner rest away browser first opened brings =>
      refine .goes ?_ (untold_of_hushed rfl listener)
      by_cases h : owner = listener
      · subst h
        rw [Docket.Agrees, hfirst first (decide_eq_true rfl), Docket.browsing, opened] at accord
        rw [Docket.Agrees, Docket.browsing, lookup_eraseEntry, if_pos rfl]
        exact accord.cancel (filter_of_own brings (decide_eq_true rfl))
      · have hother : (Matter.stop owner).browses listener = false := decide_eq_false h
        refine accord.of_same ?_ (hbehind first hother).symm (filter_of_foreign brings hother).symm
        rw [Docket.browsing, lookup_eraseEntry, if_neg (Ne.symm h)]
        rfl
  | @idle owner rest first unopened =>
      by_cases h : owner = listener
      · subst h
        rw [Docket.Agrees, hfirst first (decide_eq_true rfl), Docket.browsing, unopened] at accord
        refine @Proceeds.ends _ _ _ _ [] _ ?_ rfl rfl
        rw [Docket.Agrees, Docket.browsing, unopened]
        exact accord.idle
      · refine .goes (accord.of_same rfl ?_ (.refl _)) (@untold_of_other [] _ _ rfl h _)
        exact (hbehind first (decide_eq_false h)).symm
  | @answered _ matter response others away _ waits brings hushed =>
      refine .goes ?_ (untold_of_hushed hushed listener)
      cases h : matter.browses listener with
      | false =>
          exact (accord.perm (filter_of_foreign waits h)).perm (filter_of_foreign brings h).symm
      | true =>
          exact ((accord.perm (filter_of_own waits h)).answered response).perm
            (filter_of_own brings h).symm
  | advances own leads success waits brings hushed =>
      obtain ⟨hmatter, hnews⟩ := foreign_of_news leads listener
      exact .goes ((accord.perm (filter_of_foreign (.of_eq waits) hmatter)).perm
        (filter_of_foreign brings hnews).symm) (untold_of_hushed hushed listener)
  | registered _ ends waits hushed | withdrawn _ ends waits hushed =>
      rcases ends with ⟨rfl, -⟩ | rfl <;>
        exact .goes (accord.perm (filter_of_foreign (.of_eq waits) rfl))
          (untold_of_hushed hushed listener)
  | @opened type owner response away _ waits hushed browser =>
      by_cases h : owner = listener
      · have hcalled := accord.perm (filter_of_own (.of_eq waits) (decide_eq_true h))
        cases hcalled.asked _ List.mem_cons_self
      · have hother : (Affair.mk (.browse owner) response).browses listener = false :=
          decide_eq_false h
        refine .goes (accord.of_same ?_ rfl (filter_of_foreign (.of_eq waits) hother))
          (untold_of_hushed hushed listener)
        rw [Docket.browsing, lookup_setEntry, if_neg (Ne.symm h)]
        rfl
  | @unopened type owner response away waits lines logged notice ends =>
      by_cases h : owner = listener
      · have hcalled := accord.perm (filter_of_own (.of_eq waits) (decide_eq_true h))
        cases hcalled.asked _ List.mem_cons_self
      · have hother : (Affair.mk (.browse owner) response).browses listener = false :=
          decide_eq_false h
        exact .goes (accord.perm (filter_of_foreign (.of_eq waits) hother))
          (untold_of_other logged h notice)
  | @stopped type owner response away waits lines logged notice ends =>
      by_cases h : owner = listener
      · subst h
        have hcalled := accord.perm (filter_of_own (.of_eq waits) (decide_eq_true rfl))
        obtain ⟨hunopened, hover⟩ := hcalled.over
        have hclosed : Docket.browsing owner { before with away } = false := hunopened
        refine .ends ?_ logged ends
        rw [Docket.Agrees, hclosed]
        exact hover
      · have hother : (Affair.mk (.stop owner) response).browses listener = false :=
          decide_eq_false h
        exact .goes (accord.perm (filter_of_foreign (.of_eq waits) hother))
          (untold_of_other logged h notice)

/-- The network answers about the browser that it is to open. -/
theorem Hauled.replied {operation : Operation} {response : Response}
    (h : Hauled before (.call operation) (some (.browse listener, response)) after effects)
    (opened : before.Open) (unclosed : operation ≠ .close) (pends : before.Pends listener none) :
    after.Pends listener (some response) := by
  cases h with
  | lapsed lapse => exact absurd lapse (opened.not_lapsed (by simp [unclosed]))
  | answered waits brings hushed =>
      have hbefore : (before.called listener).Perm (_ :: _) :=
        filter_of_own waits (decide_eq_true rfl)
      have hafter := @filter_of_own _ (Affair.browses listener) _ _ _ brings (decide_eq_true rfl)
      rw [pends.asked] at hbefore
      obtain ⟨-, hothers⟩ := List.cons.inj (List.singleton_perm.mp hbefore)
      rw [← hothers] at hafter
      exact ⟨pends.unopened, pends.behind, List.perm_singleton.mp hafter⟩

/-- The browser is opened, or it is not and the listener is told so. -/
theorem Hauled.resumed {type : Text.Points} {response : Response}
    (h : Hauled before (.resume (.opening type listener) response) none after effects)
    (opened : before.Open) (pends : before.Pends listener (some response)) :
    Proceeds listener true after (.resume (.opening type listener) response) effects := by
  have hnothing {away : List Affair}
      (waits : before.away = { matter := .browse listener, answer := some response } :: away) :
      away.filter (Affair.browses listener) = [] := by
    have hcalled : (before.called listener).Perm (_ :: _) :=
      filter_of_own (.of_eq waits) (decide_eq_true rfl)
    rw [pends.asked] at hcalled
    exact (List.cons.inj (List.singleton_perm.mp hcalled)).2.symm
  cases h with
  | lapsed lapse => exact absurd lapse (opened.not_lapsed (by simp))
  | aside foreign => cases foreign
  | advances own leads =>
      cases own
      cases leads
  | registered own ends | withdrawn own ends =>
      cases own
      rcases ends with ⟨hmatter, -⟩ | hmatter <;> cases hmatter
  | opened waits hushed browser =>
      refine .goes ?_ (untold_of_hushed hushed listener)
      rw [Docket.Agrees, Docket.called, hnothing waits]
      refine .started pends.behind (by simp) (fun _ => ⟨rfl, rfl⟩) fun _ _ => ?_
      rw [Docket.browsing, lookup_setEntry, if_pos rfl]
      rfl
  | @unopened _ _ _ away waits _ logged _ ends =>
      have hclosed : Docket.browsing listener { before with away } = false := pends.unopened
      refine .ends ?_ logged ends
      rw [Docket.Agrees, Docket.called, hnothing waits, hclosed]
      exact .started pends.behind (by simp) (by simp) fun _ _ => rfl

/-- A start is refused, or it is the only matter of its listener, unless a stop is under way. -/
theorem Hauled.discovered {type : Text.Points}
    (h : Hauled before (.call (.request (.discover type) listener)) none after effects)
    (opened : before.Open)
    (sole : effects = [] → before.queued listener = [] ∧ before.called listener = [])
    (accord : before.Agrees listener false) :
    (∃ fault, effects = [.raise fault] ∧ after.Agrees listener false) ∨
      effects = [] ∧ after.Agrees listener true := by
  cases h with
  | lapsed lapse => exact absurd lapse (opened.not_lapsed (by simp))
  | aside foreign => cases foreign
  | refused request listener fault => exact Or.inl ⟨fault, rfl, accord⟩
  | discovers free =>
      obtain ⟨hqueued, hcalled⟩ := sole rfl
      have hnext : (before.line ++ [Matter.browse listener]).filter (Matter.browses listener) =
          [.browse listener] := by
        rw [Docket.queued] at hqueued
        simp [List.filter_append, hqueued, Matter.browses]
      have hclosed : before.browsing listener = false := by rw [Docket.browsing, free]; rfl
      refine Or.inr ⟨rfl, ?_⟩
      change Accord listener true (before.browsing listener) _ (before.called listener)
      rw [Docket.queued, hnext, hclosed, hcalled]
      exact .starting (by simp)

end

end Platform

end Mdns

end ServiceDiscovery
