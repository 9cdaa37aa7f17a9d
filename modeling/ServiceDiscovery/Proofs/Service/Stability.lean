import Mathlib.Data.List.TakeWhile
import ServiceDiscovery.BrowseSession
import ServiceDiscovery.Mdns.Platform
import ServiceDiscovery.Proofs.Outcome
import ServiceDiscovery.Proofs.Service.Record
import ServiceDiscovery.Proofs.Service.Spelling
import ServiceDiscovery.PublicationSession

/-!
Which types stay as they are when they are normalised again. A type is normalised by its session,
again by the platform that is asked for it, once more when the platform reports it, and a last time
with the services that are resolved. Normalising takes off one dot and one domain, so what it leaves
may still have a blank, a dot or a domain to lose. Only a bare type is the same in all these places.
-/

namespace ServiceDiscovery

namespace Text

variable {α : Type} {drop : α → Bool} {cs : List α}

theorem head_of_dropWhile (same : cs.length ≤ (cs.dropWhile drop).length) :
    ∀ c ∈ cs.head?, drop c = false := by
  cases cs with
  | nil => simp
  | cons c rest =>
      intro first hfirst
      obtain rfl : c = first := by simpa using hfirst
      apply Bool.eq_false_iff.mpr
      intro hdrops
      have hshort := (List.dropWhile_suffix drop (l := rest)).length_le
      rw [List.dropWhile_cons_of_pos hdrops, List.length_cons] at same
      omega

theorem length_trimRight_le (drop : α → Bool) (cs : List α) :
    (trimRight drop cs).length ≤ cs.length := by
  have hshort := (List.dropWhile_suffix drop (l := cs.reverse)).length_le
  simpa [trimRight] using hshort

theorem getLast_of_trimRight (same : cs.length ≤ (trimRight drop cs).length) :
    ∀ c ∈ cs.getLast?, drop c = false := by
  have hhead := @head_of_dropWhile α drop cs.reverse (by simpa [trimRight] using same)
  simpa using hhead

end Text

namespace ServiceType

open Text

variable {type suffix : Points}

theorem length_withoutSuffix_le (suffix type : Points) :
    (withoutSuffix suffix type).length ≤ type.length := by
  unfold withoutSuffix
  split
  · simp
  · exact Nat.le_refl _

theorem not_suffix_of_withoutSuffix (hsome : suffix ≠ [])
    (same : type.length ≤ (withoutSuffix suffix type).length) : ¬ suffix <:+ type := by
  intro hsuffix
  have hlength := hsuffix.length_le
  have hpos := List.length_pos_iff.mpr hsome
  rw [withoutSuffix, if_pos (by simpa using hsuffix), List.length_take] at same
  omega

theorem ne_dot_of_withoutDot (same : type.length ≤ (withoutDot type).length) :
    ∀ c ∈ type.head?, (c == .char '.') = false := by
  cases type with
  | nil => simp
  | cons c rest =>
      intro first hfirst
      obtain rfl : c = first := by simpa using hfirst
      apply Bool.eq_false_iff.mpr
      intro hdot
      obtain rfl : c = .char '.' := by simpa using hdot
      simp only [withoutDot, List.length_cons] at same
      omega

/-- Each part of normalising takes points off or does nothing, so when the whole took none off,
no part had anything to take. -/
theorem bare_of_length (hsome : type ≠ [])
    (same : type.length ≤ (normalize type).length) : Bare type := by
  have hblanks := length_trimRight_le Point.isBlank (type.dropWhile Point.isBlank)
  have hdot := (withoutDot_suffix (trim Point.isBlank type)).length_le
  have hdots := length_trimRight_le (· == .char '.') (withoutDot (trim Point.isBlank type))
  have hdomain := length_withoutSuffix_le localSuffix
    (trimRight (· == .char '.') (withoutDot (trim Point.isBlank type)))
  rw [normalize] at same
  rw [trim] at hdot hdots hdomain same
  have blankFront := @head_of_dropWhile _ Point.isBlank type (by omega)
  rw [dropWhile_of_head blankFront] at hdot hdots hdomain same
  have blankBack := @getLast_of_trimRight _ Point.isBlank type (by omega)
  rw [trimRight_of_getLast blankBack] at hdots hdomain same
  have dotFront := @ne_dot_of_withoutDot type (by omega)
  rw [withoutDot_of_head dotFront] at hdomain same
  have dotBack := @getLast_of_trimRight _ (· == .char '.') type (by omega)
  rw [trimRight_of_getLast dotBack] at same
  have hbare := @not_suffix_of_withoutSuffix type localSuffix (by decide) same
  exact ⟨hsome, ⟨blankFront, blankBack⟩, ⟨dotFront, dotBack⟩, hbare⟩

/-- A type is the same once it is normalised exactly if it is bare, or empty. -/
theorem normalize_eq_self : normalize type = type ↔ type = [] ∨ Bare type := by
  constructor
  · intro hsame
    refine or_iff_not_imp_left.mpr fun hsome => bare_of_length hsome ?_
    exact Nat.le_of_eq (congrArg List.length hsame.symm)
  · rintro (rfl | bare)
    · rfl
    · have hplain := (spellings_agree bare {}).1
      simpa [Spelling.spell, Spelling.lead, Spelling.domain] using hplain

/-- In front of a type that is nothing but blanks, the domain itself is taken for a type. -/
theorem normalize_domain_of_blank (hblank : type.dropWhile Point.isBlank = []) :
    normalize (type ++ localSuffix ++ [.char '.']) = "local" := by
  have hdomain : (type ++ localSuffix ++ [Point.char '.']).dropWhile Point.isBlank =
      localSuffix ++ [.char '.'] := by
    rw [List.append_assoc, localSuffix_eq_cons, List.cons_append,
      dropWhile_append_keeping (by decide), hblank, List.nil_append]
  rw [normalize, trim, hdomain]
  decide

/-- A type comes back from its full form if it is not empty and nothing is taken off its front. -/
theorem normalize_domain_eq_self :
    normalize (type ++ localSuffix ++ [.char '.']) = type ↔ type ≠ [] ∧ isLed type = false := by
  by_cases hblank : type.dropWhile Point.isBlank = []
  · rw [normalize_domain_of_blank hblank]
    constructor
    · rintro rfl
      exact absurd hblank (by decide)
    · rintro ⟨hsome, hled⟩
      obtain ⟨c, rest, rfl⟩ := List.exists_cons_of_ne_nil hsome
      have hc : Point.isBlank c = false := by
        simp only [isLed, List.head?_cons, Option.any_some, Bool.or_eq_false_iff] at hled
        exact hled.1
      rw [List.dropWhile_cons_of_neg (by simp [hc])] at hblank
      cases hblank
  · have hsome : type ≠ [] := by
      rintro rfl
      exact hblank rfl
    rw [normalize_domain hblank, withoutLead_eq_self]
    simp [hsome]

theorem normalize_qualify_eq : normalize (qualify type) = normalize type ↔
    normalize type ≠ [] ∧ isLed (normalize type) = false :=
  normalize_domain_eq_self

theorem qualify_qualify_eq :
    qualify (qualify type) = qualify type ↔ normalize (qualify type) = normalize type := by
  rw [qualify_eq (qualify type), qualify_eq type, List.append_left_inj]

/-- Only a bare type comes back from its full form. -/
theorem normalize_qualify_eq_self : normalize (qualify type) = type ↔ Bare type := by
  constructor
  · intro hsame
    rw [qualify] at hsame
    by_cases hblank : (normalize type).dropWhile Point.isBlank = []
    · rw [normalize_domain_of_blank hblank] at hsame
      rw [← hsame] at hblank
      exact absurd hblank (by decide)
    · rw [normalize_domain hblank] at hsame
      apply bare_of_length
      · rintro rfl
        exact hblank rfl
      · have hlength := (withoutLead_suffix (normalize type)).length_le
        rwa [hsame] at hlength
  · intro bare
    have hplain : qualify type = type ++ ".local." := by
      have hfull := Spelling.qualify_spell {} bare
      simpa [Spelling.spell, Spelling.lead, Spelling.domain] using hfull
    have hspelled : Spelling.spell { full := true, dots := 1 } type = type ++ ".local." := by
      have hdomain : localSuffix ++ [.char '.'] = Points.ofString ".local." := rfl
      simp [Spelling.spell, Spelling.lead, Spelling.domain, hdomain]
    rw [hplain, ← hspelled]
    exact Spelling.normalize_spell _ bare

open Mdns Mdns.Platform

/-- What becomes of a type that a session is started with: the type that the session keeps and asks
the platform for, its full form on the network, the type that the platform reports to the session
and refers to in what it finds, and the type of a service that is resolved from there. -/
structure Passage (type kept full reported resolved : Points) : Prop where
  browsed : ∀ session : BrowseSession, session.closed = false → session.active = false →
    session.start type = ({ session with state := some { type := kept }, active := true },
      [.request (.discover kept), .own (.starting kept)])
  published : ∀ (session : PublicationSession) name port txt, session.closed = false →
    session.active = false →
      (session.register name type port txt).1.state.map (·.type) = some kept ∧
        .request (.register name kept port txt) ∈ (session.register name type port txt).2
  submitted : ∀ (core after : Platform) listener,
    core.requestDiscover kept listener = (after, []) → after = core.submit (.discover full listener)
  sought : ∀ (core : Platform) listener, core.started = true →
    run (.discover full listener) core = core.ask (.browse full) (.opening full listener)
  started : ∀ (core : Platform) listener,
    (resume (.opening full listener) .done core).1.browsers =
        setEntry listener { number := core.opened.length, type := reported } core.browsers ∧
      (resume (.opening full listener) .done core).2 = [tellBrowse listener (.started reported)]
  announced : ∀ (core : Platform) number listener change name,
    core.opened[number]? = some (listener, full) →
      ∃ ref : ServiceRef, ref.type = reported ∧ core.announce number change name none =
        (core, [tellBrowse listener (if change = .removed then .lost ref else .found ref)])
  described : ∀ host name port txt made,
    ServiceInfo.forRegistration host name kept port txt = .ok made → made.type = full
  registered : ∀ (core : Platform) number listener, (core.info number).type = full →
    ∃ name, resume (.announcing number listener) .done core =
      (core, [tellRegistration listener (.registered name reported)])
  resolved : ∀ ref found info answer, ref.type = reported →
    outcome ref found info = .resolved ref answer →
      ∃ service, ResolvedService.ofAnswer answer = .ok service ∧ service.type = resolved

/-- A service is published under the full form of the type that it is registered with. -/
theorem type_of_forRegistration {host : Host} {name : Points} {port : Value}
    {txt : List (Value × Value)} {made : ServiceInfo}
    (hmade : ServiceInfo.forRegistration host name type port txt = .ok made) :
    made.type = qualify type := by
  simp only [ServiceInfo.forRegistration] at hmade
  generalize (if host.hostname = "" then host.ownName else host.hostname) = hostname at hmade
  obtain ⟨-, -, hmade⟩ := exists_of_bind_ok hmade
  obtain ⟨-, -, hmade⟩ := exists_of_bind_ok hmade
  obtain ⟨-, -, hmade⟩ := exists_of_bind_ok hmade
  obtain ⟨texts, -, hmade⟩ := exists_of_bind_ok hmade
  obtain ⟨-, -, hmade⟩ := exists_of_bind_ok hmade
  obtain ⟨addresses, -, hmade⟩ := exists_of_bind_ok hmade
  obtain ⟨data, -, hmade⟩ := exists_of_bind_ok hmade
  rw [← Except.ok.inj hmade]

/-- What the network tells of a service can all be written. -/
theorem writable_attributes (info : ServiceInfo) : ∀ entry ∈ Platform.attributes info,
    ResolvedService.Writable entry.1 ∧ ResolvedService.Writable entry.2 := by
  intro entry hmem
  obtain ⟨⟨key, value⟩, -, rfl⟩ := List.mem_map.mp hmem
  refine ⟨⟨key, .bytes key⟩, ?_⟩
  cases value with
  | none => exact ⟨[], .null⟩
  | some bs => exact ⟨bs, .bytes bs⟩

/-- The type that a session keeps was normalised once, the one that is reported three times, and
that of a resolved service four times. -/
theorem passage (type : Points) :
    let kept := normalize type
    let reported := normalize (qualify kept)
    Passage type kept (qualify kept) reported (normalize reported) := by
  intro kept reported
  constructor
  case browsed =>
    intro session hopen hidle
    simp [BrowseSession.start, hopen, hidle, kept]
  case published =>
    intro session name port txt hopen hidle
    simp [PublicationSession.register, hopen, hidle, kept]
  case submitted =>
    intro core after listener hasked
    unfold requestDiscover at hasked
    split at hasked
    · simp at hasked
    · cases hcheck : checkType (qualify kept) with
      | error fault => simp [hcheck] at hasked
      | ok accepted =>
          cases hstarted : core.started with
          | false => simp [hcheck, submitOrRaise, hstarted] at hasked
          | true =>
              simp only [hcheck, submitOrRaise, hstarted, if_true, Prod.mk.injEq, and_true]
                at hasked
              exact hasked.symm
  case sought =>
    intro core listener hstarted
    simp [run, hstarted]
  case started =>
    intro core listener
    exact ⟨rfl, rfl⟩
  case announced =>
    intro core number listener change name hopened
    refine ⟨{ name := instanceName name (qualify kept), type := reported }, by dsimp only, ?_⟩
    simp [announce, hopened, reported]
  case described =>
    intro host name port txt made hmade
    exact type_of_forRegistration hmade
  case registered =>
    intro core number listener hfull
    exact ⟨instanceName (core.info number).name (qualify kept), by
      simp [resume, hfull, reported]⟩
  case resolved =>
    intro ref found info answer htype houtcome
    unfold outcome at houtcome
    split at houtcome
    · obtain ⟨-, hanswer⟩ := ResolveOutcome.resolved.inj houtcome
      have hattributes : answer.attributes = some (attributes info) := by rw [← hanswer]
      obtain ⟨service, hservice⟩ := (ResolvedService.exists_ofAnswer_ok_iff hattributes).mpr
        (writable_attributes info)
      refine ⟨service, hservice, ?_⟩
      rw [(ResolvedService.ofAnswer_ok_iff.mp hservice).type, ← hanswer]
      exact congrArg normalize htype
    · cases houtcome

/-- When a type stays as it is once it is normalised. Normalising again changes nothing if what is
left is bare or empty; its full form comes back, and is left alone, if what is left is not empty and
begins with neither a blank nor a dot. Session, platform and resolved services have one type exactly
if it is bare. -/
theorem same_everywhere_iff_bare (type : Points) :
    let kept := normalize type
    let reported := normalize (qualify kept)
    let resolved := normalize reported
    (normalize kept = kept ↔ kept = [] ∨ Bare kept) ∧
    (normalize (qualify type) = kept ↔ kept ≠ [] ∧ isLed kept = false) ∧
    (qualify (qualify type) = qualify type ↔ kept ≠ [] ∧ isLed kept = false) ∧
    Passage type kept (qualify kept) reported resolved ∧
      (reported = kept ∧ resolved = kept ↔ Bare kept) := by
  intro kept reported resolved
  refine ⟨normalize_eq_self, normalize_qualify_eq, ?_, passage type, ?_⟩
  · rw [qualify_qualify_eq, normalize_qualify_eq]
  · have hreported : reported = kept ↔ Bare kept := normalize_qualify_eq_self
    constructor
    · rintro ⟨hsame, -⟩
      exact hreported.mp hsame
    · intro bare
      have hsame := hreported.mpr bare
      refine ⟨hsame, ?_⟩
      have hresolved : resolved = normalize kept := congrArg normalize hsame
      rw [hresolved, normalize_eq_self.mpr (Or.inr bare)]

/-- Two dots in front lose one each time; nothing at all becomes the domain; and a type with the
domain twice is accepted, kept with the domain once, and reported without it. -/
theorem changes_when_normalized_again :
    normalize (normalize "..a") ≠ normalize "..a" ∧
    normalize (qualify "") ≠ normalize "" ∧ qualify (qualify "") ≠ qualify "" ∧
    checkType (qualify (normalize "_ipp._tcp.local.local")) = .ok () ∧
      normalize (qualify (normalize "_ipp._tcp.local.local")) ≠
        normalize "_ipp._tcp.local.local" := by
  decide +kernel

end ServiceType

end ServiceDiscovery
