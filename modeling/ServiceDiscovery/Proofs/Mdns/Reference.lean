import Mathlib.Data.List.TakeWhile
import ServiceDiscovery.Mdns.Platform
import ServiceDiscovery.Proofs.Mdns.Name
import ServiceDiscovery.Proofs.Service.Type

/-!
From the name that a browser reports to the name that is asked for. The reported name is taken apart
into an instance and a type, which make up a reference, and resolving puts them together again. The
type is normalised on the way, twice in all, so what a full type begins with may be lost; behind, it
ends with a protocol and stays as it is. A browser for a subtype reports instances of the base type.
Of such a name only the first label is kept, and it is put in front of the subtype.
-/

namespace ServiceDiscovery

namespace Text

/-- The lower case of a text has that of each of its points in it. -/
theorem lowerAfter_append (before : List Char) (front : Points) (point : Point) (rest : Points) :
    ∃ lowered earlier, Points.lowerAfter before (front ++ point :: rest) =
      lowered ++ point.lowerAmong earlier rest ++
        Points.lowerAfter (point.shown :: earlier) rest := by
  induction front generalizing before with
  | nil => exact ⟨[], before, rfl⟩
  | cons first front ih =>
      obtain ⟨lowered, earlier, h⟩ := ih (first.shown :: before)
      refine ⟨first.lowerAmong before (front ++ point :: rest) ++ lowered, earlier, ?_⟩
      rw [List.cons_append, Points.lowerAfter, h]
      simp only [List.append_assoc]

theorem ofNat_eq_p {n : Nat} (h : Char.ofNat n = 'p') : n = 112 := by
  by_cases hvalid : n.isValidChar
  · have hcode : (Char.ofNat n).toNat = n := by
      rw [Char.ofNat, dif_pos hvalid]
      rfl
    rw [← hcode, h]
    rfl
  · have hcode : (Char.ofNat n).toNat = 0 := by
      rw [Char.ofNat, dif_neg hvalid]
      rfl
    rw [h] at hcode
    cases hcode

/-- No character outside ASCII has the lower case `p`. -/
theorem lowerRuns_miss_p : ∀ run ∈ lowerRuns,
    ¬ (run.first + run.shift ≤ 112 ∧ 112 ≤ run.last + run.shift) := by
  decide +kernel

theorem lowerChar_eq_p {c : Char} (h : lowerChar c = 'p') : c = 'p' ∨ c = 'P' := by
  unfold lowerChar at h
  split at h
  · unfold lowerAscii at h
    split at h
    · have hcode := ofNat_eq_p h
      exact Or.inr (Char.ext (UInt32.toNat_inj.mp (by change c.toNat = 80; omega)))
    · exact Or.inl h
  · split at h
    · rename_i run hfound
      have hcode := ofNat_eq_p h
      have hmem := List.mem_of_find?_eq_some hfound
      have hmoves := List.find?_some hfound
      simp only [CaseRun.moves, Bool.and_eq_true, decide_eq_true_eq] at hmoves
      exact absurd ⟨by omega, by omega⟩ (lowerRuns_miss_p run hmem)
    · exact Or.inl h

/-- Where a text in lower case ends with a `p`, that comes of the letter. -/
theorem lowerAmong_ends_with_p {lowered rest : Points} {before : List Char} {point : Point}
    (h : (lowered ++ point.lowerAmong before rest).getLast? = some (.char 'p')) :
    point = .char 'p' ∨ point = .char 'P' := by
  cases point with
  | half half => simp [Point.lowerAmong] at h
  | char c =>
      simp only [Point.lowerAmong, lowerAmong, Points.ofChars] at h
      split at h
      · split at h <;> simp at h
      · split at h
        · simp at h
        · simpa using lowerChar_eq_p (by simpa using h)

end Text

namespace Mdns

open ServiceType
open Text (Point Points)

theorem lowerAfter_domain (before : List Char) :
    Points.lowerAfter before (localSuffix ++ [.char '.']) = localSuffix ++ [.char '.'] :=
  rfl

/-- In front of the local domain, a name with a protocol ends with a letter. -/
theorem exists_last_of_endsWith {ending points : Points}
    (h : endsWithAnyCase (ending ++ .char 'p' :: (localSuffix ++ [.char '.']))
      (points ++ localSuffix ++ [.char '.']) = true) :
    ∃ front last, points = front ++ [last] ∧ (last = .char 'p' ∨ last = .char 'P') := by
  simp only [endsWithAnyCase, List.isSuffixOf_iff_suffix, Points.lower] at h
  rcases List.eq_nil_or_concat points with rfl | ⟨front, last, rfl⟩
  · rw [List.nil_append, lowerAfter_domain] at h
    have hlength := h.length_le
    simp at hlength
    omega
  · rw [List.concat_eq_append] at h ⊢
    refine ⟨front, last, rfl, ?_⟩
    obtain ⟨lowered, earlier, hlowered⟩ :=
      Text.lowerAfter_append [] front last (localSuffix ++ [.char '.'])
    have hname : front ++ [last] ++ localSuffix ++ [.char '.'] =
        front ++ last :: (localSuffix ++ [.char '.']) := by simp
    rw [hname, hlowered, lowerAfter_domain] at h
    obtain ⟨more, hmore⟩ : ending ++ [.char 'p'] <:+
        lowered ++ last.lowerAmong earlier (localSuffix ++ [.char '.']) := by
      rw [← List.suffix_append_self_iff]
      simpa using h
    apply @Text.lowerAmong_ends_with_p lowered (localSuffix ++ [.char '.']) earlier last
    rw [← hmore]
    simp

theorem exists_last_of_hasProtocol {points : Points}
    (h : hasProtocol (points ++ localSuffix ++ [.char '.']) = true) :
    ∃ front last, points = front ++ [last] ∧ (last = .char 'p' ∨ last = .char 'P') := by
  rcases Bool.or_eq_true_iff.mp h with htcp | hudp
  · exact @exists_last_of_endsWith "._tc" points htcp
  · exact @exists_last_of_endsWith "._ud" points hudp

/-- The type in front of the domain ends as a type should. -/
theorem firm_of_checkType {type : Points}
    (accepted : checkType (ServiceType.qualify type) = .ok ()) :
    Firm (ServiceType.normalize type) := by
  have hprotocol := (checkType_ok accepted).1
  rw [ServiceType.qualify] at hprotocol
  obtain ⟨front, last, hchars, hlast⟩ := exists_last_of_hasProtocol hprotocol
  refine ⟨⟨front, last, hchars, ?_⟩, ?_⟩
  · rcases hlast with rfl | rfl <;> exact ⟨by decide, by decide⟩
  · rintro ⟨others, hothers⟩
    have hends := congrArg List.getLast? (hothers.trans hchars)
    rcases hlast with rfl | rfl <;> simp [localSuffix_eq_append] at hends

/-- The reference to an instance that a browser for a full type reports. -/
def reference (type name : Points) : ServiceRef :=
  { name := instanceName name type, type := ServiceType.normalize type }

/-- The name that the service of a reference is asked for under. -/
def fullName (ref : ServiceRef) : Points :=
  ref.name ++ "." ++ ServiceType.qualify ref.type

/-- A full type comes back from its bare form, unless it begins with a blank or a dot. -/
theorem qualify_normalize_eq_self {type : Points}
    (accepted : checkType (ServiceType.qualify type) = .ok ()) :
    ServiceType.qualify (ServiceType.normalize (ServiceType.qualify type)) =
      ServiceType.qualify type ↔ isLed (ServiceType.qualify type) = false := by
  have hfirm := firm_of_checkType accepted
  have hled : isLed (ServiceType.qualify type) = isLed (ServiceType.normalize type) := by
    obtain ⟨⟨front, last, hchars, -⟩, -⟩ := hfirm
    rw [ServiceType.qualify, hchars]
    cases front <;> rfl
  have hreported : ServiceType.normalize (ServiceType.qualify type) =
      withoutLead (ServiceType.normalize type) := normalize_full hfirm
  rw [hled, ← withoutLead_twice_eq_self, hreported, qualify_eq, qualify_eq type,
    List.append_left_inj, normalize_of_firm hfirm.withoutLead]

section

variable {type name instance₁ instance₂ subtype base : Points}

theorem append_dot (front back : Points) : front ++ "." ++ back = front ++ .char '.' :: back :=
  List.append_assoc ..

theorem instanceName_append (name type : Points) :
    instanceName (name ++ "." ++ type) type = name := by
  rw [append_dot]
  simp [instanceName]

/-- References to instances under the type itself are told apart. -/
theorem reference_injective
    (h : reference type (instance₁ ++ "." ++ type) = reference type (instance₂ ++ "." ++ type)) :
    instance₁ = instance₂ := by
  simpa only [reference, instanceName_append, ServiceRef.mk.injEq, and_true] using h

/-- Of a name that does not end with the type the first label is taken. -/
theorem instanceName_of_foreign (foreign : ¬ ∃ inner, name = inner ++ "." ++ type) :
    instanceName name type = (Text.cut (.char '.') name).1 := by
  have hnot : ¬ .char '.' :: type <:+ name := by
    rintro ⟨inner, hname⟩
    exact foreign ⟨inner, by rw [append_dot, hname]⟩
  simp [instanceName, hnot]

theorem fullName_reference : fullName (reference type name) =
    instanceName name type ++ "." ++ ServiceType.qualify (ServiceType.normalize type) := rfl

/-- An instance under the type itself is asked for under its name, unless the type changes. -/
theorem fullName_instance (accepted : checkType (ServiceType.qualify type) = .ok ())
    (name : Points) :
    fullName (reference (ServiceType.qualify type) (name ++ "." ++ ServiceType.qualify type)) =
        name ++ "." ++ ServiceType.qualify type ↔
      isLed (ServiceType.qualify type) = false := by
  rw [← qualify_normalize_eq_self accepted, fullName_reference, instanceName_append]
  exact List.append_right_inj _

/-- If the type does not change, no other names are asked for than those that end with it. -/
theorem fullName_eq_self (accepted : checkType (ServiceType.qualify type) = .ok ())
    (unled : isLed (ServiceType.qualify type) = false) :
    fullName (reference (ServiceType.qualify type) name) = name ↔
      ∃ inner, name = inner ++ "." ++ ServiceType.qualify type := by
  constructor
  · intro hsame
    refine ⟨instanceName name (ServiceType.qualify type), ?_⟩
    rw [fullName_reference, (qualify_normalize_eq_self accepted).mpr unled] at hsame
    exact hsame.symm
  · rintro ⟨inner, rfl⟩
    exact (fullName_instance accepted inner).mpr unled

/-- A name under the base type ends with the subtype only if its instance does. -/
theorem ends_with_subtype (name subtype base : Points) :
    (∃ inner, name ++ "." ++ base = inner ++ "." ++ (subtype ++ "._sub." ++ base)) ↔
      ∃ inner, name = inner ++ "." ++ subtype ++ "._sub" := by
  refine exists_congr fun inner => ?_
  have hmark : Points.ofString "._sub." = Points.ofString "._sub" ++ "." := rfl
  have hsame : inner ++ "." ++ (subtype ++ "._sub." ++ base) =
      inner ++ "." ++ subtype ++ "._sub" ++ "." ++ base := by
    simp only [hmark, List.append_assoc]
  rw [hsame, List.append_left_inj, List.append_left_inj]

/-- What stands in front of the first dot. -/
theorem cut_fst (separator : Point) (cs : Points) :
    (Text.cut separator cs).1 = cs.takeWhile (· ≠ separator) := by
  unfold Text.cut
  split
  · rename_i hnone
    have happend := @List.takeWhile_append_dropWhile _ (· ≠ separator) cs
    rw [hnone, List.append_nil] at happend
    exact happend.symm
  · rfl

theorem cut_fst_append (separator : Point) (front rest : Points) :
    (Text.cut separator (front ++ separator :: rest)).1 = (Text.cut separator front).1 := by
  rw [cut_fst, cut_fst]
  induction front with
  | nil => simp
  | cons c front ih =>
      rw [List.cons_append, List.takeWhile_cons, List.takeWhile_cons, ih]

/-- Of two instances under the base type, neither of which ends with the subtype, the references are
told apart by the first label only. -/
theorem reference_subtype_eq_iff {full : Points} (hfull : full = subtype ++ "._sub." ++ base)
    (hfirst : ¬ ∃ inner, instance₁ = inner ++ "." ++ subtype ++ "._sub")
    (hsecond : ¬ ∃ inner, instance₂ = inner ++ "." ++ subtype ++ "._sub") :
    reference full (instance₁ ++ "." ++ base) = reference full (instance₂ ++ "." ++ base) ↔
      (Text.cut (.char '.') instance₁).1 = (Text.cut (.char '.') instance₂).1 := by
  have hlabel {name : Points} (hforeign : ¬ ∃ inner, name = inner ++ "." ++ subtype ++ "._sub") :
      instanceName (name ++ "." ++ base) full = (Text.cut (.char '.') name).1 := by
    rw [← ends_with_subtype name subtype base, ← hfull] at hforeign
    rw [instanceName_of_foreign hforeign, append_dot, cut_fst_append]
  simp only [reference, hlabel hfirst, hlabel hsecond, ServiceRef.mk.injEq, and_true]

end

namespace Platform

variable {core : Platform} {listener : Listener}

/-- An instance that was found, or found again, is told of by its reference. -/
theorem announce_reference {number : Nat} {browsed type name : Points} {change : Change}
    (opened : core.opened[number]? = some (listener, browsed)) (hchange : change ≠ .removed) :
    core.announce number change name (some type) =
      (core, [tellBrowse listener (.found (reference type name))]) := by
  simp [announce, opened, hchange, reference]

/-- When the job that resolves a reference runs, it asks the network for the service of a name. -/
def AsksFor (core : Platform) (ref : ServiceRef) (listener : Listener) (name : Points) : Prop :=
  ∃ made changed, run (.resolve ref listener) core =
    (changed, [.network core.tickets (.request made core.timeout)]) ∧ made.name = name

theorem asksFor_iff (started : core.started = true) {ref : ServiceRef} {name : Points} :
    core.AsksFor ref listener name ↔ fullName ref = name ∧
      checkInstance (ServiceType.qualify ref.type) (fullName ref) = .ok () := by
  have hmade : ServiceInfo.forResolving ref = ((checkInstance
      (ServiceType.qualify ref.type) (fullName ref)).mapError NameFault.fault).map fun _ =>
        { type := ServiceType.qualify ref.type, name := fullName ref } := rfl
  unfold AsksFor
  simp only [run, hmade]
  cases checkInstance (ServiceType.qualify ref.type) (fullName ref) with
  | error fault => simp [Except.mapError, Except.map]
  | ok accepted => simp [Except.mapError, Except.map, started, ask, Platform.wait]

/-- If a full type does not change, a reported name is asked for if it is a name that ends with it.
-/
theorem asksFor_of_unled {type name : Points}
    (accepted : checkType (ServiceType.qualify type) = .ok ())
    (unled : isLed (ServiceType.qualify type) = false) (started : core.started = true) :
    core.AsksFor (reference (ServiceType.qualify type) name) listener name ↔
      (∃ inner, name = inner ++ "." ++ ServiceType.qualify type) ∧
        checkInstance (ServiceType.qualify type) name = .ok () := by
  rw [asksFor_iff started, ← fullName_eq_self accepted unled]
  refine and_congr_right fun hsame => ?_
  have htype : ServiceType.qualify (reference (ServiceType.qualify type) name).type =
      ServiceType.qualify type := by
    rw [reference, (qualify_normalize_eq_self accepted).mpr unled]
  rw [hsame, htype]

/-- If a full type does change, no instance under it is asked for by its name. -/
theorem not_asksFor_of_led {type : Points} (name : Points)
    (accepted : checkType (ServiceType.qualify type) = .ok ())
    (led : isLed (ServiceType.qualify type) = true) (started : core.started = true) :
    ¬ core.AsksFor (reference (ServiceType.qualify type)
      (name ++ "." ++ ServiceType.qualify type)) listener
        (name ++ "." ++ ServiceType.qualify type) := by
  rw [asksFor_iff started, fullName_instance accepted, led]
  simp

/-- What a browser reports is asked for by the name that it was reported under, if this is a name
and nothing of the type is lost: a full type must not begin with a blank or a dot, and if it is a
subtype, the instance must end with it too. References to instances of one type are told apart, and
those to instances under the base type by their first labels only. -/
theorem asks_for_found {type : Points} (accepted : checkType (ServiceType.qualify type) = .ok ())
    (started : core.started = true) (listener : Listener) :
    let full := ServiceType.qualify type
    (∀ number told change name, core.opened[number]? = some (told, full) → change ≠ .removed →
      core.announce number change name (some full) =
        (core, [tellBrowse told (.found (reference full name))])) ∧
    (∀ name, core.AsksFor (reference full (name ++ "." ++ full)) listener (name ++ "." ++ full) ↔
      isLed full = false ∧ checkInstance full (name ++ "." ++ full) = .ok ()) ∧
    (∀ first second,
      reference full (first ++ "." ++ full) = reference full (second ++ "." ++ full) →
        first = second) ∧
    ∀ subtype base, full = subtype ++ "._sub." ++ base →
      (isLed full = false → ∀ name,
        core.AsksFor (reference full (name ++ "." ++ base)) listener (name ++ "." ++ base) ↔
          (∃ inner, name = inner ++ "." ++ subtype ++ "._sub") ∧
            checkInstance full (name ++ "." ++ base) = .ok ()) ∧
      ∀ first second, (¬ ∃ inner, first = inner ++ "." ++ subtype ++ "._sub") →
        (¬ ∃ inner, second = inner ++ "." ++ subtype ++ "._sub") →
        (reference full (first ++ "." ++ base) = reference full (second ++ "." ++ base) ↔
          (Text.cut (.char '.') first).1 = (Text.cut (.char '.') second).1) := by
  intro full
  refine ⟨?_, ?_, ?_, ?_⟩
  · intro number told change name opened hchange
    exact announce_reference opened hchange
  · intro name
    cases hled : isLed full with
    | true => simpa using not_asksFor_of_led name accepted hled started
    | false =>
        rw [asksFor_of_unled accepted hled started]
        exact and_congr_left fun _ => ⟨fun _ => rfl, fun _ => ⟨name, rfl⟩⟩
  · exact fun first second => reference_injective
  · intro subtype base hfull
    constructor
    · intro unled name
      rw [asksFor_of_unled accepted unled started, ← ends_with_subtype name subtype base, ← hfull]
    · intro first second hfirst hsecond
      exact reference_subtype_eq_iff hfull hfirst hsecond

/-- A started platform of which nothing was asked yet. -/
def fresh : Platform where
  host := { ownName := "host", ownAddress := .ok "127.0.0.1" }
  timeout := 3000
  started := true

/-- An instance with a dot and a blank in its name is asked for by that name. -/
theorem asks_for_found_of_dotted :
    let full := ServiceType.qualify "_ipp._tcp"
    let found : Points := "Lab 2.5" ++ "." ++ full
    checkType full = .ok () ∧ fresh.AsksFor (reference full found) (.member 0) found := by
  intro full found
  have accepted : checkType full = .ok () := by decide +kernel
  have unled : isLed full = false := by decide +kernel
  have hname : checkInstance full found = .ok () := by decide +kernel
  obtain ⟨-, hasks, -, -⟩ := @asks_for_found fresh "_ipp._tcp" accepted rfl (.member 0)
  exact ⟨accepted, (hasks "Lab 2.5").mpr ⟨unled, hname⟩⟩

/-- A browser for a subtype reports an instance of the base type, and another name is asked for. Two
instances that differ behind a dot have one reference. And a type may be spelled so that it begins
with a blank in full; then its instances are not asked for either. -/
theorem subtype_instance_not_asked_for :
    let full := ServiceType.qualify "_printer._sub._ipp._tcp"
    let found : Points := "Lab 2.5" ++ "." ++ "_ipp._tcp.local."
    let spelled := ServiceType.qualify ". lab._ipp._tcp"
    checkType full = .ok () ∧ full = "_printer" ++ "._sub." ++ "_ipp._tcp.local." ∧
      fresh.AsksFor (reference full found) (.member 0) "Lab 2._printer._sub._ipp._tcp.local." ∧
      ¬ fresh.AsksFor (reference full found) (.member 0) found ∧
      reference full found = reference full ("Lab 2.6" ++ "." ++ "_ipp._tcp.local.") ∧
    checkType spelled = .ok () ∧ ¬ fresh.AsksFor (reference spelled ("Desk" ++ "." ++ spelled))
      (.member 0) ("Desk" ++ "." ++ spelled) := by
  intro full found spelled
  rw [asksFor_iff rfl, asksFor_iff rfl, asksFor_iff rfl]
  decide +kernel

end Platform

end Mdns

end ServiceDiscovery
