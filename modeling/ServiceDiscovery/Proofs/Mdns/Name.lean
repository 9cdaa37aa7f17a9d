import Mathlib.Logic.Basic
import Mathlib.Tactic.ByContra
import ServiceDiscovery.Mdns.ServiceInfo

/-!
What the checks of names come to. A full name is cut at its dots, and the last piece in front of the
protocol is the service. All that can be wrong with a name makes an operation invalid, with one
exception: a service that is an underscore and nothing else.
-/

namespace ServiceDiscovery

namespace Text

variable {α : Type} [DecidableEq α] {separator : α} {cs : List α}

theorem split_of_free (free : separator ∉ cs) : split separator cs = [cs] := by
  induction cs with
  | nil => rfl
  | cons c rest ih =>
      simp only [List.mem_cons, not_or] at free
      simp [split, Ne.symm free.1, ih free.2, prependToFirst]

/-- What stands on either side of a separator is cut by itself. -/
theorem split_append (separator : α) (front back : List α) :
    split separator (front ++ separator :: back) =
      split separator front ++ split separator back := by
  induction front with
  | nil => simp [split]
  | cons c rest ih =>
      simp only [List.cons_append, split, ih]
      split
      · rfl
      · cases hrest : split separator rest with
        | nil => exact absurd hrest (split_ne_nil separator rest)
        | cons piece pieces => rfl

/-- A text has a last separator, or none. -/
theorem exists_last (separator : α) (cs : List α) :
    separator ∉ cs ∨ ∃ front last, cs = front ++ separator :: last ∧ separator ∉ last := by
  by_cases hmem : separator ∈ cs
  · obtain ⟨back, front, hcs, hfree⟩ :=
      List.eq_append_cons_of_mem (List.mem_reverse.mpr hmem)
    refine Or.inr ⟨front.reverse, back.reverse, ?_, by simpa using hfree⟩
    rw [← List.reverse_reverse cs, hcs]
    simp
  · exact Or.inl hmem

theorem split_eq_nil_piece : split separator cs = [[]] ↔ cs = [] := by
  cases cs with
  | nil => simp [split]
  | cons c rest =>
      simp only [split, reduceCtorEq, iff_false]
      split
      · simp [split_ne_nil]
      · cases split separator rest <;> simp [prependToFirst]

/-- When the last piece is a single character, with more than an empty piece in front if there is
any. -/
theorem split_ends_iff {c : α} (hc : separator ≠ c) :
    (split separator cs).getLastD [] = [c] ∧ (split separator cs).dropLast ≠ [[]] ↔
      cs = [c] ∨ ∃ front, front ≠ [] ∧ cs = front ++ [separator, c] := by
  have hpiece (front last : List α) (hfree : separator ∉ last) :
      split separator (front ++ separator :: last) = split separator front ++ [last] := by
    rw [split_append, split_of_free hfree]
  have hsingle : separator ∉ [c] := by simpa using hc
  constructor
  · rintro ⟨hlast, hrest⟩
    rcases exists_last separator cs with hfree | ⟨front, last, rfl, hfree⟩
    · rw [split_of_free hfree] at hlast
      exact Or.inl hlast
    · rw [hpiece front last hfree] at hlast hrest
      obtain rfl : last = [c] := by simpa using hlast
      refine Or.inr ⟨front, ?_, rfl⟩
      simpa [split_eq_nil_piece] using hrest
  · rintro (rfl | ⟨front, hfront, rfl⟩)
    · rw [split_of_free hsingle]
      simp
    · rw [hpiece front [c] hsingle]
      simpa [split_eq_nil_piece] using hfront

end Text

namespace Mdns

open Text (Point Points)

/-- What stands in front of the protocol and the domain of a full name. -/
def body (name : Points) : Points :=
  name.take (name.length - 12)

/-- Does a full name end with a protocol and the local domain? -/
def hasProtocol (name : Points) : Bool :=
  endsWithAnyCase "._tcp.local." name || endsWithAnyCase "._udp.local." name

/-- The service of a full name has nothing behind its underscore. -/
structure Nameless (name : Points) : Prop where
  length : name.length ≤ 256
  protocol : hasProtocol name = true
  service : body name = [.char '_'] ∨
    ∃ front, front ≠ [] ∧ body name = front ++ [.char '.', .char '_']

variable {strict : Bool} {name : Points} {parts : List Points}

theorem checkLabel_emptyLabel {label : Points} :
    checkLabel strict label = .error .emptyLabel ↔ label = [] := by
  cases label with
  | nil => cases strict <;> exact ⟨fun _ => rfl, fun _ => rfl⟩
  | cons c rest =>
      simp only [checkLabel, List.isEmpty_cons, reduceCtorEq, iff_false]
      grind

theorem checkService_emptyLabel : checkService strict name parts = .error .emptyLabel ↔
    parts.getLastD [] = [.char '_'] ∧ parts.dropLast ≠ [[]] := by
  simp only [checkService]
  cases parts.getLastD [] with
  | nil => simp
  | cons c label =>
      by_cases hdot : parts.dropLast = [[]]
      · simp [hdot]
      · by_cases hc : c = .char '_'
        · subst hc
          have hlabel := @checkLabel_emptyLabel strict label
          cases hcheck : checkLabel strict label <;> simp_all [Except.map]
        · simp [hdot, hc]

theorem checkPart_ne_emptyLabel (part : Points) : checkPart part ≠ .error .emptyLabel := by
  simp only [checkPart]
  grind

theorem checkRest_ne_emptyLabel : checkRest parts ≠ .error .emptyLabel := by
  have hpart := checkPart_ne_emptyLabel
  simp only [checkRest]
  grind

theorem nameless_iff (strict : Bool) : Nameless name ↔ name.length ≤ 256 ∧
    hasProtocol name = true ∧
      checkService strict name (Text.split (.char '.') (body name)) = .error .emptyLabel := by
  rw [checkService_emptyLabel, Text.split_ends_iff (by decide)]
  constructor
  · rintro ⟨hlength, hprotocol, hservice⟩
    exact ⟨hlength, hprotocol, hservice⟩
  · rintro ⟨hlength, hprotocol, hservice⟩
    exact ⟨hlength, hprotocol, hservice⟩

/-- Only a name without a service meets with the fault that nobody expects. -/
theorem checkName_emptyLabel : checkName strict name = .error .emptyLabel ↔ Nameless name := by
  rw [nameless_iff strict]
  simp only [checkName]
  rw [← hasProtocol, ← body]
  by_cases hlength : 256 < name.length
  · have hshort : ¬ name.length ≤ 256 := by omega
    simp [hlength, hshort]
  · rw [if_neg hlength]
    simp only [Nat.not_lt.mp hlength, true_and]
    by_cases hprotocol : hasProtocol name = true
    · simp only [hprotocol, if_true, true_and]
      cases hservice : checkService strict name (Text.split (.char '.') (body name)) with
      | error fault => simp [bind, Except.bind]
      | ok found =>
          have hrest := @checkRest_ne_emptyLabel found.2
          cases hcheck : checkRest found.2 <;> simp_all [bind, Except.bind]
    · have hrest := @checkRest_ne_emptyLabel (Text.split (.char '.') (name.take (name.length - 7)))
      simp only [hprotocol]
      cases hcheck : checkRest (Text.split (.char '.') (name.take (name.length - 7))) <;>
        cases strict <;> cases endsWithAnyCase ".local." name <;>
        simp_all [bind, Except.bind]

theorem checkType_emptyLabel {type : Points} :
    checkType type = .error .emptyLabel ↔ Nameless type := by
  rw [← @checkName_emptyLabel true, checkType]
  cases checkName true type <;> simp [Except.map]

theorem checkInstance_emptyLabel {type full : Points} :
    checkInstance type full = .error .emptyLabel ↔ Nameless full := by
  rw [← @checkName_emptyLabel false, checkInstance]
  cases checkName false full with
  | error fault => simp
  | ok found =>
      simp only [reduceCtorEq, iff_false]
      split <;> simp

theorem checkService_ok {found : Points × List Points}
    (accepted : checkService strict name parts = .ok found) :
    ∃ label, label ≠ [] ∧ parts.getLastD [] = .char '_' :: label := by
  simp only [checkService] at accepted
  cases hservice : parts.getLastD [] with
  | nil =>
      rw [hservice] at accepted
      cases accepted
  | cons c label =>
      rw [hservice] at accepted
      by_cases hdot : parts.dropLast = [[]]
      · simp [hdot] at accepted
      · by_cases hc : c = .char '_'
        · subst hc
          refine ⟨label, ?_, rfl⟩
          rintro rfl
          have hempty := (@checkLabel_emptyLabel strict []).mpr rfl
          simp [hdot, hempty, Except.map] at accepted
        · simp [hdot, hc] at accepted

/-- A type that is accepted has a protocol, and in front of it a service with a label. -/
theorem checkType_ok {type : Points} (accepted : checkType type = .ok ()) :
    hasProtocol type = true ∧ ∃ label, label ≠ [] ∧
      (Text.split (.char '.') (body type)).getLastD [] = .char '_' :: label := by
  simp only [checkType, checkName] at accepted
  rw [← hasProtocol, ← body] at accepted
  split at accepted
  · cases accepted
  · split at accepted
    · rename_i hprotocol
      refine ⟨hprotocol, ?_⟩
      cases hservice : checkService true type (Text.split (.char '.') (body type)) with
      | error fault =>
          rw [hservice] at accepted
          cases accepted
      | ok found => exact checkService_ok hservice
    · cases accepted

/-- The name of an instance has the service of its type. -/
theorem not_nameless_of_checkType {name type : Points} (accepted : checkType type = .ok ()) :
    ¬ Nameless (name ++ "." ++ type) := by
  obtain ⟨-, label, hlabel, hlast⟩ := checkType_ok accepted
  have hlong : 12 < type.length := by
    by_contra hshort
    have hnil : body type = [] := by
      rw [body, Nat.sub_eq_zero_of_le (Nat.not_lt.mp hshort), List.take_zero]
    rw [hnil] at hlast
    cases hlast
  have hbody : body (name ++ "." ++ type) = name ++ .char '.' :: body type := by
    have hfull : name ++ "." ++ type = (name ++ [Point.char '.']) ++ type := rfl
    rw [body, hfull, List.length_append, Nat.add_sub_assoc (Nat.le_of_lt hlong),
      List.take_length_add_append, body]
    simp
  intro nameless
  have hpieces := ((Text.split_ends_iff (by decide)).mpr nameless.service).1
  rw [hbody, Text.split_append, List.getLastD_eq_getLast?, List.getLast?_append] at hpieces
  rw [List.getLastD_eq_getLast?] at hlast
  cases hpiece : (Text.split (.char '.') (body type)).getLast? with
  | none => simp [hpiece] at hlast
  | some piece => simp_all

end Mdns

end ServiceDiscovery
