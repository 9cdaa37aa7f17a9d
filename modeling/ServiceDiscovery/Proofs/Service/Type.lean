import ServiceDiscovery.Service.Type

/-!
What normalising makes of a type that ends as a type should. In front go the blanks, and then one
dot. Behind nothing goes but the local domain, if the type is in full. So the front is all that two
types can differ in of which one was made from the other.
-/

namespace ServiceDiscovery

namespace Text

variable {α : Type} {drop : α → Bool} {last : α} {cs : List α}

theorem dropWhile_of_head (kept : ∀ c ∈ cs.head?, drop c = false) : cs.dropWhile drop = cs := by
  cases cs with
  | nil => rfl
  | cons c rest => exact List.dropWhile_cons_of_neg (by simp [kept c rfl])

theorem trimRight_of_getLast (kept : ∀ c ∈ cs.getLast?, drop c = false) :
    trimRight drop cs = cs := by
  rw [trimRight, dropWhile_of_head, List.reverse_reverse]
  simpa using kept

theorem trimRight_append_of_all {tail : List α} (drops : ∀ c ∈ tail, drop c = true)
    (front : List α) : trimRight drop (front ++ tail) = trimRight drop front := by
  rw [trimRight, List.reverse_append, List.dropWhile_append_of_pos, ← trimRight]
  intro c hc
  exact drops c (List.mem_reverse.mp hc)

theorem trimRight_of_last (keeps : drop last = false) (front : List α) :
    trimRight drop (front ++ [last]) = front ++ [last] :=
  trimRight_of_getLast (by simpa using keeps)

/-- What is not dropped itself keeps all that stands behind it. -/
theorem dropWhile_append_keeping {kept : α} (keeps : drop kept = false)
    (front rest : List α) :
    (front ++ kept :: rest).dropWhile drop = front.dropWhile drop ++ kept :: rest := by
  induction front with
  | nil => simp [keeps]
  | cons c front ih =>
      cases hc : drop c with
      | true => simpa [hc] using ih
      | false => simp [hc]

end Text

namespace ServiceType

open Text

/-- Takes the blanks off the front, and then one dot. -/
def withoutLead (type : Points) : Points :=
  withoutDot (type.dropWhile Point.isBlank)

/-- Does the text begin with a blank or a dot? -/
def isLed (type : Points) : Bool :=
  type.head?.any fun c => c.isBlank || c == .char '.'

/-- The text ends with a point that trimming leaves there, and not with the local domain. -/
structure Firm (type : Points) : Prop where
  last : ∃ front last, type = front ++ [last] ∧ last.isBlank = false ∧ last ≠ .char '.'
  bare : ¬ localSuffix <:+ type

variable {type : Points} {last : Point}

theorem localSuffix_eq_cons : localSuffix = .char '.' :: Points.ofString "local" := rfl

theorem localSuffix_eq_append : localSuffix = Points.ofString ".loca" ++ [.char 'l'] := rfl

theorem qualify_eq (type : Points) : qualify type = normalize type ++ ".local." :=
  List.append_assoc ..

theorem withoutDot_suffix (type : Points) : withoutDot type <:+ type := by
  unfold withoutDot
  split
  · exact List.suffix_cons _ _
  · exact List.suffix_refl type

theorem withoutDot_of_head (kept : ∀ c ∈ type.head?, (c == .char '.') = false) :
    withoutDot type = type := by
  cases type with
  | nil => rfl
  | cons c rest =>
      have hc : c ≠ .char '.' := by simpa using kept c rfl
      simp [withoutDot, hc]

theorem withoutDot_append (hlast : last ≠ .char '.') (front rest : Points) :
    withoutDot (front ++ last :: rest) = withoutDot front ++ last :: rest := by
  cases front with
  | nil => simp [withoutDot, hlast]
  | cons c front =>
      by_cases hc : c = .char '.'
      · subst hc
        rfl
      · simp [withoutDot, hc]

theorem withoutLead_suffix (type : Points) : withoutLead type <:+ type :=
  (withoutDot_suffix _).trans (List.dropWhile_suffix Point.isBlank)

/-- A point that is not taken off the front keeps all that stands behind it. -/
theorem withoutLead_append (hblank : last.isBlank = false) (hdot : last ≠ .char '.')
    (front rest : Points) :
    withoutLead (front ++ last :: rest) = withoutLead front ++ last :: rest := by
  rw [withoutLead, dropWhile_append_keeping hblank, withoutDot_append hdot, ← withoutLead]

/-- What begins neither with a blank nor with a dot stays as it is. -/
theorem withoutLead_eq_self : withoutLead type = type ↔ isLed type = false := by
  cases type with
  | nil => simp [withoutLead, withoutDot, isLed]
  | cons c rest =>
      simp only [isLed, List.head?_cons, Option.any_some, Bool.or_eq_false_iff, beq_eq_false_iff_ne]
      constructor
      · intro hsame
        have hshort {shorter : Points} (h : shorter <:+ rest) : shorter ≠ c :: rest := by
          rintro rfl
          exact absurd h.length_le (by simp)
        constructor
        · apply Bool.eq_false_iff.mpr
          intro hblank
          rw [withoutLead, List.dropWhile_cons_of_pos hblank] at hsame
          exact hshort (withoutLead_suffix rest) hsame
        · rintro rfl
          exact hshort (List.suffix_refl rest) hsame
      · rintro ⟨hblank, hdot⟩
        exact withoutLead_append hblank hdot [] rest

/-- What is the same after all that was taken off twice was the same after the first time. -/
theorem withoutLead_twice_eq_self :
    withoutLead (withoutLead type) = type ↔ isLed type = false := by
  rw [← withoutLead_eq_self]
  constructor
  · intro hsame
    apply (withoutLead_suffix type).eq_of_length_le
    rw [← congrArg List.length hsame]
    exact (withoutLead_suffix _).length_le
  · intro hsame
    rw [hsame, hsame]

theorem Firm.withoutLead (firm : Firm type) : Firm (withoutLead type) := by
  obtain ⟨⟨front, last, rfl, hblank, hdot⟩, bare⟩ := firm
  constructor
  · exact ⟨_, last, withoutLead_append hblank hdot front [], hblank, hdot⟩
  · exact fun hsuffix => bare (hsuffix.trans (withoutLead_suffix _))

/-- Nothing is taken off behind. -/
theorem normalize_of_firm (firm : Firm type) : normalize type = withoutLead type := by
  have hbare := firm.withoutLead.bare
  obtain ⟨⟨front, last, rfl, hblank, hdot⟩, -⟩ := firm
  have htrim : trim Point.isBlank (front ++ [last]) = front.dropWhile Point.isBlank ++ [last] := by
    rw [trim, dropWhile_append_keeping hblank, trimRight_of_last hblank]
  have hdots : trimRight (· == .char '.') (withoutLead (front ++ [last])) =
      withoutLead (front ++ [last]) := by
    rw [withoutLead_append hblank hdot, trimRight_of_last (by simpa using hdot)]
  rw [normalize, htrim, ← dropWhile_append_keeping hblank, ← withoutLead, hdots, withoutSuffix,
    if_neg (by simpa using hbare)]

theorem trimRight_domain (front : Points) :
    trimRight (· == .char '.') (front ++ localSuffix ++ [.char '.']) = front ++ localSuffix := by
  rw [trimRight_append_of_all (by simp), localSuffix_eq_append, ← List.append_assoc,
    trimRight_of_last (by decide)]

/-- Behind a type with more than blanks in it only the local domain goes. -/
theorem normalize_domain (hsome : type.dropWhile Point.isBlank ≠ []) :
    normalize (type ++ localSuffix ++ [.char '.']) = withoutLead type := by
  have hfull : (type ++ localSuffix ++ [Point.char '.']).dropWhile Point.isBlank =
      type.dropWhile Point.isBlank ++ localSuffix ++ [.char '.'] := by
    rw [List.append_assoc, List.append_assoc, localSuffix_eq_cons]
    exact dropWhile_append_keeping (by decide) type _
  have hdot : withoutDot (type.dropWhile Point.isBlank ++ localSuffix ++ [.char '.']) =
      withoutLead type ++ localSuffix ++ [.char '.'] := by
    obtain ⟨c, rest, hrest⟩ := List.exists_cons_of_ne_nil hsome
    rw [withoutLead, hrest]
    by_cases hc : c = .char '.'
    · subst hc
      rfl
    · simp [withoutDot, hc]
  rw [normalize, trim, hfull, trimRight_of_last (by decide), hdot, trimRight_domain,
    withoutSuffix, if_pos (by simp), List.length_append, Nat.add_sub_cancel, List.take_left]

/-- Only the local domain is taken off behind. -/
theorem normalize_full (firm : Firm type) :
    normalize (type ++ localSuffix ++ [.char '.']) = withoutLead type := by
  obtain ⟨⟨front, last, rfl, hblank, -⟩, -⟩ := firm
  apply normalize_domain
  rw [dropWhile_append_keeping hblank]
  simp

end ServiceType

end ServiceDiscovery
