import ServiceDiscovery.Proofs.Service.Type

/-!
The spellings of a type. A bare type may be given with blanks around it, with a dot in front, with
the local domain and with dots behind. Whatever of these it is given with, it normalises to the bare
type, so two spellings come to the same exactly when they spell the same type.
-/

namespace ServiceDiscovery

namespace Text

variable {α : Type} {drop : α → Bool} {cs : List α}

/-- A text that trimming leaves alone, because it is kept at both ends. -/
structure KeptAtEnds (drop : α → Bool) (cs : List α) : Prop where
  front : ∀ c ∈ cs.head?, drop c = false
  back : ∀ c ∈ cs.getLast?, drop c = false

instance (drop : α → Bool) (cs : List α) : Decidable (KeptAtEnds drop cs) :=
  decidable_of_iff (cs.head?.any drop = false ∧ cs.getLast?.any drop = false)
    ⟨fun kept => ⟨(Option.any_eq_false _ _).mp kept.1, (Option.any_eq_false _ _).mp kept.2⟩,
      fun kept => ⟨(Option.any_eq_false _ _).mpr kept.front,
        (Option.any_eq_false _ _).mpr kept.back⟩⟩

namespace KeptAtEnds

theorem of_all (kept : ∀ c ∈ cs, drop c = false) : KeptAtEnds drop cs where
  front c hc := kept c (List.mem_of_mem_head? hc)
  back c hc := kept c (List.mem_of_mem_getLast? hc)

theorem append {ds : List α} (hcs : KeptAtEnds drop cs) (hds : KeptAtEnds drop ds) :
    KeptAtEnds drop (cs ++ ds) := by
  constructor
  · intro c hc
    rw [List.head?_append, Option.mem_def, Option.or_eq_some_iff] at hc
    rcases hc with hc | ⟨-, hc⟩
    · exact hcs.front c hc
    · exact hds.front c hc
  · intro c hc
    rw [List.getLast?_append, Option.mem_def, Option.or_eq_some_iff] at hc
    rcases hc with hc | ⟨-, hc⟩
    · exact hds.back c hc
    · exact hcs.back c hc

/-- Trimming takes off what is dropped around a text, and stops there. -/
theorem trim_between (kept : KeptAtEnds drop cs) {before behind : List α}
    (hbefore : ∀ c ∈ before, drop c = true) (hbehind : ∀ c ∈ behind, drop c = true) :
    trim drop (before ++ cs ++ behind) = cs := by
  rw [trim, List.append_assoc, List.dropWhile_append_of_pos hbefore]
  cases cs with
  | nil =>
    rw [List.nil_append, ← List.append_nil behind, List.dropWhile_append_of_pos hbehind]
    rfl
  | cons c rest =>
    rw [dropWhile_of_head, trimRight_append_of_all hbehind, trimRight_of_getLast kept.back]
    exact kept.front

end KeptAtEnds

end Text

namespace ServiceType

open Text

variable {type other : Points}

/-- Is the type bare? Then it is not empty, has no blank and no dot at either end, and does not end
with the local domain. -/
structure Bare (type : Points) : Prop where
  nonempty : type ≠ []
  blanks : KeptAtEnds Point.isBlank type
  dots : KeptAtEnds (· == .char '.') type
  domain : ¬ localSuffix <:+ type

instance (type : Points) : Decidable (Bare type) :=
  decidable_of_iff (type ≠ [] ∧ KeptAtEnds Point.isBlank type ∧
      KeptAtEnds (· == .char '.') type ∧ ¬ localSuffix <:+ type)
    ⟨fun ⟨nonempty, blanks, dots, domain⟩ => ⟨nonempty, blanks, dots, domain⟩,
      fun bare => ⟨bare.nonempty, bare.blanks, bare.dots, bare.domain⟩⟩

/-- What a bare type may be given with. -/
structure Spelling where
  before : Points := []
  dotted : Bool := false
  full : Bool := false
  dots : Nat := 0
  behind : Points := []
  before_blank : before.all Point.isBlank = true := by decide
  behind_blank : behind.all Point.isBlank = true := by decide

namespace Spelling

/-- The dot in front of a type, if it is given with one. -/
def lead (spelling : Spelling) : Points :=
  if spelling.dotted then [.char '.'] else []

def domain (spelling : Spelling) : Points :=
  if spelling.full then localSuffix else []

/-- The text of a type that is given in this spelling. -/
def spell (spelling : Spelling) (type : Points) : Points :=
  spelling.before ++
    (spelling.lead ++ type ++ spelling.domain ++ List.replicate spelling.dots (.char '.')) ++
      spelling.behind

variable (spelling : Spelling)

/-- Nothing between the blanks begins or ends with one. -/
theorem keptAtEnds (bare : Bare type) : KeptAtEnds Point.isBlank
    (spelling.lead ++ type ++ spelling.domain ++ List.replicate spelling.dots (.char '.')) := by
  have hlead : KeptAtEnds Point.isBlank spelling.lead := by
    unfold lead
    split <;> decide
  have hdomain : KeptAtEnds Point.isBlank spelling.domain := by
    unfold domain
    split <;> decide
  have hdots : KeptAtEnds Point.isBlank (List.replicate spelling.dots (.char '.')) := by
    apply KeptAtEnds.of_all
    intro c hc
    rw [List.eq_of_mem_replicate hc]
    decide
  exact ((hlead.append bare.blanks).append hdomain).append hdots

theorem withoutDot_lead (bare : Bare type) (rest : Points) :
    withoutDot (spelling.lead ++ (type ++ rest)) = type ++ rest := by
  have hkept : ∀ c ∈ (type ++ rest).head?, (c == .char '.') = false := by
    cases htype : type with
    | nil => exact absurd htype (by simpa using bare.nonempty)
    | cons c tail => simpa [htype] using bare.dots.front
  unfold lead
  split
  · rfl
  · exact withoutDot_of_head hkept

theorem withoutSuffix_domain (bare : Bare type) :
    withoutSuffix localSuffix (type ++ spelling.domain) = type := by
  unfold domain
  split
  · simp [withoutSuffix]
  · simp [withoutSuffix, bare.domain]

/-- With the domain or without it, the type does not end with a dot. -/
theorem trimRight_dots (bare : Bare type) :
    trimRight (· == .char '.')
        (type ++ spelling.domain ++ List.replicate spelling.dots (.char '.')) =
      type ++ spelling.domain := by
  have hlast : ∀ c ∈ (type ++ spelling.domain).getLast?, (c == .char '.') = false := by
    unfold domain
    split
    · simp [localSuffix_eq_append]
    · rw [List.append_nil]
      exact bare.dots.back
  rw [trimRight_append_of_all (by simp), trimRight_of_getLast hlast]

theorem normalize_spell (bare : Bare type) : normalize (spelling.spell type) = type := by
  rw [spell, normalize,
    (spelling.keptAtEnds bare).trim_between (List.all_eq_true.mp spelling.before_blank)
      (List.all_eq_true.mp spelling.behind_blank),
    List.append_assoc, List.append_assoc, withoutDot_lead spelling bare, ← List.append_assoc,
    trimRight_dots spelling bare, withoutSuffix_domain spelling bare]

theorem qualify_spell (bare : Bare type) : qualify (spelling.spell type) = type ++ ".local." := by
  rw [qualify_eq, spelling.normalize_spell bare]

end Spelling

/-- All spellings of a bare type normalise to it and have one full form, and no two bare types share
a spelling or what it normalises to. -/
theorem spellings_agree (bare : Bare type) (spelling : Spelling) :
    normalize (spelling.spell type) = type ∧ qualify (spelling.spell type) = type ++ ".local." ∧
      ∀ other, Bare other → ∀ spelled : Spelling,
        (normalize (spelling.spell type) = normalize (spelled.spell other) ↔ type = other) := by
  refine ⟨spelling.normalize_spell bare, spelling.qualify_spell bare, ?_⟩
  intro other hother spelled
  rw [spelling.normalize_spell bare, spelled.normalize_spell hother]

/-- A type that is called like the domain, given with all that a type may be given with. It is told
from another type that has the domain in its middle. -/
theorem spellings_agree_of_local :
    let ornate : Spelling :=
      { before := "\u2003 ", dotted := true, full := true, dots := 2, behind := "\n" }
    Bare "local" ∧ ornate.spell "local" = "\u2003 .local.local..\n" ∧
      normalize (ornate.spell "local") = "local" ∧
      qualify (ornate.spell "local") = "local.local." ∧
      Bare "a.local.b" ∧
        normalize (ornate.spell "local") ≠ normalize (ornate.spell "a.local.b") := by
  intro ornate
  have bare : Bare "local" := by decide
  have bareOther : Bare "a.local.b" := by decide
  obtain ⟨hnormal, hfull, hagree⟩ := spellings_agree bare ornate
  refine ⟨bare, by decide, hnormal, hfull, bareOther, ?_⟩
  rw [Ne, hagree "a.local.b" bareOther ornate]
  decide

end ServiceType

end ServiceDiscovery
