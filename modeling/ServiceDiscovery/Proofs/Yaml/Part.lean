import ServiceDiscovery.Yaml.Part

/-!
What can be said of the value of a part without putting it together: whether it counts as something,
and which entries there are to look into.
-/

namespace ServiceDiscovery.Yaml

namespace Part

/-- Does a part count as something, whatever the parts in it are? -/
def isTruthy : Part → Bool
  | .single value => value.isTruthy
  | .noNumber => true
  | .list items | .set items => !items.isEmpty
  | .pairs items | .map items => !items.isEmpty

def isMapping : Part → Bool
  | .map _ => true
  | _ => false

/-- The entries of a part, of which only a mapping has any. -/
def entries : Part → List (Nat × Nat)
  | .map entries => entries
  | _ => []

end Part

namespace Document

section Gathering

variable {α β : Type} {make : α → StateM Known (β × Bool)} {items : List α}

theorem length_gather (make : α → StateM Known (β × Bool)) (items : List α) (known : Known) :
    ((gather make items).run known).1.1.length = items.length := by
  have hmade : ∀ known, ((items.mapM make).run known).1.length = items.length := by
    induction items with
    | nil => exact fun _ => rfl
    | cons item rest ih =>
        intro known
        rw [List.mapM_cons]
        exact congrArg (· + 1) (ih ((make item).run known).2)
  exact (List.length_map _).trans (hmade known)

theorem isEmpty_of_gather {made : List β} {marked : Bool} {known after : Known}
    (hmade : (gather make items).run known = ((made, marked), after)) :
    made.isEmpty = items.isEmpty := by
  have hlength : made.length = items.length := by
    rw [← length_gather make items known, hmade]
  rw [Bool.eq_iff_iff, List.isEmpty_iff_length_eq_zero, List.isEmpty_iff_length_eq_zero, hlength]

end Gathering

variable (document : Document)

def isMapping (number : Nat) : Bool :=
  document.parts[number]?.any Part.isMapping

/-- The entries of the part with a number. -/
def entries (number : Nat) : List (Nat × Nat) :=
  (document.parts[number]?.map Part.entries).getD []

/-- The part that all others are in. -/
def rootPart? : Option Part :=
  document.root.bind fun root => document.parts[root]?

/-- The entries of the document itself. -/
def top : List (Nat × Nat) :=
  (document.rootPart?.map Part.entries).getD []

/-- The entries of a section. One that is not there has none. -/
def sectionEntries (name : String) : List (Nat × Nat) :=
  ((document.find? name document.top).map document.entries).getD []

/-- The part under a key of a section. -/
def given? (group key : String) : Option Nat :=
  document.find? key (document.sectionEntries group)

variable {document} {number : Nat}

theorem isMapping_iff : document.isMapping number = true ↔
    document.parts[number]? = some (.map (document.entries number)) := by
  unfold isMapping entries
  rcases document.parts[number]? with _ | (_ | _ | _ | _ | _ | entries)
  all_goals simp [Part.isMapping, Part.entries]

theorem entries_of_not_mapping (hmapping : document.isMapping number = false) :
    document.entries number = [] := by
  unfold isMapping at hmapping
  unfold entries
  rcases hpart : document.parts[number]? with _ | (_ | _ | _ | _ | _ | entries)
  all_goals simp_all [Part.isMapping, Part.entries]

/-- Whether a value counts as something shows in its part. -/
theorem isTruthy_value :
    (document.value number).isTruthy = document.parts[number]?.any Part.isTruthy := by
  unfold value unfold
  simp only [StateT.run_bind]
  cases hpart : document.parts[number]? with
  | none =>
      have hbound : document.parts.size ≤ number := Array.getElem?_eq_none_iff.mp hpart
      simp only [StateT.run_get, pure_bind, Array.size_replicate, Nat.not_lt, hbound,
        getElem?_neg]
      rfl
  | some part =>
      have hbound := (Array.getElem?_eq_some_iff.mp hpart).1
      simp only [StateT.run_get, pure_bind, Array.size_replicate, hbound, getElem?_pos,
        Array.getElem_replicate, List.contains_nil, Bool.false_eq_true, if_false, Option.any_some]
      cases part
      case single value => rfl
      case noNumber => rfl
      -- Collections keep the number of their items, whatever becomes of these.
      all_goals
        simp only [Part.single?, StateT.run_bind]
        generalize hmade : StateT.run (gather _ _) _ = made
        obtain ⟨⟨made, marked⟩, known⟩ := made
        have hempty := isEmpty_of_gather hmade
      case pairs => cases marked <;> cases made <;> exact congrArg not hempty
      all_goals cases marked <;> exact congrArg not hempty

end Document

end ServiceDiscovery.Yaml
