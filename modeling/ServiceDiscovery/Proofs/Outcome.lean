import Mathlib.Data.List.Forall2

/-!
Chains of steps each of which may fail. A chain that comes to its end has got through each step, and
what its first step gave is where the rest went on from.
-/

namespace ServiceDiscovery

variable {ε α β : Type} {first : Except ε α} {next : α → Except ε β} {result : β}

theorem exists_of_bind_ok (h : first >>= next = .ok result) :
    ∃ a, first = .ok a ∧ next a = .ok result := by
  cases first with
  | ok a => exact ⟨a, rfl, h⟩
  | error fault => cases h

theorem bind_ok_iff : first >>= next = .ok result ↔ ∃ a, first = .ok a ∧ next a = .ok result := by
  constructor
  · exact exists_of_bind_ok
  · rintro ⟨a, rfl, h⟩
    exact h

theorem map_ok_iff {f : α → β} : first.map f = .ok result ↔ ∃ a, first = .ok a ∧ f a = result := by
  cases first with
  | ok a => simp [Except.map]
  | error fault => simp [Except.map]

/-- A result that passes a check is there. -/
theorem exists_ok_of_any {check : α → Bool} (h : first.toOption.any check = true) :
    ∃ a, first = .ok a ∧ check a = true := by
  cases first with
  | ok a => exact ⟨a, rfl, h⟩
  | error fault => cases h

theorem error_iff_not_ok : (∃ fault, first = .error fault) ↔ ¬ ∃ a, first = .ok a := by
  cases first with
  | ok a => simp
  | error fault => simp

theorem map_error_iff {f : α → β} {fault : ε} :
    first.map f = .error fault ↔ first = .error fault := by
  cases first with
  | ok a => simp [Except.map]
  | error fault => simp [Except.map]

section Lists

variable {γ : Type} {read : α → Except ε β} {items : List α}

/-- Items that are read one by one into something are all read and then put into it. -/
theorem foldlM_read (read : α → Except ε β) (put : γ → β → γ) (items : List α) (made : γ) :
    items.foldlM (fun made item => do return put made (← read item)) made =
      (items.mapM read).map fun results => results.foldl put made := by
  induction items generalizing made with
  | nil => rfl
  | cons item rest ih =>
      rw [List.foldlM_cons, List.mapM_cons]
      cases hitem : read item with
      | error fault => rfl
      | ok result =>
          change rest.foldlM _ (put made result) = _
          rw [ih]
          cases rest.mapM read <;> rfl

/-- Items that are read one by one are all read, each to the result in its place. -/
theorem mapM_ok_iff {results : List β} : items.mapM read = .ok results ↔
    List.Forall₂ (fun item result => read item = .ok result) items results := by
  induction items generalizing results with
  | nil => simp [pure, Except.pure, eq_comm]
  | cons item rest ih =>
      simp only [List.mapM_cons, List.forall₂_cons_left_iff, ← ih, bind_ok_iff, pure, Except.pure,
        Except.ok.injEq, eq_comm (b := results)]
      grind

theorem mapM_error_iff : (∃ fault, items.mapM read = .error fault) ↔
    ∃ item ∈ items, ∃ fault, read item = .error fault := by
  induction items with
  | nil => simp [pure, Except.pure]
  | cons item rest ih =>
      simp only [List.mapM_cons, List.mem_cons, exists_eq_or_imp, ← ih]
      cases read item with
      | error fault => simp [bind, Except.bind]
      | ok result => cases rest.mapM read <;> simp [bind, Except.bind, pure, Except.pure]

end Lists

end ServiceDiscovery
