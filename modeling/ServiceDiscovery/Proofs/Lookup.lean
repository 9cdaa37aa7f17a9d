/-!
Lists of entries that are looked up by a key: what is found in front of others, and what is left to
find once all entries of a key are gone.
-/

namespace ServiceDiscovery

variable {κ α : Type} [BEq κ] [LawfulBEq κ] [DecidableEq κ]

theorem lookup_entry_cons (key : κ) (kept : α) (entries : List (κ × α)) (other : κ) :
    ((key, kept) :: entries).lookup other =
      if other = key then some kept else entries.lookup other := by
  by_cases h : other = key
  · simp [h]
  · simp [List.lookup_cons, beq_eq_false_iff_ne.mpr h, h]

theorem lookup_filter_ne (key : κ) (entries : List (κ × α)) (other : κ) :
    (entries.filter (·.1 ≠ key)).lookup other =
      if other = key then none else entries.lookup other := by
  induction entries with
  | nil => simp
  | cons entry rest ih =>
      obtain ⟨owner, kept⟩ := entry
      by_cases howner : owner = key
      · rw [List.filter_cons_of_neg (by simpa using howner), ih, lookup_entry_cons, howner]
        split <;> rfl
      · rw [List.filter_cons_of_pos (by simpa using howner), lookup_entry_cons,
          lookup_entry_cons, ih]
        by_cases h : other = owner
        · simp [h, howner]
        · simp [h]

end ServiceDiscovery
