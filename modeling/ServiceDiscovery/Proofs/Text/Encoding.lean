import Mathlib.Data.List.TakeWhile
import ServiceDiscovery.Text.Encoding

/-!
Which texts have bytes. A text is well formed if there is no half of a surrogate pair in it; exactly
these are strings, and exactly these can be encoded.
-/

namespace ServiceDiscovery.Text.Points

variable {points : Points} {bs : List UInt8}

/-- Are all points of a text characters? -/
def WellFormed (points : Points) : Prop :=
  ∀ point ∈ points, point.char?.isSome = true

theorem wellFormed_ofString (s : String) : (ofString s).WellFormed := by
  intro point hmem
  obtain ⟨c, -, rfl⟩ := List.mem_map.mp hmem
  rfl

theorem shown_ofString (s : String) : (ofString s).shown = s := by
  have hchars : Point.shown ∘ Point.char = id := rfl
  rw [shown, shownChars, ofString, ofChars, List.map_map, hchars, List.map_id, String.ofList_toList]

theorem WellFormed.eq_ofString (hwhole : points.WellFormed) : points = ofString points.shown := by
  rw [ofString, shown, String.toList_ofList, ofChars, shownChars, List.map_map]
  have hsame : points.map (Point.char ∘ Point.shown) = points.map id := by
    refine List.map_congr_left fun point hmem => ?_
    cases point with
    | char c => rfl
    | half code => cases hwhole _ hmem
  rw [hsame, List.map_id]

/-- The texts without halves are the strings. -/
theorem wellFormed_iff : points.WellFormed ↔ ∃ s, points = ofString s := by
  constructor
  · intro hwhole
    exact ⟨_, hwhole.eq_ofString⟩
  · rintro ⟨s, rfl⟩
    exact wellFormed_ofString s

/-- What a text is refused for is there exactly if it is not well formed. -/
theorem unencodable?_eq_none : points.unencodable? = none ↔ points.WellFormed := by
  have hnil : points.WellFormed ↔ points.dropWhile (fun point => point.char?.isSome) = [] :=
    List.dropWhile_eq_nil_iff.symm
  rw [hnil, unencodable?]
  cases hrest : points.dropWhile fun point => point.char?.isSome with
  | nil => simp
  | cons point rest =>
      have hfirst : point.char?.isSome = false := by
        have := List.dropWhile_get_zero_not (fun point : Point => point.char?.isSome) points
          (by rw [hrest]; exact Nat.succ_pos _)
        simpa [hrest] using this
      cases point with
      | char c => cases hfirst
      | half code => simp

theorem encode_ofString (s : String) : (ofString s).encode = .ok (Utf8.encode s) := by
  have hshown : (ofString s).shownChars = s.toList := by
    rw [← String.toList_ofList (l := (ofString s).shownChars)]
    exact congrArg String.toList (shown_ofString s)
  rw [encode, unencodable?_eq_none.mpr (wellFormed_ofString s), hshown]
  rfl

theorem encode_ok_iff : points.encode = .ok bs ↔ ∃ s, points = ofString s ∧ Utf8.encode s = bs := by
  constructor
  · intro hencoded
    have hwhole : points.WellFormed := by
      rw [← unencodable?_eq_none]
      cases hrun : points.unencodable? with
      | none => rfl
      | some run =>
          rw [encode, hrun] at hencoded
          cases hencoded
    obtain ⟨s, rfl⟩ := wellFormed_iff.mp hwhole
    rw [encode_ofString] at hencoded
    exact ⟨s, rfl, Except.ok.inj hencoded⟩
  · rintro ⟨s, rfl, rfl⟩
    exact encode_ofString s

end ServiceDiscovery.Text.Points
