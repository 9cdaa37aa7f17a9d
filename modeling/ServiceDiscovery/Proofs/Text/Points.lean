import Mathlib.Data.List.Chain
import ServiceDiscovery.Text.Points

/-!
Pairs of surrogate halves. Where text is written in units of sixteen bits, a character past the
first plane takes two of them, a high half and a low one, and a reader joins such halves again. So
it gives back the points that were written, but for halves that made a pair already.
-/

namespace ServiceDiscovery.Text

/-- The number of a character names no half of a pair and is not past the last one. -/
theorem toNat_valid (c : Char) :
    c.toNat < 0xD800 ∨ 0xDFFF < c.toNat ∧ c.toNat < 0x110000 :=
  c.valid

namespace Point

/-- The points that a point takes in units of sixteen bits. -/
def units : Point → Points
  | .half h => [.half h]
  | .char c =>
      if c.toNat < 0x10000 then [.char c]
      else
        let n := c.toNat - 0x10000
        [ofCode (0xD800 + n / 0x400), ofCode (0xDC00 + n % 0x400)]

/-- The character that a high half and a low one make. -/
def joined? : Point → Point → Option Char
  | .half high, .half low =>
      if high.code < 0xDC00 && 0xDC00 ≤ low.code then
        some (Char.ofNat (0x10000 + (high.code - 0xD800) * 0x400 + (low.code - 0xDC00)))
      else none
  | _, _ => none

/-- Puts a point in front of others, joined with the first of them if they are a pair. -/
def attach (point : Point) : Points → Points
  | [] => [point]
  | next :: rest =>
      match joined? point next with
      | some c => .char c :: rest
      | none => point :: next :: rest

theorem ofCode_of_half {code : Nat} (hleast : 0xD800 ≤ code) (hmost : code ≤ 0xDFFF) :
    ofCode code = .half ⟨code, hleast, hmost⟩ :=
  dif_pos ⟨hleast, hmost⟩

theorem ofCode_code (h : Half) : ofCode h.code = .half h :=
  ofCode_of_half h.least h.most

theorem ofCode_toNat (c : Char) : ofCode c.toNat = .char c := by
  have hvalid := toNat_valid c
  have hwhole : ¬ (0xD800 ≤ c.toNat ∧ c.toNat ≤ 0xDFFF) := by omega
  rw [ofCode, dif_neg hwhole, Char.ofNat_toNat]

theorem units_narrow {c : Char} (hnarrow : c.toNat < 0x10000) : units (.char c) = [.char c] := by
  rw [units, if_pos hnarrow]

theorem units_wide {c : Char} (hwide : ¬ c.toNat < 0x10000) :
    units (.char c) = [ofCode (0xD800 + (c.toNat - 0x10000) / 0x400),
      ofCode (0xDC00 + (c.toNat - 0x10000) % 0x400)] := by
  rw [units, if_neg hwide]

theorem attach_char (c : Char) (points : Points) : attach (.char c) points = .char c :: points := by
  cases points <;> rfl

/-- A low half begins no pair. -/
theorem attach_low {code : Nat} (hcode : 0xDC00 ≤ code) (points : Points) :
    attach (ofCode code) points = ofCode code :: points := by
  cases points with
  | nil => rfl
  | cons next rest =>
      have hnone : joined? (ofCode code) next = none := by
        unfold ofCode
        split
        case isFalse => rfl
        case isTrue =>
          cases next with
          | char c => rfl
          | half low =>
              have hhigh : ¬ code < 0xDC00 := by omega
              simp [joined?, hhigh]
      simp [attach, hnone]

theorem joined?_halves {n : Nat} (hn : n < 0x100000) :
    joined? (ofCode (0xD800 + n / 0x400)) (ofCode (0xDC00 + n % 0x400)) =
      some (Char.ofNat (0x10000 + n)) := by
  have hhigh : 0xD800 + n / 0x400 < 0xDC00 := by omega
  have hsame : 0x10000 + (0xD800 + n / 0x400 - 0xD800) * 0x400 +
      (0xDC00 + n % 0x400 - 0xDC00) = 0x10000 + n := by omega
  have hpair : (0xD800 + n / 0x400 < 0xDC00 && 0xDC00 ≤ 0xDC00 + n % 0x400) = true := by
    rw [decide_eq_true hhigh, decide_eq_true (Nat.le_add_right _ _)]
    rfl
  rw [ofCode_of_half (by omega) (by omega), ofCode_of_half (by omega) (by omega), joined?,
    if_pos hpair, hsame]

theorem attach_units (point : Point) (points : Points) :
    point.units.foldr attach points = attach point points := by
  cases point with
  | half h => rfl
  | char c =>
      rw [attach_char]
      by_cases hwide : c.toNat < 0x10000
      · rw [units_narrow hwide]
        exact attach_char c points
      · have hvalid := toNat_valid c
        have hsame : 0x10000 + (c.toNat - 0x10000) = c.toNat := by omega
        have hjoined := @joined?_halves (c.toNat - 0x10000) (by omega)
        rw [hsame, Char.ofNat_toNat] at hjoined
        rw [units_wide hwide, List.foldr_cons, List.foldr_cons, List.foldr_nil,
          attach_low (Nat.le_add_right _ _), attach, hjoined]

end Point

namespace Points

open Point

/-- A text in which each high half is joined with the low half behind it. -/
def paired (points : Points) : Points :=
  points.foldr attach []

/-- Has no high half a low one behind it? -/
def Unpaired (points : Points) : Prop :=
  points.IsChain fun point next => joined? point next = none

theorem paired_units (points : Points) : paired (points.flatMap units) = paired points := by
  induction points with
  | nil => rfl
  | cons point rest ih =>
      rw [paired] at ih ⊢
      rw [List.flatMap_cons, List.foldr_append, ih, attach_units]
      rfl

theorem paired_eq_self {points : Points} (hnone : points.Unpaired) : paired points = points := by
  induction points with
  | nil => rfl
  | cons point rest ih =>
      have hrest : paired rest = rest := ih hnone.tail
      rw [paired] at hrest ⊢
      rw [List.foldr_cons, hrest]
      cases rest with
      | nil => rfl
      | cons next rest =>
          have hpoint : joined? point next = none := (List.isChain_cons_cons.mp hnone).1
          simp [attach, hpoint]

theorem unpaired_ofString (s : String) : (ofString s).Unpaired := by
  rw [ofString, ofChars, Unpaired, List.isChain_map]
  exact (List.pairwise_of_forall fun _ _ => rfl).isChain

theorem paired_ofString (s : String) : paired (ofString s) = ofString s :=
  paired_eq_self (unpaired_ofString s)

end Points

end ServiceDiscovery.Text
