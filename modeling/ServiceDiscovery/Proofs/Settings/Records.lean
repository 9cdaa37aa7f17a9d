import ServiceDiscovery.Proofs.Outcome
import ServiceDiscovery.Proofs.Yaml.Part
import ServiceDiscovery.Settings.Document

/-!
TXT records from a mapping. Each entry makes a record by itself, so it is the entries one by one
that can go wrong, and no key stands twice in what they make.
-/

namespace ServiceDiscovery.Settings

open Text (Points)
open Yaml (Document Part)

variable {document : Document} {number : Nat} {value : Value}

/-- A value as a text, or as none if it is a null. -/
def shownValue (value : Value) : Except Fault (Option Points) :=
  match value with
  | .null => .ok none
  | value => (shownText value).map some

/-- The record that an entry makes. -/
def record (document : Document) (entry : Nat × Nat) : Except Fault (Points × Option Points) := do
  return (← shownText (document.value entry.1), ← shownValue (document.value entry.2))

/-- Records one after the other. A key that is there keeps its place and takes the new value. -/
def recordsOf (records : List (Points × Option Points)) : List (Points × Option Points) :=
  records.foldl (fun made record => insertRecord record.1 record.2 made) []

theorem txtRecords_map {entries : Entries} (hpart : document.parts[number]? = some (.map entries)) :
    txtRecords document number = (entries.mapM (record document)).map recordsOf := by
  unfold txtRecords
  rw [hpart]
  -- A key and a value are read in one step there, and are one record here.
  refine Eq.trans ?_ (foldlM_read (record document)
    (fun made record => insertRecord record.1 record.2 made) entries [])
  dsimp only
  congr 1
  funext made entry
  rw [record, bind_assoc]
  refine bind_congr fun key => ?_
  cases document.value entry.2 with
  | null => rfl
  | _ => simp only [shownValue, bind_assoc, pure_bind]

theorem shownText_error_iff :
    (∃ fault, shownText value = .error fault) ↔ value.isOverlong = true := by
  unfold shownText
  split <;> simp_all

theorem shownValue_error_iff :
    (∃ fault, shownValue value = .error fault) ↔ value.isOverlong = true := by
  unfold shownValue
  split
  case h_1 => simp [Value.isOverlong]
  case h_2 => simp only [map_error_iff, shownText_error_iff]

theorem record_error_iff {entry : Nat × Nat} : (∃ fault, record document entry = .error fault) ↔
    (document.value entry.1).isOverlong = true ∨ (document.value entry.2).isOverlong = true := by
  rw [record, ← shownText_error_iff, ← shownValue_error_iff]
  cases shownText (document.value entry.1) with
  | error fault => simp [bind, Except.bind]
  | ok key =>
      cases shownValue (document.value entry.2) <;> simp [bind, Except.bind, pure, Except.pure]

theorem txtRecords_of_not_mapping (hmapping : document.isMapping number = false) :
    txtRecords document number =
      if (document.value number).isTruthy then .error .noFields else .ok [] := by
  unfold txtRecords
  split
  case h_1 entries hpart => simp [Document.isMapping, hpart, Part.isMapping] at hmapping
  case h_2 => rfl

/-- TXT records cannot be made of what counts as something and is no mapping, nor of a mapping that
has too large a number in it to be written. -/
theorem txtRecords_error_iff : (∃ fault, txtRecords document number = .error fault) ↔
    (document.value number).isTruthy = true ∧ document.isMapping number = false ∨
      ∃ entry ∈ document.entries number,
        (document.value entry.1).isOverlong = true ∨
          (document.value entry.2).isOverlong = true := by
  cases hmapping : document.isMapping number with
  | true =>
      rw [txtRecords_map (Document.isMapping_iff.mp hmapping)]
      simp [map_error_iff, mapM_error_iff, record_error_iff]
  | false =>
      rw [txtRecords_of_not_mapping hmapping, Document.entries_of_not_mapping hmapping]
      split <;> simp_all

section Keys

variable {α : Type} [DecidableEq α] {key : α} {value : Option α} {records : List (α × Option α)}

theorem mem_keys_insertRecord {owner : α}
    (howner : owner ∈ (insertRecord key value records).map (·.1)) :
    owner = key ∨ owner ∈ records.map (·.1) := by
  induction records with
  | nil => exact Or.inl (by simpa [insertRecord] using howner)
  | cons record rest ih =>
      rw [insertRecord] at howner
      split at howner
      case isTrue hkey => exact Or.inr (by simpa [hkey] using howner)
      case isFalse =>
        rcases List.mem_cons.mp howner with hhead | hrest
        · exact Or.inr (hhead ▸ List.mem_cons_self)
        · exact (ih hrest).imp id (List.mem_cons_of_mem _)

theorem nodup_keys_insertRecord (hnodup : (records.map (·.1)).Nodup) :
    ((insertRecord key value records).map (·.1)).Nodup := by
  induction records with
  | nil => simp [insertRecord]
  | cons record rest ih =>
      obtain ⟨hnew, hrest⟩ := List.nodup_cons.mp hnodup
      rw [insertRecord]
      split
      case isTrue => exact hnodup
      case isFalse hkey =>
        refine List.nodup_cons.mpr ⟨fun hmem => ?_, ih hrest⟩
        exact (mem_keys_insertRecord hmem).elim hkey hnew

end Keys

theorem nodup_keys_recordsOf (records : List (Points × Option Points)) :
    ((recordsOf records).map (·.1)).Nodup := by
  have hput (made : List (Points × Option Points)) (hnodup : (made.map (·.1)).Nodup) :
      ((records.foldl (fun made record => insertRecord record.1 record.2 made) made).map
        (·.1)).Nodup := by
    induction records generalizing made with
    | nil => exact hnodup
    | cons record rest ih => exact ih _ (nodup_keys_insertRecord hnodup)
  exact hput [] List.nodup_nil

/-- No key stands twice in TXT records from a document. -/
theorem nodup_keys_of_txtRecords {records : List (Points × Option Points)}
    (hread : txtRecords document number = .ok records) : (records.map (·.1)).Nodup := by
  cases hmapping : document.isMapping number with
  | true =>
      rw [txtRecords_map (Document.isMapping_iff.mp hmapping)] at hread
      obtain ⟨read, -, rfl⟩ := map_ok_iff.mp hread
      exact nodup_keys_recordsOf read
  | false =>
      rw [txtRecords_of_not_mapping hmapping] at hread
      split at hread <;> cases hread
      exact List.nodup_nil

end ServiceDiscovery.Settings
