import ServiceDiscovery.Proofs.Settings.Reading
import ServiceDiscovery.Proofs.Settings.Records

/-!
The kinds of values in settings. Every field is declared to be of one kind. Defaults are, and so is
whatever comes from the environment or is converted, but the document may say anything of the names
and the switches. Settings are as they are declared just if the document gives these nothing of
another kind that stays in force.
-/

namespace ServiceDiscovery

namespace Value

def isText : Value → Bool
  | .text _ | .broken _ => true
  | _ => false

def isTruth : Value → Bool
  | .bool _ => true
  | _ => false

def isWhole : Value → Bool
  | .int _ => true
  | _ => false

end Value

namespace Settings

open Yaml (Document)

namespace Field

/-- Is a value of the kind that a field is declared with? A type that has no other values says so by
itself. -/
def Declared : (field : Field) → field.Carrier → Prop
  | browseType, value | name, value | publishType, value => value.isText
  | browse, value | enabled, value | deduplicate, value | json, value => value.isTruth
  | port, value => value.isWhole
  | records, made => (made.map (·.1)).Nodup
  | timeout, _ | retryDelay, _ | level, _ => True

variable {field : Field} {document : Document} {environment : Environment} {value : field.Carrier}

/-- Is what the document gives a field of the declared kind once it is converted? What a variable
replaces may be of any. -/
def Suits (field : Field) (document : Document) (environment : Environment) : Prop :=
  (field.source.replacement? environment).isSome ∨
    ∀ number, field.source.part? document = some number →
      ∀ value, field.source.ofPart document number = .ok value → field.Declared value

theorem declared_default (field : Field) : field.Declared field.source.default := by
  cases field <;> first | rfl | trivial | exact List.nodup_nil

theorem declared_of_replacement
    (hreplaced : field.source.replacement? environment = some (.ok value)) :
    field.Declared value := by
  cases field
  case timeout | retryDelay | level => trivial
  case records => cases hreplaced
  all_goals
    obtain ⟨text, -, hvalue⟩ := Option.map_eq_some_iff.mp hreplaced
  case port =>
    obtain ⟨number, -, rfl⟩ := map_ok_iff.mp hvalue
    rfl
  all_goals
    cases hvalue
    rfl

/-- What a field comes to is of the declared kind just if the document has no other for it. -/
theorem declared_iff_suits (hvalue : field.source.value document environment = .ok value) :
    field.Declared value ↔ field.Suits document environment := by
  unfold Source.value at hvalue
  unfold Suits
  cases hreplaced : field.source.replacement? environment with
  | some outcome =>
      rw [hreplaced, Option.getD_some] at hvalue
      subst hvalue
      exact iff_of_true (declared_of_replacement hreplaced) (.inl rfl)
  | none =>
      rw [hreplaced, Option.getD_none] at hvalue
      cases hpart : field.source.part? document with
      | none =>
          rw [Source.written_of_no_part hpart] at hvalue
          obtain rfl := Except.ok.inj hvalue
          exact iff_of_true (declared_default field) (.inr nofun)
      | some number =>
          rw [Source.written_of_part hpart] at hvalue
          simp [hvalue]

end Field

/-- The fields for which any value is taken from the document. -/
def unchecked : List Field :=
  [.browseType, .browse, .enabled, .name, .publishType, .deduplicate, .json]

theorem Field.suits_of_checked {field : Field} (hchecked : field ∉ unchecked) (document : Document)
    (environment : Environment) : field.Suits document environment := by
  refine .inr fun number _ value hvalue => ?_
  cases field
  case browseType | browse | enabled | name | publishType | deduplicate | json =>
    exact absurd (by decide) hchecked
  case timeout | retryDelay | level => trivial
  case port =>
    obtain ⟨whole, -, rfl⟩ := map_ok_iff.mp hvalue
    rfl
  case records => exact nodup_keys_of_txtRecords hvalue

/-- Is every field of the kind that it is declared with? -/
def WellTyped (settings : Settings) : Prop :=
  ∀ field : Field, field.Declared (field.get settings)

/-- In settings that are loaded each field is of its declared kind, save one that is taken from the
document unchecked, with a value there of another kind, and no variable to replace it. -/
theorem well_typed_iff_suited {file : File} {environment : Environment} {settings : Settings}
    (hload : load file environment = .ok settings) :
    ∃ document, file.document = .ok document ∧
      (∀ field : Field, field.Declared (field.get settings) ↔
        (field ∈ unchecked → field.Suits document environment)) ∧
      (settings.WellTyped ↔ ∀ field ∈ unchecked, field.Suits document environment) := by
  obtain ⟨before, hmade, -⟩ := exists_of_bind_ok hload
  rw [ofFile_eq] at hmade
  obtain ⟨document, hread, -⟩ := exists_of_bind_ok hmade
  have hdeclared (field : Field) : field.Declared (field.get settings) ↔
      (field ∈ unchecked → field.Suits document environment) := by
    rw [Field.declared_iff_suits (value_of_load (load_eq hread ▸ hload) field)]
    -- A field that is converted suits by itself.
    by_cases hchecked : field ∈ unchecked
    · simp [hchecked]
    · exact iff_of_true (Field.suits_of_checked hchecked document environment)
        fun hunchecked => absurd hunchecked hchecked
  exact ⟨document, hread, hdeclared, forall_congr' hdeclared⟩

/-- A name that is a number in the document does no harm while there is another in the
environment. -/
theorem well_typed_of_named :
    let file := File.content (Text.Utf8.encode "publish:\n  name: 5\n")
    let environment := [("PUBLISH_NAME", "Lamp")]
    ∃ settings, load file environment = .ok settings ∧ settings.WellTyped ∧
      settings.publish.name = .text "Lamp" := by
  intro file environment
  have hdocument : file.document.toOption.any (fun document =>
      ∀ field ∈ unchecked, field ≠ .name → field.source.part? document = none) = true := by
    decide +kernel
  have hloaded : (load file environment).toOption.any (fun _ => true) = true := by decide +kernel
  obtain ⟨settings, hload, -⟩ := exists_ok_of_any hloaded
  obtain ⟨document, hread, -, hsuited⟩ := well_typed_iff_suited hload
  rw [hread] at hdocument
  have hnothing := of_decide_eq_true hdocument
  refine ⟨settings, hload, hsuited.mpr fun field hunchecked => ?_, ?_⟩
  · by_cases hname : field = .name
    · subst hname
      exact .inl rfl
    · refine .inr fun number hpart => ?_
      rw [hnothing field hunchecked hname] at hpart
      cases hpart
  · rw [load_eq hread] at hload
    exact (Except.ok.inj (value_of_load hload .name)).symm

/-- A switch that is turned off by a word in quotes is a text, and counts as on. -/
theorem quoted_switch_is_text :
    let file := File.content (Text.Utf8.encode "discovery:\n  browse: \"no\"\n")
    ∃ settings, load file [] = .ok settings ∧ ¬ settings.WellTyped ∧
      settings.browse.browse.isTruthy = true := by
  intro file
  have hloaded : (load file []).toOption.any (fun settings =>
      !settings.browse.browse.isTruth && settings.browse.browse.isTruthy) = true := by
    decide +kernel
  obtain ⟨settings, hload, hbrowse⟩ := exists_ok_of_any hloaded
  simp only [Bool.and_eq_true, Bool.not_eq_true'] at hbrowse
  obtain ⟨hswitch, htruthy⟩ := hbrowse
  refine ⟨settings, hload, fun htyped => ?_, htruthy⟩
  have hdeclared : settings.browse.browse.isTruth = true := htyped .browse
  rw [hswitch] at hdeclared
  cases hdeclared

end Settings

end ServiceDiscovery
