import ServiceDiscovery.Proofs.Settings.Reading
import ServiceDiscovery.Proofs.Settings.Records

/-!
What settings are loaded from, and when they cannot be loaded. The environment goes before the
document and the document before the defaults, for each field by itself. Whatever a field is given
has to convert, also what is in the document and would be replaced. Apart from numbers and records
that are none, there is one thing that does not: a whole number with too many digits has no text.
-/

namespace ServiceDiscovery.Settings

open Yaml (Document)

variable {document : Document} {environment : Environment}

/-- Is something no number, or are there no records, where there should be, in the document or in a
variable that is set? -/
inductive Unconverted (document : Document) (environment : Environment) : Prop where
  | port {number : Nat} {fault : Fault} (hgiven : document.given? "publish" "port" = some number)
      (hfails : wholeNumber (document.value number) = .error fault)
  | timeout {number : Nat} {fault : Fault}
      (hgiven : document.given? "resolver" "timeout_ms" = some number)
      (hfails : wholeNumber (document.value number) = .error fault)
  | retryDelay {number : Nat} {fault : Fault}
      (hgiven : document.given? "resolver" "busy_retry_delay_seconds" = some number)
      (hfails : floatingNumber (document.value number) = .error fault)
  /-- The TXT records count as something and are no mapping. -/
  | records {number : Nat} (hgiven : document.given? "publish" "txt" = some number)
      (htruthy : (document.value number).isTruthy = true)
      (hmapping : document.isMapping number = false)
  | portVariable {text : String} {fault : Fault}
      (hset : setVariable? "PUBLISH_PORT" environment = some text)
      (hfails : wholeNumber (.text text) = .error fault)
  | timeoutVariable {text : String} {fault : Fault}
      (hset : setVariable? "RESOLVE_TIMEOUT_MS" environment = some text)
      (hfails : wholeNumber (.text text) = .error fault)
  | retryDelayVariable {text : String} {fault : Fault}
      (hset : setVariable? "RESOLVE_BUSY_RETRY_DELAY" environment = some text)
      (hfails : floatingNumber (.text text) = .error fault)

/-- Is there a whole number with too many digits in what has to be written as a text? -/
inductive Unwritable (document : Document) : Prop where
  | level {number : Nat} (hgiven : document.given? "logging" "level" = some number)
      (hlong : (document.value number).isOverlong = true)
  | record {number : Nat} {entry : Nat × Nat}
      (hgiven : document.given? "publish" "txt" = some number)
      (hentry : entry ∈ document.entries number)
      (hlong : (document.value entry.1).isOverlong = true ∨
        (document.value entry.2).isOverlong = true)

theorem fails_iff {α : Type} {source : Source α} : source.Fails document environment ↔
    (∃ number fault, source.part? document = some number ∧
      source.ofPart document number = .error fault) ∨
    ∃ fault, source.replacement? environment = some (.error fault) := by
  refine or_congr_left ?_
  cases hpart : source.part? document with
  | none => simp [Source.written_of_no_part hpart]
  | some number => simp [Source.written_of_part hpart]

theorem not_fails_asWritten (group key name : String) (default : Value) (ofText : String → Value) :
    ¬ (Source.asWritten group key name default ofText).Fails document environment := by
  rw [fails_iff]
  simp [Source.asWritten, Source.replacement?]

theorem fails_converted_iff {α : Type} {group key name : String} {default : α}
    {convert : Value → Except Fault α} :
    (Source.converted group key name default convert).Fails document environment ↔
      (∃ number fault, document.given? group key = some number ∧
        convert (document.value number) = .error fault) ∨
      ∃ text fault, setVariable? name environment = some text ∧
        convert (.text text) = .error fault := by
  rw [fails_iff]
  refine or_congr_right ?_
  simp only [Source.converted, Source.replacement?, Option.bind_some, Option.map_eq_some_iff]
  exact exists_comm

theorem logLevel_error_iff {value : Value} :
    (∃ fault, logLevel value = .error fault) ↔ value.isOverlong = true := by
  simp only [logLevel, map_error_iff, shownText_error_iff]

/-- The fields that may fail are the numbers, the records and the level of the log. -/
theorem exists_fails_iff : (∃ field : Field, field.source.Fails document environment) ↔
    Unconverted document environment ∨ Unwritable document := by
  constructor
  · rintro ⟨field, hfails⟩
    -- A number fails in the document or in its variable, and a level in the document alone.
    cases field
    case browseType | name | publishType | browse | enabled | deduplicate | json =>
      exact absurd hfails (not_fails_asWritten _ _ _ _ _)
    case port =>
      rcases fails_converted_iff.mp hfails with ⟨number, fault, hgiven, hfault⟩ |
        ⟨text, fault, hset, hfault⟩
      · exact .inl (.port hgiven (map_error_iff.mp hfault))
      · exact .inl (.portVariable hset (map_error_iff.mp hfault))
    case timeout =>
      rcases fails_converted_iff.mp hfails with ⟨number, fault, hgiven, hfault⟩ |
        ⟨text, fault, hset, hfault⟩
      · exact .inl (.timeout hgiven hfault)
      · exact .inl (.timeoutVariable hset hfault)
    case retryDelay =>
      rcases fails_converted_iff.mp hfails with ⟨number, fault, hgiven, hfault⟩ |
        ⟨text, fault, hset, hfault⟩
      · exact .inl (.retryDelay hgiven hfault)
      · exact .inl (.retryDelayVariable hset hfault)
    case level =>
      rcases fails_converted_iff.mp hfails with ⟨number, fault, hgiven, hfault⟩ |
        ⟨text, fault, -, hfault⟩
      · exact .inr (.level hgiven (logLevel_error_iff.mp ⟨fault, hfault⟩))
      · cases hfault
    case records =>
      rcases fails_iff.mp hfails with ⟨number, fault, hgiven, hfault⟩ | ⟨fault, hset⟩
      · rcases txtRecords_error_iff.mp ⟨fault, hfault⟩ with ⟨htruthy, hmapping⟩ |
          ⟨entry, hentry, hlong⟩
        · exact .inl (.records hgiven htruthy hmapping)
        · exact .inr (.record hgiven hentry hlong)
      · cases hset
  · rintro (hfails | hlong)
    · cases hfails with
      | port hgiven hfails =>
          exact ⟨.port, fails_converted_iff.mpr (.inl ⟨_, _, hgiven, map_error_iff.mpr hfails⟩)⟩
      | timeout hgiven hfails =>
          exact ⟨.timeout, fails_converted_iff.mpr (.inl ⟨_, _, hgiven, hfails⟩)⟩
      | retryDelay hgiven hfails =>
          exact ⟨.retryDelay, fails_converted_iff.mpr (.inl ⟨_, _, hgiven, hfails⟩)⟩
      | records hgiven htruthy hmapping =>
          obtain ⟨fault, hfault⟩ := txtRecords_error_iff.mpr (.inl ⟨htruthy, hmapping⟩)
          exact ⟨.records, fails_iff.mpr (.inl ⟨_, fault, hgiven, hfault⟩)⟩
      | portVariable hset hfails =>
          exact ⟨.port, fails_converted_iff.mpr (.inr ⟨_, _, hset, map_error_iff.mpr hfails⟩)⟩
      | timeoutVariable hset hfails =>
          exact ⟨.timeout, fails_converted_iff.mpr (.inr ⟨_, _, hset, hfails⟩)⟩
      | retryDelayVariable hset hfails =>
          exact ⟨.retryDelay, fails_converted_iff.mpr (.inr ⟨_, _, hset, hfails⟩)⟩
    · cases hlong with
      | level hgiven hlong =>
          obtain ⟨fault, hfault⟩ := logLevel_error_iff.mpr hlong
          exact ⟨.level, fails_converted_iff.mpr (.inl ⟨_, fault, hgiven, hfault⟩)⟩
      | record hgiven hentry hlong =>
          obtain ⟨fault, hfault⟩ := txtRecords_error_iff.mpr (.inr ⟨_, hentry, hlong⟩)
          exact ⟨.records, fails_iff.mpr (.inl ⟨_, fault, hgiven, hfault⟩)⟩

/-- Each field that is loaded is what its variable is converted to, if that is set and not empty,
else what its own key of the document is converted to, else its default, and nothing else has a say
in it. From a document that is empty or has mappings for sections, settings are loaded unless a
number or the records do not convert or there is a number too long for a text. So it is with every
file that is read as the document. -/
theorem load_by_precedence (document : Document) (environment : Environment) :
    (∀ settings, ofDocument document >>= override environment = .ok settings →
      ∀ field : Field, field.source.value document environment = .ok (field.get settings)) ∧
    (Sectioned document →
      ((∃ fault, ofDocument document >>= override environment = .error fault) ↔
        Unconverted document environment ∨ Unwritable document)) ∧
    ∀ file : File, file.document = .ok document →
      load file environment = ofDocument document >>= override environment := by
  refine ⟨fun settings hload field => value_of_load hload field, fun hsections => ?_,
    fun file hread => load_eq hread⟩
  rw [error_load_iff hsections, exists_fails_iff]

/-- A number in the environment goes before the one in the document, an empty variable before
nothing, and what neither of them has is as by default. -/
theorem load_by_precedence_of_empty_variable :
    let file := File.content (Text.Utf8.encode "publish:\n  port: '7'\nresolver:\n  timeout_ms: 5")
    let environment := [("PUBLISH_PORT", "8_0"), ("RESOLVE_TIMEOUT_MS", ""), ("BROWSE", "on")]
    ∃ document, file.document = .ok document ∧ Sectioned document ∧
      ¬ Unconverted document environment ∧
      ∃ settings, load file environment = .ok settings ∧ settings.publish.port = .int 80 ∧
        settings.resolve.timeout = 5 ∧ settings.browse.browse = .bool false ∧
        settings.publish.name = .text "nsdkit" := by
  intro file environment
  have hdocument : file.document.toOption.any (fun document => Sectioned document ∧
      (Field.timeout.source.written document).toOption = some 5 ∧
      Field.name.source.part? document = none) = true := by
    decide +kernel
  have hloaded : (load file environment).toOption.any (fun _ => true) = true := by decide +kernel
  obtain ⟨document, hread, hparts⟩ := exists_ok_of_any hdocument
  obtain ⟨hsections, htimeout, hname⟩ := of_decide_eq_true hparts
  obtain ⟨settings, hload, -⟩ := exists_ok_of_any hloaded
  obtain ⟨hfields, hfaults, hfile⟩ := load_by_precedence document environment
  rw [← hfile file hread] at hfields hfaults
  refine ⟨document, hread, hsections, fun hunconverted => ?_, settings, hload, ?_, ?_, ?_, ?_⟩
  · obtain ⟨fault, hfault⟩ := (hfaults hsections).mpr (.inl hunconverted)
    rw [hload] at hfault
    cases hfault
  · exact (Except.ok.inj (hfields settings hload .port)).symm
  · have hwritten : Field.timeout.source.written document = .ok settings.resolve.timeout :=
      hfields settings hload .timeout
    rw [hwritten] at htimeout
    exact Option.some.inj htimeout
  · exact (Except.ok.inj (hfields settings hload .browse)).symm
  · have hwritten : .ok (.text "nsdkit") = Except.ok settings.publish.name :=
      (Source.written_of_no_part hname).symm.trans (hfields settings hload .name)
    exact (Except.ok.inj hwritten).symm

/-- `logging: {level: 0xfff…}` with 3572 digits, for which 4300 in base ten are not enough. -/
def overlongLevel : Document where
  parts := #[.map [(1, 2)], .single (.text "logging"), .map [(3, 4)], .single (.text "level"),
    .single (.int (Nat.pow 16 3572 - 1 : Nat))]
  root := some 0

/-- A level of the log can be too long to be written. Then there are no settings, with every number
and the records in order and nothing in the environment. -/
theorem unwritable_level_fails :
    Sectioned overlongLevel ∧ ¬ Unconverted overlongLevel [] ∧
      (ofDocument overlongLevel >>= override []) = .error .unwritable := by
  have hfails : ((ofDocument overlongLevel >>= override []) matches .error .unwritable) = true := by
    decide +kernel
  refine ⟨by decide +kernel, ?_, ?_⟩
  · have hport : overlongLevel.given? "publish" "port" = none := by decide +kernel
    have htimeout : overlongLevel.given? "resolver" "timeout_ms" = none := by decide +kernel
    have hdelay : overlongLevel.given? "resolver" "busy_retry_delay_seconds" = none := by
      decide +kernel
    have hrecords : overlongLevel.given? "publish" "txt" = none := by decide +kernel
    intro hunconverted
    cases hunconverted with
    | port hgiven => simp [hport] at hgiven
    | timeout hgiven => simp [htimeout] at hgiven
    | retryDelay hgiven => simp [hdelay] at hgiven
    | records hgiven => simp [hrecords] at hgiven
    | portVariable hset => cases hset
    | timeoutVariable hset => cases hset
    | retryDelayVariable hset => cases hset
  · rcases hmade : ofDocument overlongLevel >>= override [] with fault | settings
    · rw [hmade] at hfails
      cases fault <;> first | rfl | cases hfails
    · rw [hmade] at hfails
      cases hfails

end ServiceDiscovery.Settings
