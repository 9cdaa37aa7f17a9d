import ServiceDiscovery.Proofs.Outcome
import ServiceDiscovery.Proofs.Settings.Source
import ServiceDiscovery.Settings.Load

/-!
Settings are read just as the table of their fields says: each field by itself, from its own key of
the document and then from its own variable. The document has to have its sections in order, and
apart from that settings can be loaded unless a field does not convert.
-/

namespace ServiceDiscovery.Settings

open Yaml (Document Part)

/-- The document in a file. Where there is no file it is an empty one. -/
def File.document : File → Except Fault Document
  | .missing => .ok { parts := #[], root := none }
  | .directory => .error .notReadable
  | .content bytes => Settings.document bytes

/-! Reading the sections. -/

variable {document : Document} {fields : Entries} {name : String}

theorem within_asWritten (group key name : String) (default : Value) (ofText : String → Value) :
    (Source.asWritten group key name default ofText).within document fields =
      .ok (field document key default fields) := by
  unfold Source.within field field?
  cases hpart : document.find? key fields <;> simp [Source.asWritten, hpart]

theorem within_converted {α : Type} (group key name : String) {default : α} (given : Value)
    {convert : Value → Except Fault α} (hdefault : convert given = .ok default) :
    (Source.converted group key name default convert).within document fields =
      convert (field document key given fields) := by
  unfold Source.within field field?
  cases hpart : document.find? key fields <;> simp [Source.converted, hpart, hdefault]

theorem browseSection_eq_iff {made : BrowseSettings} :
    browseSection document fields = made ↔
      Field.browseType.source.within document fields = .ok made.serviceType ∧
        Field.browse.source.within document fields = .ok made.browse := by
  obtain ⟨type, browse⟩ := made
  simp [browseSection, Field.source, within_asWritten]

theorem publishSection_ok_iff {made : PublishSettings} :
    publishSection document fields = .ok made ↔
      Field.enabled.source.within document fields = .ok made.enabled ∧
        Field.name.source.within document fields = .ok made.name ∧
        Field.publishType.source.within document fields = .ok made.serviceType ∧
        Field.port.source.within document fields = .ok made.port ∧
        Field.records.source.within document fields = .ok made.txt := by
  have hport : Field.port.source.within document fields =
      (wholeNumber (field document "port" (.int 8080) fields)).map .int :=
    within_converted _ _ _ (.int 8080) rfl
  have hread : publishSection document fields = do
      let port ← wholeNumber (field document "port" (.int 8080) fields)
      let txt ← Field.records.source.within document fields
      return {
        enabled := field document "enabled" (.bool false) fields
        name := field document "name" (.text "nsdkit") fields
        serviceType := field document "service_type" (.text "_http._tcp") fields
        port := .int port
        txt } := by
    unfold publishSection Source.within Field.source
    cases document.find? "txt" fields <;> rfl
  obtain ⟨enabled, name, type, port, txt⟩ := made
  rw [hread, hport]
  simp only [bind_ok_iff, map_ok_iff, Field.source, within_asWritten, pure, Except.pure,
    Except.ok.injEq, PublishSettings.mk.injEq]
  constructor
  · rintro ⟨port, hport, txt, htxt, rfl, rfl, rfl, rfl, rfl⟩
    exact ⟨rfl, rfl, rfl, ⟨port, hport, rfl⟩, htxt⟩
  · rintro ⟨rfl, rfl, rfl, ⟨port, hport, rfl⟩, htxt⟩
    exact ⟨port, hport, txt, htxt, rfl, rfl, rfl, rfl, rfl⟩

theorem resolveSection_ok_iff {made : ResolveSettings} :
    resolveSection document fields = .ok made ↔
      Field.timeout.source.within document fields = .ok made.timeout ∧
        Field.retryDelay.source.within document fields = .ok made.retryDelay ∧
        Field.deduplicate.source.within document fields = .ok made.deduplicate := by
  have htimeout : Field.timeout.source.within document fields =
      wholeNumber (field document "timeout_ms" (.int 3000) fields) :=
    within_converted _ _ _ (.int 3000) rfl
  have hdelay : Field.retryDelay.source.within document fields = floatingNumber
      (field document "busy_retry_delay_seconds" (.float (.ofQuotient 1 20)) fields) :=
    within_converted _ _ _ (.float (.ofQuotient 1 20)) rfl
  obtain ⟨timeout, delay, deduplicate⟩ := made
  rw [resolveSection, htimeout, hdelay]
  simp only [bind_ok_iff, Field.source, within_asWritten, pure, Except.pure, Except.ok.injEq,
    ResolveSettings.mk.injEq]
  constructor
  · rintro ⟨timeout, htimeout, delay, hdelay, rfl, rfl, rfl⟩
    exact ⟨htimeout, hdelay, rfl⟩
  · rintro ⟨htimeout, hdelay, rfl⟩
    exact ⟨timeout, htimeout, delay, hdelay, rfl, rfl, rfl⟩

theorem logSection_ok_iff {made : LogSettings} :
    logSection document fields = .ok made ↔
      Field.level.source.within document fields = .ok made.level ∧
        Field.json.source.within document fields = .ok made.json := by
  have hread : logSection document fields = do
      let level ← Field.level.source.within document fields
      return { level, json := field document "json" (.bool false) fields } := by
    unfold logSection Source.within Field.source field?
    cases hpart : document.find? "level" fields with
    | none =>
        simp only [Source.converted, hpart]
        rfl
    | some number =>
        simp only [Source.converted, hpart]
        rfl
  obtain ⟨level, json⟩ := made
  simp only [hread, bind_ok_iff, Field.source, within_asWritten, pure, Except.pure,
    Except.ok.injEq, LogSettings.mk.injEq]
  constructor
  · rintro ⟨level, hlevel, rfl, rfl⟩
    exact ⟨hlevel, rfl⟩
  · rintro ⟨hlevel, rfl⟩
    exact ⟨level, hlevel, rfl, rfl⟩

/-- What is read from a section, or what stands in for it where there is none. -/
def sectionOr {α : Type} (document : Document) (read : Entries → Except Fault α) (default : α)
    (name : String) : Except Fault α := do
  match ← section? document name document.top with
  | some fields => read fields
  | none => pure default

theorem section?_ok_iff {found : Option Entries} : section? document name document.top = .ok found ↔
    (document.find? name document.top).all document.isMapping = true ∧
      found = (document.find? name document.top).map document.entries := by
  unfold section?
  cases hfind : document.find? name document.top with
  | none => simp [eq_comm]
  | some number =>
      simp only [Option.all_some, Option.map_some, Document.isMapping, Document.entries]
      rcases hpart : document.parts[number]? with _ | (_ | _ | _ | _ | _ | entries)
      case some.map => simp [Part.isMapping, Part.entries, eq_comm]
      all_goals simp [Part.isMapping]

/-- A section that is read as if it were empty where there is none has to be a mapping, and no more
is asked of it than to be read. -/
theorem sectionOr_ok_iff {α : Type} {read : Entries → Except Fault α} {default made : α}
    (hempty : read [] = .ok default) :
    sectionOr document read default name = .ok made ↔
      (document.find? name document.top).all document.isMapping = true ∧
        read (document.sectionEntries name) = .ok made := by
  rw [sectionOr, bind_ok_iff, Document.sectionEntries]
  constructor
  · rintro ⟨found, hsection, hread⟩
    obtain ⟨hmapping, rfl⟩ := section?_ok_iff.mp hsection
    refine ⟨hmapping, ?_⟩
    cases hfind : document.find? name document.top with
    | none => simpa [hfind, hempty, pure, Except.pure] using hread
    | some number => simpa [hfind] using hread
  · rintro ⟨hmapping, hread⟩
    refine ⟨_, section?_ok_iff.mpr ⟨hmapping, rfl⟩, ?_⟩
    cases hfind : document.find? name document.top with
    | none => simpa [hfind, hempty, pure, Except.pure] using hread
    | some number => simpa [hfind] using hread

theorem ofSections_eq : ofSections document document.top = do
    let browse ← sectionOr document (fun fields => .ok (browseSection document fields)) {}
      "discovery"
    let publish ← sectionOr document (publishSection document) {} "publish"
    let resolve ← sectionOr document (resolveSection document) {} "resolver"
    let log ← sectionOr document (logSection document) {} "logging"
    return { browse, publish, resolve, log } := by
  simp only [ofSections, sectionOr, bind_assoc]
  -- What follows a section comes once for each of its cases, so both sides are split at each.
  refine bind_congr fun browse => ?_
  cases browse
  all_goals
    refine bind_congr fun publish => ?_
    cases publish
    all_goals
      refine bind_congr fun publish => bind_congr fun resolve => ?_
      cases resolve
      all_goals
        refine bind_congr fun resolve => bind_congr fun log => ?_
        cases log <;> rfl

/-- Settings are read from the sections field by field, and the sections that are there have to be
mappings. -/
theorem ofSections_ok_iff {settings : Settings} :
    ofSections document document.top = .ok settings ↔
      (∀ name ∈ sectionNames,
        (document.find? name document.top).all document.isMapping = true) ∧
      ∀ field : Field, field.source.written document = .ok (field.get settings) := by
  rw [ofSections_eq]
  simp only [bind_ok_iff, sectionNames, List.forall_mem_cons]
  constructor
  · rintro ⟨browse, hbrowse, publish, hpublish, resolve, hresolve, log, hlog, hmade⟩
    obtain rfl := Except.ok.inj hmade
    obtain ⟨hdiscovery, hbrowse⟩ := (sectionOr_ok_iff (by rfl)).mp hbrowse
    obtain ⟨hpublishing, hpublish⟩ := (sectionOr_ok_iff (by rfl)).mp hpublish
    obtain ⟨hresolver, hresolve⟩ := (sectionOr_ok_iff (by rfl)).mp hresolve
    obtain ⟨hlogging, hlog⟩ := (sectionOr_ok_iff (by rfl)).mp hlog
    obtain ⟨htype, hswitch⟩ := browseSection_eq_iff.mp (Except.ok.inj hbrowse)
    obtain ⟨henabled, hname, hpublished, hport, htxt⟩ := publishSection_ok_iff.mp hpublish
    obtain ⟨htimeout, hdelay, hdeduplicate⟩ := resolveSection_ok_iff.mp hresolve
    obtain ⟨hlevel, hjson⟩ := logSection_ok_iff.mp hlog
    refine ⟨⟨hdiscovery, hpublishing, hresolver, hlogging, by simp⟩, fun field => ?_⟩
    cases field
    exacts [htype, hswitch, henabled, hname, hpublished, hport, htxt, htimeout, hdelay,
      hdeduplicate, hlevel, hjson]
  · rintro ⟨⟨hdiscovery, hpublishing, hresolver, hlogging, -⟩, hfields⟩
    refine ⟨settings.browse, (sectionOr_ok_iff (by rfl)).mpr ⟨hdiscovery, ?_⟩,
      settings.publish, (sectionOr_ok_iff (by rfl)).mpr ⟨hpublishing, ?_⟩,
      settings.resolve, (sectionOr_ok_iff (by rfl)).mpr ⟨hresolver, ?_⟩,
      settings.log, (sectionOr_ok_iff (by rfl)).mpr ⟨hlogging, ?_⟩, rfl⟩
    · exact congrArg _ (browseSection_eq_iff.mpr ⟨hfields .browseType, hfields .browse⟩)
    · exact publishSection_ok_iff.mpr ⟨hfields .enabled, hfields .name, hfields .publishType,
        hfields .port, hfields .records⟩
    · exact resolveSection_ok_iff.mpr ⟨hfields .timeout, hfields .retryDelay,
        hfields .deduplicate⟩
    · exact logSection_ok_iff.mpr ⟨hfields .level, hfields .json⟩

/-! Reading a document. -/

theorem ofSections_nil : ofSections document [] = .ok {} :=
  rfl

theorem eq_default_of_untitled {part : Part} {settings : Settings}
    (hmade : ofDocument.untitled document part = .ok settings) : settings = {} := by
  unfold ofDocument.untitled at hmade
  split at hmade <;> cases hmade
  rfl

/-- Settings that are made of a document at all are made of its sections. A document that is no
mapping has none, and leaves all fields their defaults. -/
theorem ofSections_of_ofDocument {settings : Settings}
    (hmade : ofDocument document = .ok settings) :
    ofSections document document.top = .ok settings := by
  unfold ofDocument at hmade
  rw [Document.top, Document.rootPart?]
  rcases hpart : document.root.bind fun root => document.parts[root]? with _ | part
  · rw [hpart] at hmade
    exact hmade
  · rw [hpart] at hmade
    cases part with
    | map entries => exact hmade
    | single value =>
        have hdefault : settings = {} := by
          dsimp only at hmade
          split at hmade
          · exact (Except.ok.inj hmade).symm
          · split at hmade
            · exact eq_default_of_untitled hmade
            · exact eq_default_of_untitled hmade
            · cases hmade
        rw [hdefault]
        rfl
    | noNumber => cases hmade
    | list items | pairs items | set items =>
        have hdefault : settings = {} := by
          cases items with
          | nil => exact (Except.ok.inj hmade).symm
          | cons item rest => exact eq_default_of_untitled hmade
        rw [hdefault]
        rfl

/-- Is a document empty, or a mapping in which the sections of settings are mappings? -/
def Sectioned (document : Document) : Prop :=
  (document.root.all fun root => document.isMapping root || !(document.value root).isTruthy) ∧
    ∀ name ∈ sectionNames, (document.find? name document.top).all document.isMapping

instance : Decidable (Sectioned document) :=
  inferInstanceAs (Decidable (_ ∧ _))

theorem Sectioned.ofDocument_eq (hsections : Sectioned document) :
    ofDocument document = ofSections document document.top := by
  obtain ⟨hroot, -⟩ := hsections
  rw [ofDocument, Document.top, Document.rootPart?]
  cases hnumber : document.root with
  | none => rfl
  | some root =>
      simp only [hnumber, Option.all_some, Bool.or_eq_true, Bool.not_eq_true', Document.isMapping,
        Document.isTruthy_value] at hroot
      rw [Option.bind_some]
      cases hpart : document.parts[root]? with
      | none => rfl
      | some part =>
          rw [hpart] at hroot
          cases part with
          | map entries => rfl
          | single value =>
              have hnothing : value.isTruthy = false := by
                simpa [Part.isMapping, Part.isTruthy] using hroot
              simp [hnothing, Part.entries, ofSections_nil]
          | noNumber => simp [Part.isMapping, Part.isTruthy] at hroot
          | list items | pairs items | set items =>
              have hempty : items = [] := by
                simpa [Part.isMapping, Part.isTruthy] using hroot
              rw [hempty]
              rfl

/-! Reading the environment. -/

variable {environment : Environment}

theorem replaced_text (group key name : String) (default value : Value) :
    ((Source.asWritten group key name default .text).replacement? environment).getD (.ok value) =
      .ok (overrideText environment name value) := by
  unfold Source.replacement? overrideText
  cases hset : setVariable? name environment <;> simp [Source.asWritten, hset]

theorem replaced_switch (group key name : String) (default value : Value) :
    ((Source.asWritten group key name default Field.switched).replacement? environment).getD
      (.ok value) = .ok (overrideSwitch environment name value) := by
  unfold Source.replacement? overrideSwitch
  cases hset : setVariable? name environment <;> simp [Source.asWritten, hset, Field.switched]

theorem replaced_converted {α : Type} (group key name : String) (default value : α)
    (convert : Value → Except Fault α) :
    ((Source.converted group key name default convert).replacement? environment).getD (.ok value) =
      match setVariable? name environment with
      | some text => convert (.text text)
      | none => .ok value := by
  unfold Source.replacement?
  cases hset : setVariable? name environment <;> simp [Source.converted, hset]

theorem replaced_level (value : Text.Points) :
    (Field.level.source.replacement? environment).getD (.ok value) =
      .ok (((setVariable? "LOG_LEVEL" environment).map fun text =>
        (Text.Points.ofString text).lower).getD value) := by
  refine (replaced_converted "logging" "level" "LOG_LEVEL" _ value logLevel).trans ?_
  cases setVariable? "LOG_LEVEL" environment <;> rfl

theorem get_of_override {before after : Settings} (hover : override environment before = .ok after)
    (field : Field) : (field.source.replacement? environment).getD (.ok (field.get before)) =
      .ok (field.get after) := by
  obtain ⟨port, hport, hover⟩ := exists_of_bind_ok hover
  obtain ⟨timeout, htimeout, hover⟩ := exists_of_bind_ok hover
  obtain ⟨delay, hdelay, hover⟩ := exists_of_bind_ok hover
  obtain rfl := Except.ok.inj hover
  cases field
  case browseType | name | publishType => exact replaced_text ..
  case browse | enabled | deduplicate | json => exact replaced_switch ..
  case port => exact (replaced_converted ..).trans hport
  case records => rfl
  case timeout => exact (replaced_converted ..).trans htimeout
  case retryDelay => exact (replaced_converted ..).trans hdelay
  case level => exact replaced_level _

/-- The environment goes over settings field by field. -/
theorem override_ok_iff {before after : Settings} : override environment before = .ok after ↔
    ∀ field : Field, (field.source.replacement? environment).getD (.ok (field.get before)) =
      .ok (field.get after) := by
  constructor
  · exact get_of_override
  · intro hfields
    -- Only the three numbers can fail, and what comes after them has these fields.
    have hports := (replaced_converted ..).symm.trans (hfields .port)
    have htimeouts := (replaced_converted ..).symm.trans (hfields .timeout)
    have hdelays := (replaced_converted ..).symm.trans (hfields .retryDelay)
    obtain ⟨made, hmade⟩ : ∃ made, override environment before = .ok made :=
      ⟨_, bind_ok_iff.mpr ⟨_, hports, bind_ok_iff.mpr ⟨_, htimeouts,
        bind_ok_iff.mpr ⟨_, hdelays, rfl⟩⟩⟩⟩
    have hsame : made = after := Field.ext_get fun field =>
      Except.ok.inj ((get_of_override hmade field).symm.trans (hfields field))
    rw [hmade, hsame]

/-! Loading. -/

theorem ofFile_eq (file : File) : ofFile file = file.document >>= ofDocument := by
  cases file <;> rfl

theorem load_eq {file : File} (hread : file.document = .ok document) :
    load file environment = ofDocument document >>= override environment := by
  rw [load, ofFile_eq, hread]
  rfl

/-- Each field that is loaded is what its own key and its own variable come to. -/
theorem value_of_load {settings : Settings}
    (hload : ofDocument document >>= override environment = .ok settings) (field : Field) :
    field.source.value document environment = .ok (field.get settings) := by
  obtain ⟨before, hmade, hover⟩ := exists_of_bind_ok hload
  have hwritten := (ofSections_ok_iff.mp (ofSections_of_ofDocument hmade)).2 field
  rw [Source.value, hwritten]
  exact get_of_override hover field

/-- Does a field not convert somewhere where it is given, in the document or in the environment? -/
def Source.Fails {α : Type} (source : Source α) (document : Document) (environment : Environment) :
    Prop :=
  (∃ fault, source.written document = .error fault) ∨
    ∃ fault, source.replacement? environment = some (.error fault)

/-- Settings can be loaded exactly if no field fails. It does not help that the environment replaces
what the document has wrong. -/
theorem exists_load_iff (hsections : Sectioned document) :
    (∃ settings, ofDocument document >>= override environment = .ok settings) ↔
      ∀ field : Field, ¬ field.source.Fails document environment := by
  rw [hsections.ofDocument_eq]
  simp only [bind_ok_iff, ofSections_ok_iff]
  constructor
  · rintro ⟨settings, before, ⟨-, hwritten⟩, hover⟩ field
    rintro (⟨fault, hfault⟩ | ⟨fault, hfault⟩)
    · have hfield := hwritten field
      rw [hfault] at hfield
      cases hfield
    · have hfield := get_of_override hover field
      rw [hfault] at hfield
      cases hfield
  · intro hnone
    -- Settings are put together from what each field comes to, first in the document alone.
    have hwritten (field : Field) : ∃ value, field.source.written document = .ok value := by
      cases hfield : field.source.written document with
      | ok value => exact ⟨value, rfl⟩
      | error fault => exact absurd (Or.inl ⟨fault, hfield⟩) (hnone field)
    obtain ⟨before, hbefore⟩ := Field.exists_settings hwritten
    have hreplaced (field : Field) : ∃ value,
        (field.source.replacement? environment).getD (.ok (field.get before)) = .ok value := by
      rcases hfield : field.source.replacement? environment with _ | (fault | value)
      · exact ⟨_, rfl⟩
      · exact absurd (Or.inr ⟨fault, hfield⟩) (hnone field)
      · exact ⟨value, rfl⟩
    obtain ⟨settings, hsettings⟩ := Field.exists_settings hreplaced
    exact ⟨settings, before, ⟨hsections.2, hbefore⟩, override_ok_iff.mpr hsettings⟩

theorem error_load_iff (hsections : Sectioned document) :
    (∃ fault, ofDocument document >>= override environment = .error fault) ↔
      ∃ field : Field, field.source.Fails document environment := by
  rw [error_iff_not_ok, exists_load_iff hsections]
  simp only [Classical.not_forall, Classical.not_not]

end ServiceDiscovery.Settings
