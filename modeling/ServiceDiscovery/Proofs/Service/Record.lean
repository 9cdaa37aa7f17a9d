import Mathlib.Data.List.Induction
import ServiceDiscovery.Proofs.Outcome
import ServiceDiscovery.Proofs.Text.Encoding
import ServiceDiscovery.Proofs.Text.Utf8
import ServiceDiscovery.Service.Basic

/-!
TXT records and the attributes that they are made of. Keys and values become bytes, so keys of
different kinds may meet; the place of a record is that of the first attribute with its key, and
its value is that of the last one. A text that was given as a value is the text that is read.
-/

namespace ServiceDiscovery

namespace Records

variable {key other value : Bytes} {records : Records} {entries : List (Bytes × Bytes)}

theorem get?_cons (record : Bytes × Bytes) (records : Records) (key : Bytes) :
    get? key (record :: records) = if record.1 = key then some record.2 else get? key records := by
  by_cases h : record.1 = key <;> simp [get?, h]

theorem get?_eq_none : get? key records = none ↔ key ∉ records.map (·.1) := by
  rw [get?, Option.map_eq_none_iff, List.find?_eq_none, List.mem_map]
  grind

theorem get?_insert (key value : Bytes) (records : Records) (other : Bytes) :
    get? other (insert key value records) =
      if key = other then some value else get? other records := by
  induction records with
  | nil => exact get?_cons (key, value) [] other
  | cons record rest ih =>
      obtain ⟨owner, kept⟩ := record
      by_cases howner : owner = key
      · rw [insert, if_pos howner, get?_cons, get?_cons, howner]
        split <;> rfl
      · rw [insert, if_neg howner, get?_cons, get?_cons, ih]
        by_cases h : owner = other
        · rw [if_pos h, if_pos h, if_neg (fun hkey => howner (h.trans hkey.symm))]
        · rw [if_neg h, if_neg h]

/-- A key that is there keeps its place, and a new one goes to the end. -/
theorem keys_insert (key value : Bytes) (records : Records) :
    (insert key value records).map (·.1) =
      records.map (·.1) ++ if key ∈ records.map (·.1) then [] else [key] := by
  induction records with
  | nil => rfl
  | cons record rest ih =>
      obtain ⟨owner, kept⟩ := record
      by_cases howner : owner = key
      · simp [insert, howner]
      · have hkey : key ≠ owner := fun h => howner h.symm
        rw [insert, if_neg howner, List.map_cons, ih, List.map_cons, List.cons_append]
        simp only [List.mem_cons, hkey, false_or]

theorem ofList_concat (entries : List (Bytes × Bytes)) (entry : Bytes × Bytes) :
    ofList (entries ++ [entry]) = insert entry.1 entry.2 (ofList entries) := by
  rw [ofList, List.foldl_append, List.foldl_cons, List.foldl_nil, ofList]

theorem keys_ofList (entries : List (Bytes × Bytes)) :
    (ofList entries).map (·.1) = (entries.map (·.1)).eraseDups := by
  induction entries using List.reverseRecOn with
  | nil => rfl
  | append_singleton entries entry ih =>
      rw [ofList_concat, keys_insert, ih, List.map_append, List.eraseDups_append]
      by_cases hkey : entry.1 ∈ entries.map (·.1) <;>
        simp [List.removeAll, hkey, List.eraseDups_cons]

theorem get?_ofList (entries : List (Bytes × Bytes)) (key : Bytes) :
    get? key (ofList entries) =
      (entries.reverse.find? fun entry => entry.1 = key).map (·.2) := by
  induction entries using List.reverseRecOn with
  | nil => rfl
  | append_singleton entries entry ih =>
      rw [ofList_concat, get?_insert, ih, List.reverse_append]
      by_cases hkey : entry.1 = key <;> simp [hkey]

theorem nodup_keys_insert (hnodup : (records.map (·.1)).Nodup) :
    ((insert key value records).map (·.1)).Nodup := by
  rw [keys_insert]
  split
  case isTrue => simpa using hnodup
  case isFalse hnew =>
    rw [List.nodup_append]
    refine ⟨hnodup, by simp, ?_⟩
    intro owner howner last hlast
    rw [List.mem_singleton.mp hlast]
    rintro rfl
    exact hnew howner

theorem nodup_keys_ofList (entries : List (Bytes × Bytes)) :
    ((ofList entries).map (·.1)).Nodup := by
  induction entries using List.reverseRecOn with
  | nil => exact List.nodup_nil
  | append_singleton entries entry ih =>
      rw [ofList_concat]
      exact nodup_keys_insert ih

/-- Where no key stands twice, what is found is what is there. -/
theorem get?_eq_some_of_mem (hnodup : (records.map (·.1)).Nodup) (hmem : (key, value) ∈ records) :
    get? key records = some value := by
  induction records with
  | nil => cases hmem
  | cons record rest ih =>
      rw [List.map_cons, List.nodup_cons] at hnodup
      rw [get?_cons]
      rcases List.mem_cons.mp hmem with rfl | hrest
      · rw [if_pos rfl]
      · have howner : record.1 ≠ key := by
          rintro rfl
          exact hnodup.1 (List.mem_map.mpr ⟨_, hrest, rfl⟩)
        rw [if_neg howner, ih hnodup.2 hrest]

/-- The records that entries come to: each key once, where it came first, and with the value that it
was given last. -/
structure Merges (records : Records) (entries : List (Bytes × Bytes)) : Prop where
  keys : records.map (·.1) = (entries.map (·.1)).eraseDups
  values : ∀ key, get? key records = (entries.reverse.find? fun entry => entry.1 = key).map (·.2)

/-- Records with the same keys in the same order and the same values under them are the same. -/
theorem eq_of_get? {others : Records} (hkeys : records.map (·.1) = others.map (·.1))
    (hnodup : (records.map (·.1)).Nodup) (hvalues : ∀ key, get? key records = get? key others) :
    records = others := by
  induction records generalizing others with
  | nil => exact (List.map_eq_nil_iff.mp hkeys.symm).symm
  | cons record rest ih =>
      cases others with
      | nil => cases hkeys
      | cons other others =>
          obtain ⟨howner, hrest⟩ := List.cons.inj hkeys
          rw [List.map_cons, List.nodup_cons] at hnodup
          have hfirst : record = other := by
            have := hvalues record.1
            rw [get?_cons, get?_cons, if_pos rfl, if_pos howner.symm] at this
            exact Prod.ext howner (Option.some.inj this)
          subst hfirst
          refine congrArg (record :: ·) (ih hrest hnodup.2 fun key => ?_)
          by_cases hkey : record.1 = key
          · rw [get?_eq_none.mpr (hkey ▸ hnodup.1), get?_eq_none.mpr (hkey ▸ hrest ▸ hnodup.1)]
          · simpa only [get?_cons, if_neg hkey] using hvalues key

theorem merges_iff : records.Merges entries ↔ ofList entries = records := by
  constructor
  · intro merges
    refine eq_of_get? ((keys_ofList entries).trans merges.keys.symm) (nodup_keys_ofList entries) ?_
    intro key
    rw [get?_ofList, merges.values]
  · rintro rfl
    exact ⟨keys_ofList entries, get?_ofList entries⟩

end Records

namespace ResolvedService

open Text

/-- The bytes in which an attribute key or value is written. Nothing is no bytes, bytes are
themselves, and everything else has a text of its own, which must be well formed and must not need
too many digits. -/
inductive Written : Value → Bytes → Prop where
  | null : Written .null []
  | bytes (bs : Bytes) : Written (.bytes bs) bs
  | text {value : Value} {s : String} (some : value ≠ .null) (unread : ∀ bs, value ≠ .bytes bs)
      (short : value.isOverlong = false) (shown : value.shownPoints = .ofString s) :
      Written value (Utf8.encode s)

/-- What a service says that is made from an answer: name, host, address and port as they are, the
type in its bare form, and the attributes, each written as a record. -/
structure MadeFrom (answer : ResolveAnswer) (service : ResolvedService) : Prop where
  name : service.name = answer.name
  type : service.type = ServiceType.normalize answer.type
  hostname : service.hostname = answer.hostname
  address : service.address = answer.address
  port : service.port = answer.port
  txt : ∃ attributes records, answer.attributes = some attributes ∧
    List.Forall₂ (fun entry record => Written entry.1 record.1 ∧ Written entry.2 record.2)
      attributes records ∧ service.txt.Merges records

/-- The value of the last of the attributes whose keys have these bytes. -/
def deciding? (key : Bytes) (attributes : List (Value × Value)) : Option Value :=
  (attributes.reverse.find? fun entry => attributeBytes entry.1 = .ok key).map (·.2)

variable {attributes : List (Value × Value)} {records : Records} {service : ResolvedService}
  {answer : ResolveAnswer} {value : Value} {bs : Bytes} {key : String}

theorem attributeBytes_ok_iff : attributeBytes value = .ok bs ↔ Written value bs := by
  constructor
  · intro h
    unfold attributeBytes at h
    split at h
    case h_1 => exact Except.ok.inj h ▸ .null
    case h_2 => exact Except.ok.inj h ▸ .bytes _
    case h_3 hsome hunread =>
      split at h
      · cases h
      · rename_i hshort
        cases hencoded : value.shownPoints.encode with
        | error run => simp [hencoded, Except.mapError] at h
        | ok encoded =>
            obtain ⟨s, hshown, rfl⟩ := Points.encode_ok_iff.mp hencoded
            simp only [hencoded, Except.mapError, Except.ok.injEq] at h
            exact h ▸ .text (fun hvalue => hsome hvalue) (fun bs hvalue => hunread bs hvalue)
              (by simpa using hshort) hshown
  · intro written
    cases written with
    | null => rfl
    | bytes => rfl
    | @text _ s hsome hunread hshort hshown =>
        have hencoded : value.shownPoints.encode = .ok (Utf8.encode s) :=
          hshown ▸ Points.encode_ofString s
        unfold attributeBytes
        split
        case h_1 => exact absurd rfl hsome
        case h_2 => exact absurd rfl (hunread _)
        case h_3 => simp [hshort, hencoded, Except.mapError]

theorem written_text (s : String) : Written (.text s) (Utf8.encode s) :=
  .text (by simp) (by simp) rfl rfl

theorem recordOf_ok_iff {entry : Value × Value} {record : Bytes × Bytes} :
    recordOf entry = .ok record ↔ Written entry.1 record.1 ∧ Written entry.2 record.2 := by
  obtain ⟨key, value⟩ := record
  simp only [recordOf, bind_ok_iff, attributeBytes_ok_iff, pure, Except.pure, Except.ok.injEq,
    Prod.mk.injEq]
  grind

theorem recordsOf_ok_iff {txt : Records} : recordsOf attributes = .ok txt ↔
    ∃ records,
      List.Forall₂ (fun entry record => Written entry.1 record.1 ∧ Written entry.2 record.2)
        attributes records ∧ txt.Merges records := by
  simp only [recordsOf, map_ok_iff, mapM_ok_iff, recordOf_ok_iff, Records.merges_iff]

/-- An answer makes a service exactly if all its attributes can be written, and then that service.
-/
theorem ofAnswer_ok_iff : ofAnswer answer = .ok service ↔ service.MadeFrom answer := by
  unfold ofAnswer
  cases hattributes : answer.attributes with
  | none =>
      constructor
      · intro h
        cases h
      · rintro ⟨-, -, -, -, -, attributes, -, h, -⟩
        cases hattributes.symm.trans h
  | some attributes =>
      simp only [map_ok_iff, recordsOf_ok_iff]
      constructor
      · rintro ⟨txt, ⟨records, hwritten, hmerges⟩, rfl⟩
        exact ⟨rfl, rfl, rfl, rfl, rfl, attributes, records, hattributes, hwritten, hmerges⟩
      · rintro ⟨hname, htype, hhostname, haddress, hport, found, records, hfound, hwritten, hmerges⟩
        obtain rfl := Option.some.inj (hattributes.symm.trans hfound)
        refine ⟨service.txt, ⟨records, hwritten, hmerges⟩, ?_⟩
        rw [← hname, ← htype, ← hhostname, ← haddress, ← hport]

/-- Can an attribute key or value be written at all? -/
def Writable (value : Value) : Prop :=
  ∃ bs, Written value bs

theorem writable_text (s : String) : Writable (.text s) :=
  ⟨_, written_text s⟩

theorem exists_ofAnswer_ok_iff (hattributes : answer.attributes = some attributes) :
    (∃ service, ofAnswer answer = .ok service) ↔
      ∀ entry ∈ attributes, Writable entry.1 ∧ Writable entry.2 := by
  have hentry (entry : Value × Value) :
      (∃ record, recordOf entry = .ok record) ↔ Writable entry.1 ∧ Writable entry.2 := by
    simp only [recordOf_ok_iff, Writable, Prod.exists, exists_and_left, exists_and_right]
  have hmade : (∃ service, ofAnswer answer = .ok service) ↔
      ∃ records, attributes.mapM recordOf = .ok records := by
    simp [ofAnswer, hattributes, recordsOf, map_ok_iff]
  rw [hmade, ← not_iff_not, ← error_iff_not_ok, mapM_error_iff]
  simp only [error_iff_not_ok, hentry, not_forall, exists_prop]

/-- What is found in two lists that agree place by place. -/
theorem rel_find? {α β : Type} {related : α → β → Prop} {p : α → Bool} {q : β → Bool}
    {items : List α} {others : List β} (hitems : List.Forall₂ related items others)
    (hsame : ∀ a b, related a b → p a = q b) :
    Option.Rel related (items.find? p) (others.find? q) := by
  induction hitems with
  | nil => exact .none
  | @cons a b items others hfirst _ ih =>
      rw [List.find?_cons, List.find?_cons, hsame a b hfirst]
      cases q b with
      | true => exact .some hfirst
      | false => exact ih

/-- What is kept under a key is the value that decides, written. -/
theorem MadeFrom.rel_get? (made : service.MadeFrom answer)
    (hattributes : answer.attributes = some attributes) (bs : Bytes) :
    Option.Rel Written (deciding? bs attributes) (service.txt.get? bs) := by
  obtain ⟨found, records, hfound, hwritten, hmerges⟩ := made.txt
  obtain rfl := Option.some.inj (hattributes.symm.trans hfound)
  rw [hmerges.values, deciding?]
  have hfind := rel_find? (p := fun entry => attributeBytes entry.1 = .ok bs)
    (q := fun record => record.1 = bs) (List.forall₂_reverse_iff.mpr hwritten) (by
      rintro entry record ⟨hkey, -⟩
      simp [attributeBytes_ok_iff.mpr hkey])
  generalize attributes.reverse.find? _ = entry at hfind ⊢
  generalize records.reverse.find? _ = record at hfind ⊢
  cases hfind with
  | none => exact .none
  | some h => exact .some h.2

/-- A key of bytes and a key of text are one key if the text is encoded in these bytes. -/
example :
    recordsOf
        [(.text "é", .text "1"), (.text "b", .null), (.bytes [0xC3, 0xA9], .bytes [0xFF])] =
      .ok [([0xC3, 0xA9], [0xFF]), ([0x62], [])] := by
  decide +kernel

theorem txtText?_eq_none :
    service.txtText? key = none ↔ service.txt.get? (Utf8.encode key) = none := by
  rw [txtText?, Option.map_eq_none_iff]

/-- Whatever bytes are kept under a key, they can be read. -/
theorem reads_txtText? (hkept : service.txt.get? (Utf8.encode key) = some bs) :
    ∃ text, service.txtText? key = some text ∧ Utf8.Reads bs text.toList := by
  refine ⟨Utf8.decodeLenient bs, ?_, Utf8.reads_iff.mpr rfl⟩
  rw [txtText?, hkept, Option.map_some]

/-- A service is made of attributes exactly if all keys and values can be written, as texts, bytes
and no values can. The records of a resolved service are one for each key in bytes, in the order in
which the keys came first and each with the value of the last attribute of that key. Text is read as
it was given, no value as the empty text, and bytes as far as they are text; a key has no text
exactly if no attribute has it. There are no bytes under a key that could not be read. -/
theorem txt_of_attributes (answer : ResolveAnswer) (attributes : List (Value × Value)) :
    ((∃ service, ofAnswer { answer with attributes := some attributes } = .ok service) ↔
      ∀ entry ∈ attributes, Writable entry.1 ∧ Writable entry.2) ∧
    (Writable .null ∧ (∀ bs, Writable (.bytes bs)) ∧ ∀ s, Writable (.text s)) ∧
    (∀ service, ofAnswer { answer with attributes := some attributes } = .ok service →
      (∃ keys, List.Forall₂ (fun entry key => Written entry.1 key) attributes keys ∧
        service.txt.map (·.1) = keys.eraseDups) ∧
      (service.txt.map (·.1)).Nodup ∧
      (∀ record ∈ service.txt,
        ∃ value, deciding? record.1 attributes = some value ∧ Written value record.2) ∧
      ∀ key : String,
        (service.txtText? key = none ↔
          ∀ entry ∈ attributes, ¬ Written entry.1 (Utf8.encode key)) ∧
        (∀ text, deciding? (Utf8.encode key) attributes = some (.text text) →
          service.txtText? key = some text) ∧
        (deciding? (Utf8.encode key) attributes = some .null → service.txtText? key = some "") ∧
        ∀ bs, deciding? (Utf8.encode key) attributes = some (.bytes bs) →
          ∃ text, service.txtText? key = some text ∧ Utf8.Reads bs text.toList) ∧
    ∀ (keeper : ResolvedService) (key : String) bs,
      keeper.txt.get? (Utf8.encode key) = some bs →
        ∃ text, keeper.txtText? key = some text ∧ Utf8.Reads bs text.toList := by
  refine ⟨exists_ofAnswer_ok_iff rfl, ⟨⟨_, .null⟩, fun bs => ⟨_, .bytes bs⟩, writable_text⟩, ?_,
    fun _ _ _ => reads_txtText?⟩
  intro service hservice
  have made := ofAnswer_ok_iff.mp hservice
  obtain ⟨found, records, hfound, hwritten, hmerges⟩ := made.txt
  obtain rfl := Option.some.inj hfound
  have hnodup : (service.txt.map (·.1)).Nodup :=
    Records.merges_iff.mp hmerges ▸ Records.nodup_keys_ofList records
  refine ⟨⟨records.map (·.1), ?_, hmerges.keys⟩, hnodup, ?_, ?_⟩
  · rw [List.forall₂_map_right_iff]
    exact hwritten.imp fun _ _ h => h.1
  · intro record hrecord
    have hrel := made.rel_get? rfl record.1
    rw [Records.get?_eq_some_of_mem hnodup hrecord] at hrel
    generalize hvalue : deciding? record.1 attributes = decided at hrel
    cases hrel with
    | some h => exact ⟨_, rfl, h⟩
  · intro key
    have hrel := made.rel_get? rfl (Utf8.encode key)
    have hdecided {value : Value} (hvalue : deciding? (Utf8.encode key) attributes = some value) :
        ∃ bs, service.txt.get? (Utf8.encode key) = some bs ∧ attributeBytes value = .ok bs := by
      rw [hvalue] at hrel
      generalize service.txt.get? (Utf8.encode key) = kept at hrel
      cases hrel with
      | some h => exact ⟨_, rfl, attributeBytes_ok_iff.mpr h⟩
    refine ⟨?_, ?_, ?_, ?_⟩
    · have hnone : service.txt.get? (Utf8.encode key) = none ↔
          deciding? (Utf8.encode key) attributes = none := by
        generalize deciding? _ attributes = decided at hrel ⊢
        generalize service.txt.get? _ = kept at hrel ⊢
        cases hrel <;> simp
      rw [txtText?_eq_none, hnone]
      simp [deciding?, attributeBytes_ok_iff]
    · intro text htext
      obtain ⟨bs, hkept, hbs⟩ := hdecided htext
      rw [attributeBytes_ok_iff.mpr (written_text text)] at hbs
      rw [txtText?, hkept, ← Except.ok.inj hbs, Option.map_some, Utf8.decodeLenient_encode]
    · intro hnull
      obtain ⟨bs, hkept, hbs⟩ := hdecided hnull
      rw [txtText?, hkept, ← Except.ok.inj hbs]
      exact congrArg some (Utf8.decodeLenient_encode "")
    · intro bs hbytes
      obtain ⟨kept, hkept, hbs⟩ := hdecided hbytes
      exact reads_txtText? (Except.ok.inj hbs ▸ hkept)

end ResolvedService

end ServiceDiscovery
