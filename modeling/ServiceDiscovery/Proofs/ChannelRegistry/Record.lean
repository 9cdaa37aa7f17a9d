import ServiceDiscovery.ChannelRegistry
import Mathlib.Data.List.Nodup
import Mathlib.Data.List.TakeWhile

/-!
What was done with a registry, in order. The record says by itself who was given which token,
whether the token is still held, and which events were passed with it while it was. A registry keeps
the tokens that are held according to its record and no others, so what it gives to receivers are
the events that the record says are theirs.
-/

namespace ServiceDiscovery.ChannelRegistry

/-- What is done with a registry, apart from questions. -/
inductive Entry where
  | attached (token : Token) (receiver : Receiver)
  | detached (token : Token)
  | delivered (token : Token) (event : Event)
  deriving DecidableEq, Repr

namespace Entry

/-- Who was given a token. -/
def tenant? : Entry → Option (Token × Receiver)
  | .attached token receiver => some (token, receiver)
  | _ => none

def attaches (token : Token) (entry : Entry) : Bool :=
  entry.tenant?.any (·.1 = token)

def detaches (token : Token) : Entry → Bool
  | .detached other => other = token
  | _ => false

/-- The event that was passed with the token. -/
def event? (token : Token) : Entry → Option Event
  | .delivered other event => if other = token then some event else none
  | _ => none

end Entry

/-- Who was given which token, in order. -/
def tenants (record : List Entry) : List (Token × Receiver) :=
  record.filterMap Entry.tenant?

/-- What was done since the token was given out. -/
def since (token : Token) (record : List Entry) : List Entry :=
  record.dropWhile (!·.attaches token)

/-- The events that were passed with the token from when it was given out until it was detached. -/
def between (token : Token) (record : List Entry) : List Event :=
  ((since token record).takeWhile (!·.detaches token)).filterMap (Entry.event? token)

/-- Was the token given out, and not detached since? -/
def isHeld (token : Token) (record : List Entry) : Bool :=
  since token record ≠ [] && (since token record).all (!·.detaches token)

/-- Gives one receiver after the other a token. -/
def attachAll : List Receiver → ChannelRegistry → ChannelRegistry
  | [], registry => registry
  | receiver :: others, registry => attachAll others (registry.attach receiver).2

/-- The entries for receivers who are given tokens one after the other. -/
def joining : List Receiver → ChannelRegistry → List Entry
  | [], _ => []
  | receiver :: others, registry =>
      .attached (registry.attach receiver).1 receiver ::
        joining others (registry.attach receiver).2

/-- A receiver is given an event by a task of the registry. -/
structure Gift where
  task : Task
  receiver : Receiver
  event : Event
  deriving DecidableEq, Repr

namespace Gift

/-- Is it given because it was passed with the token? -/
def under (token : Token) (gift : Gift) : Bool :=
  gift.task = .call (.deliver token gift.event)

/-- What the one who was given a token is given because it was passed with the token. -/
def of (tenant : Token × Receiver) (event : Event) : Gift where
  task := .call (.deliver tenant.1 event)
  receiver := tenant.2
  event

theorem under_of (token : Token) (tenant : Token × Receiver) (event : Event) :
    (of tenant event).under token = decide (tenant.1 = token) := by
  simp [under, of]

end Gift

/-- What the registry gives if an event is passed with a token. -/
def gives (token : Token) (event : Event) (registry : ChannelRegistry) : List Gift :=
  (registry.receiver? token).toList.map fun receiver => .of (token, receiver) event

variable {token : Token} {receiver : Receiver} {event : Event} {entry : Entry}
  {record : List Entry} {registry : ChannelRegistry}

theorem tenants_append (first second : List Entry) :
    tenants (first ++ second) = tenants first ++ tenants second :=
  List.filterMap_append

/-- Nothing was done since a token was given out that never was. -/
theorem since_eq_nil_iff :
    since token record = [] ↔ ∀ tenant ∈ tenants record, tenant.1 ≠ token := by
  simp only [since, List.dropWhile_eq_nil_iff, tenants, List.mem_filterMap, Entry.attaches]
  constructor
  · rintro h tenant ⟨entry, hmem, htenant⟩ rfl
    simpa [htenant] using h entry hmem
  · intro h entry hmem
    cases htenant : entry.tenant? with
    | none => simp
    | some tenant => simpa using h tenant ⟨entry, hmem, htenant⟩

theorem since_append (hentry : entry.attaches token = false) :
    since token (record ++ [entry]) =
      if since token record = [] then [] else since token record ++ [entry] := by
  unfold since
  rw [List.dropWhile_append]
  by_cases hsince : record.dropWhile (!·.attaches token) = []
  · rw [if_pos hsince, if_pos (List.isEmpty_iff.mpr hsince)]
    simp [hentry]
  · rw [if_neg hsince, if_neg (List.isEmpty_iff.not.mpr hsince)]

theorem since_attached (fresh : since token record = []) :
    since token (record ++ [.attached token receiver]) = [.attached token receiver] := by
  have hattaches : (Entry.attached token receiver).attaches token = true := by
    simp [Entry.attaches, Entry.tenant?]
  unfold since at fresh ⊢
  simp [List.dropWhile_append, fresh, hattaches]

/-- A token is held until it is detached. -/
theorem isHeld_append (hentry : entry.attaches token = false) :
    isHeld token (record ++ [entry]) = (isHeld token record && !entry.detaches token) := by
  rw [isHeld, isHeld, since_append hentry]
  by_cases hsince : since token record = []
  · simp [hsince]
  · simp [hsince]

theorem isHeld_attached (fresh : since token record = []) :
    isHeld token (record ++ [.attached token receiver]) = true := by
  simp [isHeld, since_attached fresh, Entry.detaches]

/-- An event counts for a token if it is passed with it while it is held. -/
theorem between_append (hentry : entry.attaches token = false) :
    between token (record ++ [entry]) = between token record ++
      if isHeld token record then (entry.event? token).toList else [] := by
  rw [between, between, since_append hentry, isHeld]
  generalize since token record = stay
  by_cases hstay : stay = []
  · simp [hstay]
  by_cases hall : stay.all (!·.detaches token) = true
  · have hkept := List.all_eq_true.mp hall
    rw [if_neg hstay, List.takeWhile_append_of_pos hkept, List.takeWhile_eq_self_iff.mpr hkept,
      List.filterMap_append]
    cases hdetaches : entry.detaches token with
    | false =>
        cases hevent : entry.event? token <;> simp [hdetaches, hevent, hstay, hall]
    | true =>
        cases entry with
        | detached other => simp [hdetaches, Entry.event?]
        | _ => cases hdetaches
  · have hlength : (stay.takeWhile (!·.detaches token)).length ≠ stay.length := by
      intro heq
      have hsame := (List.takeWhile_prefix _).eq_of_length heq
      exact hall (List.all_eq_true.mpr (List.takeWhile_eq_self_iff.mp hsame))
    simp [hstay, hall, List.takeWhile_append, hlength]

theorem between_attached (fresh : since token record = []) :
    between token (record ++ [.attached token receiver]) = [] := by
  simp [between, since_attached fresh, Entry.detaches, Entry.event?]

/-- A registry keeps the tokens that are held, and gave out as many as the record tells. -/
structure Keeps (registry : ChannelRegistry) (record : List Entry) : Prop where
  tokens : (tenants record).map (·.1) =
    (List.range registry.issued).map fun number => ((number + 1 : Nat) : Token)
  channels : registry.channels = (tenants record).filter fun tenant => isHeld tenant.1 record

namespace Keeps

theorem new : Keeps {} [] where
  tokens := rfl
  channels := rfl

variable (keeps : Keeps registry record)
include keeps

/-- No token was given out twice. -/
theorem nodup : ((tenants record).map (·.1)).Nodup := by
  rw [keeps.tokens]
  apply List.Nodup.map _ List.nodup_range
  intro first second heq
  have hsame : first + 1 = second + 1 := Int.ofNat.inj heq
  exact Nat.succ.inj hsame

/-- The next token is none of those that were given out. -/
theorem fresh : ∀ tenant ∈ tenants record,
    tenant.1 ≠ ((registry.issued + 1 : Nat) : Token) := by
  intro tenant hmem heq
  have htoken := List.mem_map_of_mem (f := (·.1)) hmem
  rw [keeps.tokens, heq] at htoken
  obtain ⟨number, hnumber, hsame⟩ := List.mem_map.mp htoken
  have hnext : number + 1 = registry.issued + 1 := Int.ofNat.inj hsame
  have hlt := List.mem_range.mp hnumber
  omega

/-- An entry that gives out no token leaves tokens where they were, if those stay that it does not
detach. -/
theorem goes {after : ChannelRegistry} (htenant : entry.tenant? = none)
    (hissued : after.issued = registry.issued)
    (hchannels : after.channels = registry.channels.filter (!entry.detaches ·.1)) :
    Keeps after (record ++ [entry]) := by
  have hsame : tenants (record ++ [entry]) = tenants record := by
    simp [tenants, htenant]
  constructor
  · rw [hsame, keeps.tokens, hissued]
  · rw [hsame, hchannels, keeps.channels, List.filter_filter]
    congr 1
    funext tenant
    rw [isHeld_append (by simp [Entry.attaches, htenant]), Bool.and_comm]

theorem detach (token : Token) : Keeps (registry.detach token) (record ++ [.detached token]) := by
  apply @goes (.detached token) record registry keeps (registry.detach token) rfl rfl
  simp [ChannelRegistry.detach, Entry.detaches, eq_comm]

theorem deliver (token : Token) (event : Event) :
    Keeps registry (record ++ [.delivered token event]) :=
  keeps.goes rfl rfl (List.filter_eq_self.mpr fun _ _ => rfl).symm

theorem attach (receiver : Receiver) :
    Keeps (registry.attach receiver).2
      (record ++ [.attached (registry.attach receiver).1 receiver]) := by
  generalize htoken : (registry.attach receiver).1 = token
  have hnext : token = ((registry.issued + 1 : Nat) : Token) := htoken.symm
  have htenants := tenants_append record [.attached token receiver]
  have hfresh : ∀ tenant ∈ tenants record, tenant.1 ≠ token := hnext ▸ keeps.fresh
  constructor
  · rw [htenants, List.map_append, keeps.tokens]
    change _ = (List.range (registry.issued + 1)).map _
    rw [List.range_succ, List.map_append, hnext]
    rfl
  · have hold : (tenants record).filter (fun tenant => isHeld tenant.1
          (record ++ [.attached token receiver])) = registry.channels := by
      rw [keeps.channels]
      apply List.filter_congr
      intro tenant hmem
      have hother : (Entry.attached token receiver).attaches tenant.1 = false := by
        simpa [Entry.attaches, Entry.tenant?] using (hfresh tenant hmem).symm
      rw [isHeld_append hother]
      simp [Entry.detaches]
    have hnew : isHeld token (record ++ [.attached token receiver]) = true :=
      isHeld_attached (since_eq_nil_iff.mpr hfresh)
    have hlast : (tenants [Entry.attached token receiver]).filter (fun tenant => isHeld tenant.1
        (record ++ [.attached token receiver])) = [(token, receiver)] := by
      simp [tenants, Entry.tenant?, hnew]
    rw [htenants, List.filter_append, hold, hlast, hnext]
    rfl

/-- Receivers who are given tokens one after the other are entered one after the other. -/
theorem attachAll (receivers : List Receiver) :
    Keeps (registry.attachAll receivers) (record ++ joining receivers registry) := by
  induction receivers generalizing registry record with
  | nil =>
      rw [joining, List.append_nil]
      exact keeps
  | cons receiver others ih =>
      have hothers := ih (keeps.attach receiver)
      rw [List.append_assoc] at hothers
      exact hothers

theorem isAttached (token : Token) : registry.isAttached token = isHeld token record := by
  rw [ChannelRegistry.isAttached, keeps.channels, List.any_filter]
  cases held : isHeld token record with
  | false =>
      rw [List.any_eq_false]
      intro tenant hmem htenant
      simp only [Bool.and_eq_true, decide_eq_true_eq] at htenant
      obtain ⟨hheld, rfl⟩ := htenant
      cases held.symm.trans hheld
  | true =>
      have hsince : since token record ≠ [] := by
        simp only [isHeld, Bool.and_eq_true, decide_eq_true_eq] at held
        exact held.1
      obtain ⟨tenant, hmem, rfl⟩ : ∃ tenant ∈ tenants record, tenant.1 = token := by
        simpa [since_eq_nil_iff] using hsince
      exact List.any_eq_true.mpr ⟨tenant, hmem, by simp [held]⟩

theorem size : registry.size =
    ((tenants record).filter fun tenant => isHeld tenant.1 record).length :=
  congrArg List.length keeps.channels

theorem receiver?_of_unheld (unheld : isHeld token record = false) :
    registry.receiver? token = none := by
  rw [← keeps.isAttached, ChannelRegistry.isAttached, List.any_eq_false] at unheld
  simpa [receiver?] using unheld

/-- A token that is held leads to the receiver it was given to. -/
theorem receiver?_of_held (tenant : (token, receiver) ∈ tenants record)
    (held : isHeld token record = true) : registry.receiver? token = some receiver := by
  have hmem : (token, receiver) ∈ registry.channels := by
    rw [keeps.channels]
    exact List.mem_filter.mpr ⟨tenant, held⟩
  have hsome : (registry.channels.find? (·.1 = token)).isSome = true := by
    rw [List.find?_isSome]
    exact ⟨_, hmem, by simp⟩
  obtain ⟨found, hfound⟩ := Option.isSome_iff_exists.mp hsome
  have htoken : found.1 = token := by simpa using List.find?_some hfound
  have hother : found ∈ tenants record := by
    have hchannel := List.mem_of_find?_eq_some hfound
    rw [keeps.channels] at hchannel
    exact (List.mem_filter.mp hchannel).1
  have hsame : found = (token, receiver) :=
    List.inj_on_of_nodup_map keeps.nodup hother tenant htoken
  simp [receiver?, hfound, hsame]

/-- A token leads to nobody it was not given to. -/
theorem tenant_of_receiver? (h : registry.receiver? token = some receiver) :
    (token, receiver) ∈ tenants record := by
  obtain ⟨found, hfound, rfl⟩ := Option.map_eq_some_iff.mp h
  have htoken : found.1 = token := by simpa using List.find?_some hfound
  have hmem := List.mem_of_find?_eq_some hfound
  rw [keeps.channels] at hmem
  rw [← htoken]
  exact (List.mem_filter.mp hmem).1

end Keeps

/-- Each who was given a token was given the events that were passed with it while it was held, each
once and in order, and nothing else was given to anybody. -/
structure Routes (record : List Entry) (gifts : List Gift) : Prop where
  theirs : ∀ tenant ∈ tenants record,
    gifts.filter (·.under tenant.1) = (between tenant.1 record).map (Gift.of tenant)
  others : ∀ gift ∈ gifts, ∃ tenant ∈ tenants record, gift = Gift.of tenant gift.event

namespace Routes

theorem new : Routes [] [] where
  theirs := by simp [tenants]
  others := by simp

variable {gifts : List Gift} (routes : Routes record gifts)
include routes

/-- Giving out no token and passing no event changes nothing. -/
theorem goes (htenant : entry.tenant? = none) (hevent : ∀ token, entry.event? token = none) :
    Routes (record ++ [entry]) gifts := by
  have hsame : tenants (record ++ [entry]) = tenants record := by
    simp [tenants, htenant]
  have hattaches (token : Token) : entry.attaches token = false := by
    simp [Entry.attaches, htenant]
  constructor
  · intro tenant hmem
    rw [hsame] at hmem
    rw [between_append (hattaches _), hevent]
    simpa using routes.theirs tenant hmem
  · rw [hsame]
    exact routes.others

theorem attach (keeps : Keeps registry record) (receiver : Receiver) :
    Routes (record ++ [.attached (registry.attach receiver).1 receiver]) gifts := by
  generalize htoken : (registry.attach receiver).1 = token
  have hfresh : ∀ tenant ∈ tenants record, tenant.1 ≠ token := htoken ▸ keeps.fresh
  have htenants : tenants (record ++ [.attached token receiver]) =
      tenants record ++ [(token, receiver)] := tenants_append ..
  constructor
  · intro tenant hmem
    rw [htenants] at hmem
    rcases List.mem_append.mp hmem with hold | hnew
    · have hother : (Entry.attached token receiver).attaches tenant.1 = false := by
        simpa [Entry.attaches, Entry.tenant?] using (hfresh tenant hold).symm
      rw [between_append hother]
      simpa [Entry.event?] using routes.theirs tenant hold
    · obtain rfl := List.mem_singleton.mp hnew
      rw [between_attached (since_eq_nil_iff.mpr hfresh), List.map_nil, List.filter_eq_nil_iff]
      intro gift hgift
      obtain ⟨other, hother, heq⟩ := routes.others gift hgift
      rw [heq, Gift.under_of]
      simpa using hfresh other hother
  · intro gift hgift
    obtain ⟨tenant, hmem, heq⟩ := routes.others gift hgift
    exact ⟨tenant, htenants ▸ List.mem_append_left _ hmem, heq⟩

theorem attachAll (keeps : Keeps registry record) (receivers : List Receiver) :
    Routes (record ++ joining receivers registry) gifts := by
  induction receivers generalizing registry record with
  | nil =>
      rw [joining, List.append_nil]
      exact routes
  | cons receiver others ih =>
      have hothers := ih (routes.attach keeps receiver) (keeps.attach receiver)
      rw [List.append_assoc] at hothers
      exact hothers

theorem detach (token : Token) : Routes (record ++ [.detached token]) gifts :=
  routes.goes rfl fun _ => rfl

/-- An event that is passed with a token goes to the one who holds it. -/
theorem deliver (keeps : Keeps registry record) (token : Token) (event : Event) :
    Routes (record ++ [.delivered token event]) (gifts ++ registry.gives token event) := by
  have htenants : tenants (record ++ [.delivered token event]) = tenants record := by
    simp [tenants, Entry.tenant?]
  have hattaches (other : Token) : (Entry.delivered token event).attaches other = false := rfl
  constructor
  · intro tenant hmem
    rw [htenants] at hmem
    rw [between_append (hattaches _), List.filter_append, List.map_append,
      routes.theirs tenant hmem, List.append_cancel_left_eq]
    by_cases htoken : token = tenant.1
    · subst htoken
      cases held : isHeld tenant.1 record with
      | true =>
          have hreceiver := keeps.receiver?_of_held hmem held
          simp [gives, hreceiver, Gift.under_of, Entry.event?]
      | false =>
          have hreceiver := keeps.receiver?_of_unheld held
          simp [gives, hreceiver]
    · have hevent : (Entry.delivered token event).event? tenant.1 = none := by
        simp [Entry.event?, htoken]
      simp [hevent, gives, Gift.under_of, htoken]
  · intro gift hgift
    rw [htenants]
    rcases List.mem_append.mp hgift with hold | hnew
    · exact routes.others gift hold
    · obtain ⟨receiver, hmem, rfl⟩ := List.mem_map.mp hnew
      exact ⟨(token, receiver), keeps.tenant_of_receiver? (Option.mem_toList.mp hmem), rfl⟩

end Routes

end ServiceDiscovery.ChannelRegistry
