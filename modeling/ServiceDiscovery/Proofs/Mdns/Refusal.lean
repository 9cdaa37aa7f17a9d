import ServiceDiscovery.Mdns.Platform
import ServiceDiscovery.Proofs.Mdns.Name

/-!
What a platform refuses. A browse is refused for its type alone; a registration also for its name,
its port and its TXT records. Each of these makes the request invalid, so that sessions report it.
A type whose service has nothing behind its underscore is refused too, but as nobody expects, and in
a registration only when name and port pass.
-/

namespace ServiceDiscovery.Mdns

variable {α β : Type}

/-- All that can go wrong is that an argument is malformed. -/
def Reportable (result : Except Fault α) : Prop :=
  ∀ fault, result = .error fault → fault.isMalformed = true

namespace Reportable

theorem ok (a : α) : Reportable (.ok a) := by
  intro fault h
  cases h

theorem error {fault : Fault} (malformed : fault.isMalformed = true) :
    Reportable (.error fault : Except Fault α) := by
  intro raised h
  cases h
  exact malformed

theorem bind {first : Except Fault α} {next : α → Except Fault β} (hfirst : Reportable first)
    (hnext : ∀ a, first = .ok a → Reportable (next a)) : Reportable (first >>= next) := by
  cases first with
  | ok a => exact hnext a rfl
  | error fault =>
      intro raised h
      obtain rfl : fault = raised := Except.error.inj h
      exact hfirst fault rfl

theorem mapM {f : α → Except Fault β} (each : ∀ a, Reportable (f a)) (values : List α) :
    Reportable (values.mapM f) := by
  induction values with
  | nil => exact .ok []
  | cons a rest ih =>
      rw [List.mapM_cons]
      exact (each a).bind fun b _ => ih.bind fun bs _ => .ok (b :: bs)

end Reportable

namespace ServiceInfo

theorem reportable_refusal {result : Except NameFault α} (h : result ≠ .error .emptyLabel) :
    Reportable (result.mapError NameFault.refusal) := by
  cases result with
  | ok a => exact .ok a
  | error fault =>
      cases fault with
      | emptyLabel => exact absurd rfl h
      | _ => exact .error rfl

theorem reportable_checkLength (name : Text.Points) : Reportable (checkLength name) := by
  unfold checkLength
  cases name.encode with
  | error run => exact .error rfl
  | ok bytes =>
      refine Reportable.bind (.ok bytes) fun _ _ => ?_
      split
      · exact .error rfl
      · exact .ok ()

theorem isMalformed_badPort (port : Value) : (badPort port).isMalformed = true := by
  unfold badPort
  split <;> rfl

theorem reportable_textBytes (text : Text.Points) : Reportable (textBytes text) := by
  simp only [textBytes]
  cases text.encode with
  | ok bytes => exact .ok bytes
  | error run => exact .error rfl

theorem reportable_valueBytes (value : Value) : Reportable (valueBytes value) := by
  unfold valueBytes
  split
  · exact .ok none
  · exact .ok _
  · cases h : textBytes value.shownPoints with
    | ok bytes => exact .ok (some bytes)
    | error fault => exact .error (reportable_textBytes _ fault h)

theorem reportable_txtData (txt : List (Value × Value)) : Reportable (txtData txt) := by
  unfold txtData
  refine (Reportable.mapM (fun entry => ?_) (textKeys txt)).bind fun records _ => ?_
  · refine (reportable_textBytes entry.1).bind fun key _ => ?_
    exact (reportable_valueBytes entry.2).bind fun value _ => .ok (key, value)
  · cases TxtData.encode? records with
    | some data => exact .ok data
    | none => exact .error rfl

end ServiceInfo

/-- Where a host publishes its services there are addresses. -/
def Host.HasAddresses (host : Host) : Prop :=
  ∃ texts addresses, ServiceInfo.publishedAddresses host = .ok texts ∧
    ServiceInfo.readAddresses texts = .ok addresses

/-- Can this be the name of an instance, by its bytes? -/
def isInstance (name : Text.Points) : Bool :=
  match name.encode with
  | .error _ => false
  | .ok bytes => !bytes.isEmpty && bytes.length ≤ ServiceInfo.nameLimit

/-- Is this the number of a port? -/
def isPort (port : Int) : Bool :=
  0 < port && port < Port.bound

variable {host : Host} {name type : Text.Points} {port : Int} {txt : List (Value × Value)}

theorem checkLength_ok : ServiceInfo.checkLength name = .ok () ↔ isInstance name = true := by
  unfold ServiceInfo.checkLength isInstance
  cases name.encode with
  | error run => simp [Except.mapError, bind, Except.bind]
  | ok bytes => simp [Except.mapError, bind, Except.bind]

theorem checkPort_int : ServiceInfo.checkPort (.int port) =
    if isPort port then .ok () else .error (ServiceInfo.badPort (.int port)) := by
  have hvalid : Port.isValid? (.int port) = some (isPort port) := Port.isValid?_int port
  rw [ServiceInfo.checkPort, hvalid]
  cases isPort port <;> rfl

theorem refusal_ok {α : Type} {result : Except NameFault α} {a : α}
    (h : result.mapError NameFault.refusal = .ok a) : result = .ok a := by
  cases result with
  | ok b => exact congrArg Except.ok (Except.ok.inj h)
  | error fault => cases h

/-- A registration for which there is an address is malformed if it is refused, unless its service
has no name and nothing is wrong before that is seen. -/
theorem reportable_forRegistration (addresses : host.HasAddresses)
    (named : ¬ (isInstance name = true ∧ isPort port = true ∧
      Nameless (ServiceType.qualify type))) :
    Reportable (ServiceInfo.forRegistration host name type (.int port) txt) := by
  obtain ⟨texts, found, htexts, hfound⟩ := addresses
  simp only [ServiceInfo.forRegistration, checkPort_int, htexts]
  refine (ServiceInfo.reportable_checkLength name).bind fun _ hlength => ?_
  have hname : isInstance name = true := checkLength_ok.mp hlength
  cases hport : isPort port with
  | false => exact .error (ServiceInfo.isMalformed_badPort _)
  | true =>
      have htype : checkType (ServiceType.qualify type) ≠ .error .emptyLabel := by
        rw [Ne, checkType_emptyLabel]
        exact fun nameless => named ⟨hname, hport, nameless⟩
      refine Reportable.bind (.ok ()) fun _ _ => ?_
      refine (ServiceInfo.reportable_refusal htype).bind fun _ haccepted => ?_
      -- The instance stands in front of a type with a service, so its name has that service.
      have hfull : checkInstance (ServiceType.qualify type)
          (name ++ "." ++ ServiceType.qualify type) ≠ .error .emptyLabel := by
        rw [Ne, checkInstance_emptyLabel]
        exact not_nameless_of_checkType (refusal_ok haccepted)
      refine Reportable.bind (.ok texts) fun _ hsame => ?_
      obtain rfl := Except.ok.inj hsame
      refine (ServiceInfo.reportable_refusal hfull).bind fun _ _ => ?_
      rw [hfound]
      refine Reportable.bind (.ok found) fun _ _ => ?_
      exact (ServiceInfo.reportable_txtData txt).bind fun data _ => .ok _

theorem forRegistration_nameless (hname : isInstance name = true) (hport : isPort port = true)
    (nameless : Nameless (ServiceType.qualify type)) :
    ServiceInfo.forRegistration host name type (.int port) txt = .error .emptyServiceName := by
  have htype := checkType_emptyLabel.mpr nameless
  simp only [ServiceInfo.forRegistration, checkPort_int, hport, htype, checkLength_ok.mpr hname]
  rfl

namespace Platform

variable {core : Platform} {listener : Listener}

/-- What comes of a request to begin that a platform can refuse only as malformed: one job is handed
in, or nothing is changed. -/
inductive Considers (core : Platform) : Platform × List Effect → Prop where
  | accepted {changed : Platform} (job : Job)
      (ready : changed.ready = core.ready ++ [.submitted job])
      (browsers : changed.browsers = core.browsers) : Considers core (changed, [])
  | refused {fault : Fault} (malformed : fault.isMalformed = true) :
      Considers core (core, [.raise fault])

theorem considers_discover (started : core.started = true)
    (named : core.browsers.lookup listener = none →
      ¬ Nameless (ServiceType.qualify type)) :
    Considers core (core.requestDiscover type listener) := by
  unfold requestDiscover
  split
  · exact .refused rfl
  · rename_i hfree
    have hnamed := named (Option.not_isSome_iff_eq_none.mp hfree)
    rw [← checkType_emptyLabel] at hnamed
    simp only
    cases hcheck : checkType (ServiceType.qualify type) with
    | ok accepted =>
        simp only [submitOrRaise, started, if_true]
        exact .accepted _ rfl rfl
    | error fault =>
        cases fault with
        | emptyLabel => exact absurd hcheck hnamed
        | _ => exact .refused rfl

theorem requestDiscover_nameless (hfree : core.browsers.lookup listener = none)
    (nameless : Nameless (ServiceType.qualify type)) :
    core.requestDiscover type listener = (core, [.raise .emptyServiceName]) := by
  have hcheck := checkType_emptyLabel.mpr nameless
  simp only [requestDiscover, hfree, hcheck]
  rfl

theorem considers_register (started : core.started = true) (addresses : core.host.HasAddresses)
    (named : core.registrations.lookup listener = none →
      ¬ (isInstance name = true ∧ isPort port = true ∧
        Nameless (ServiceType.qualify type))) :
    Considers core (core.requestRegister name type (.int port) txt listener) := by
  unfold requestRegister
  split
  · exact .refused rfl
  · rename_i hfree
    have hreportable := @reportable_forRegistration core.host name type port txt addresses
      (named (Option.not_isSome_iff_eq_none.mp hfree))
    cases hmade : ServiceInfo.forRegistration core.host name type (.int port) txt with
    | ok made =>
        simp only [started]
        exact .accepted _ rfl rfl
    | error fault => exact .refused (hreportable fault hmade)

theorem requestRegister_nameless (hfree : core.registrations.lookup listener = none)
    (hname : isInstance name = true) (hport : isPort port = true)
    (nameless : Nameless (ServiceType.qualify type)) :
    core.requestRegister name type (.int port) txt listener =
      (core, [.raise .emptyServiceName]) := by
  simp only [requestRegister, hfree, forRegistration_nameless hname hport nameless]
  rfl

end Platform

end ServiceDiscovery.Mdns
