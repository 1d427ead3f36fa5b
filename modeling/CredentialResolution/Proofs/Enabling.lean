import CredentialResolution.Proofs.Acceptance
import CredentialResolution.Proofs.Building
import CredentialResolution.Proofs.Evaluation
import CredentialResolution.Service
import CredentialResolution.Uri

/-! What enabling a service takes. A configuration that passes every check may still be refused: some
values are never checked, and a proxy is checked less closely than it is used. -/

namespace CredentialResolution
set_option autoImplicit false

namespace Service
variable {isAddress : String → Bool} {s : Service} {ctx : Context} {now : SessionName.Clock}

/-- Why enabling fails: the first of the three stages that does not succeed gives the reason. -/
inductive Refusal (s : Service) (isAddress : String → Bool) (ctx : Context)
    (now : SessionName.Clock) : ServiceError → Prop
  | invalid (hfailures : Strategy.allFailures ctx ≠ []) :
      Refusal s isAddress ctx now (.invalid (Strategy.allFailures ctx))
  | expression {p : Property} {cause : ExpressionError} (hvalid : Strategy.allFailures ctx = [])
      (hevaluated : ctx.configuration.evaluated ctx.evaluator = .error (p, cause)) :
      Refusal s isAddress ctx now (.expression p cause)
  | build {d : Configuration} {cause : BuildError} (hvalid : Strategy.allFailures ctx = [])
      (hevaluated : ctx.configuration.evaluated ctx.evaluator = .ok d)
      (hbuild : Strategy.build isAddress d s.region now = .error cause) :
      Refusal s isAddress ctx now (.build cause)

theorem handleFor_eq_ok_iff {h : Handle} :
    s.handleFor isAddress ctx now = .ok h ↔
      Strategy.allFailures ctx = [] ∧
        ∃ d, ctx.configuration.evaluated ctx.evaluator = .ok d ∧
          Strategy.build isAddress d s.region now = .ok h := by
  unfold handleFor
  cases Strategy.allFailures ctx with
  | cons f fs => simp
  | nil =>
    cases ctx.configuration.evaluated ctx.evaluator with
    | error e => simp
    | ok d => cases hb : Strategy.build isAddress d s.region now <;> simp [hb, Except.mapError]

theorem refusal_of_handleFor {e : ServiceError} (h : s.handleFor isAddress ctx now = .error e) :
    s.Refusal isAddress ctx now e := by
  unfold handleFor at h
  cases hf : Strategy.allFailures ctx with
  | cons f fs =>
    obtain rfl : ServiceError.invalid (f :: fs) = e := by simpa [hf] using h
    exact hf ▸ .invalid (by simp [hf])
  | nil =>
    rw [hf] at h
    cases hd : ctx.configuration.evaluated ctx.evaluator with
    | error pe =>
      obtain rfl : ServiceError.expression pe.1 pe.2 = e := by simpa [hd] using h
      exact .expression hf hd
    | ok d =>
      cases hb : Strategy.build isAddress d s.region now with
      | ok handle => simp [hd, hb, Except.mapError] at h
      | error cause =>
        obtain rfl : ServiceError.build cause = e := by simpa [hd, hb, Except.mapError] using h
        exact .build hf hd hb

theorem handleFor_eq_error_iff {e : ServiceError} :
    s.handleFor isAddress ctx now = .error e ↔ s.Refusal isAddress ctx now e := by
  refine ⟨refusal_of_handleFor, fun h => ?_⟩
  cases h with
  | invalid hfailures =>
    unfold handleFor
    cases hf : Strategy.allFailures ctx with
    | nil => exact absurd hf hfailures
    | cons f fs => rfl
  | expression hvalid hevaluated => simp [handleFor, hvalid, hevaluated]
  | build hvalid hevaluated hbuild => simp [handleFor, hvalid, hevaluated, hbuild, Except.mapError]

theorem enable_eq_ok_iff :
    (s.enable isAddress ctx now).1 = .ok () ↔ ∃ h, s.handleFor isAddress ctx now = .ok h := by
  unfold enable
  cases s.handleFor isAddress ctx now <;> simp

theorem enable_eq_error_iff {e : ServiceError} :
    (s.enable isAddress ctx now).1 = .error e ↔ s.Refusal isAddress ctx now e := by
  rw [← handleFor_eq_error_iff]
  unfold enable
  cases s.handleFor isAddress ctx now <;> simp

/-- A service that was enabled holds what was built from the evaluated values of an accepted
configuration. -/
theorem built_of_enable (henable : (s.enable isAddress ctx now).1 = .ok ()) :
    ∃ d handle, ctx.evaluator.Evaluates ctx.configuration d ∧
      (s.enable isAddress ctx now).2.held = some handle ∧
      Strategy.build isAddress d s.region now = .ok handle ∧ ctx.Accepted := by
  obtain ⟨handle, hhandle⟩ := enable_eq_ok_iff.mp henable
  obtain ⟨hvalid, d, hevaluated, hbuild⟩ := handleFor_eq_ok_iff.mp hhandle
  refine ⟨d, handle, Configuration.evaluated_eq_ok_iff.mp hevaluated, ?_, hbuild,
    Strategy.accepted_of_allFailures hvalid⟩
  rw [enable_of_ok hhandle]

end Service

/-- The properties with values that no check evaluates. -/
def Property.unchecked : List Property :=
  [.accessKey, .secretKey, .profile, .roleArn, .roleSessionName, .externalId, .proxyHost]

namespace Context
variable {ctx : Context} {d : Configuration}

/-- What an accepted configuration can still be refused for. -/
inductive Oversight (isAddress : String → Bool) (ctx : Context) : ServiceError → Prop
  | expression {p : Property} {raw : String} {cause : ExpressionError}
      (hp : p ∈ Property.unchecked) (hraw : ctx.configuration.filled? p = some raw)
      (hvalue : ctx.evaluator.valueOf p raw = .error cause) :
      Oversight isAddress ctx (.expression p cause)
  /-- Zero written with a minus sign is a number between zero and the greatest port. -/
  | port {raw port : String} (hraw : ctx.configuration.filled? .proxyPort = some raw)
      (hvalue : ctx.evaluator.valueOf .proxyPort raw = .ok port)
      (hzero : Text.Numeral (Text.trim port).toList 0)
      (hminus : (Text.trim port).toList.head? = some '-') :
      Oversight isAddress ctx (.build (.badPort port))
  | address {rawHost host rawPort port : String} {n : Int}
      (hrawHost : ctx.configuration.filled? .proxyHost = some rawHost)
      (hhost : ctx.evaluator.valueOf .proxyHost rawHost = .ok host)
      (hrawPort : ctx.configuration.filled? .proxyPort = some rawPort)
      (hport : ctx.evaluator.valueOf .proxyPort rawPort = .ok port)
      (hread : Text.integerOf .unsigned16 (Text.trim port) = .ok n)
      (haddress : isAddress (Proxy.uri ⟨Text.trim host, n.toNat⟩) = false) :
      Oversight isAddress ctx (.build (.badProxyAddress (Proxy.uri ⟨Text.trim host, n.toNat⟩)))

namespace Accepted
variable {isAddress : String → Bool} (h : ctx.Accepted)
include h

theorem valueOf_of_checked {p : Property} (hp : p ∉ Property.unchecked) {raw : String}
    (hraw : ctx.configuration.filled? p = some raw) :
    ∃ v, ctx.evaluator.valueOf p raw = .ok v := by
  have hvalue : ∀ {Q : String → Prop}, ctx.HasValue p Q →
      ∃ v, ctx.evaluator.valueOf p raw = .ok v := by
    intro Q hq
    exact (hq raw hraw).2.imp fun _ => And.left
  cases p with
  | useDefault | credentialsFile | useAnonymous => exact ⟨raw, rfl⟩
  | sessionTime => exact hvalue h.role.sessionTime
  | proxyPort => exact hvalue h.proxy.port
  | webRoleArn => exact hvalue h.token.arn
  | webTokenFile => exact hvalue h.token.tokenFile
  | webSessionName => exact (h.token.sessionName raw hraw).imp fun _ => And.left
  | _ => simp [Property.unchecked] at hp

variable (hempty : ctx.evaluator.contains "" = false)
include hempty

theorem exists_evaluated
    (hvalues : ∀ p ∈ Property.unchecked, ∀ raw, ctx.configuration.filled? p = some raw →
      ∃ v, ctx.evaluator.valueOf p raw = .ok v) :
    ∃ d, ctx.configuration.evaluated ctx.evaluator = .ok d := by
  apply Configuration.evaluated_of_forall
  intro p raw hraw
  by_cases hne : raw = ""
  · exact ⟨"", by rw [hne, Evaluator.valueOf_empty hempty]⟩
  have hfilled := Configuration.filled?_eq_some_iff.mpr ⟨hraw, hne⟩
  by_cases hp : p ∈ Property.unchecked
  · exact hvalues p hp raw hfilled
  · exact h.valueOf_of_checked hp hfilled

theorem oversight_of_expression {p : Property} {cause : ExpressionError}
    (he : ctx.configuration.evaluated ctx.evaluator = .error (p, cause)) :
    ctx.Oversight isAddress (.expression p cause) := by
  obtain ⟨raw, hraw, hvalue⟩ := Configuration.valueOf_of_evaluated_error he
  have hne : raw ≠ "" := by
    intro heq
    simp [heq, Evaluator.valueOf_empty hempty] at hvalue
  have hfilled := Configuration.filled?_eq_some_iff.mpr ⟨hraw, hne⟩
  refine .expression ?_ hfilled hvalue
  by_contra hp
  obtain ⟨v, hv⟩ := h.valueOf_of_checked hp hfilled
  simp [hv] at hvalue

variable (hd : ctx.evaluator.Evaluates ctx.configuration d)
include hd

/-- The length of a session that was accepted is read again when the role is built, with the default
in place of a blank value. -/
theorem sessionTimeReads : d.SessionTimeReads := by
  intro v hv hblank
  have hnum := h.role.sessionTime.evaluated hempty hd
    (Configuration.filled?_eq_some_iff.mpr ⟨hv, Text.ne_empty_of_trim hblank⟩)
  obtain ⟨n, hn, -⟩ := Validator.integerOf_of_isNumeralIn (by decide) (by decide) hnum
  exact ⟨n, hn⟩

theorem oversight_of_proxy {cause : BuildError} (hfault : ProxyFault isAddress d cause) :
    ctx.Oversight isAddress (.build cause) := by
  cases hfault with
  | address hhost hport hread haddress =>
    obtain ⟨rawHost, hrawHost, hhostValue⟩ := hd.source_filled hempty hhost
    obtain ⟨rawPort, hrawPort, hportValue⟩ := hd.source_filled hempty hport
    exact .address hrawHost hhostValue hrawPort hportValue hread haddress
  | @port host port cause hhost hport hread =>
    obtain ⟨raw, hraw, hvalue⟩ := hd.source_filled hempty hport
    obtain ⟨n, hn, hbounds⟩ := Validator.integerOf_of_isNumeralIn (by decide) (by decide)
      (h.proxy.port.evaluated hempty hd hport)
    -- The signed reading succeeds where the unsigned one does not: that leaves the sign.
    have hminus : (Text.trim port).toList.head? = some '-' := by
      by_contra hs
      have hok := (Text.integerOf_unsigned16_iff hn).mpr ⟨hbounds, hs⟩
      simp [hread] at hok
    have hnum := (Text.readInteger_eq_ok_iff.mp hn).1
    have hle := hnum.nonpos_of_minus hminus
    obtain rfl : n = 0 := by omega
    exact .port hraw hvalue hnum hminus

end Accepted
end Context

namespace Service
variable {isAddress : String → Bool} {s : Service} {ctx : Context} {now : SessionName.Clock}

theorem enable_eq_ok_iff_builds (hvalid : Strategy.allFailures ctx = []) :
    (s.enable isAddress ctx now).1 = .ok () ↔
      ∃ d, ctx.evaluator.Evaluates ctx.configuration d ∧
        (Strategy.derivedOf? d ≠ none → d.ProxyWorks isAddress) ∧
        (Strategy.derivedOf? d = some .assumeRole → d.SessionTimeReads) := by
  rw [enable_eq_ok_iff]
  simp only [handleFor_eq_ok_iff, hvalid, true_and, Configuration.evaluated_eq_ok_iff]
  rw [exists_comm]
  apply exists_congr
  intro d
  rw [exists_and_left, Strategy.exists_build_iff]

theorem oversight_of_enable (hvalid : Strategy.allFailures ctx = [])
    (hempty : ctx.evaluator.contains "" = false) {e : ServiceError}
    (he : (s.enable isAddress ctx now).1 = .error e) : ctx.Oversight isAddress e := by
  have hacc := Strategy.accepted_of_allFailures hvalid
  cases enable_eq_error_iff.mp he with
  | invalid hfailures => exact absurd hvalid hfailures
  | expression _ hevaluated => exact hacc.oversight_of_expression hempty hevaluated
  | build _ hevaluated hbuild =>
    have hd := Configuration.evaluated_eq_ok_iff.mp hevaluated
    cases Strategy.fault_of_build hbuild with
    | proxy _ hfault => exact hacc.oversight_of_proxy hempty hd hfault
    | sessionTime _ hvalue hblank hread =>
      obtain ⟨n, hn⟩ := hacc.sessionTimeReads hempty hd _ hvalue hblank
      simp [hread] at hn

/-- A configuration that passes the checks is enabled exactly when its values can be evaluated and a
derived provider can be built from them; no check looks at all of this. -/
theorem enable_of_accepted (isAddress : String → Bool) (s : Service) (ctx : Context)
    (now : SessionName.Clock) (hvalid : Strategy.allFailures ctx = []) :
    ((s.enable isAddress ctx now).1 = .ok () ↔
      ∃ d, ctx.evaluator.Evaluates ctx.configuration d ∧
        (Strategy.derivedOf? d ≠ none → d.ProxyWorks isAddress) ∧
        (Strategy.derivedOf? d = some .assumeRole → d.SessionTimeReads)) ∧
    (ctx.evaluator.contains "" = false →
      ((s.enable isAddress ctx now).1 = .ok () ↔
        (∀ p ∈ Property.unchecked, ∀ raw, ctx.configuration.filled? p = some raw →
          ∃ v, ctx.evaluator.valueOf p raw = .ok v) ∧
        ∀ d, ctx.evaluator.Evaluates ctx.configuration d →
          Strategy.derivedOf? d ≠ none → d.ProxyWorks isAddress) ∧
      ∀ e, (s.enable isAddress ctx now).1 = .error e → ctx.Oversight isAddress e) := by
  have hacc := Strategy.accepted_of_allFailures hvalid
  refine ⟨enable_eq_ok_iff_builds hvalid, ?_⟩
  intro hempty
  refine ⟨?_, fun e he => oversight_of_enable hvalid hempty he⟩
  rw [enable_eq_ok_iff_builds hvalid]
  constructor
  · intro hbuilds
    obtain ⟨d, hd, hproxy, -⟩ := hbuilds
    constructor
    · intro p _ raw hraw
      obtain ⟨v, hv, -⟩ := hd.present p raw (Configuration.filled?_eq_some_iff.mp hraw).1
      exact ⟨v, hv⟩
    · intro d' hd'
      exact hd'.unique hd ▸ hproxy
  · intro hready
    obtain ⟨hvalues, hproxy⟩ := hready
    obtain ⟨d, hevaluated⟩ := hacc.exists_evaluated hempty hvalues
    have hd := Configuration.evaluated_eq_ok_iff.mp hevaluated
    exact ⟨d, hd, hproxy d hd, fun _ => hacc.sessionTimeReads hempty hd⟩

end Service

/-- A role to be assumed through a proxy whose port is zero, written with a minus sign. -/
def Context.minusZeroPort : Context :=
  ⟨.ofList [(.roleArn, "A"), (.roleSessionName, "N"), (.proxyHost, "h"), (.proxyPort, "-0")],
    .literal, ⟨[], []⟩⟩

theorem Service.enable_of_accepted_minusZeroPort :
    Strategy.allFailures .minusZeroPort = [] ∧
      ∃ e, ((start "id" none).enable Uri.isAddress .minusZeroPort ⟨0⟩).1 = .error e ∧
        Context.minusZeroPort.Oversight Uri.isAddress e := by
  have hvalid : Strategy.allFailures .minusZeroPort = [] := by decide +kernel
  have herror : ((start "id" none).enable Uri.isAddress .minusZeroPort ⟨0⟩).1 =
      .error (.build (.badPort "-0")) := by decide +kernel
  have hcases := (enable_of_accepted Uri.isAddress (start "id" none) .minusZeroPort ⟨0⟩ hvalid).2 rfl
  exact ⟨hvalid, _, herror, hcases.2 _ herror⟩

theorem Service.not_forall_enable_of_accepted :
    ¬ ∀ (s : Service) (ctx : Context) (now : SessionName.Clock), Strategy.allFailures ctx = [] →
      (s.enable Uri.isAddress ctx now).1 = .ok () := by
  intro h
  have hok := h (start "id" none) .minusZeroPort ⟨0⟩ (by decide +kernel)
  exact absurd hok (by decide +kernel)

end CredentialResolution
