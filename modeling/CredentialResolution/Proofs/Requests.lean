import CredentialResolution.Proofs.Enabling
import CredentialResolution.Proofs.Loading
import CredentialResolution.Proofs.SessionNames
import CredentialResolution.Provider.Variables

/-! What an enabled service asks of the security token service. What was checked is read a second time
when the provider is built, and the file of a token each time it is sent; the requests still carry what
the checks accepted. -/

namespace CredentialResolution
set_option autoImplicit false

/-- The seconds that were accepted, or the most where none are set. -/
structure Context.Lasts (ctx : Context) (n : Int) : Prop where
  bounds : 900 ≤ n ∧ n ≤ 3600
  accepted : ∀ value, ctx.Sets .sessionTime value → Validator.readInteger value = .ok n
  unset : ctx.configuration.isSet .sessionTime = false → n = 3600

namespace Context
variable {ctx : Context} {d : Configuration}
variable (hempty : ctx.evaluator.contains "" = false)
variable (hd : ctx.evaluator.Evaluates ctx.configuration d)
include hempty hd

theorem exists_sessionDuration (hacc : ctx.RoleAccepted) :
    ∃ n, sessionDuration d = .ok (some n) ∧ ctx.Lasts n := by
  cases hset : ctx.configuration.isSet .sessionTime with
  | false =>
    have hunset : ∀ value, ¬ ctx.Sets .sessionTime value := by
      intro value hvalue
      simp [hvalue.isSet] at hset
    refine ⟨3600, sessionDuration_of_blank fun value hvalue => ?_, by decide, ?_, fun _ => rfl⟩
    · by_contra hblank
      have hfilled := Configuration.filled?_eq_some_iff.mpr ⟨hvalue, Text.ne_empty_of_trim hblank⟩
      exact hunset value (sets_of_filled hd hempty hfilled)
    · exact fun value hvalue => absurd hvalue (hunset value)
  | true =>
    obtain ⟨value, hvalue, hnum⟩ := hacc.sessionTime.exists_sets hset
    have hblank : Text.trim value ≠ "" := by
      intro heq
      apply Text.not_isNumeralIn_empty 900 3600
      rw [Text.IsNumeralIn, Text.trim_empty, ← heq]
      exact hnum
    -- The limits are not looked at when the value is read again; they were when it was accepted.
    obtain ⟨n, hread, hbounds⟩ := Validator.integerOf_of_isNumeralIn (by decide) (by decide) hnum
    refine ⟨n, ?_, hbounds, ?_, by simp [hset]⟩
    · rw [sessionDuration_of_value (hvalue.value? hd) hblank, hread]
      rfl
    · intro value' hvalue'
      obtain rfl := hvalue.unique hvalue'
      exact Validator.readInteger_eq_ok_iff_integerOf.mpr hread

end Context

namespace Strategy
variable {isAddress : String → Bool} {c : Configuration} {h : Handle} {region : Option String}
  {now : SessionName.Clock}

theorem exists_assumedRole_of_build (hb : build isAddress c region now = .ok h)
    (hrole : h.strategy = assumeRole) :
    ∃ arn name duration source settings, c.filled? .roleArn = some arn ∧
      c.filled? .roleSessionName = some name ∧ sessionDuration c = .ok duration ∧
      h.provider = some (.assumedRole
        ⟨arn, name, c.filled? .externalId, duration, source, settings⟩) ∧
      (source = none ↔ primaryOf c = anonymous) := by
  obtain ⟨primary, hprimary, hbuilt⟩ := buildDerived_of_build hb (by rw [hrole]; rfl)
  rw [hrole] at hbuilt
  obtain ⟨arn, name, settings, duration, harn, hname, -, hduration, rfl⟩ :=
    buildAssumedRole_eq_ok_iff.mp hbuilt
  refine ⟨arn, name, duration, primary.source?, settings, harn, hname, hduration, rfl, ?_⟩
  rcases provider_of_buildPrimary hprimary with ⟨hs, hnone⟩ | ⟨hs, source, hsome⟩
  · simp [Handle.source?, hs, hnone]
  · simp [Handle.source?, hs, hsome]

end Strategy

/-- Every request for a role names what was configured, for a time within the limits, however often it
is sent again. Without credentials to sign it with none is sent. -/
theorem Service.requests_of_assumedRole (isAddress : String → Bool) (lib : Library) (s : Service)
    (ctx : Context) (now : SessionName.Clock) (hempty : ctx.evaluator.contains "" = false)
    (henable : (s.enable isAddress ctx now).1 = .ok ()) :
    ∃ d handle, ctx.evaluator.Evaluates ctx.configuration d ∧
      (s.enable isAddress ctx now).2.held = some handle ∧
      (handle.strategy = .assumeRole → ∃ arn name n r,
        d.filled? .roleArn = some arn ∧ d.filled? .roleSessionName = some name ∧ ctx.Lasts n ∧
        handle.provider = some (.assumedRole r) ∧
        (r.source = none ↔ Strategy.primaryOf d = .anonymous) ∧
        ∀ ws, List.Forall₂ (fun w loaded => r.Round lib ws w loaded ∧
          ∀ request ∈ loaded.requests,
            request.action = .assumeRole arn name (d.filled? .externalId) (some n))
          ws (handle.loadAll lib none ws)) := by
  obtain ⟨d, handle, hd, hheld, hbuild, hacc⟩ := built_of_enable henable
  refine ⟨d, handle, hd, hheld, fun hrole => ?_⟩
  obtain ⟨arn, name, duration, source, settings, harn, hname, hduration, hprovider, hsource⟩ :=
    Strategy.exists_assumedRole_of_build hbuild hrole
  obtain ⟨n, hn, hlasts⟩ := Context.exists_sessionDuration hempty hd hacc.role
  obtain rfl : duration = some n := Except.ok.inj (hduration.symm.trans hn)
  refine ⟨arn, name, n, _, harn, hname, hlasts, hprovider, hsource, fun ws => ?_⟩
  apply (AssumedRole.rounds_loadAll hprovider lib ws).imp
  intro w loaded hround
  refine ⟨hround, fun request hrequest => ?_⟩
  obtain ⟨_, _, -, -, rfl⟩ := hround.signed request hrequest
  rfl

/-- A role whose session is to last the shortest time, written with a sign and blanks. -/
def Context.shortestSession : Context :=
  ⟨.ofList [(.accessKey, "K"), (.secretKey, "S"), (.roleArn, "$\x7barn\x7d"),
      (.roleSessionName, "N"), (.externalId, "$\x7bmissing\x7d"), (.sessionTime, " +900 ")],
    (Variables.ofList [("arn", "A")]).evaluator, ⟨[], []⟩⟩

def Service.regional : Service := start "id" (some "eu-west-1")

theorem Service.requests_of_assumedRole_shortestSession :
    Context.shortestSession.evaluator.contains "" = false ∧
      (regional.enable Uri.isAddress .shortestSession ⟨0⟩).1 = .ok () ∧
      ∃ handle, (regional.enable Uri.isAddress .shortestSession ⟨0⟩).2.held = some handle ∧
        handle.strategy = .assumeRole ∧
        ∀ ws, List.Forall₂ (fun _ loaded => loaded.requests ≠ [] ∧ ∀ request ∈ loaded.requests,
          request.action = .assumeRole "A" "N" none (some 900)) ws
          (handle.loadAll .ofVariables none ws) := by
  have hempty : Context.shortestSession.evaluator.contains "" = false :=
    Variables.contains_evaluator_empty _
  have henable : (regional.enable Uri.isAddress .shortestSession ⟨0⟩).1 = .ok () := by decide +kernel
  have hbuilt : (regional.enable Uri.isAddress .shortestSession ⟨0⟩).2.held =
      some ⟨.assumeRole, some (.assumedRole ⟨"A", "N", none, some 900,
        some (.keys ⟨"K", "S", none, none, Strategy.keysProviderName⟩),
        ⟨some "eu-west-1", none⟩⟩)⟩ := by decide +kernel
  obtain ⟨d, handle, -, hheld, hrequests⟩ := requests_of_assumedRole Uri.isAddress .ofVariables
    regional .shortestSession ⟨0⟩ hempty henable
  obtain rfl := Option.some.inj (hheld.symm.trans hbuilt)
  obtain ⟨_, _, _, _, -, -, -, hprovider, -, hrounds⟩ := hrequests rfl
  cases hprovider
  refine ⟨hempty, henable, _, hbuilt, rfl, fun ws => ?_⟩
  apply (hrounds ws).imp
  intro w loaded h
  obtain ⟨hround, -⟩ := h
  have hname : Uri.isHostName "eu-west-1".toList = true := by decide +kernel
  have hendpoint : ∀ v, (ServiceSettings.mk (some "eu-west-1") none).endpoint? .ofVariables v =
      some ⟨"eu-west-1"⟩ := fun v => (Library.endpoint?_of_region rfl v).trans (if_pos hname)
  obtain ⟨hsent, -⟩ := hround.sent _ rfl fun v _ =>
    ⟨⟨_, ServiceSettings.finds_iff.mpr (hendpoint v)⟩, _, rfl⟩
  refine ⟨hsent, fun request hrequest => ?_⟩
  obtain ⟨_, _, -, -, rfl⟩ := hround.signed request hrequest
  rfl

end CredentialResolution
