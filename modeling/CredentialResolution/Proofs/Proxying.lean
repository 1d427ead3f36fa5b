import CredentialResolution.Proofs.Enabling
import CredentialResolution.Proofs.Loading
import CredentialResolution.Provider.Variables

/-! Whether exchanges go through the proxy that is configured. That host and port go together is checked
as they are written, the proxy is made from what they evaluate to, and only the port is evaluated by a
check. A host that comes to nothing takes the proxy with it, and nothing is said of it. -/

namespace CredentialResolution
set_option autoImplicit false

theorem Strategy.exists_settings_of_build {isAddress : String → Bool} {c : Configuration}
    {h : Handle} {region : Option String} {now : SessionName.Clock}
    (hb : Strategy.build isAddress c region now = .ok h)
    (hderived : h.strategy.isDerived = true) :
    ∃ settings, h.settings? = some settings ∧
      ServiceSettings.ofConfiguration isAddress c region = .ok settings := by
  obtain ⟨primary, -, hbuilt⟩ := buildDerived_of_build hb hderived
  cases hs : h.strategy with
  | assumeRole =>
    rw [hs] at hbuilt
    obtain ⟨_, _, settings, _, -, -, hsettings, -, rfl⟩ := buildAssumedRole_eq_ok_iff.mp hbuilt
    exact ⟨settings, rfl, hsettings⟩
  | webIdentity =>
    rw [hs] at hbuilt
    obtain ⟨_, _, settings, -, -, hsettings, rfl⟩ := buildTokenExchange_eq_ok_iff.mp hbuilt
    exact ⟨settings, rfl, hsettings⟩
  | _ => simp [hs, isDerived] at hderived

namespace Context
variable {ctx : Context} {d : Configuration} {proxy : Option Proxy}

/-- There is a proxy where one is configured, at the port that was accepted and at a host. -/
structure ProxyKept (ctx : Context) (proxy : Option Proxy) : Prop where
  carried : proxy.isSome = true ↔
    ctx.configuration.isSet .proxyHost = true ∧ ctx.configuration.isSet .proxyPort = true
  port : ∀ p, proxy = some p →
    ∃ port, ctx.Sets .proxyPort port ∧ Validator.readInteger port = .ok (p.port : Int)
  host : ∀ p, proxy = some p →
    ∃ host, ctx.Sets .proxyHost host ∧ p.host = Text.trim host ∧ p.host ≠ ""

/-- A host that is set has a value that is not blank, and one that is not set stays so, or its port. -/
structure ProxyStays (ctx : Context) (d : Configuration) : Prop where
  host : ∀ host, ctx.Sets .proxyHost host → Text.allBlank host = false
  unset : ctx.configuration.isSet .proxyHost = false →
    d.filled? .proxyHost = none ∨ d.filled? .proxyPort = none

/-- What becomes of the proxy where evaluation sets nothing. -/
structure ProxyOutcome (ctx : Context) (proxy : Option Proxy) : Prop where
  kept : ctx.ProxyKept proxy ↔ ∀ host, ctx.Sets .proxyHost host → Text.allBlank host = false
  unset : ctx.configuration.isSet .proxyHost = false → proxy = none
  dropped : ctx.Sets .proxyHost "" → proxy = none
  carried : ∀ host, ctx.Sets .proxyHost host → host ≠ "" → ∃ (port : String) (n : Nat),
    ctx.Sets .proxyPort port ∧ Validator.readInteger port = .ok (n : Int) ∧
      proxy = some ⟨Text.trim host, n⟩

section
variable (hproxy : Proxy.ofConfiguration d = .ok proxy)
include hproxy

theorem proxy_of_unset (hunset : d.filled? .proxyHost = none ∨ d.filled? .proxyPort = none) :
    proxy = none :=
  Except.ok.inj (hproxy.symm.trans (Proxy.ofConfiguration_eq_none_iff.mpr hunset))

variable (hd : ctx.evaluator.Evaluates ctx.configuration d)
include hd

theorem proxy_of_sets_empty (hhost : ctx.Sets .proxyHost "") : proxy = none := by
  apply proxy_of_unset hproxy
  left
  simp [Configuration.filled?, hhost.value? hd]

variable (hacc : ctx.ProxyAccepted)
include hacc

theorem exists_proxy_of_sets {host : String} (hhost : ctx.Sets .proxyHost host) (hne : host ≠ "") :
    ∃ (port : String) (n : Nat), ctx.Sets .proxyPort port ∧
      Validator.readInteger port = .ok (n : Int) ∧ proxy = some ⟨Text.trim host, n⟩ := by
  -- The checks see to it that a host does not come without a port, which has a value of its own.
  obtain ⟨port, hport, hnum⟩ := hacc.port.exists_sets (hacc.together ▸ hhost.isSet)
  have hportNe : port ≠ "" := by
    rintro rfl
    exact Text.not_isNumeralIn_empty _ _ hnum
  have hfilled := Configuration.filled?_eq_some_iff.mpr ⟨hhost.value? hd, hne⟩
  have hportFilled := Configuration.filled?_eq_some_iff.mpr ⟨hport.value? hd, hportNe⟩
  cases proxy with
  | none =>
    rcases Proxy.ofConfiguration_eq_none_iff.mp hproxy with hnone | hnone
    · simp [hfilled] at hnone
    · simp [hportFilled] at hnone
  | some p =>
    obtain ⟨host', port', n, hhost', hport', hread, rfl⟩ :=
      Proxy.ofConfiguration_eq_some_iff.mp hproxy
    obtain rfl : host = host' := Option.some.inj (hfilled.symm.trans hhost')
    obtain rfl : port = port' := Option.some.inj (hportFilled.symm.trans hport')
    obtain ⟨hsigned, hnonneg, -⟩ := Text.integerOf_signed32_of_unsigned16 hread
    refine ⟨port, n.toNat, hport, ?_, rfl⟩
    rw [Int.toNat_of_nonneg hnonneg]
    exact Validator.readInteger_eq_ok_iff_integerOf.mpr hsigned

theorem proxyKept_iff_proxyStays : ctx.ProxyKept proxy ↔ ctx.ProxyStays d := by
  constructor
  · intro hkept
    constructor
    · intro host hhost
      obtain ⟨p, rfl⟩ := Option.isSome_iff_exists.mp
        (hkept.carried.mpr ⟨hhost.isSet, hacc.together ▸ hhost.isSet⟩)
      obtain ⟨host', hhost', htrim, hne⟩ := hkept.host p rfl
      obtain rfl := hhost.unique hhost'
      rw [htrim, Ne, Text.trim_eq_empty_iff] at hne
      simpa using hne
    · intro hunset
      cases proxy with
      | none => exact Proxy.ofConfiguration_eq_none_iff.mp hproxy
      | some p =>
        have hset := (hkept.carried.mp rfl).1
        simp [hunset] at hset
  · intro hstays
    cases hset : ctx.configuration.isSet .proxyHost with
    | true =>
      obtain ⟨host, hhost⟩ := exists_sets hd hset
      have hblank := hstays.host host hhost
      obtain ⟨port, n, hport, hread, rfl⟩ :=
        exists_proxy_of_sets hproxy hd hacc hhost (Text.ne_empty_of_not_blank hblank)
      refine ⟨by simp [hset, hport.isSet], ?_, ?_⟩
      · rintro p ⟨⟩
        exact ⟨port, hport, hread⟩
      · rintro p ⟨⟩
        refine ⟨host, hhost, rfl, ?_⟩
        rw [Ne, Text.trim_eq_empty_iff, hblank]
        simp
    | false =>
      obtain rfl := proxy_of_unset hproxy (hstays.unset hset)
      exact ⟨by simp [hset], by simp, by simp⟩

variable (hempty : ctx.evaluator.contains "" = false)
include hempty

theorem proxyOutcome : ctx.ProxyOutcome proxy := by
  have hstays : ctx.configuration.isSet .proxyHost = false → d.filled? .proxyHost = none := by
    intro hunset
    rw [← Configuration.isSet_eq_false_iff, ← Bool.not_eq_true, Configuration.isSet_iff_filled]
    intro hfilled
    obtain ⟨host, hhost⟩ := hfilled
    simp [(sets_of_filled hd hempty hhost).isSet] at hunset
  constructor
  · rw [proxyKept_iff_proxyStays hproxy hd hacc]
    exact ⟨ProxyStays.host, fun hhost => ⟨hhost, fun hunset => .inl (hstays hunset)⟩⟩
  · exact fun hunset => proxy_of_unset hproxy (.inl (hstays hunset))
  · exact proxy_of_sets_empty hproxy hd
  · exact fun _ => exists_proxy_of_sets hproxy hd hacc

end
end Context

/-- The requests of a derived provider all go through its proxy, or none of them does. The proxy is the
one that was configured exactly when no host is set that comes to blanks and evaluation sets none. -/
theorem Service.proxy_of_enable (isAddress : String → Bool) (lib : Library) (s : Service)
    (ctx : Context) (now : SessionName.Clock) (henable : (s.enable isAddress ctx now).1 = .ok ()) :
    ∃ d handle, ctx.evaluator.Evaluates ctx.configuration d ∧
      (s.enable isAddress ctx now).2.held = some handle ∧
      (handle.strategy.isDerived = true →
        ∃ settings, handle.settings? = some settings ∧
          (∀ ws, ∀ loaded ∈ handle.loadAll lib none ws, ∀ request ∈ loaded.requests,
            request.proxied = settings.proxy.isSome) ∧
          (ctx.ProxyKept settings.proxy ↔ ctx.ProxyStays d) ∧
          (ctx.evaluator.contains "" = false → ctx.ProxyOutcome settings.proxy)) := by
  obtain ⟨d, handle, hd, hheld, hbuild, hacc⟩ := built_of_enable henable
  refine ⟨d, handle, hd, hheld, fun hderived => ?_⟩
  obtain ⟨settings, hsettings, hmade⟩ := Strategy.exists_settings_of_build hbuild hderived
  have hproxy := ServiceSettings.proxy_of_ofConfiguration hmade
  refine ⟨settings, hsettings, ?_, ?_, ?_⟩
  · intro ws loaded hloaded request hrequest
    obtain ⟨w, memory, rfl⟩ := handle.exists_load_of_mem_loadAll hloaded
    exact Handle.proxied_of_mem_requests hsettings hrequest
  · exact Context.proxyKept_iff_proxyStays hproxy hd hacc.proxy
  · exact Context.proxyOutcome hproxy hd hacc.proxy

/-- A role to be assumed through a proxy whose host is a variable that has no value. -/
def Context.missingProxyHost : Context :=
  ⟨.ofList [(.roleArn, "A"), (.roleSessionName, "N"), (.proxyHost, "$\x7bmissing\x7d"),
      (.proxyPort, "8080")], Variables.empty.evaluator, ⟨[], []⟩⟩

theorem Service.proxy_of_enable_missingHost :
    ((start "id" none).enable Uri.isAddress .missingProxyHost ⟨0⟩).1 = .ok () ∧
      Context.missingProxyHost.configuration.isSet .proxyHost = true ∧
      Context.missingProxyHost.configuration.isSet .proxyPort = true ∧
      ∃ handle, ((start "id" none).enable Uri.isAddress .missingProxyHost ⟨0⟩).2.held = some handle ∧
        handle.strategy = .assumeRole ∧
        ∀ ws, ∀ loaded ∈ handle.loadAll .ofVariables none ws, ∀ request ∈ loaded.requests,
          request.proxied = false := by
  have henable : ((start "id" none).enable Uri.isAddress .missingProxyHost ⟨0⟩).1 = .ok () := by
    decide +kernel
  have hrole : ((start "id" none).enable Uri.isAddress .missingProxyHost ⟨0⟩).2.held.map
      Handle.strategy = some .assumeRole := by decide +kernel
  obtain ⟨d, handle, -, hheld, hderived⟩ :=
    proxy_of_enable Uri.isAddress .ofVariables (start "id" none) .missingProxyHost ⟨0⟩ henable
  have hstrategy : handle.strategy = .assumeRole := by simpa [hheld] using hrole
  obtain ⟨settings, -, hproxied, -, houtcome⟩ := hderived (by rw [hstrategy]; rfl)
  have hlost : Context.missingProxyHost.Sets .proxyHost "" :=
    ⟨"$\x7bmissing\x7d", by decide +kernel, by decide +kernel⟩
  have hnone := (houtcome (Variables.contains_evaluator_empty _)).dropped hlost
  refine ⟨henable, by decide +kernel, by decide +kernel, handle, hheld, hstrategy, ?_⟩
  intro ws loaded hloaded request hrequest
  rw [hproxied ws loaded hloaded request hrequest, hnone]
  rfl

theorem Service.not_forall_proxyKept :
    ¬ ∀ (s : Service) (ctx : Context) (now : SessionName.Clock),
      (s.enable Uri.isAddress ctx now).1 = .ok () →
      ∀ handle settings, (s.enable Uri.isAddress ctx now).2.held = some handle →
        handle.strategy.isDerived = true → handle.settings? = some settings →
          ctx.ProxyKept settings.proxy := by
  intro h
  let settings : ServiceSettings := ⟨none, none⟩
  let role : AssumedRole := ⟨"A", "N", none, some 3600, some .environment, settings⟩
  have hkept := h (start "id" none) .missingProxyHost ⟨0⟩ (by decide +kernel)
    ⟨.assumeRole, some (.assumedRole role)⟩ settings (by decide +kernel) rfl rfl
  have hcarried := hkept.carried.mpr ⟨by decide +kernel, by decide +kernel⟩
  simp [settings] at hcarried

end CredentialResolution
