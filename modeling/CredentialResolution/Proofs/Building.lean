import CredentialResolution.Proofs.Judgement
import CredentialResolution.Proofs.Selection
import CredentialResolution.Provider.Build

/-! When providers can be built. Nothing is assumed of the configuration: a primary provider can always
be built, and a derived one fails only over its proxy or over the length of its session. -/

namespace CredentialResolution
set_option autoImplicit false

section Sequence
variable {ε α β : Type} {x : Except ε α} {f : α → Except ε β}

theorem bind_eq_ok_iff {b : β} : (x >>= f) = .ok b ↔ ∃ a, x = .ok a ∧ f a = .ok b := by
  cases x <;> simp [bind, Except.bind]

theorem bind_eq_error_iff {e : ε} :
    (x >>= f) = .error e ↔ x = .error e ∨ ∃ a, x = .ok a ∧ f a = .error e := by
  cases x <;> simp [bind, Except.bind]

theorem exists_ok_iff_forall_ne_error : (∃ a, x = .ok a) ↔ ∀ e, x ≠ .error e := by
  cases x <;> simp

end Sequence

namespace Configuration
variable {c : Configuration}

theorem needed_eq_ok_iff {p : Property} {v : String} :
    c.needed p = .ok v ↔ c.filled? p = some v := by
  unfold needed
  cases c.filled? p <;> simp

theorem exists_needed {p : Property} (h : c.isSet p = true) : ∃ v, c.needed p = .ok v := by
  obtain ⟨v, hv⟩ := isSet_iff_filled.mp h
  exact ⟨v, needed_eq_ok_iff.mpr hv⟩

end Configuration

/-- What can go wrong with a proxy that is set. -/
inductive ProxyFault (isAddress : String → Bool) (c : Configuration) : BuildError → Prop
  | port {host port : String} {cause : Text.IntegerError}
      (hhost : c.filled? .proxyHost = some host) (hport : c.filled? .proxyPort = some port)
      (hread : Text.integerOf .unsigned16 (Text.trim port) = .error cause) :
      ProxyFault isAddress c (.badPort port)
  | address {host port : String} {n : Int}
      (hhost : c.filled? .proxyHost = some host) (hport : c.filled? .proxyPort = some port)
      (hread : Text.integerOf .unsigned16 (Text.trim port) = .ok n)
      (haddress : isAddress (Proxy.uri ⟨Text.trim host, n.toNat⟩) = false) :
      ProxyFault isAddress c (.badProxyAddress (Proxy.uri ⟨Text.trim host, n.toNat⟩))

/-- What can go wrong when a provider is built. -/
inductive BuildFault (isAddress : String → Bool) (c : Configuration) : BuildError → Prop
  | proxy {e : BuildError} (hderived : Strategy.derivedOf? c ≠ none)
      (hfault : ProxyFault isAddress c e) : BuildFault isAddress c e
  | sessionTime {v : String} {cause : Text.IntegerError}
      (hderived : Strategy.derivedOf? c = some .assumeRole)
      (hvalue : c.value? .sessionTime = some v) (hblank : Text.trim v ≠ "")
      (hread : Text.integerOf .signed32 (Text.trim v) = .error cause) :
      BuildFault isAddress c (.badSessionTime (Text.trim v) cause)

/-- A proxy that is set has a port that reads as one, and an address. -/
def Configuration.ProxyWorks (isAddress : String → Bool) (c : Configuration) : Prop :=
  ∀ host port, c.filled? .proxyHost = some host → c.filled? .proxyPort = some port →
    ∃ n, Text.integerOf .unsigned16 (Text.trim port) = .ok n ∧
      isAddress (Proxy.uri ⟨Text.trim host, n.toNat⟩) = true

theorem Configuration.ProxyWorks.not_fault {isAddress : String → Bool} {c : Configuration}
    (h : c.ProxyWorks isAddress) {e : BuildError} : ¬ ProxyFault isAddress c e := by
  intro hfault
  cases hfault with
  | port hhost hport hread =>
    obtain ⟨n, hn, -⟩ := h _ _ hhost hport
    simp [hread] at hn
  | address hhost hport hread haddress =>
    obtain ⟨m, hm, hok⟩ := h _ _ hhost hport
    obtain rfl := Except.ok.inj (hread.symm.trans hm)
    simp [haddress] at hok

/-- The length of a session is blank or reads as an integer, whatever its limits. -/
def Configuration.SessionTimeReads (c : Configuration) : Prop :=
  ∀ v, c.value? .sessionTime = some v → Text.trim v ≠ "" →
    ∃ n, Text.integerOf .signed32 (Text.trim v) = .ok n

namespace Proxy
variable {c : Configuration}

theorem ofConfiguration_eq_none_iff :
    ofConfiguration c = .ok none ↔
      c.filled? .proxyHost = none ∨ c.filled? .proxyPort = none := by
  unfold ofConfiguration
  cases c.filled? .proxyHost with
  | none => simp
  | some host =>
    cases c.filled? .proxyPort with
    | none => simp
    | some port => cases h : Text.integerOf .unsigned16 (Text.trim port) <;> simp [h]

theorem ofConfiguration_eq_some_iff {proxy : Proxy} :
    ofConfiguration c = .ok (some proxy) ↔
      ∃ host port n, c.filled? .proxyHost = some host ∧ c.filled? .proxyPort = some port ∧
        Text.integerOf .unsigned16 (Text.trim port) = .ok n ∧
        proxy = ⟨Text.trim host, n.toNat⟩ := by
  unfold ofConfiguration
  cases c.filled? .proxyHost with
  | none => simp
  | some host =>
    cases c.filled? .proxyPort with
    | none => simp
    | some port => cases h : Text.integerOf .unsigned16 (Text.trim port) <;> simp [h, eq_comm]

theorem ofConfiguration_eq_error_iff {e : BuildError} :
    ofConfiguration c = .error e ↔
      ∃ host port cause, c.filled? .proxyHost = some host ∧ c.filled? .proxyPort = some port ∧
        Text.integerOf .unsigned16 (Text.trim port) = .error cause ∧ e = .badPort port := by
  unfold ofConfiguration
  cases c.filled? .proxyHost with
  | none => simp
  | some host =>
    cases c.filled? .proxyPort with
    | none => simp
    | some port => cases h : Text.integerOf .unsigned16 (Text.trim port) <;> simp [h, eq_comm]

end Proxy

namespace ServiceSettings
variable {isAddress : String → Bool} {c : Configuration} {region : Option String}

theorem fault_of_ofConfiguration {e : BuildError} (h : ofConfiguration isAddress c region = .error e) :
    ProxyFault isAddress c e := by
  unfold ofConfiguration at h
  cases hproxy : Proxy.ofConfiguration c with
  | error e' =>
    obtain rfl : e' = e := by simpa [hproxy] using h
    obtain ⟨host, port, cause, hhost, hport, hread, rfl⟩ :=
      Proxy.ofConfiguration_eq_error_iff.mp hproxy
    exact .port hhost hport hread
  | ok proxy? =>
    cases proxy? with
    | none => simp [hproxy] at h
    | some proxy =>
      obtain ⟨host, port, n, hhost, hport, hread, rfl⟩ :=
        Proxy.ofConfiguration_eq_some_iff.mp hproxy
      cases haddress : isAddress (Proxy.uri ⟨Text.trim host, n.toNat⟩) with
      | true => simp [hproxy, Proxy.connect, haddress] at h
      | false =>
        obtain rfl : BuildError.badProxyAddress _ = e := by
          simpa [hproxy, Proxy.connect, haddress] using h
        exact .address hhost hport hread haddress

theorem ofConfiguration_eq_error_iff {e : BuildError} :
    ofConfiguration isAddress c region = .error e ↔ ProxyFault isAddress c e := by
  refine ⟨fault_of_ofConfiguration, fun hfault => ?_⟩
  cases hfault with
  | port hhost hport hread => simp [ofConfiguration, Proxy.ofConfiguration, hhost, hport, hread]
  | address hhost hport hread haddress =>
    simp [ofConfiguration, Proxy.ofConfiguration, hhost, hport, hread, Proxy.connect, haddress]

theorem exists_ofConfiguration_iff :
    (∃ settings, ofConfiguration isAddress c region = .ok settings) ↔ c.ProxyWorks isAddress := by
  constructor
  · rintro ⟨settings, h⟩ host port hhost hport
    unfold ofConfiguration at h
    cases hread : Text.integerOf .unsigned16 (Text.trim port) with
    | error cause => simp [Proxy.ofConfiguration, hhost, hport, hread] at h
    | ok n =>
      refine ⟨n, rfl, ?_⟩
      cases haddress : isAddress (Proxy.uri ⟨Text.trim host, n.toNat⟩) with
      | true => rfl
      | false => simp [Proxy.ofConfiguration, hhost, hport, hread, Proxy.connect, haddress] at h
  · intro hworks
    rw [exists_ok_iff_forall_ne_error]
    intro e he
    exact hworks.not_fault (fault_of_ofConfiguration he)

theorem proxy_of_ofConfiguration {settings : ServiceSettings}
    (h : ofConfiguration isAddress c region = .ok settings) :
    Proxy.ofConfiguration c = .ok settings.proxy := by
  unfold ofConfiguration at h
  cases hproxy : Proxy.ofConfiguration c with
  | error e => simp [hproxy] at h
  | ok proxy? =>
    cases proxy? with
    | none =>
      obtain rfl : ⟨region, none⟩ = settings := by simpa [hproxy] using h
      rfl
    | some proxy =>
      cases hconnect : proxy.connect isAddress with
      | error e => simp [hproxy, hconnect] at h
      | ok _ =>
        obtain rfl : ⟨region, some proxy⟩ = settings := by simpa [hproxy, hconnect] using h
        rfl

end ServiceSettings

/-- Without a value, or with a blank one, the session lasts as long as it may. -/
theorem sessionDuration_of_blank {c : Configuration}
    (h : ∀ v, c.value? .sessionTime = some v → Text.trim v = "") :
    sessionDuration c = .ok (some 3600) := by
  have hdefault : Text.integerOf .signed32 "3600" = .ok 3600 := rfl
  unfold sessionDuration
  cases hv : c.value? .sessionTime with
  | none => simp [Property.default?, hdefault]
  | some v => simp [h v hv, Option.filter, Property.default?, hdefault]

theorem sessionDuration_of_value {c : Configuration} {v : String}
    (hv : c.value? .sessionTime = some v) (hblank : Text.trim v ≠ "") :
    sessionDuration c =
      ((Text.integerOf .signed32 (Text.trim v)).map some).mapError
        (.badSessionTime (Text.trim v)) := by
  cases h : Text.integerOf .signed32 (Text.trim v) <;>
    simp [sessionDuration, hv, hblank, Option.filter, h, Except.map, Except.mapError]

theorem sessionDuration_eq_error_iff {c : Configuration} {e : BuildError} :
    sessionDuration c = .error e ↔
      ∃ v cause, c.value? .sessionTime = some v ∧ Text.trim v ≠ "" ∧
        Text.integerOf .signed32 (Text.trim v) = .error cause ∧
        e = .badSessionTime (Text.trim v) cause := by
  constructor
  · intro h
    cases hv : c.value? .sessionTime with
    | none => simp [sessionDuration_of_blank (c := c) (by simp [hv])] at h
    | some v =>
      by_cases hblank : Text.trim v = ""
      · simp [sessionDuration_of_blank (c := c) (by simp [hv, hblank])] at h
      · rw [sessionDuration_of_value hv hblank] at h
        cases hread : Text.integerOf .signed32 (Text.trim v) with
        | ok n => simp [hread, Except.map, Except.mapError] at h
        | error cause =>
          rw [hread] at h
          exact ⟨v, cause, rfl, hblank, hread, (Except.error.inj h).symm⟩
  · intro hunread
    obtain ⟨v, cause, hv, hblank, hread, rfl⟩ := hunread
    rw [sessionDuration_of_value hv hblank, hread]
    rfl

theorem exists_sessionDuration_iff {c : Configuration} :
    (∃ duration, sessionDuration c = .ok duration) ↔ c.SessionTimeReads := by
  rw [exists_ok_iff_forall_ne_error]
  constructor
  · intro h v hv hblank
    rw [exists_ok_iff_forall_ne_error]
    intro cause hcause
    exact h _ (sessionDuration_eq_error_iff.mpr ⟨v, cause, hv, hblank, hcause, rfl⟩)
  · intro h e he
    obtain ⟨v, cause, hv, hblank, hcause, -⟩ := sessionDuration_eq_error_iff.mp he
    obtain ⟨n, hn⟩ := h v hv hblank
    simp [hcause] at hn

namespace Strategy
variable {isAddress : String → Bool} {c : Configuration} {h primary : Handle}
  {region : Option String} {now : SessionName.Clock} {e : BuildError}

/-- The primary provider of a configuration needs no more than what its strategy was selected for. -/
theorem exists_buildPrimary (c : Configuration) :
    ∃ h, (primaryOf c).buildPrimary c = .ok h ∧ h.strategy = primaryOf c := by
  have hcan := canBePrimary_primaryOf c
  cases hp : primaryOf c with
  | explicitDefault | implicitDefault | anonymous => exact ⟨_, rfl, rfl⟩
  | assumeRole | webIdentity => simp [hp, canBePrimary] at hcan
  | accessKeyPair =>
    simp only [hp, canBePrimary, required, List.all_cons, List.all_nil, Bool.and_true,
      Bool.and_eq_true] at hcan
    obtain ⟨access, haccess⟩ := Configuration.exists_needed hcan.1
    obtain ⟨secret, hsecret⟩ := Configuration.exists_needed hcan.2
    exact ⟨_, bind_eq_ok_iff.mpr ⟨access, haccess, bind_eq_ok_iff.mpr ⟨secret, hsecret, rfl⟩⟩, rfl⟩
  | file =>
    simp only [hp, canBePrimary, required, List.all_cons, List.all_nil, Bool.and_true] at hcan
    obtain ⟨path, hpath⟩ := Configuration.exists_needed hcan
    exact ⟨_, bind_eq_ok_iff.mpr ⟨path, hpath, rfl⟩, rfl⟩
  | namedProfile =>
    simp only [hp, canBePrimary, required, List.all_cons, List.all_nil, Bool.and_true] at hcan
    obtain ⟨profile, hprofile⟩ := Configuration.exists_needed hcan
    exact ⟨_, bind_eq_ok_iff.mpr ⟨profile, hprofile, rfl⟩, rfl⟩

/-- Anonymous credentials are the only ones without a source. -/
theorem provider_of_buildPrimary {s : Strategy} (hb : s.buildPrimary c = .ok h) :
    (s = anonymous ∧ h.provider = none) ∨
      (s ≠ anonymous ∧ ∃ source, h.provider = some (.source source)) := by
  cases s with
  | anonymous =>
    obtain rfl := Except.ok.inj hb
    exact .inl ⟨rfl, rfl⟩
  | explicitDefault | implicitDefault =>
    obtain rfl := Except.ok.inj hb
    exact .inr ⟨by decide, _, rfl⟩
  | assumeRole | webIdentity => simp [buildPrimary] at hb
  | accessKeyPair =>
    obtain ⟨_, -, hb⟩ := bind_eq_ok_iff.mp hb
    obtain ⟨_, -, hb⟩ := bind_eq_ok_iff.mp hb
    obtain rfl := Except.ok.inj hb
    exact .inr ⟨by decide, _, rfl⟩
  | file | namedProfile =>
    obtain ⟨_, -, hb⟩ := bind_eq_ok_iff.mp hb
    obtain rfl := Except.ok.inj hb
    exact .inr ⟨by decide, _, rfl⟩

theorem buildAssumedRole_eq_ok_iff :
    buildAssumedRole isAddress c primary region now = .ok h ↔
      ∃ arn name settings duration, c.filled? .roleArn = some arn ∧
        c.filled? .roleSessionName = some name ∧
        ServiceSettings.ofConfiguration isAddress c region = .ok settings ∧
        sessionDuration c = .ok duration ∧
        h = ⟨assumeRole, some (.assumedRole
          ⟨arn, name, c.filled? .externalId, duration, primary.source?, settings⟩)⟩ := by
  simp only [buildAssumedRole, bind_eq_ok_iff, Configuration.needed_eq_ok_iff, AssumedRole.build,
    pure, Except.pure, Except.ok.injEq, Option.getD_some]
  constructor
  · intro hpeeled
    obtain ⟨arn, harn, name, hname, settings, hsettings, duration, hduration, _, rfl, rfl⟩ := hpeeled
    exact ⟨arn, name, settings, duration, harn, hname, hsettings, hduration, rfl⟩
  · intro hbuilt
    obtain ⟨arn, name, settings, duration, harn, hname, hsettings, hduration, rfl⟩ := hbuilt
    exact ⟨arn, harn, name, hname, settings, hsettings, duration, hduration, _, rfl, rfl⟩

theorem buildTokenExchange_eq_ok_iff :
    buildTokenExchange isAddress c region now = .ok h ↔
      ∃ arn path settings, c.filled? .webRoleArn = some arn ∧ c.filled? .webTokenFile = some path ∧
        ServiceSettings.ofConfiguration isAddress c region = .ok settings ∧
        h = ⟨webIdentity, some (.tokenExchange
          ⟨arn, (c.filled? .webSessionName).getD (SessionName.generated SessionName.webBase now),
            path, settings⟩)⟩ := by
  simp only [buildTokenExchange, bind_eq_ok_iff, Configuration.needed_eq_ok_iff,
    TokenExchange.build, pure, Except.pure, Except.ok.injEq]
  constructor
  · intro hpeeled
    obtain ⟨arn, harn, path, hpath, settings, hsettings, _, rfl, rfl⟩ := hpeeled
    exact ⟨arn, path, settings, harn, hpath, hsettings, rfl⟩
  · intro hbuilt
    obtain ⟨arn, path, settings, harn, hpath, hsettings, rfl⟩ := hbuilt
    exact ⟨arn, harn, path, hpath, settings, hsettings, _, rfl, rfl⟩

theorem build_eq_ok_iff :
    build isAddress c region now = .ok h ↔
      ∃ primary, (primaryOf c).buildPrimary c = .ok primary ∧
        ((derivedOf? c = none ∧ h = primary) ∨
          (derivedOf? c = some assumeRole ∧
            buildAssumedRole isAddress c primary region now = .ok h) ∨
          (derivedOf? c = some webIdentity ∧
            buildTokenExchange isAddress c region now = .ok h)) := by
  rw [build, bind_eq_ok_iff]
  apply exists_congr
  intro primary
  apply and_congr_right
  intro _
  cases hderived : derivedOf? c with
  | none => simp [pure, Except.pure, eq_comm]
  | some s =>
    have hs := canDerive_derivedOf? hderived
    cases s with
    | assumeRole | webIdentity => simp [buildDerived]
    | _ => simp [canDerive] at hs

/-- The provider is that of the strategy that the configuration selects. -/
theorem strategy_of_build (hb : build isAddress c region now = .ok h) :
    h.strategy = (derivedOf? c).getD (primaryOf c) := by
  obtain ⟨primary, hprimary, hcase⟩ := build_eq_ok_iff.mp hb
  rcases hcase with ⟨hderived, rfl⟩ | ⟨hderived, hrole⟩ | ⟨hderived, htoken⟩
  · obtain ⟨h', hh', hstrategy⟩ := exists_buildPrimary c
    obtain rfl := Except.ok.inj (hprimary.symm.trans hh')
    simp [hderived, hstrategy]
  · obtain ⟨_, _, _, _, _, _, _, _, rfl⟩ := buildAssumedRole_eq_ok_iff.mp hrole
    simp [hderived]
  · obtain ⟨_, _, _, _, _, _, rfl⟩ := buildTokenExchange_eq_ok_iff.mp htoken
    simp [hderived]

theorem isDerived_primaryOf (c : Configuration) : (primaryOf c).isDerived = false := by
  have hcan := canBePrimary_primaryOf c
  cases hp : primaryOf c with
  | assumeRole | webIdentity => simp [hp, canBePrimary] at hcan
  | _ => rfl

theorem derivedOf?_of_isDerived (hb : build isAddress c region now = .ok h)
    (hderived : h.strategy.isDerived = true) : derivedOf? c = some h.strategy := by
  rw [strategy_of_build hb] at hderived ⊢
  cases hs : derivedOf? c with
  | none => simp [hs, isDerived_primaryOf] at hderived
  | some s => rfl

theorem buildDerived_of_build (hb : build isAddress c region now = .ok h)
    (hderived : h.strategy.isDerived = true) :
    ∃ primary, (primaryOf c).buildPrimary c = .ok primary ∧
      h.strategy.buildDerived isAddress c primary region now = .ok h := by
  have hselected := derivedOf?_of_isDerived hb hderived
  obtain ⟨primary, hprimary, hbuilt⟩ := bind_eq_ok_iff.mp hb
  rw [hselected] at hbuilt
  exact ⟨primary, hprimary, hbuilt⟩

theorem buildAssumedRole_eq_error_iff (hs : canDerive c assumeRole = true) :
    buildAssumedRole isAddress c primary region now = .error e ↔
      ProxyFault isAddress c e ∨ c.ProxyWorks isAddress ∧ sessionDuration c = .error e := by
  rw [canDerive, Bool.and_eq_true] at hs
  obtain ⟨arn, harn⟩ := Configuration.exists_needed hs.1
  obtain ⟨name, hname⟩ := Configuration.exists_needed hs.2
  simp only [buildAssumedRole, bind_eq_error_iff, harn, hname, AssumedRole.build, pure, Except.pure,
    reduceCtorEq, Except.ok.injEq, false_or, exists_eq_left', and_false, exists_false, or_false]
  rw [ServiceSettings.ofConfiguration_eq_error_iff, exists_and_right,
    ServiceSettings.exists_ofConfiguration_iff]

theorem buildTokenExchange_eq_error_iff (hs : canDerive c webIdentity = true) :
    buildTokenExchange isAddress c region now = .error e ↔ ProxyFault isAddress c e := by
  rw [canDerive, Bool.and_eq_true] at hs
  obtain ⟨arn, harn⟩ := Configuration.exists_needed hs.1
  obtain ⟨path, hpath⟩ := Configuration.exists_needed hs.2
  simp only [buildTokenExchange, bind_eq_error_iff, harn, hpath, TokenExchange.build, pure,
    Except.pure, reduceCtorEq, Except.ok.injEq, false_or, exists_eq_left', and_false,
    exists_false, or_false]
  exact ServiceSettings.ofConfiguration_eq_error_iff

/-- Building fails only where something is derived. The proxy is looked at before the session. -/
theorem build_eq_error_iff :
    build isAddress c region now = .error e ↔
      ∃ s, derivedOf? c = some s ∧
        (ProxyFault isAddress c e ∨
          s = assumeRole ∧ c.ProxyWorks isAddress ∧ sessionDuration c = .error e) := by
  obtain ⟨primary, hprimary, -⟩ := exists_buildPrimary c
  have hbuild : build isAddress c region now =
      (derivedOf? c).elim (.ok primary) fun s => s.buildDerived isAddress c primary region now := by
    rw [build, hprimary]
    cases derivedOf? c <;> rfl
  rw [hbuild]
  cases hderived : derivedOf? c with
  | none => simp
  | some s =>
    have hs := canDerive_derivedOf? hderived
    rw [Option.elim_some]
    cases s with
    | assumeRole => simp [buildDerived, buildAssumedRole_eq_error_iff hs]
    | webIdentity => simp [buildDerived, buildTokenExchange_eq_error_iff hs]
    | _ => simp [canDerive] at hs

/-- Building misses no property and is never asked of a strategy that cannot do it. -/
theorem fault_of_build (hb : build isAddress c region now = .error e) : BuildFault isAddress c e := by
  obtain ⟨s, hderived, hfault⟩ := build_eq_error_iff.mp hb
  rcases hfault with hproxy | ⟨rfl, -, htime⟩
  · exact .proxy (by simp [hderived]) hproxy
  · obtain ⟨v, cause, hv, hblank, hread, rfl⟩ := sessionDuration_eq_error_iff.mp htime
    exact .sessionTime hderived hv hblank hread

theorem exists_build_iff :
    (∃ h, build isAddress c region now = .ok h) ↔
      (derivedOf? c ≠ none → c.ProxyWorks isAddress) ∧
        (derivedOf? c = some assumeRole → c.SessionTimeReads) := by
  constructor
  · intro hbuilt
    obtain ⟨h, hb⟩ := hbuilt
    obtain ⟨primary, -, hcase⟩ := build_eq_ok_iff.mp hb
    rcases hcase with ⟨hderived, -⟩ | ⟨hderived, hrole⟩ | ⟨hderived, htoken⟩
    · simp [hderived]
    · obtain ⟨_, _, settings, duration, -, -, hsettings, hduration, -⟩ :=
        buildAssumedRole_eq_ok_iff.mp hrole
      exact ⟨fun _ => ServiceSettings.exists_ofConfiguration_iff.mp ⟨settings, hsettings⟩,
        fun _ => exists_sessionDuration_iff.mp ⟨duration, hduration⟩⟩
    · obtain ⟨_, _, settings, -, -, hsettings, -⟩ := buildTokenExchange_eq_ok_iff.mp htoken
      exact ⟨fun _ => ServiceSettings.exists_ofConfiguration_iff.mp ⟨settings, hsettings⟩,
        by simp [hderived]⟩
  · intro hworks
    obtain ⟨hproxy, htime⟩ := hworks
    rw [exists_ok_iff_forall_ne_error]
    intro e he
    cases fault_of_build he with
    | proxy hderived hfault => exact (hproxy hderived).not_fault hfault
    | sessionTime hderived hvalue hblank hread =>
      obtain ⟨n, hn⟩ := htime hderived _ hvalue hblank
      simp [hread] at hn

end Strategy
end CredentialResolution
