import CredentialResolution.Proofs.Acceptance
import Mathlib.Data.List.Basic
import Mathlib.Data.List.Find

/-! What the strategies look at. Each has properties of its own, and configurations that hold the same
for these look the same to it. No property of a primary strategy is looked at by one that derives, or
the other way round, so the failures of the two groups can be found apart. -/

namespace CredentialResolution
set_option autoImplicit false

variable {c d : Configuration} {ev : Evaluator} {files : Files.FileSystem}

/-- The properties that the primary strategies are about. All others belong to derived ones. -/
def Property.isPrimary : Property → Bool
  | useDefault | accessKey | secretKey | credentialsFile | profile | useAnonymous => true
  | roleArn | roleSessionName | sessionTime | externalId | proxyHost | proxyPort | webRoleArn
    | webSessionName | webTokenFile => false

namespace Configuration
variable {p : Property}

theorem filled?_congr (h : c.value? p = d.value? p) : c.filled? p = d.filled? p := by
  simp only [filled?, h]

theorem isSet_congr (h : c.value? p = d.value? p) : c.isSet p = d.isSet p := by
  simp only [isSet, filled?_congr h]

theorem flag_congr (h : c.value? p = d.value? p) : c.flag p = d.flag p := by
  simp only [flag, h]

theorem value?_restrict_of_keep {keep : Property → Bool} (h : keep p = true) :
    (c.restrict keep).value? p = c.value? p := by
  rw [value?_restrict, if_pos h]

end Configuration

theorem Validator.judgeProperty_congr {v : Validator} {p : Property}
    (h : c.value? p = d.value? p) :
    v.judgeProperty ⟨c, ev, files⟩ p = v.judgeProperty ⟨d, ev, files⟩ p := by
  simp only [judgeProperty, Configuration.filled?_congr h]
  rfl

namespace Strategy
variable {s primary : Strategy}

/-- What a strategy looks at when it checks a configuration. -/
def reads : Strategy → List Property
  | assumeRole => assumeRole.required ++ [.externalId, .proxyHost, .proxyPort]
  | webIdentity => webIdentity.required ++ [.proxyHost, .proxyPort]
  | s => s.required

theorem isPrimary_of_mem_reads {p : Property} (h : p ∈ s.reads) : p.isPrimary = !s.isDerived := by
  have hall : ∀ q ∈ s.reads, q.isPrimary = !s.isDerived := by cases s <;> decide
  exact hall p h

theorem exclusiveFailures_congr (h : ∀ p ∈ s.required, c.value? p = d.value? p) :
    s.exclusiveFailures ⟨c, ev, files⟩ primary = s.exclusiveFailures ⟨d, ev, files⟩ primary := by
  simp only [exclusiveFailures]
  rw [List.filter_congr fun p hp => by rw [Configuration.isSet_congr (h p hp)]]
  apply List.map_congr_left
  intro p hp
  rw [h p (List.mem_of_mem_filter hp)]

theorem flagFailures_congr {p : Property} (h : c.value? p = d.value? p) :
    s.flagFailures p ⟨c, ev, files⟩ primary = s.flagFailures p ⟨d, ev, files⟩ primary := by
  simp only [flagFailures, Validator.judgeProperty_congr h, Configuration.flag_congr h, h]

theorem sessionTimeFailures_congr (h : c.value? .sessionTime = d.value? .sessionTime) :
    sessionTimeFailures ⟨c, ev, files⟩ = sessionTimeFailures ⟨d, ev, files⟩ := by
  simp only [sessionTimeFailures, Configuration.filled?_congr h]
  rfl

theorem proxyFailures_congr (hhost : c.value? .proxyHost = d.value? .proxyHost)
    (hport : c.value? .proxyPort = d.value? .proxyPort) :
    proxyFailures ⟨c, ev, files⟩ = proxyFailures ⟨d, ev, files⟩ := by
  simp only [proxyFailures, Configuration.isSet_congr hhost, Configuration.isSet_congr hport,
    Validator.judgeProperty_congr hport]

theorem assumeRoleFailures_congr (h : ∀ p ∈ assumeRole.reads, c.value? p = d.value? p) :
    assumeRoleFailures ⟨c, ev, files⟩ = assumeRoleFailures ⟨d, ev, files⟩ := by
  have hid := h .externalId (by decide)
  simp only [assumeRoleFailures, Configuration.isSet_congr (h .roleArn (by decide)),
    Configuration.isSet_congr (h .roleSessionName (by decide)), Configuration.isSet_congr hid, hid,
    sessionTimeFailures_congr (h .sessionTime (by decide)),
    proxyFailures_congr (h .proxyHost (by decide)) (h .proxyPort (by decide))]

theorem togetherExplanation_congr (h : ∀ p ∈ webIdentity.required, c.value? p = d.value? p) :
    togetherExplanation c = togetherExplanation d := by
  unfold togetherExplanation
  congr 2
  apply List.map_congr_left
  intro p hp
  rw [Configuration.isSet_congr (h p hp)]

theorem webIdentityFailures_congr (h : ∀ p ∈ webIdentity.reads, c.value? p = d.value? p) :
    webIdentityFailures ⟨c, ev, files⟩ = webIdentityFailures ⟨d, ev, files⟩ := by
  have harn := h .webRoleArn (by decide)
  have htoken := h .webTokenFile (by decide)
  have htogether := togetherExplanation_congr fun p hp => h p (List.mem_append_left _ hp)
  simp only [webIdentityFailures, Configuration.isSet_congr harn, Configuration.isSet_congr htoken,
    htogether, Validator.judgeProperty_congr harn, Validator.judgeProperty_congr htoken,
    Validator.judgeProperty_congr (h .webSessionName (by decide)),
    proxyFailures_congr (h .proxyHost (by decide)) (h .proxyPort (by decide))]

/-- A strategy finds the same wherever the properties that it looks at hold the same. -/
theorem failures_congr (h : ∀ p ∈ s.reads, c.value? p = d.value? p) :
    s.failures ⟨c, ev, files⟩ primary = s.failures ⟨d, ev, files⟩ primary := by
  cases s with
  | explicitDefault => exact flagFailures_congr (h .useDefault (by decide))
  | anonymous => exact flagFailures_congr (h .useAnonymous (by decide))
  | file =>
    simp only [failures, exclusiveFailures_congr (s := file) h,
      Validator.judgeProperty_congr (h .credentialsFile (by decide))]
  | accessKeyPair | namedProfile | implicitDefault => exact exclusiveFailures_congr h
  | assumeRole => exact assumeRoleFailures_congr h
  | webIdentity => exact webIdentityFailures_congr h

theorem failures_of_isDerived (h : s.isDerived = true) (ctx : Context) (primary primary' : Strategy) :
    s.failures ctx primary = s.failures ctx primary' := by
  cases s <;> first | rfl | simp [isDerived] at h

theorem canBePrimary_congr (h : s.isDerived = false → ∀ p ∈ s.reads, c.value? p = d.value? p) :
    canBePrimary c s = canBePrimary d s := by
  have hset (hs : s.isDerived = false) (hreads : s.reads = s.required) :
      s.required.all c.isSet = s.required.all d.isSet := by
    rw [Bool.eq_iff_iff, List.all_eq_true, List.all_eq_true]
    apply forall₂_congr
    intro p hp
    rw [Configuration.isSet_congr (h hs p (hreads ▸ hp))]
  cases s with
  | explicitDefault => exact Configuration.flag_congr (h rfl .useDefault (by decide))
  | anonymous => exact Configuration.flag_congr (h rfl .useAnonymous (by decide))
  | accessKeyPair | file | namedProfile => exact hset rfl rfl
  | implicitDefault | assumeRole | webIdentity => rfl

theorem primaryOf_congr (h : ∀ p, p.isPrimary = true → c.value? p = d.value? p) :
    primaryOf c = primaryOf d := by
  have hcan : ∀ s ∈ all, canBePrimary c s = canBePrimary d s := by
    intro s _
    apply canBePrimary_congr
    intro hs p hp
    exact h p (by rw [isPrimary_of_mem_reads hp, hs]; rfl)
  simp only [primaryOf, List.find?_congr hcan]

theorem primaryFailures_congr (h : ∀ p, p.isPrimary = true → c.value? p = d.value? p) :
    primaryFailures ⟨c, ev, files⟩ = primaryFailures ⟨d, ev, files⟩ := by
  have hown : ∀ s ∈ [explicitDefault, accessKeyPair, file, namedProfile, anonymous, implicitDefault],
      s.isDerived = false := by decide
  simp only [primaryFailures, primaryOf_congr h]
  apply List.flatMap_congr
  intro s hs
  apply failures_congr
  intro p hp
  exact h p (by rw [isPrimary_of_mem_reads hp, hown s hs]; rfl)

theorem failures_congr_of_isDerived (hs : s.isDerived = true)
    (h : ∀ p, p.isPrimary = false → c.value? p = d.value? p) (primary primary' : Strategy) :
    s.failures ⟨c, ev, files⟩ primary = s.failures ⟨d, ev, files⟩ primary' := by
  rw [failures_of_isDerived hs _ primary primary']
  apply failures_congr
  intro p hp
  exact h p (by rw [isPrimary_of_mem_reads hp, hs]; rfl)

/-- What the strategies that derive have against the configuration, given any primary strategy. -/
def derivedFailures (ctx : Context) (primary : Strategy) : List Finding :=
  [assumeRole, webIdentity].flatMap fun s => s.failures ctx primary

theorem allFailures_eq_append (ctx : Context) (primary : Strategy) :
    allFailures ctx = primaryFailures ctx ++ derivedFailures ctx primary := by
  simp [allFailures_eq, derivedFailures, failures]

/-- The failures are put together from what `A` finds in the properties of the primary strategies and
what `B` finds in the others, and neither part depends on anything else. -/
structure Separated (ev : Evaluator) (files : Files.FileSystem)
    (A B : Configuration → List Finding) : Prop where
  together : ∀ c, allFailures ⟨c, ev, files⟩ =
    A (c.restrict Property.isPrimary) ++ B (c.restrict fun p => !p.isPrimary)
  primary : ∀ c, A (c.restrict Property.isPrimary) = primaryFailures ⟨c, ev, files⟩
  derived : ∀ c s, B (c.restrict fun p => !p.isPrimary) = derivedFailures ⟨c, ev, files⟩ s
  primaryFrame : ∀ c d : Configuration, (∀ p, p.isPrimary = true → c.value? p = d.value? p) →
    primaryFailures ⟨c, ev, files⟩ = primaryFailures ⟨d, ev, files⟩
  derivedFrame : ∀ c d : Configuration, (∀ p, p.isPrimary = false → c.value? p = d.value? p) →
    ∀ s : Strategy, s.isDerived = true → ∀ primary primary' : Strategy,
      s.failures ⟨c, ev, files⟩ primary = s.failures ⟨d, ev, files⟩ primary'

theorem exists_separated (ev : Evaluator) (files : Files.FileSystem) :
    ∃ A B, Separated ev files A B := by
  have hprimary : ∀ c, primaryFailures ⟨c.restrict Property.isPrimary, ev, files⟩ =
      primaryFailures ⟨c, ev, files⟩ := fun c =>
    primaryFailures_congr fun p hp => Configuration.value?_restrict_of_keep hp
  have hderives : ∀ t ∈ [assumeRole, webIdentity], t.isDerived = true := by decide
  have hderived : ∀ c s, derivedFailures ⟨c.restrict fun p => !p.isPrimary, ev, files⟩
      implicitDefault = derivedFailures ⟨c, ev, files⟩ s := by
    intro c s
    apply List.flatMap_congr
    intro t ht
    apply failures_congr_of_isDerived (hderives t ht)
    intro p hp
    exact Configuration.value?_restrict_of_keep (by simp [hp])
  refine ⟨fun c => primaryFailures ⟨c, ev, files⟩,
    fun c => derivedFailures ⟨c, ev, files⟩ implicitDefault, ?_⟩
  constructor
  case together =>
    intro c
    rw [hprimary, hderived c implicitDefault]
    exact allFailures_eq_append _ _
  case primary => exact hprimary
  case derived => exact hderived
  case primaryFrame => exact fun _ _ h => primaryFailures_congr h
  case derivedFrame => exact fun _ _ h s hs => failures_congr_of_isDerived hs h

end Strategy
end CredentialResolution
