import CredentialResolution.Proofs.Judgement
import CredentialResolution.Proofs.Selection
import CredentialResolution.Proofs.Trimming
import CredentialResolution.Strategy.Check

/-! The configurations that nothing speaks against. They are described without the selection of a
strategy and without the order of the checks; that at most one primary strategy may be asked for is
nowhere checked as such, and follows from what the eight strategies check. -/

namespace CredentialResolution
set_option autoImplicit false

namespace Configuration
variable {c : Configuration} {p : Property} {s word : String}

/-- Without the blanks at its ends the text is the word, in letters of either case. -/
def Spells (s word : String) : Prop :=
  ∃ core, Text.IsTrim s.toList core ∧ core.map Char.toLower = word.toList

def Raised (c : Configuration) (p : Property) : Prop :=
  ∃ v, c.value? p = some v ∧ Spells v "true"

/-- The five ways to ask for a primary strategy. -/
def triggers (c : Configuration) : List Prop :=
  [c.Raised .useDefault, c.isSet .accessKey = true ∨ c.isSet .secretKey = true,
    c.isSet .credentialsFile = true, c.isSet .profile = true, c.Raised .useAnonymous]

/-- No two of the ways are used together. -/
def AsksOnce (c : Configuration) : Prop :=
  c.triggers.Pairwise fun asks other => ¬ (asks ∧ other)

theorem spells_iff (hword : word.toList.map Char.toLower = word.toList) :
    Spells s word ↔ sameFolded (Text.trim s) word = true := by
  simp only [Spells, Text.isTrim_iff, exists_eq_left', sameFolded, beq_iff_eq, hword,
    Text.toList_trim]

theorem spells_true_iff : Spells s "true" ↔ sameFolded (Text.trim s) "true" = true :=
  spells_iff (by decide)

theorem spells_false_iff : Spells s "false" ↔ sameFolded (Text.trim s) "false" = true :=
  spells_iff (by decide)

theorem raised_iff : c.Raised p ↔ c.flag p = true := by
  cases hv : c.value? p <;> simp [Raised, flag, hv, spells_true_iff]

theorem pairwise_not_and_iff (bs : List Bool) :
    (bs.map (· = true)).Pairwise (fun asks other => ¬ (asks ∧ other)) ↔ bs.count true ≤ 1 := by
  induction bs with
  | nil => simp
  | cons b bs ih =>
    cases b with
    | false => simpa using ih
    | true =>
      have hnone : bs.count true = 0 ↔ ∀ b ∈ bs, ¬ b = true := by
        rw [List.count_eq_zero]
        exact ⟨fun h b hb hbt => h (hbt ▸ hb), fun h hb => h true hb rfl⟩
      have hle : bs.count true + 1 ≤ 1 ↔ bs.count true = 0 := by omega
      rw [List.map_cons, List.pairwise_cons, ih, List.count_cons_self, hle, hnone]
      simp only [List.forall_mem_map, true_and, and_iff_left_iff_imp]
      intro h
      rw [hnone.mpr h]
      exact Nat.zero_le 1

theorem asksOnce_iff : c.AsksOnce ↔
    [c.flag .useDefault, c.isSet .accessKey || c.isSet .secretKey, c.isSet .credentialsFile,
      c.isSet .profile, c.flag .useAnonymous].count true ≤ 1 := by
  rw [← pairwise_not_and_iff, AsksOnce, triggers]
  simp only [raised_iff, List.map_cons, List.map_nil, Bool.or_eq_true]

end Configuration

namespace Context

def IsFlag (ctx : Context) (p : Property) : Prop :=
  ∀ raw, ctx.configuration.filled? p = some raw →
    Configuration.Spells raw "true" ∨ Configuration.Spells raw "false"

/-- What the properties of the primary strategies must be like. -/
structure PrimaryAccepted (ctx : Context) : Prop where
  flags : ctx.IsFlag .useDefault ∧ ctx.IsFlag .useAnonymous
  oneTrigger : ctx.configuration.AsksOnce
  keyPair : ctx.configuration.isSet .accessKey = ctx.configuration.isSet .secretKey
  file : ∀ path, ctx.configuration.filled? .credentialsFile = some path →
    Text.allBlank path = false ∧ ctx.files.isFileAt path = true

/-- What the properties of an assumed role must be like. -/
structure RoleAccepted (ctx : Context) : Prop where
  together : ctx.configuration.isSet .roleArn = ctx.configuration.isSet .roleSessionName
  sessionTime : ctx.HasValue .sessionTime (Text.IsNumeralIn 900 3600)
  externalId : ctx.configuration.isSet .externalId = true →
    ctx.configuration.isSet .roleArn = true ∧ ctx.configuration.isSet .roleSessionName = true

/-- What the properties of the proxy must be like. -/
structure ProxyAccepted (ctx : Context) : Prop where
  together : ctx.configuration.isSet .proxyHost = ctx.configuration.isSet .proxyPort
  port : ctx.HasValue .proxyPort (Text.IsNumeralIn 0 65535)

/-- What the properties of a web identity must be like. -/
structure TokenAccepted (ctx : Context) : Prop where
  together : ctx.configuration.isSet .webRoleArn = ctx.configuration.isSet .webTokenFile
  arn : ctx.HasValue .webRoleArn fun v => ∃ a, Arn.read v = .ok a
  /-- The name may be blank, and it may evaluate to nothing. -/
  sessionName : ∀ raw, ctx.configuration.filled? .webSessionName = some raw →
    ∃ v, ctx.evaluator.valueOf .webSessionName raw = .ok v ∧
      (v = "" ∨ SessionName.isValid v = true)
  tokenFile : ctx.HasValue .webTokenFile fun v =>
    ∃ loc, ctx.files.locate v = .ok loc ∧ ctx.files.isFile loc = true

structure Accepted (ctx : Context) : Prop where
  primary : ctx.PrimaryAccepted
  role : ctx.RoleAccepted
  proxy : ctx.ProxyAccepted
  token : ctx.TokenAccepted

end Context

namespace Strategy
variable {ctx : Context}

theorem boolean_failure_eq_nil_iff {p : Property} (hp : p.supportsExpression = false) :
    (Validator.boolean.judgeProperty ctx p).failure = [] ↔ ctx.IsFlag p := by
  simp only [Context.IsFlag, Configuration.spells_true_iff, Configuration.spells_false_iff]
  rw [Validator.failure_eq_nil_iff_hasValue rfl (fun _ _ => Validator.check_boolean_iff) (by decide),
    Context.hasValue_iff_of_not_supports hp]
  constructor
  · exact fun h raw hraw => (h raw hraw).2
  · intro h raw hraw
    refine ⟨?_, h raw hraw⟩
    cases hb : Text.allBlank raw with
    | false => rfl
    | true =>
      have hflag := h raw hraw
      rw [Text.trim_of_allBlank hb] at hflag
      exact absurd hflag (by decide)

theorem file_failure_eq_nil_iff :
    (Validator.credentialsFile.judgeProperty ctx .credentialsFile).failure = [] ↔
      ∀ path, ctx.configuration.filled? .credentialsFile = some path →
        Text.allBlank path = false ∧ ctx.files.isFileAt path = true := by
  have hempty : ¬ ctx.files.isFileAt "" = true := by
    simp [Files.FileSystem.isFileAt, Files.FileSystem.locateToOpen, Files.FileSystem.namesToOpen,
      Files.Path.ofString]
  rw [Validator.failure_eq_nil_iff_hasValue rfl (fun _ _ => Validator.check_credentialsFile_iff)
    hempty, Context.hasValue_iff_of_not_supports rfl]

theorem exclusiveFailures_eq_nil_iff {s primary : Strategy} :
    exclusiveFailures s ctx primary = [] ↔
      ∀ p ∈ s.required, ctx.configuration.isSet p = (s == primary) := by
  simp [exclusiveFailures, List.filter_eq_nil_iff]

theorem flagFailures_eq_nil_iff {s primary : Strategy} {p : Property}
    (hp : p.supportsExpression = false) :
    flagFailures s p ctx primary = [] ↔
      ctx.IsFlag p ∧ (s ≠ primary → ctx.configuration.flag p = false) := by
  rw [flagFailures, List.append_eq_nil_iff, boolean_failure_eq_nil_iff hp]
  apply and_congr_right
  intro _
  by_cases h : s = primary <;> simp [h]

/-- Nothing is set that belongs to a strategy other than the selected one, and both keys go together
with theirs. -/
structure OnlySelected (c : Configuration) (primary : Strategy) : Prop where
  useDefault : explicitDefault ≠ primary → c.flag .useDefault = false
  accessKey : c.isSet .accessKey = (accessKeyPair == primary)
  secretKey : c.isSet .secretKey = (accessKeyPair == primary)
  credentialsFile : c.isSet .credentialsFile = (file == primary)
  profile : c.isSet .profile = (namedProfile == primary)
  useAnonymous : anonymous ≠ primary → c.flag .useAnonymous = false

/-- The priority of the strategies and their separate checks come to mutual exclusion. -/
theorem onlySelected_primaryOf_iff (c : Configuration) :
    OnlySelected c (primaryOf c) ↔
      c.AsksOnce ∧ c.isSet .accessKey = c.isSet .secretKey := by
  have key : ∀ d a s f n u : Bool,
      ∀ primary, primary = (if d then explicitDefault else if a && s then accessKeyPair
          else if f then file else if n then namedProfile else if u then anonymous
          else implicitDefault) →
        (((explicitDefault ≠ primary → d = false) ∧ a = (accessKeyPair == primary) ∧
          s = (accessKeyPair == primary) ∧ f = (file == primary) ∧ n = (namedProfile == primary) ∧
          (anonymous ≠ primary → u = false)) ↔
        [d, a || s, f, n, u].count true ≤ 1 ∧ a = s) := by
    rintro d a s f n u _ rfl
    cases d <;> cases a <;> cases s <;> cases f <;> cases n <;> cases u <;> decide
  have h := key _ _ _ _ _ _ _ (primaryOf_eq c)
  rw [Configuration.asksOnce_iff]
  constructor
  · intro hs
    exact h.mp ⟨hs.useDefault, hs.accessKey, hs.secretKey, hs.credentialsFile, hs.profile,
      hs.useAnonymous⟩
  · intro hs
    obtain ⟨h1, h2, h3, h4, h5, h6⟩ := h.mpr hs
    exact ⟨h1, h2, h3, h4, h5, h6⟩

/-- What the six strategies that can be primary have against the configuration. -/
def primaryFailures (ctx : Context) : List Finding :=
  [explicitDefault, accessKeyPair, file, namedProfile, anonymous, implicitDefault].flatMap
    fun s => s.failures ctx (primaryOf ctx.configuration)

theorem allFailures_eq (ctx : Context) :
    allFailures ctx = primaryFailures ctx ++ (assumeRoleFailures ctx ++ webIdentityFailures ctx) := by
  simp [allFailures, all, primaryFailures, failures]

/-- The file is looked at only where its strategy is selected, and it is set nowhere else. -/
theorem onlySelected_file_iff {primary : Strategy} (h : OnlySelected ctx.configuration primary)
    {Q : String → Prop} :
    (file = primary → ∀ path, ctx.configuration.filled? .credentialsFile = some path → Q path) ↔
      ∀ path, ctx.configuration.filled? .credentialsFile = some path → Q path := by
  constructor
  · intro hq path hpath
    have hset := Configuration.isSet_iff_filled.mpr ⟨path, hpath⟩
    rw [h.credentialsFile, beq_iff_eq] at hset
    exact hq hset path hpath
  · exact fun hq _ => hq

theorem primaryFailures_eq_nil_iff : primaryFailures ctx = [] ↔ ctx.PrimaryAccepted := by
  have hfile : ∀ primary, file.failures ctx primary = [] ↔
      exclusiveFailures file ctx primary = [] ∧ (file = primary →
        (Validator.credentialsFile.judgeProperty ctx .credentialsFile).failure = []) := by
    intro primary
    by_cases h : file = primary <;> simp [failures, h]
  simp only [primaryFailures, List.flatMap_cons, List.flatMap_nil, List.append_nil,
    List.append_eq_nil_iff, hfile, file_failure_eq_nil_iff]
  simp only [failures, flagFailures_eq_nil_iff (p := .useDefault) rfl,
    flagFailures_eq_nil_iff (p := .useAnonymous) rfl, exclusiveFailures_eq_nil_iff, required,
    List.forall_mem_cons, List.not_mem_nil, false_implies, implies_true, and_true]
  have hiff := onlySelected_primaryOf_iff ctx.configuration
  constructor
  · intro hclean
    obtain ⟨⟨hd, hde⟩, ⟨ha, hs⟩, ⟨hf, hpath⟩, hn, hu, hue⟩ := hclean
    have hsel : OnlySelected ctx.configuration (primaryOf ctx.configuration) :=
      ⟨hde, ha, hs, hf, hn, hue⟩
    obtain ⟨hone, hpair⟩ := hiff.mp hsel
    exact ⟨⟨hd, hu⟩, hone, hpair, (onlySelected_file_iff hsel).mp hpath⟩
  · intro haccepted
    obtain ⟨⟨hd, hu⟩, hone, hpair, hpath⟩ := haccepted
    have hsel := hiff.mpr ⟨hone, hpair⟩
    exact ⟨⟨hd, hsel.useDefault⟩, ⟨hsel.accessKey, hsel.secretKey⟩,
      ⟨hsel.credentialsFile, fun _ => hpath⟩, hsel.profile, hu, hsel.useAnonymous⟩

theorem sessionLengthFailures_eq_nil_iff {subject raw value : String} :
    sessionLengthFailures subject raw value = [] ↔ Text.IsNumeralIn 900 3600 value := by
  rw [← Validator.readInteger_between_iff (by decide) (by decide)]
  unfold sessionLengthFailures
  cases Validator.readInteger value with
  | error e => simp
  | ok n => by_cases h : 900 ≤ n ∧ n ≤ 3600 <;> simp [h, leastSession, greatestSession]

/-- The validator reads the integer first; that adds nothing to the limits. -/
theorem sessionTimeFailures_eq_nil_iff :
    sessionTimeFailures ctx = [] ↔ ctx.HasValue .sessionTime (Text.IsNumeralIn 900 3600) := by
  cases hraw : ctx.configuration.filled? .sessionTime with
  | none =>
    have hdefault : Text.IsNumeralIn 900 3600 "3600" :=
      (Validator.readInteger_between_iff (by decide) (by decide)).mp ⟨3600, rfl, by decide, by decide⟩
    simp [sessionTimeFailures, Context.HasValue, hraw, Property.default?,
      sessionLengthFailures_eq_nil_iff, hdefault]
  | some raw =>
    simp only [sessionTimeFailures, Context.HasValue, hraw, Option.some.injEq, forall_eq']
    split
    · rename_i hvalid
      have haccept := Validator.judge_isValid_iff.mp hvalid
      cases hv : ctx.evaluator.valueOf .sessionTime raw with
      | error e =>
        obtain ⟨v, hv', -⟩ := haccept.checked
        simp [hv] at hv'
      | ok value => simp [sessionLengthFailures_eq_nil_iff, haccept.notBlank rfl]
    · rename_i hinvalid
      simp only [List.cons_ne_nil, false_iff]
      intro hvalue
      obtain ⟨hb, value, hv, hnum⟩ := hvalue
      apply hinvalid
      rw [Validator.judge_isValid_iff]
      refine ⟨fun _ => hb, value, hv, ?_, fun _ => ?_⟩
      · rintro rfl
        exact absurd hnum (Text.not_isNumeralIn_empty _ _)
      · obtain ⟨n, hn, -⟩ := (Validator.readInteger_between_iff (by decide) (by decide)).mpr hnum
        exact Validator.check_integer_iff.mpr ⟨n, hn⟩

theorem proxyFailures_eq_nil_iff : proxyFailures ctx = [] ↔ ctx.ProxyAccepted := by
  have hport : (Validator.port.judgeProperty ctx .proxyPort).failure = [] ↔
      ctx.HasValue .proxyPort (Text.IsNumeralIn 0 65535) := by
    apply Validator.failure_eq_nil_iff_hasValue rfl _ (Text.not_isNumeralIn_empty _ _)
    intro raw value
    rw [Validator.check_port_iff, Validator.readInteger_between_iff (by decide) (by decide)]
  have hset : ctx.configuration.isSet .proxyPort = false →
      ctx.HasValue .proxyPort (Text.IsNumeralIn 0 65535) := by
    intro h raw hraw
    simp [Configuration.isSet_eq_false_iff.mp h] at hraw
  rw [proxyFailures, List.append_eq_nil_iff]
  constructor
  · intro hclean
    obtain ⟨hpair, hp⟩ := hclean
    refine ⟨by simpa using hpair, ?_⟩
    cases h : ctx.configuration.isSet .proxyPort with
    | false => exact hset h
    | true => exact hport.mp (by simpa [h] using hp)
  · intro haccepted
    obtain ⟨hpair, hp⟩ := haccepted
    refine ⟨by simpa using hpair, ?_⟩
    rw [hport.mpr hp]
    simp

theorem assumeRoleFailures_eq_nil_iff :
    assumeRoleFailures ctx = [] ↔ ctx.RoleAccepted ∧ ctx.ProxyAccepted := by
  simp only [assumeRoleFailures, List.append_eq_nil_iff, sessionTimeFailures_eq_nil_iff,
    proxyFailures_eq_nil_iff]
  constructor
  · intro hclean
    obtain ⟨⟨⟨hpair, htime⟩, hid⟩, hproxy⟩ := hclean
    refine ⟨⟨by simpa using hpair, htime, ?_⟩, hproxy⟩
    intro h
    simpa [h] using hid
  · intro haccepted
    obtain ⟨⟨hpair, htime, hid⟩, hproxy⟩ := haccepted
    refine ⟨⟨⟨by simpa using hpair, htime⟩, ?_⟩, hproxy⟩
    cases h : ctx.configuration.isSet .externalId with
    | false => simp
    | true => simp [hid h]

theorem webIdentityFailures_eq_nil_iff :
    webIdentityFailures ctx = [] ↔ ctx.TokenAccepted ∧ ctx.ProxyAccepted := by
  have harn : (Validator.arn.judgeProperty ctx .webRoleArn).failure = [] ↔
      ctx.HasValue .webRoleArn fun v => ∃ a, Arn.read v = .ok a :=
    Validator.failure_eq_nil_iff_hasValue rfl (fun _ _ => Validator.check_arn_iff)
      Arn.not_exists_read_empty
  have htoken : (Validator.tokenFile.judgeProperty ctx .webTokenFile).failure = [] ↔
      ctx.HasValue .webTokenFile fun v =>
        ∃ loc, ctx.files.locate v = .ok loc ∧ ctx.files.isFile loc = true :=
    Validator.failure_eq_nil_iff_hasValue rfl (fun _ _ => Validator.check_tokenFile_iff)
      Files.FileSystem.not_exists_locate_empty
  have hname : (Validator.sessionName.judgeProperty ctx .webSessionName).failure = [] ↔
      ∀ raw, ctx.configuration.filled? .webSessionName = some raw →
        ∃ v, ctx.evaluator.valueOf .webSessionName raw = .ok v ∧
          (v = "" ∨ SessionName.isValid v = true) := by
    rw [Validator.failure_judgeProperty_eq_nil_iff]
    apply forall_congr'
    intro raw
    apply imp_congr_right
    intro _
    constructor
    · intro haccepts
      obtain ⟨-, v, hv, -, hc⟩ := haccepts
      refine ⟨v, hv, ?_⟩
      by_cases he : v = ""
      · exact .inl he
      · exact .inr (Validator.check_sessionName_iff.mp (hc he))
    · intro hvalue
      obtain ⟨v, hv, hc⟩ := hvalue
      refine ⟨by simp [Validator.isMandatory], v, hv, fun _ => rfl, fun he => ?_⟩
      exact Validator.check_sessionName_iff.mpr (hc.resolve_left he)
  simp only [webIdentityFailures, List.append_eq_nil_iff, harn, htoken, hname,
    proxyFailures_eq_nil_iff]
  constructor
  · intro hclean
    obtain ⟨⟨⟨⟨hpair, ha⟩, hn⟩, ht⟩, hproxy⟩ := hclean
    exact ⟨⟨by simpa using hpair, ha, hn, ht⟩, hproxy⟩
  · intro haccepted
    obtain ⟨⟨hpair, ha, hn, ht⟩, hproxy⟩ := haccepted
    exact ⟨⟨⟨⟨by simpa using hpair, ha⟩, hn⟩, ht⟩, hproxy⟩

theorem accepted_of_allFailures (h : allFailures ctx = []) : ctx.Accepted := by
  rw [allFailures_eq, List.append_eq_nil_iff, List.append_eq_nil_iff] at h
  obtain ⟨hprimary, hrole, htoken⟩ := h
  obtain ⟨hr, hproxy⟩ := assumeRoleFailures_eq_nil_iff.mp hrole
  exact ⟨primaryFailures_eq_nil_iff.mp hprimary, hr, hproxy,
    (webIdentityFailures_eq_nil_iff.mp htoken).1⟩

theorem allFailures_of_accepted (h : ctx.Accepted) : allFailures ctx = [] := by
  rw [allFailures_eq, primaryFailures_eq_nil_iff.mpr h.primary,
    assumeRoleFailures_eq_nil_iff.mpr ⟨h.role, h.proxy⟩,
    webIdentityFailures_eq_nil_iff.mpr ⟨h.token, h.proxy⟩]
  rfl

/-- The checks refuse nothing else and let nothing else pass. -/
theorem allFailures_eq_nil_iff_accepted (ctx : Context) : allFailures ctx = [] ↔ ctx.Accepted :=
  ⟨accepted_of_allFailures, allFailures_of_accepted⟩

end Strategy
end CredentialResolution
