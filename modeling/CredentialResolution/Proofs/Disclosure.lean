import CredentialResolution.Configuration.Shown
import CredentialResolution.Proofs.Enabling
import CredentialResolution.Proofs.Separation

/-! What reports tell of a secret key. One check of the eight strategies shows it, that of the key pair
where another strategy is selected; whoever reads its finding reads the key. Nothing else in a report
depends on the key. -/

namespace CredentialResolution
set_option autoImplicit false

variable {c d : Configuration} {ev : Evaluator} {files : Files.FileSystem} {v w : String}

namespace Configuration

/-- Both have a secret key, and they hold the same for all other properties. -/
structure SameButSecret (c d : Configuration) : Prop where
  others : ∀ p, p ≠ .secretKey → c.value? p = d.value? p
  left : c.isSet .secretKey = true
  right : d.isSet .secretKey = true

/-- A secret key belongs to the selected strategy where there is one. -/
structure UsesSecret (c : Configuration) : Prop where
  notDefault : c.flag .useDefault = false
  accessKey : c.isSet .accessKey = true

namespace SameButSecret

theorem isSet_eq (h : c.SameButSecret d) (p : Property) : c.isSet p = d.isSet p := by
  by_cases hp : p = .secretKey
  · rw [hp, h.left, h.right]
  · exact isSet_congr (h.others p hp)

theorem primaryOf_eq (h : c.SameButSecret d) : Strategy.primaryOf c = Strategy.primaryOf d := by
  rw [Strategy.primaryOf_eq, Strategy.primaryOf_eq, Strategy.hasKeys, Strategy.hasKeys,
    h.isSet_eq .accessKey, h.isSet_eq .secretKey, h.isSet_eq .credentialsFile, h.isSet_eq .profile,
    flag_congr (h.others .useDefault (by decide)), flag_congr (h.others .useAnonymous (by decide))]

theorem eq_iff (h : c.SameButSecret d) (hv : c.value? .secretKey = some v)
    (hw : d.value? .secretKey = some w) : c = d ↔ v = w := by
  constructor
  · rintro rfl
    exact Option.some.inj (hv.symm.trans hw)
  · rintro rfl
    ext1
    funext p
    by_cases hp : p = .secretKey
    · rw [hp, hv, hw]
    · exact h.others p hp

end SameButSecret

theorem usesSecret_iff (h : c.isSet .secretKey = true) :
    c.UsesSecret ↔ Strategy.primaryOf c = .accessKeyPair := by
  rw [Strategy.primaryOf_eq, Strategy.hasKeys, h, Bool.and_true]
  constructor
  · intro huses
    rw [huses.notDefault, huses.accessKey]
    rfl
  · intro hprimary
    split at hprimary
    · cases hprimary
    · rename_i hdefault
      split at hprimary
      · rename_i haccess
        exact ⟨Bool.not_eq_true _ ▸ hdefault, haccess⟩
      · repeat' split at hprimary
        all_goals cases hprimary

end Configuration

/-- The finding with the value of a secret property hidden, as configurations hide it when shown. -/
def Finding.redacted (f : Finding) : Finding :=
  if f.subject = Property.secretKey.displayName then
    { f with input := f.input.map (Configuration.shownValue .secretKey) }
  else f

namespace Strategy
variable {primary : Strategy}

/-- The finding that a secret key does not go with the selected strategy. It shows the key. -/
def misplacedSecret (secret : String) (primary : Strategy) : Finding :=
  .invalid Property.secretKey.displayName (some secret) (notUsableWith .secretKey primary)

theorem message_misplacedSecret_iff :
    (misplacedSecret v primary).message = (misplacedSecret w primary).message ↔ v = w := by
  simp [misplacedSecret, Finding.invalid, Finding.message]

theorem redacted_misplacedSecret :
    (misplacedSecret v primary).redacted = (misplacedSecret w primary).redacted := rfl

/-- What the key pair finds where it is not selected, up to the secret key. -/
def misplacedAccess (c : Configuration) (primary : Strategy) : List Finding :=
  if c.isSet .accessKey then
    [.invalid Property.accessKey.displayName (c.value? .accessKey) (notUsableWith .accessKey primary)]
  else []

theorem failures_accessKeyPair_of_unused (hv : c.value? .secretKey = some v)
    (hset : c.isSet .secretKey = true) (hprimary : primary ≠ accessKeyPair) :
    accessKeyPair.failures ⟨c, ev, files⟩ primary =
      misplacedAccess c primary ++ [misplacedSecret v primary] := by
  have hselected : (accessKeyPair == primary) = false := by simp [hprimary.symm]
  cases haccess : c.isSet .accessKey <;>
    simp [failures, exclusiveFailures, required, misplacedAccess, misplacedSecret, haccess, hset, hv,
      hselected]

theorem failures_accessKeyPair_of_used (haccess : c.isSet .accessKey = true)
    (hset : c.isSet .secretKey = true) :
    accessKeyPair.failures ⟨c, ev, files⟩ accessKeyPair = [] := by
  simp [failures, exclusiveFailures, required, haccess, hset]

theorem failures_eq_of_others (h : c.SameButSecret d) {s : Strategy} (hs : s ≠ accessKeyPair) :
    s.failures ⟨c, ev, files⟩ primary = s.failures ⟨d, ev, files⟩ primary := by
  have hreads : ∀ s, s ≠ accessKeyPair → Property.secretKey ∉ s.reads := by
    intro s hs
    cases s <;> first | exact absurd rfl hs | decide
  apply failures_congr
  intro p hp
  apply h.others
  rintro rfl
  exact hreads s hs hp

def afterKeyPair : List Strategy :=
  [file, namedProfile, anonymous, implicitDefault, assumeRole, webIdentity]

theorem allFailures_eq_afterKeyPair (ctx : Context) :
    allFailures ctx = explicitDefault.failures ctx (primaryOf ctx.configuration) ++
      (accessKeyPair.failures ctx (primaryOf ctx.configuration) ++
        afterKeyPair.flatMap fun s => s.failures ctx (primaryOf ctx.configuration)) := by
  simp [allFailures, all, afterKeyPair]

theorem failures_afterKeyPair_eq (h : c.SameButSecret d) :
    (afterKeyPair.flatMap fun s => s.failures ⟨c, ev, files⟩ primary) =
      afterKeyPair.flatMap fun s => s.failures ⟨d, ev, files⟩ primary := by
  apply List.flatMap_congr
  intro s hs
  apply failures_eq_of_others h
  rintro rfl
  exact absurd hs (by decide)

theorem exists_allFailures_of_unused (h : c.SameButSecret d) (hv : c.value? .secretKey = some v)
    (hw : d.value? .secretKey = some w) (hunused : ¬ c.UsesSecret) :
    ∃ before after,
      allFailures ⟨c, ev, files⟩ = before ++ misplacedSecret v (primaryOf c) :: after ∧
      allFailures ⟨d, ev, files⟩ = before ++ misplacedSecret w (primaryOf c) :: after := by
  rw [Configuration.usesSecret_iff h.left] at hunused
  have haccess : misplacedAccess d (primaryOf c) = misplacedAccess c (primaryOf c) := by
    simp only [misplacedAccess, h.isSet_eq .accessKey, h.others .accessKey (by decide)]
  -- Nothing else reads the key, so what `c` has before and after the finding serves for `d` too.
  refine ⟨explicitDefault.failures ⟨c, ev, files⟩ (primaryOf c) ++ misplacedAccess c (primaryOf c),
    afterKeyPair.flatMap fun s => s.failures ⟨c, ev, files⟩ (primaryOf c), ?_, ?_⟩
  · rw [allFailures_eq_afterKeyPair, failures_accessKeyPair_of_unused hv h.left hunused]
    simp
  · have hprimary : primaryOf d = primaryOf c := h.primaryOf_eq.symm
    rw [allFailures_eq_afterKeyPair, hprimary,
      failures_accessKeyPair_of_unused hw h.right hunused, haccess,
      ← failures_eq_of_others h (by decide), ← failures_afterKeyPair_eq h]
    simp

theorem allFailures_eq_of_used (h : c.SameButSecret d) (hused : c.UsesSecret) :
    allFailures ⟨c, ev, files⟩ = allFailures ⟨d, ev, files⟩ := by
  have hprimary := (Configuration.usesSecret_iff h.left).mp hused
  have haccess := h.isSet_eq .accessKey ▸ hused.accessKey
  rw [allFailures_eq_afterKeyPair, allFailures_eq_afterKeyPair, ← h.primaryOf_eq, hprimary,
    failures_accessKeyPair_of_used hused.accessKey h.left,
    failures_accessKeyPair_of_used haccess h.right, failures_eq_of_others h (by decide),
    failures_afterKeyPair_eq h]

/-- Either the key is used and nothing differs, or one finding shows it and nothing else differs. -/
theorem allFailures_cases (ev : Evaluator) (files : Files.FileSystem) (h : c.SameButSecret d) :
    c.UsesSecret ∧ allFailures ⟨c, ev, files⟩ = allFailures ⟨d, ev, files⟩ ∨
      ¬ c.UsesSecret ∧ ∃ v w before after, (c = d ↔ v = w) ∧
        allFailures ⟨c, ev, files⟩ = before ++ misplacedSecret v (primaryOf c) :: after ∧
        allFailures ⟨d, ev, files⟩ = before ++ misplacedSecret w (primaryOf c) :: after := by
  by_cases hused : c.UsesSecret
  · exact .inl ⟨hused, allFailures_eq_of_used h hused⟩
  · obtain ⟨v, hv, -⟩ := (Configuration.isSet_iff c .secretKey).mp h.left
    obtain ⟨w, hw, -⟩ := (Configuration.isSet_iff d .secretKey).mp h.right
    obtain ⟨before, after, hc, hd⟩ := exists_allFailures_of_unused h hv hw hused
    exact .inr ⟨hused, v, w, before, after, h.eq_iff hv hw, hc, hd⟩

theorem redacted_allFailures_eq (ev : Evaluator) (files : Files.FileSystem)
    (h : c.SameButSecret d) :
    (allFailures ⟨c, ev, files⟩).map Finding.redacted =
      (allFailures ⟨d, ev, files⟩).map Finding.redacted := by
  rcases allFailures_cases ev files h with ⟨-, heq⟩ | ⟨-, v, w, before, after, -, hc, hd⟩
  · rw [heq]
  · rw [hc, hd, List.map_append, List.map_append, List.map_cons, List.map_cons,
      redacted_misplacedSecret]

/-- A report that tells misplaced secret keys apart tells the configurations apart, unless the key is
used. -/
theorem report_allFailures_iff {α : Type} (report : List Finding → α)
    (hreport : ∀ before after primary v w,
      report (before ++ misplacedSecret v primary :: after) =
        report (before ++ misplacedSecret w primary :: after) ↔ v = w)
    (h : c.SameButSecret d) :
    report (allFailures ⟨c, ev, files⟩) = report (allFailures ⟨d, ev, files⟩) ↔
      c = d ∨ c.UsesSecret := by
  rcases allFailures_cases ev files h with
    ⟨hused, heq⟩ | ⟨hunused, v, w, before, after, hsecret, hc, hd⟩
  · rw [heq]
    exact iff_of_true rfl (.inr hused)
  · rw [hc, hd, hreport, hsecret, or_iff_left hunused]

theorem messages_misplacedSecret_iff (before after : List Finding) (primary : Strategy)
    (v w : String) :
    (before ++ misplacedSecret v primary :: after).map Finding.message =
      (before ++ misplacedSecret w primary :: after).map Finding.message ↔ v = w := by
  rw [List.map_append, List.map_append, List.append_right_inj, List.map_cons, List.map_cons,
    List.cons_eq_cons, and_iff_left rfl, message_misplacedSecret_iff]

end Strategy

theorem ServiceError.message_invalid_inj {found found' : List Finding} :
    (invalid found).message = (invalid found').message ↔
      String.join (found.map fun f => "\n  " ++ f.message) =
        String.join (found'.map fun f => "\n  " ++ f.message) :=
  String.append_right_inj _

theorem ServiceError.message_misplacedSecret_iff (before after : List Finding) (primary : Strategy)
    (v w : String) :
    (invalid (before ++ Strategy.misplacedSecret v primary :: after)).message =
      (invalid (before ++ Strategy.misplacedSecret w primary :: after)).message ↔ v = w := by
  rw [message_invalid_inj, List.map_append, List.map_append, String.join_append, String.join_append,
    String.append_right_inj, List.map_cons, List.map_cons, String.join_cons, String.join_cons,
    String.append_left_inj, String.append_right_inj, Strategy.message_misplacedSecret_iff]

namespace Service

/-- Of two configurations that differ in the secret key alone, the reports differ exactly where no
strategy uses the key. With the secret hidden in them they are always the same. -/
theorem reports_of_sameButSecret (isAddress : String → Bool) (s : Service) (c d : Configuration)
    (ev : Evaluator) (files : Files.FileSystem) (now : SessionName.Clock) (h : c.SameButSecret d) :
    ((Strategy.allFailures ⟨c, ev, files⟩).map Finding.message =
        (Strategy.allFailures ⟨d, ev, files⟩).map Finding.message ↔ c = d ∨ c.UsesSecret) ∧
    (Strategy.allFailures ⟨c, ev, files⟩).map Finding.redacted =
      (Strategy.allFailures ⟨d, ev, files⟩).map Finding.redacted ∧
    ∀ found, (s.enable isAddress ⟨c, ev, files⟩ now).1 = .error (.invalid found) →
      ∃ found', (s.enable isAddress ⟨d, ev, files⟩ now).1 = .error (.invalid found') ∧
        ((ServiceError.invalid found).message = (ServiceError.invalid found').message ↔
          c = d ∨ c.UsesSecret) ∧
        found.map Finding.redacted = found'.map Finding.redacted := by
  have hredacted := Strategy.redacted_allFailures_eq ev files h
  refine ⟨Strategy.report_allFailures_iff (List.map Finding.message)
    Strategy.messages_misplacedSecret_iff h, hredacted, ?_⟩
  intro found herror
  cases enable_eq_error_iff.mp herror with
  | invalid hfailures =>
    refine ⟨_, enable_eq_error_iff.mpr (.invalid ?_),
      Strategy.report_allFailures_iff (fun found => (ServiceError.invalid found).message)
        ServiceError.message_misplacedSecret_iff h, hredacted⟩
    intro hnil
    rw [hnil, List.map_nil, List.map_eq_nil_iff] at hredacted
    exact hfailures hredacted

/-- A profile is selected, and there is a secret key beside it. -/
def strayKey (secret : String) : Configuration := .ofList [(.secretKey, secret), (.profile, "p")]

theorem sameButSecret_strayKey : (strayKey "S").SameButSecret (strayKey "T") := by
  constructor
  case others =>
    intro p hp
    cases p <;> first | rfl | exact absurd rfl hp
  case left => rfl
  case right => rfl

theorem reports_of_sameButSecret_strayKey :
    (strayKey "S").SameButSecret (strayKey "T") ∧
      ∃ found found',
        ((start "id" none).enable Uri.isAddress ⟨strayKey "S", .literal, ⟨[], []⟩⟩ ⟨0⟩).1 =
          .error (.invalid found) ∧
        ((start "id" none).enable Uri.isAddress ⟨strayKey "T", .literal, ⟨[], []⟩⟩ ⟨0⟩).1 =
          .error (.invalid found') ∧
        (ServiceError.invalid found).message ≠ (ServiceError.invalid found').message ∧
        found.map Finding.redacted = found'.map Finding.redacted := by
  have hreports := reports_of_sameButSecret Uri.isAddress (start "id" none) (strayKey "S")
    (strayKey "T") .literal ⟨[], []⟩ ⟨0⟩ sameButSecret_strayKey
  have herror : ((start "id" none).enable Uri.isAddress ⟨strayKey "S", .literal, ⟨[], []⟩⟩ ⟨0⟩).1 =
      .error (.invalid [Strategy.misplacedSecret "S" .namedProfile]) := by decide +kernel
  obtain ⟨found', herror', hmessage, hredacted⟩ := hreports.2.2 _ herror
  have hdiffer : ¬ (strayKey "S" = strayKey "T" ∨ (strayKey "S").UsesSecret) := by
    rintro (heq | hused)
    · exact absurd heq (by decide)
    · exact absurd hused.accessKey (by decide)
  exact ⟨sameButSecret_strayKey, _, found', herror, herror', fun heq => hdiffer (hmessage.mp heq),
    hredacted⟩

theorem not_forall_sameReports :
    ¬ ∀ (s : Service) (c d : Configuration) (ev : Evaluator) (files : Files.FileSystem)
        (now : SessionName.Clock), c.SameButSecret d →
      (Strategy.allFailures ⟨c, ev, files⟩).map Finding.message =
          (Strategy.allFailures ⟨d, ev, files⟩).map Finding.message ∧
        ∀ found found', (s.enable Uri.isAddress ⟨c, ev, files⟩ now).1 = .error (.invalid found) →
          (s.enable Uri.isAddress ⟨d, ev, files⟩ now).1 = .error (.invalid found') →
            (ServiceError.invalid found).message = (ServiceError.invalid found').message := by
  intro h
  have hsame := (h (start "id" none) (strayKey "S") (strayKey "T") .literal ⟨[], []⟩ ⟨0⟩
    sameButSecret_strayKey).1
  exact absurd hsame (by decide +kernel)

end Service
end CredentialResolution
