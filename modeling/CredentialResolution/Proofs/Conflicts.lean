import CredentialResolution.Proofs.Acceptance
import CredentialResolution.Proofs.Explanations

/-! Which conflicts the primary strategies report. A property that asks for a strategy other than the
selected one is reported exactly once; the selected strategy never misses a property, since it was
selected for having them. -/

namespace CredentialResolution
set_option autoImplicit false

namespace Validator
variable {v : Validator} {ctx : Context} {p : Property} {raw : String}

theorem judge_of_blank (hm : v.isMandatory = true) (hb : Text.allBlank raw = true) :
    v.judge ctx p raw = .invalid p.displayName (some raw) (v.blankExplanation p.displayName) := by
  simp only [judge, hm, hb, Bool.and_self, if_true]

variable (hm : v.isMandatory = true) (hb : Text.allBlank raw = false)
variable (hp : p.supportsExpression = false)
include hm hb hp

theorem judge_of_ok (hc : v.check ctx.files p.displayName raw raw = .ok ()) :
    v.judge ctx p raw = .valid p.displayName (some raw) := by
  simp [judge, hm, hb, Evaluator.valueOf_of_not_supports hp, hc]

theorem judge_of_error {e : String} (hc : v.check ctx.files p.displayName raw raw = .error e) :
    v.judge ctx p raw = .invalid p.displayName (some raw) e := by
  simp [judge, hm, hb, Evaluator.valueOf_of_not_supports hp, hc]

end Validator

namespace Strategy

/-- The primary strategy that a property belongs to. -/
def owner? : Property → Option Strategy
  | .useDefault => some explicitDefault
  | .accessKey | .secretKey => some accessKeyPair
  | .credentialsFile => some file
  | .profile => some namedProfile
  | .useAnonymous => some anonymous
  | _ => none

/-- The property asks for its strategy: flags do so where they are raised, others where they are set. -/
def asks (c : Configuration) (p : Property) : Bool :=
  if p = .useDefault ∨ p = .useAnonymous then c.flag p else c.isSet p

/-- The property asks for a primary strategy that is not the selected one. -/
def clashes (c : Configuration) (p : Property) : Bool :=
  asks c p && (owner? p).any fun s => s != primaryOf c

section
variable (ctx : Context)

def conflict (p : Property) : List Finding :=
  if clashes ctx.configuration p then
    [.invalid p.displayName (ctx.configuration.value? p)
      (notUsableWith p (primaryOf ctx.configuration))]
  else []

/-- What is wrong with a flag that reads neither `true` nor `false`. -/
def misread (p : Property) : List Finding :=
  match ctx.configuration.filled? p with
  | none => []
  | some raw =>
    if Configuration.sameFolded (Text.trim raw) "true" ||
        Configuration.sameFolded (Text.trim raw) "false" then []
    else
      [.invalid p.displayName (some raw)
        (if Text.allBlank raw then "The \"" ++ p.displayName ++ "\" property cannot be empty or blank."
        else "Value must be 'true' or 'false'")]

/-- What is wrong with the selected file. -/
def unusableFile : List Finding :=
  match ctx.configuration.filled? .credentialsFile with
  | none => []
  | some path =>
    if primaryOf ctx.configuration = file ∧
        (Text.allBlank path = true ∨ ctx.files.isFileAt path = false) then
      [.invalid Property.credentialsFile.displayName (some path)
        (if Text.allBlank path then
          "The \"" ++ Property.credentialsFile.displayName ++ "\" property cannot be empty or blank."
        else "the credentials file " ++ path ++ " does not exist or is not a regular file.")]
    else []

/-- What is to be reported of the properties of the primary strategies, in the order of the
strategies. -/
def primaryReport : List Finding :=
  misread ctx .useDefault ++ conflict ctx .accessKey ++ conflict ctx .secretKey ++
    conflict ctx .credentialsFile ++ unusableFile ctx ++ conflict ctx .profile ++
    misread ctx .useAnonymous ++ conflict ctx .useAnonymous

end

section
variable {ctx : Context} {c : Configuration} {s : Strategy} {p : Property}

/-- The default flag outranks everything else. -/
theorem clashes_useDefault : clashes c .useDefault = false := by
  rw [clashes, Bool.and_eq_false_imp]
  intro hflag
  have hprimary : primaryOf c = explicitDefault := by
    rw [primaryOf_eq]
    exact if_pos hflag
  simp [owner?, hprimary]

theorem conflict_eq_nil (h : clashes ctx.configuration p = false) : conflict ctx p = [] := by
  rw [conflict, h, if_neg Bool.false_ne_true]

theorem boolean_failure_eq (hp : p.supportsExpression = false) :
    (Validator.boolean.judgeProperty ctx p).failure = misread ctx p := by
  rw [Validator.judgeProperty, misread]
  cases ctx.configuration.filled? p with
  | none => rfl
  | some raw =>
    dsimp only
    cases hb : Text.allBlank raw with
    | true =>
      rw [Validator.judge_of_blank rfl hb, Text.trim_of_allBlank hb]
      rfl
    | false =>
      by_cases hflag : (Configuration.sameFolded (Text.trim raw) "true" ||
          Configuration.sameFolded (Text.trim raw) "false") = true
      · have hc : Validator.boolean.check ctx.files p.displayName raw raw = .ok () := by
          rw [Validator.check, if_pos hflag]
        rw [Validator.judge_of_ok rfl hb hp hc, if_pos hflag]
        rfl
      · have hc : Validator.boolean.check ctx.files p.displayName raw raw =
            .error "Value must be 'true' or 'false'" := by
          rw [Validator.check, if_neg hflag]
        rw [Validator.judge_of_error rfl hb hp hc, if_neg hflag]
        rfl

theorem file_failure_eq (h : primaryOf ctx.configuration = file) :
    (Validator.credentialsFile.judgeProperty ctx .credentialsFile).failure = unusableFile ctx := by
  rw [Validator.judgeProperty, unusableFile]
  cases ctx.configuration.filled? .credentialsFile with
  | none => rfl
  | some path =>
    dsimp only
    cases hb : Text.allBlank path with
    | true =>
      rw [Validator.judge_of_blank rfl hb, if_pos ⟨h, .inl rfl⟩]
      rfl
    | false =>
      cases hfile : ctx.files.isFileAt path with
      | true =>
        have hc := @Validator.check_credentialsFile_iff path path ctx.files
          Property.credentialsFile.displayName
        rw [Validator.judge_of_ok rfl hb rfl (hc.mpr hfile), if_neg (by simp)]
        rfl
      | false =>
        have hc : Validator.credentialsFile.check ctx.files Property.credentialsFile.displayName path
            path = .error ("the credentials file " ++ path ++
              " does not exist or is not a regular file.") := by
          simp [Validator.check, Validator.checkCredentialsFile, hfile]
        rw [Validator.judge_of_error rfl hb rfl hc, if_pos ⟨h, .inr rfl⟩]
        rfl

theorem unusableFile_of_ne (h : primaryOf ctx.configuration ≠ file) : unusableFile ctx = [] := by
  rw [unusableFile]
  cases ctx.configuration.filled? .credentialsFile with
  | none => rfl
  | some path => exact if_neg fun hfile => h hfile.1

theorem flagFailures_eq (hp : p.supportsExpression = false) (howner : owner? p = some s)
    (hflag : p = .useDefault ∨ p = .useAnonymous) :
    s.flagFailures p ctx (primaryOf ctx.configuration) = misread ctx p ++ conflict ctx p := by
  have hclash : clashes ctx.configuration p =
      (s != primaryOf ctx.configuration && ctx.configuration.flag p) := by
    rw [clashes, asks, if_pos hflag, howner, Option.any_some, Bool.and_comm]
  rw [flagFailures, boolean_failure_eq hp, conflict, hclash]

/-- Of properties that clash where they are set, those that are set are reported. -/
theorem flatMap_conflict {ps : List Property}
    (h : ∀ p ∈ ps, clashes ctx.configuration p = ctx.configuration.isSet p) :
    ps.flatMap (conflict ctx) = (ps.filter ctx.configuration.isSet).map fun p =>
      .invalid p.displayName (ctx.configuration.value? p)
        (notUsableWith p (primaryOf ctx.configuration)) := by
  induction ps with
  | nil => rfl
  | cons p ps ih =>
    obtain ⟨hp, hps⟩ := List.forall_mem_cons.mp h
    rw [List.flatMap_cons, conflict, hp, ih hps]
    cases hset : ctx.configuration.isSet p with
    | true => rw [List.filter_cons_of_pos hset, if_pos rfl, List.map_cons, List.singleton_append]
    | false =>
      rw [List.filter_cons_of_neg (by simp [hset]), if_neg Bool.false_ne_true, List.nil_append]

/-- The selected strategy has all its properties; the properties of another one clash where they are
set. -/
theorem exclusiveFailures_eq
    (howner : ∀ p ∈ s.required, owner? p = some s ∧ ∀ c, asks c p = c.isSet p)
    (hcan : canBePrimary ctx.configuration s = s.required.all ctx.configuration.isSet) :
    s.exclusiveFailures ctx (primaryOf ctx.configuration) = s.required.flatMap (conflict ctx) := by
  have hclash : ∀ p ∈ s.required, clashes ctx.configuration p =
      (ctx.configuration.isSet p && s != primaryOf ctx.configuration) := by
    intro p hp
    obtain ⟨hs, hasks⟩ := howner p hp
    rw [clashes, hasks, hs, Option.any_some]
  by_cases hselected : s = primaryOf ctx.configuration
  · -- It could be selected only because it has them all, so that none is ever missed.
    have hset : ∀ p ∈ s.required, ctx.configuration.isSet p = true := by
      rw [← List.all_eq_true, ← hcan]
      nth_rewrite 1 [hselected]
      exact canBePrimary_primaryOf _
    have hnone : ∀ p ∈ s.required, conflict ctx p = [] := by
      intro p hp
      exact conflict_eq_nil (by simp [hclash p hp, ← hselected])
    rw [exclusiveFailures_eq_nil_iff.mpr fun p hp => by rw [hset p hp, beq_iff_eq.mpr hselected]]
    exact (List.flatMap_eq_nil_iff.mpr hnone).symm
  · have hbeq : (s == primaryOf ctx.configuration) = false := beq_false_of_ne hselected
    rw [flatMap_conflict fun p hp => by simp [hclash p hp, hselected], exclusiveFailures]
    simp only [hbeq, Bool.bne_false, Bool.false_eq_true, if_false]

theorem primaryFailures_eq (ctx : Context) : primaryFailures ctx = primaryReport ctx := by
  have hdefault : explicitDefault.failures ctx (primaryOf ctx.configuration) =
      misread ctx .useDefault := by
    rw [failures, flagFailures_eq rfl rfl (.inl rfl), conflict_eq_nil clashes_useDefault,
      List.append_nil]
  have hkeys : accessKeyPair.failures ctx (primaryOf ctx.configuration) =
      accessKeyPair.required.flatMap (conflict ctx) :=
    exclusiveFailures_eq (by simp [required, owner?, asks]) rfl
  have hprofile : namedProfile.failures ctx (primaryOf ctx.configuration) =
      namedProfile.required.flatMap (conflict ctx) :=
    exclusiveFailures_eq (by simp [required, owner?, asks]) rfl
  have hfile : file.failures ctx (primaryOf ctx.configuration) =
      conflict ctx .credentialsFile ++ unusableFile ctx := by
    have hexclusive := @exclusiveFailures_eq ctx file (by simp [required, owner?, asks]) rfl
    rw [failures, hexclusive]
    by_cases h : primaryOf ctx.configuration = file
    · rw [if_pos (beq_iff_eq.mpr h.symm), file_failure_eq h]
      simp [required]
    · rw [if_neg (by simpa using Ne.symm h), unusableFile_of_ne h]
      simp [required]
  have hanonymous : anonymous.failures ctx (primaryOf ctx.configuration) =
      misread ctx .useAnonymous ++ conflict ctx .useAnonymous :=
    flagFailures_eq rfl rfl (.inr rfl)
  have himplicit : implicitDefault.failures ctx (primaryOf ctx.configuration) = [] := rfl
  simp only [primaryFailures, List.flatMap_cons, List.flatMap_nil, hdefault, hkeys, hfile, hprofile,
    hanonymous, himplicit]
  simp [required, primaryReport]

end

theorem allOther_misread (ctx : Context) (p : Property) (hp : p.supportsExpression = false) :
    AllOther (misread ctx p) := by
  rw [← boolean_failure_eq hp]
  exact allOther_failure_judgeProperty _ _ _

theorem allOther_unusableFile (ctx : Context) : AllOther (unusableFile ctx) := by
  by_cases h : primaryOf ctx.configuration = file
  · rw [← file_failure_eq h]
    exact allOther_failure_judgeProperty _ _ _
  · rw [unusableFile_of_ne h]
    exact allOther_nil

section
variable {ctx : Context} {f : Finding} {p q : Property} {s : Strategy}

/-- A failure is a conflict or told otherwise. -/
theorem exists_conflict_of_mem (hf : f ∈ allFailures ctx) :
    (∀ e, f.explanation? = some e → beginsOtherwise e = true) ∨ ∃ p, f ∈ conflict ctx p := by
  have hother {fs : List Finding} (hfs : AllOther fs) (hmem : f ∈ fs) :
      (∀ e, f.explanation? = some e → beginsOtherwise e = true) ∨ ∃ p, f ∈ conflict ctx p :=
    .inl (hfs f hmem)
  rw [allFailures_eq, primaryFailures_eq, primaryReport] at hf
  simp only [List.mem_append] at hf
  rcases hf with (((((((hf | hf) | hf) | hf) | hf) | hf) | hf) | hf) | hf | hf
  · exact hother (allOther_misread ctx _ rfl) hf
  · exact .inr ⟨_, hf⟩
  · exact .inr ⟨_, hf⟩
  · exact .inr ⟨_, hf⟩
  · exact hother (allOther_unusableFile ctx) hf
  · exact .inr ⟨_, hf⟩
  · exact hother (allOther_misread ctx _ rfl) hf
  · exact .inr ⟨_, hf⟩
  · exact hother (allOther_assumeRoleFailures ctx) hf
  · exact hother (allOther_webIdentityFailures ctx) hf

theorem explanation?_of_mem_conflict (hf : f ∈ conflict ctx p) :
    clashes ctx.configuration p = true ∧
      f.explanation? = some (notUsableWith p (primaryOf ctx.configuration)) := by
  rw [conflict] at hf
  split at hf
  · rename_i hclash
    rw [List.mem_singleton.mp hf]
    exact ⟨hclash, rfl⟩
  · cases hf

/-- The failures with the text of the conflict about `p`. -/
def told (ctx : Context) (p : Property) (fs : List Finding) : List Finding :=
  fs.filter fun f => f.explanation? = some (notUsableWith p (primaryOf ctx.configuration))

theorem told_append (fs gs : List Finding) :
    told ctx p (fs ++ gs) = told ctx p fs ++ told ctx p gs := List.filter_append _ _

theorem told_of_allOther {fs : List Finding} (h : AllOther fs) : told ctx p fs = [] := by
  rw [told, List.filter_eq_nil_iff]
  intro f hf htold
  have hbegins := h f hf _ (of_decide_eq_true htold)
  rw [beginsOtherwise_notUsableWith] at hbegins
  exact Bool.false_ne_true hbegins

theorem told_conflict_self : told ctx p (conflict ctx p) = conflict ctx p := by
  rw [told, List.filter_eq_self]
  intro f hf
  exact decide_eq_true (explanation?_of_mem_conflict hf).2

theorem told_conflict_of_ne (h : q ≠ p) : told ctx p (conflict ctx q) = [] := by
  rw [told, List.filter_eq_nil_iff]
  intro f hf htold
  have htext := (explanation?_of_mem_conflict hf).2.symm.trans (of_decide_eq_true htold)
  exact h (notUsableWith_inj (Option.some.inj htext)).1

/-- Exactly the properties that clash are reported as conflicts, each of them once. -/
theorem told_allFailures (ctx : Context) (p : Property) :
    told ctx p (allFailures ctx) = conflict ctx p := by
  have hdefault : told ctx p (misread ctx .useDefault) = [] :=
    told_of_allOther (allOther_misread ctx _ rfl)
  have hanonymous : told ctx p (misread ctx .useAnonymous) = [] :=
    told_of_allOther (allOther_misread ctx _ rfl)
  have hunowned (h : owner? p = none) : conflict ctx p = [] := by
    apply conflict_eq_nil
    rw [clashes, h, Option.any_none, Bool.and_false]
  rw [allFailures_eq, primaryFailures_eq, primaryReport]
  simp only [told_append, hdefault, hanonymous, told_of_allOther (allOther_unusableFile ctx),
    told_of_allOther (allOther_assumeRoleFailures ctx),
    told_of_allOther (allOther_webIdentityFailures ctx), List.nil_append, List.append_nil]
  cases p with
  | accessKey | secretKey | credentialsFile | profile | useAnonymous =>
    simp [told_conflict_self, told_conflict_of_ne]
  | useDefault =>
    rw [conflict_eq_nil clashes_useDefault]
    simp [told_conflict_of_ne]
  | roleArn | roleSessionName | sessionTime | externalId | proxyHost | proxyPort | webRoleArn
  | webSessionName | webTokenFile =>
    rw [hunowned rfl]
    simp [told_conflict_of_ne]

/-- A failure that is told as a conflict is one. -/
theorem conflict_of_explanation? (hf : f ∈ allFailures ctx)
    (he : f.explanation? = some (notUsableWith p s)) :
    clashes ctx.configuration p = true ∧ s.name = (primaryOf ctx.configuration).name := by
  rcases exists_conflict_of_mem hf with hother | hconflict
  · have hbegins := hother _ he
    rw [beginsOtherwise_notUsableWith] at hbegins
    exact absurd hbegins Bool.false_ne_true
  · obtain ⟨q, hq⟩ := hconflict
    obtain ⟨hclash, hexplains⟩ := explanation?_of_mem_conflict hq
    obtain ⟨rfl, hname⟩ := notUsableWith_inj (Option.some.inj (he.symm.trans hexplains))
    exact ⟨hclash, hname⟩

theorem explanation?_ne_neededWith (hf : f ∈ allFailures ctx) :
    f.explanation? ≠ some (neededWith p s) := by
  intro he
  rcases exists_conflict_of_mem hf with hother | hconflict
  · have hbegins := hother _ he
    rw [beginsOtherwise_neededWith] at hbegins
    exact Bool.false_ne_true hbegins
  · obtain ⟨q, hq⟩ := hconflict
    have hexplains := (explanation?_of_mem_conflict hq).2
    exact notUsableWith_ne_neededWith (Option.some.inj (hexplains.symm.trans he))

end

/-- What is reported of the properties of the primary strategies. -/
structure ReportsConflicts (ctx : Context) : Prop where
  inOrder : primaryFailures ctx = primaryReport ctx
  /-- Nor does anything else tell of a conflict once more. -/
  once : ∀ p, told ctx p (allFailures ctx) = conflict ctx p
  genuine : ∀ f ∈ allFailures ctx, ∀ p s, f.explanation? = some (notUsableWith p s) →
    clashes ctx.configuration p = true ∧ s.name = (primaryOf ctx.configuration).name
  neverNeeded : ∀ f ∈ allFailures ctx, ∀ p s, f.explanation? ≠ some (neededWith p s)
  neverDefault : ∀ f ∈ allFailures ctx, ∀ s, f.explanation? ≠ some (notUsableWith .useDefault s)

theorem reportsConflicts (ctx : Context) : ReportsConflicts ctx := by
  constructor
  case inOrder => exact primaryFailures_eq ctx
  case once => exact told_allFailures ctx
  case genuine => exact fun _ hf _ _ he => conflict_of_explanation? hf he
  case neverNeeded => exact fun _ hf _ _ => explanation?_ne_neededWith hf
  case neverDefault =>
    intro f hf s he
    have hclash := (conflict_of_explanation? hf he).1
    rw [clashes_useDefault] at hclash
    exact Bool.false_ne_true hclash

end Strategy
end CredentialResolution
