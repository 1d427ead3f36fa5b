import CredentialResolution.Proofs.Enabling

/-! Whether the provider that is built is the one that was checked. Strategies are selected twice, for a
configuration as it was given and for its evaluated values, and what is set in the one need not be set
in the other. -/

namespace CredentialResolution
set_option autoImplicit false

namespace Strategy
variable {ev : Evaluator} {c d : Configuration}

def SameSelection (c d : Configuration) : Prop :=
  primaryOf d = primaryOf c ∧ derivedOf? d = derivedOf? c

/-- What is looked at, in the order in which it is, does not change. -/
structure SelectionKept (c d : Configuration) : Prop where
  keys : c.flag .useDefault = false → hasKeys d = hasKeys c
  profile : c.flag .useDefault = false → hasKeys c = false → c.isSet .credentialsFile = false →
    d.isSet .profile = c.isSet .profile
  role : hasRole d = hasRole c
  token : hasRole c = false → hasToken d = hasToken c

theorem flag_evaluated (h : ev.Evaluates c d) {p : Property} (hp : p.supportsExpression = false) :
    d.flag p = c.flag p := by simp [Configuration.flag, h.value?_of_not_supports hp]

theorem isSet_file_evaluated (h : ev.Evaluates c d) :
    d.isSet .credentialsFile = c.isSet .credentialsFile := by
  have hfile : Property.credentialsFile.supportsExpression = false := rfl
  simp [Configuration.isSet, Configuration.filled?, h.value?_of_not_supports hfile]

theorem sameSelection_iff (h : ev.Evaluates c d) : SameSelection c d ↔ SelectionKept c d := by
  have primary : ∀ o k k' f n n' u : Bool,
      (if o then explicitDefault else if k' then accessKeyPair else if f then file
          else if n' then namedProfile else if u then anonymous else implicitDefault) =
        (if o then explicitDefault else if k then accessKeyPair else if f then file
          else if n then namedProfile else if u then anonymous else implicitDefault) ↔
      (o = false → k' = k) ∧ (o = false → k = false → f = false → n' = n) := by decide
  have derived : ∀ r r' t t' : Bool,
      (if r' then some assumeRole else if t' then some webIdentity else none) =
        (if r then some assumeRole else if t then some webIdentity else none) ↔
      r' = r ∧ (r = false → t' = t) := by decide
  rw [SameSelection, primaryOf_eq, primaryOf_eq, derivedOf?_eq, derivedOf?_eq, flag_evaluated h rfl,
    flag_evaluated h rfl, isSet_file_evaluated h, primary, derived]
  constructor
  · intro hkept
    exact ⟨hkept.1.1, hkept.1.2, hkept.2.1, hkept.2.2⟩
  · intro hkept
    exact ⟨⟨hkept.keys, hkept.profile⟩, hkept.role, hkept.token⟩

end Strategy

namespace Context
variable {ctx : Context} {d : Configuration}

/-- The property is set, to a text that evaluates to nothing. -/
def Blanked (ctx : Context) (p : Property) : Prop :=
  ∃ raw, ctx.configuration.filled? p = some raw ∧ ctx.evaluator.valueOf p raw = .ok ""

theorem HasValue.not_blanked {p : Property} {Q : String → Prop} (h : ctx.HasValue p Q)
    (hempty : ¬ Q "") : ¬ ctx.Blanked p := by
  intro hblanked
  obtain ⟨raw, hraw, hvalue⟩ := hblanked
  obtain ⟨-, v, hv, hq⟩ := h raw hraw
  obtain rfl : "" = v := Except.ok.inj (hvalue.symm.trans hv)
  exact hempty hq

section
variable (hempty : ctx.evaluator.contains "" = false)
variable (hd : ctx.evaluator.Evaluates ctx.configuration d)
include hempty hd

theorem isSet_evaluated_iff {p : Property} :
    d.isSet p = true ↔ ctx.configuration.isSet p = true ∧ ¬ ctx.Blanked p := by
  rw [Configuration.isSet_iff_filled, Configuration.isSet_iff_filled]
  constructor
  · intro hset
    obtain ⟨v, hv⟩ := hset
    obtain ⟨raw, hraw, hvalue⟩ := hd.source_filled hempty hv
    refine ⟨⟨raw, hraw⟩, ?_⟩
    intro hblanked
    obtain ⟨raw', hraw', hvalue'⟩ := hblanked
    obtain rfl : raw = raw' := Option.some.inj (hraw.symm.trans hraw')
    obtain rfl : v = "" := Except.ok.inj (hvalue.symm.trans hvalue')
    exact (Configuration.filled?_eq_some_iff.mp hv).2 rfl
  · intro hset
    obtain ⟨⟨raw, hraw⟩, hblanked⟩ := hset
    obtain ⟨v, hvalue, hv⟩ := hd.present p raw (Configuration.filled?_eq_some_iff.mp hraw).1
    refine ⟨v, Configuration.filled?_eq_some_iff.mpr ⟨hv, ?_⟩⟩
    rintro rfl
    exact hblanked ⟨raw, hraw, hvalue⟩

theorem isSet_evaluated {p : Property} (hp : ¬ ctx.Blanked p) :
    d.isSet p = ctx.configuration.isSet p := by
  rw [Bool.eq_iff_iff, isSet_evaluated_iff hempty hd]
  simp [hp]

theorem isSet_evaluated_of_blanked {p : Property} (hp : ctx.Blanked p) :
    ctx.configuration.isSet p = true ∧ d.isSet p = false := by
  constructor
  · obtain ⟨raw, hraw, -⟩ := hp
    exact Configuration.isSet_iff_filled.mpr ⟨raw, hraw⟩
  · rw [← Bool.not_eq_true, isSet_evaluated_iff hempty hd]
    simp [hp]

theorem isSet_evaluated_of_unset {p : Property} (hp : ctx.configuration.isSet p = false) :
    d.isSet p = false := by
  rw [← Bool.not_eq_true, isSet_evaluated_iff hempty hd]
  simp [hp]

end
end Context

namespace Strategy
variable {ctx : Context} {d : Configuration}

/-- The properties that select a primary strategy and may hold expressions. -/
def primaryTexts : List Property := [.accessKey, .secretKey, .profile]

/-- The properties that select an assumed role. -/
def roleTexts : List Property := [.roleArn, .roleSessionName]

/-- Nothing but the keys or the profile was set in `c`; without them the default is left. -/
theorem primaryOf_of_unset (hd : ctx.evaluator.Evaluates ctx.configuration d)
    (hsel : OnlySelected ctx.configuration (primaryOf ctx.configuration))
    (hprimary : primaryOf ctx.configuration = accessKeyPair ∨
      primaryOf ctx.configuration = namedProfile)
    (hkeys : hasKeys d = false) (hprofile : d.isSet .profile = false) :
    primaryOf d = implicitDefault := by
  have hdefault : ctx.configuration.flag .useDefault = false := by
    apply hsel.useDefault
    rcases hprimary with h | h <;> simp [h]
  have hanonymous : ctx.configuration.flag .useAnonymous = false := by
    apply hsel.useAnonymous
    rcases hprimary with h | h <;> simp [h]
  have hfile : ctx.configuration.isSet .credentialsFile = false := by
    rw [hsel.credentialsFile]
    rcases hprimary with h | h <;> simp [h]
  rw [primaryOf_eq, flag_evaluated hd rfl, flag_evaluated hd rfl, isSet_file_evaluated hd,
    hdefault, hkeys, hfile, hprofile, hanonymous]
  rfl

section
variable (hempty : ctx.evaluator.contains "" = false)
variable (hd : ctx.evaluator.Evaluates ctx.configuration d)
include hempty hd

theorem hasKeys_evaluated (hkept : ∀ p ∈ primaryTexts, ¬ ctx.Blanked p) :
    hasKeys d = hasKeys ctx.configuration := by
  rw [hasKeys, hasKeys, Context.isSet_evaluated hempty hd (hkept _ (by simp [primaryTexts])),
    Context.isSet_evaluated hempty hd (hkept _ (by simp [primaryTexts]))]

theorem hasRole_evaluated (hkept : ∀ p ∈ roleTexts, ¬ ctx.Blanked p) :
    hasRole d = hasRole ctx.configuration := by
  rw [hasRole, hasRole, Context.isSet_evaluated hempty hd (hkept _ (by simp [roleTexts])),
    Context.isSet_evaluated hempty hd (hkept _ (by simp [roleTexts]))]

theorem primaryOf_of_kept (hkept : ∀ p ∈ primaryTexts, ¬ ctx.Blanked p) :
    primaryOf d = primaryOf ctx.configuration := by
  rw [primaryOf_eq, primaryOf_eq, flag_evaluated hd rfl, flag_evaluated hd rfl,
    isSet_file_evaluated hd, hasKeys_evaluated hempty hd hkept,
    Context.isSet_evaluated hempty hd (hkept .profile (by simp [primaryTexts]))]

variable (hacc : ctx.Accepted)
include hacc

/-- The checks of a web identity let nothing pass that evaluates to the empty text. -/
theorem hasToken_evaluated : hasToken d = hasToken ctx.configuration := by
  have harn := hacc.token.arn.not_blanked Arn.not_exists_read_empty
  have htoken := hacc.token.tokenFile.not_blanked Files.FileSystem.not_exists_locate_empty
  rw [hasToken, hasToken, Context.isSet_evaluated hempty hd harn,
    Context.isSet_evaluated hempty hd htoken]

theorem derivedOf?_of_kept (hkept : ∀ p ∈ roleTexts, ¬ ctx.Blanked p) :
    derivedOf? d = derivedOf? ctx.configuration := by
  rw [derivedOf?_eq, derivedOf?_eq, hasRole_evaluated hempty hd hkept,
    hasToken_evaluated hempty hd hacc]

theorem primaryOf_of_lost {p : Property} (hp : p ∈ primaryTexts) (hlost : ctx.Blanked p) :
    primaryOf ctx.configuration ≠ implicitDefault ∧ primaryOf d = implicitDefault := by
  obtain ⟨hset, hunset⟩ := Context.isSet_evaluated_of_blanked hempty hd hlost
  have hsel := (onlySelected_primaryOf_iff _).mpr ⟨hacc.primary.oneTrigger, hacc.primary.keyPair⟩
  have hstays : ∀ q, ctx.configuration.isSet q = false → d.isSet q = false :=
    fun q => Context.isSet_evaluated_of_unset hempty hd
  simp only [primaryTexts, List.mem_cons, List.not_mem_nil, or_false] at hp
  have hkeys : p = .accessKey ∨ p = .secretKey →
      primaryOf ctx.configuration = accessKeyPair ∧ hasKeys d = false := by
    intro h
    rcases h with rfl | rfl
    · rw [hsel.accessKey, beq_iff_eq] at hset
      exact ⟨hset.symm, by simp [hasKeys, hunset]⟩
    · rw [hsel.secretKey, beq_iff_eq] at hset
      exact ⟨hset.symm, by simp [hasKeys, hunset]⟩
  rw [← or_assoc] at hp
  rcases hp with h | rfl
  · obtain ⟨hprimary, hnone⟩ := hkeys h
    have hprofile : ctx.configuration.isSet .profile = false := by simp [hsel.profile, hprimary]
    refine ⟨by simp [hprimary], ?_⟩
    exact primaryOf_of_unset hd hsel (.inl hprimary) hnone (hstays _ hprofile)
  · have hprimary : primaryOf ctx.configuration = namedProfile := by
      rw [hsel.profile, beq_iff_eq] at hset
      exact hset.symm
    have haccess : ctx.configuration.isSet .accessKey = false := by simp [hsel.accessKey, hprimary]
    refine ⟨by simp [hprimary], ?_⟩
    exact primaryOf_of_unset hd hsel (.inr hprimary) (by simp [hasKeys, hstays _ haccess]) hunset

theorem derivedOf?_of_lost {p : Property} (hp : p ∈ roleTexts) (hlost : ctx.Blanked p) :
    derivedOf? ctx.configuration = some assumeRole ∧
      derivedOf? d = if hasToken ctx.configuration then some webIdentity else none := by
  obtain ⟨hset, hunset⟩ := Context.isSet_evaluated_of_blanked hempty hd hlost
  have hpair := hacc.role.together
  have hrole : hasRole ctx.configuration = true ∧ hasRole d = false := by
    simp only [roleTexts, List.mem_cons, List.not_mem_nil, or_false] at hp
    rcases hp with rfl | rfl
    · simp [hasRole, ← hpair, hset, hunset]
    · simp [hasRole, hpair, hset, hunset]
  rw [derivedOf?_eq, derivedOf?_eq, hrole.1, hrole.2, hasToken_evaluated hempty hd hacc]
  simp

/-- What is selected for the evaluated values of an accepted configuration. -/
structure Outcome (ctx : Context) (d : Configuration) : Prop where
  same : SameSelection ctx.configuration d ↔ ∀ p ∈ primaryTexts ++ roleTexts, ¬ ctx.Blanked p
  primaryKept : (∀ p ∈ primaryTexts, ¬ ctx.Blanked p) → primaryOf d = primaryOf ctx.configuration
  primaryLost : ∀ p ∈ primaryTexts, ctx.Blanked p →
    primaryOf ctx.configuration ≠ implicitDefault ∧ primaryOf d = implicitDefault
  derivedKept : (∀ p ∈ roleTexts, ¬ ctx.Blanked p) → derivedOf? d = derivedOf? ctx.configuration
  derivedLost : ∀ p ∈ roleTexts, ctx.Blanked p →
    derivedOf? ctx.configuration = some assumeRole ∧
      derivedOf? d = if hasToken ctx.configuration then some webIdentity else none

theorem sameSelection_iff_not_blanked :
    SameSelection ctx.configuration d ↔ ∀ p ∈ primaryTexts ++ roleTexts, ¬ ctx.Blanked p := by
  constructor
  · intro hsame p hp hblanked
    rcases List.mem_append.mp hp with hp | hp
    · obtain ⟨hne, heq⟩ := primaryOf_of_lost hempty hd hacc hp hblanked
      exact hne (hsame.1 ▸ heq)
    · obtain ⟨hsome, heq⟩ := derivedOf?_of_lost hempty hd hacc hp hblanked
      rw [hsame.2, hsome] at heq
      split at heq <;> simp at heq
  · intro hkept
    constructor
    · exact primaryOf_of_kept hempty hd fun p hp => hkept p (List.mem_append_left _ hp)
    · exact derivedOf?_of_kept hempty hd hacc fun p hp => hkept p (List.mem_append_right _ hp)

theorem outcome_of_accepted : Outcome ctx d where
  same := sameSelection_iff_not_blanked hempty hd hacc
  primaryKept := primaryOf_of_kept hempty hd
  primaryLost := fun _ => primaryOf_of_lost hempty hd hacc
  derivedKept := derivedOf?_of_kept hempty hd hacc
  derivedLost := fun _ => derivedOf?_of_lost hempty hd hacc

end
end Strategy

/-- What an enabled service holds was built for the strategies that its evaluated configuration selects.
These are the ones that were checked exactly when no text that selects one evaluates to nothing. -/
theorem Service.selection_of_enable (isAddress : String → Bool) (s : Service) (ctx : Context)
    (now : SessionName.Clock) (henable : (s.enable isAddress ctx now).1 = .ok ()) :
    ∃ d handle, ctx.evaluator.Evaluates ctx.configuration d ∧
      (s.enable isAddress ctx now).2.held = some handle ∧
      Strategy.build isAddress d s.region now = .ok handle ∧
      handle.strategy = (Strategy.derivedOf? d).getD (Strategy.primaryOf d) ∧
      (Strategy.SameSelection ctx.configuration d ↔ Strategy.SelectionKept ctx.configuration d) ∧
      (ctx.evaluator.contains "" = false → Strategy.Outcome ctx d) := by
  obtain ⟨handle, hhandle⟩ := enable_eq_ok_iff.mp henable
  obtain ⟨hvalid, d, hevaluated, hbuild⟩ := handleFor_eq_ok_iff.mp hhandle
  have hd := Configuration.evaluated_eq_ok_iff.mp hevaluated
  refine ⟨d, handle, hd, ?_, hbuild, Strategy.strategy_of_build hbuild,
    Strategy.sameSelection_iff hd, fun hempty => ?_⟩
  · rw [enable_of_ok hhandle]
  · exact Strategy.outcome_of_accepted hempty hd (Strategy.accepted_of_allFailures hvalid)

/-- Two keys, of which one is a variable that has no value. -/
def Context.missingAccessKey : Context :=
  ⟨.ofList [(.accessKey, "$\x7bmissing\x7d"), (.secretKey, "S")], Variables.empty.evaluator,
    ⟨[], []⟩⟩

theorem Service.selection_of_enable_missingAccessKey :
    ((start "id" none).enable Uri.isAddress .missingAccessKey ⟨0⟩).1 = .ok () ∧
      ∃ handle, ((start "id" none).enable Uri.isAddress .missingAccessKey ⟨0⟩).2.held = some handle ∧
        Strategy.primaryOf Context.missingAccessKey.configuration = .accessKeyPair ∧
        handle.strategy = .implicitDefault := by
  have henable : ((start "id" none).enable Uri.isAddress .missingAccessKey ⟨0⟩).1 = .ok () := by
    decide +kernel
  obtain ⟨d, handle, -, hheld, -, hstrategy, -, houtcome⟩ :=
    selection_of_enable Uri.isAddress (start "id" none) .missingAccessKey ⟨0⟩ henable
  have hlost : Context.missingAccessKey.Blanked .accessKey :=
    ⟨"$\x7bmissing\x7d", by decide +kernel, by decide +kernel⟩
  have hout := houtcome (by decide +kernel)
  have hderived : Strategy.derivedOf? d = none := by
    rw [hout.derivedKept]
    · decide +kernel
    · intro p hp hblanked
      obtain ⟨raw, hraw, -⟩ := hblanked
      simp only [Strategy.roleTexts, List.mem_cons, List.not_mem_nil, or_false] at hp
      rcases hp with rfl | rfl <;> cases hraw
  refine ⟨henable, handle, hheld, by decide +kernel, ?_⟩
  rw [hstrategy, hderived, (hout.primaryLost .accessKey (by simp [Strategy.primaryTexts]) hlost).2]
  rfl

theorem Service.not_forall_sameSelection :
    ¬ ∀ (s : Service) (ctx : Context) (now : SessionName.Clock),
      (s.enable Uri.isAddress ctx now).1 = .ok () →
        ∀ d, ctx.configuration.evaluated ctx.evaluator = .ok d →
          Strategy.SameSelection ctx.configuration d := by
  intro h
  have hsame := h (start "id" none) .missingAccessKey ⟨0⟩ (by decide +kernel)
    (.ofList [(.accessKey, ""), (.secretKey, "S")]) (by decide +kernel)
  exact absurd hsame.1 (by decide +kernel)

end CredentialResolution
