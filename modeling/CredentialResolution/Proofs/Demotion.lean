import CredentialResolution.Proofs.Fidelity

/-! Selections of configurations that set more or less. Whatever one configuration can be used for, one
that sets more can be used for as well, so what it selects comes no later. Evaluation sets nothing new:
it leaves the selection where it is or moves it back. -/

namespace CredentialResolution
set_option autoImplicit false

namespace Configuration
variable {c d : Configuration}

/-- Whatever is set in the one is set in the other, and so is every flag that is raised. -/
structure SetsWithin (c d : Configuration) : Prop where
  isSet : ∀ p, c.isSet p = true → d.isSet p = true
  useDefault : c.flag .useDefault = true → d.flag .useDefault = true
  useAnonymous : c.flag .useAnonymous = true → d.flag .useAnonymous = true

/-- The one is the other with values given to properties that were not set. -/
def FilledIn (c d : Configuration) : Prop := ∀ p, c.isSet p = true → d.value? p = c.value? p

theorem isSet_of_flag {p : Property} (h : c.flag p = true) : c.isSet p = true := by
  obtain ⟨v, hv, htrue⟩ : ∃ v, c.value? p = some v ∧ sameFolded (Text.trim v) "true" = true := by
    cases hv : c.value? p with
    | none => simp [flag, hv] at h
    | some v => exact ⟨v, rfl, by simpa [flag, hv] using h⟩
  refine (isSet_iff c p).mpr ⟨v, hv, ?_⟩
  rintro rfl
  simp [sameFolded] at htrue

theorem FilledIn.flag (h : FilledIn c d) {p : Property} (hflag : c.flag p = true) :
    d.flag p = true := by
  simpa [Configuration.flag, h p (isSet_of_flag hflag)] using hflag

theorem FilledIn.setsWithin (h : FilledIn c d) : SetsWithin c d := by
  refine ⟨?_, h.flag, h.flag⟩
  intro p hset
  obtain ⟨v, hv, hne⟩ := (isSet_iff c p).mp hset
  exact (isSet_iff d p).mpr ⟨v, (h p hset).trans hv, hne⟩

end Configuration

/-- The first element that is found comes no later than any other that could be. -/
theorem idxOf_le_of_find? {α : Type} [DecidableEq α] {p : α → Bool} {xs : List α} {x y : α}
    (hx : xs.find? p = some x) (hy : p y = true) : xs.idxOf x ≤ xs.idxOf y := by
  obtain ⟨hpx, before, after, rfl, hbefore⟩ := List.find?_eq_some_iff_append.mp hx
  have hxb : x ∉ before := fun h => by simpa [hpx] using hbefore x h
  have hyb : y ∉ before := fun h => by simpa [hy] using hbefore y h
  rw [List.idxOf_append_of_notMem hxb, List.idxOf_append_of_notMem hyb]
  simp

namespace Strategy
variable {c d : Configuration} {s t : Strategy}

/-- The place of a strategy in the order in which they are considered. -/
def position (s : Strategy) : Nat := all.idxOf s

theorem position_inj : s.position = t.position ↔ s = t := List.idxOf_inj (mem_all s)

/-- No strategy that could be primary comes before the one that is. -/
theorem position_primaryOf_le (h : canBePrimary c s = true) :
    (primaryOf c).position ≤ s.position := by
  have hfound : (all.find? (canBePrimary c)).isSome = true :=
    List.find?_isSome.mpr ⟨s, mem_all s, h⟩
  obtain ⟨t, ht⟩ := Option.isSome_iff_exists.mp hfound
  have hprimary : primaryOf c = t := by simp [primaryOf, ht]
  rw [hprimary]
  exact idxOf_le_of_find? ht h

section
variable (h : c.SetsWithin d)
include h

theorem canBePrimary_mono (hs : canBePrimary c s = true) : canBePrimary d s = true := by
  have hrequired : s.required.all c.isSet = true → s.required.all d.isSet = true := by
    simp only [List.all_eq_true]
    exact fun hall p hp => h.isSet p (hall p hp)
  cases s with
  | explicitDefault => exact h.useDefault hs
  | anonymous => exact h.useAnonymous hs
  | implicitDefault => rfl
  | accessKeyPair | file | namedProfile => exact hrequired hs
  | assumeRole | webIdentity => exact hs

theorem canDerive_mono (hs : canDerive c s = true) : canDerive d s = true := by
  have hboth : ∀ p q, (c.isSet p && c.isSet q) = true → (d.isSet p && d.isSet q) = true := by
    simp only [Bool.and_eq_true]
    exact fun p q hpq => ⟨h.isSet p hpq.1, h.isSet q hpq.2⟩
  cases s with
  | assumeRole => exact hboth .roleArn .roleSessionName hs
  | webIdentity => exact hboth .webRoleArn .webTokenFile hs
  | _ => exact hs

theorem position_primaryOf_anti : (primaryOf d).position ≤ (primaryOf c).position :=
  position_primaryOf_le (canBePrimary_mono h (canBePrimary_primaryOf c))

end

/-- A strategy that is primary stays so if what it requires stays set, and the flags as they are. -/
theorem canBePrimary_of_required (hs : canBePrimary c s = true)
    (hdefault : d.flag .useDefault = c.flag .useDefault)
    (hanonymous : d.flag .useAnonymous = c.flag .useAnonymous)
    (hset : ∀ p ∈ s.required, d.isSet p = true) : canBePrimary d s = true := by
  cases s with
  | explicitDefault => exact hdefault.trans hs
  | anonymous => exact hanonymous.trans hs
  | implicitDefault => rfl
  | accessKeyPair | file | namedProfile => exact List.all_eq_true.mpr hset
  | assumeRole | webIdentity => exact hs

end Strategy

namespace Evaluator
variable {ev : Evaluator} {c d : Configuration}

theorem Evaluates.setsWithin (h : ev.Evaluates c d) (hempty : ev.contains "" = false) :
    d.SetsWithin c := by
  refine ⟨?_, ?_, ?_⟩
  · intro p hset
    obtain ⟨v, hv⟩ := Configuration.isSet_iff_filled.mp hset
    obtain ⟨raw, hraw, -⟩ := h.source_filled hempty hv
    exact Configuration.isSet_iff_filled.mpr ⟨raw, hraw⟩
  · exact (Strategy.flag_evaluated h rfl).symm.trans
  · exact (Strategy.flag_evaluated h rfl).symm.trans

/-- The evaluator of a host without expressions, and those that fill in variables. -/
def IsProvided (ev : Evaluator) : Prop := ev = literal ∨ ∃ vs : Variables, ev = vs.evaluator

theorem IsProvided.contains_empty (h : ev.IsProvided) : ev.contains "" = false := by
  obtain rfl | ⟨vs, rfl⟩ := h
  · rfl
  · exact vs.contains_evaluator_empty

/-- The property is set to a text whose value is not empty. -/
def KeepsSet (ev : Evaluator) (c : Configuration) (p : Property) : Prop :=
  ∃ raw v, c.value? p = some raw ∧ ev.valueOf p raw = .ok v ∧ v ≠ ""

theorem Evaluates.isSet_of_keepsSet (h : ev.Evaluates c d) {p : Property}
    (hp : ev.KeepsSet c p) : d.isSet p = true := by
  obtain ⟨raw, v, hraw, hv, hne⟩ := hp
  obtain ⟨w, hw, hd⟩ := h.present p raw hraw
  obtain rfl : v = w := Except.ok.inj (hv.symm.trans hw)
  exact (Configuration.isSet_iff d p).mpr ⟨v, hd, hne⟩

end Evaluator

namespace Strategy
variable {ev : Evaluator} {c d : Configuration}

/-- What can be used of the evaluated configuration `d` could be of `c`, and what `d` selects comes no
earlier than what `c` does, or is the same if none of what that requires evaluates to nothing. -/
structure Demoted (ev : Evaluator) (c d : Configuration) : Prop where
  isSet : ∀ p, d.isSet p = true → c.isSet p = true
  useDefault : d.value? .useDefault = c.value? .useDefault
  useAnonymous : d.value? .useAnonymous = c.value? .useAnonymous
  primary : ∀ s, canBePrimary d s = true → canBePrimary c s = true
  derived : ∀ s, canDerive d s = true → canDerive c s = true
  later : (primaryOf c).position ≤ (primaryOf d).position
  kept : (∀ p ∈ (primaryOf c).required, ev.KeepsSet c p) → primaryOf d = primaryOf c

theorem demoted_of_evaluates (h : ev.Evaluates c d) (hempty : ev.contains "" = false) :
    Demoted ev c d := by
  have hwithin := h.setsWithin hempty
  have hlater := position_primaryOf_anti hwithin
  refine ⟨hwithin.isSet, h.value?_of_not_supports rfl, h.value?_of_not_supports rfl,
    fun _ => canBePrimary_mono hwithin, fun _ => canDerive_mono hwithin, hlater, ?_⟩
  intro hkept
  have hprimary : canBePrimary d (primaryOf c) = true :=
    canBePrimary_of_required (canBePrimary_primaryOf c) (flag_evaluated h rfl)
      (flag_evaluated h rfl) fun p hp => h.isSet_of_keepsSet (hkept p hp)
  exact position_inj.mp (Nat.le_antisymm (position_primaryOf_le hprimary) hlater)

/-- Evaluation only demotes, and giving values to what was not set never does. -/
theorem selection_monotone :
    (∀ (ev : Evaluator) (c d : Configuration), ev.IsProvided → c.evaluated ev = .ok d →
      Demoted ev c d) ∧
    ∀ c d : Configuration, c.FilledIn d → (primaryOf d).position ≤ (primaryOf c).position := by
  constructor
  · intro ev c d hev hd
    exact demoted_of_evaluates (Configuration.evaluates_of_evaluated hd) hev.contains_empty
  · intro c d hfilled
    exact position_primaryOf_anti hfilled.setsWithin

/-- A key whose variable has no value moves the selection back, and giving it one moves it forward. -/
theorem selection_monotone_missingAccessKey :
    ∃ d, Context.missingAccessKey.configuration.evaluated Variables.empty.evaluator = .ok d ∧
      Demoted Variables.empty.evaluator Context.missingAccessKey.configuration d ∧
      d.FilledIn Context.missingAccessKey.configuration ∧
      (primaryOf Context.missingAccessKey.configuration).position < (primaryOf d).position := by
  have hd : Context.missingAccessKey.configuration.evaluated Variables.empty.evaluator =
      .ok (.ofList [(.accessKey, ""), (.secretKey, "S")]) := by decide +kernel
  have hprovided : Variables.empty.evaluator.IsProvided := .inr ⟨.empty, rfl⟩
  have hdemoted := selection_monotone.1 _ _ _ hprovided hd
  have hfilled : Configuration.FilledIn (.ofList [(.accessKey, ""), (.secretKey, "S")])
      Context.missingAccessKey.configuration := by
    intro p hset
    cases p <;> first | rfl | cases hset
  have hle := selection_monotone.2 _ _ hfilled
  exact ⟨_, hd, hdemoted, hfilled, Nat.lt_of_le_of_ne hle (by decide +kernel)⟩

end Strategy
end CredentialResolution
