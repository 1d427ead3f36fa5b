import CredentialResolution.Proofs.Enabling
import Mathlib.Data.List.Induction

/-! Whole runs of a service, among files that change as they like. What it holds at the end was built by
one step of the run, the last that decided over it; refused steps leave no trace. -/

namespace CredentialResolution
set_option autoImplicit false

/-- A service and the files that it sees. -/
structure Installation where
  service : Service
  files : Files.FileSystem

namespace Installation

inductive Step
  | enable (c : Configuration) (ev : Evaluator) (now : SessionName.Clock)
  | disable
  | validate (c : Configuration) (ev : Evaluator)
  | change (files : Files.FileSystem)

inductive Answer
  | done
  | enabling (result : Except ServiceError Unit)
  | failures (found : List Finding)

variable {isAddress : String → Bool} {w : Installation} {s t : Step} {steps : List Step} {i : Nat}

def step (isAddress : String → Bool) (w : Installation) : Step → Answer × Installation
  | .enable c ev now =>
    let result := w.service.enable isAddress ⟨c, ev, w.files⟩ now
    (.enabling result.1, { w with service := result.2 })
  | .disable => (.done, { w with service := w.service.disable })
  | .validate c ev => (.failures (Strategy.allFailures ⟨c, ev, w.files⟩), w)
  | .change files => (.done, { w with files := files })

def run (isAddress : String → Bool) (w : Installation) (steps : List Step) : Installation :=
  steps.foldl (fun w s => (w.step isAddress s).2) w

/-- The step sets what the service holds, or clears it. -/
def Decides (isAddress : String → Bool) (w : Installation) (s : Step) : Prop :=
  s = .disable ∨ (w.step isAddress s).1 = .enabling (.ok ())

/-- The step at `i` decides, and none that follows it does. -/
structure LastDecision (isAddress : String → Bool) (w : Installation) (steps : List Step) (i : Nat)
    (s : Step) : Prop where
  found : steps[i]? = some s
  decides : (w.run isAddress (steps.take i)).Decides isAddress s
  last : ∀ j t, i < j → steps[j]? = some t → ¬ (w.run isAddress (steps.take j)).Decides isAddress t

@[simp] theorem run_nil (isAddress : String → Bool) (w : Installation) :
    w.run isAddress [] = w := rfl

theorem run_concat (w : Installation) (steps : List Step) (s : Step) :
    w.run isAddress (steps ++ [s]) = ((w.run isAddress steps).step isAddress s).2 := by simp [run]

/-! ### One step -/

theorem region_step : (w.step isAddress s).2.service.region = w.service.region := by
  cases s with
  | enable c ev now =>
    simp only [step, Service.enable]
    split <;> rfl
  | disable | validate | change => rfl

theorem decides_enable_iff {c : Configuration} {ev : Evaluator} {now : SessionName.Clock} :
    w.Decides isAddress (.enable c ev now) ↔
      ∃ h, w.service.handleFor isAddress ⟨c, ev, w.files⟩ now = .ok h := by
  rw [← Service.enable_eq_ok_iff]
  simp [Decides, step]

/-- A step that decides nothing leaves the service as it was. -/
theorem service_of_not_decides (h : ¬ w.Decides isAddress s) :
    (w.step isAddress s).2.service = w.service := by
  cases s with
  | disable => exact absurd (.inl rfl) h
  | validate | change => rfl
  | enable c ev now =>
    cases hhandle : w.service.handleFor isAddress ⟨c, ev, w.files⟩ now with
    | ok handle => exact absurd (decides_enable_iff.mpr ⟨handle, hhandle⟩) h
    | error e => simp [step, Service.enable_of_error hhandle]

theorem held_of_enable {c : Configuration} {ev : Evaluator} {now : SessionName.Clock} {h : Handle}
    (hhandle : w.service.handleFor isAddress ⟨c, ev, w.files⟩ now = .ok h) :
    (w.step isAddress (.enable c ev now)).2.service.held = some h := by
  simp [step, Service.enable_of_ok hhandle]

/-! ### Runs -/

theorem region_run : (w.run isAddress steps).service.region = w.service.region := by
  induction steps using List.reverseRecOn with
  | nil => rfl
  | append_singleton steps s ih => rw [run_concat, region_step, ih]

theorem getElem?_concat_eq_some_iff :
    (steps ++ [s])[i]? = some t ↔ steps[i]? = some t ∨ i = steps.length ∧ t = s := by
  rcases Nat.lt_trichotomy i steps.length with h | h | h
  · rw [List.getElem?_append_left h]
    have hne : i ≠ steps.length := by omega
    simp [hne]
  · subst h
    simp [eq_comm]
  · have hnone : steps[i]? = none := by simp; omega
    have hne : i ≠ steps.length := by omega
    have hlong : (steps ++ [s])[i]? = none := by simp; omega
    simp [hnone, hne, hlong]

theorem take_concat (h : i ≤ steps.length) : (steps ++ [s]).take i = steps.take i :=
  List.take_append_of_le_length h

theorem lt_length_of_getElem? (h : steps[i]? = some t) : i < steps.length :=
  (List.getElem?_eq_some_iff.mp h).1

theorem lastDecision_concat_of_decides (h : (w.run isAddress steps).Decides isAddress s) :
    w.LastDecision isAddress (steps ++ [s]) i t ↔ i = steps.length ∧ t = s := by
  constructor
  · intro hlast
    rcases getElem?_concat_eq_some_iff.mp hlast.found with hi | hi
    · have hlt := lt_length_of_getElem? hi
      have hs := hlast.last steps.length s hlt (by simp)
      rw [take_concat (Nat.le_refl _), List.take_length] at hs
      exact absurd h hs
    · exact hi
  · intro hi
    obtain ⟨rfl, rfl⟩ := hi
    refine ⟨by simp, ?_, ?_⟩
    · rwa [take_concat (Nat.le_refl _), List.take_length]
    · intro j u hj hu
      have hlt := lt_length_of_getElem? hu
      simp only [List.length_append, List.length_cons, List.length_nil] at hlt
      omega

theorem lastDecision_concat_of_not_decides (h : ¬ (w.run isAddress steps).Decides isAddress s) :
    w.LastDecision isAddress (steps ++ [s]) i t ↔ w.LastDecision isAddress steps i t := by
  constructor
  · intro hlast
    have hfound : steps[i]? = some t := by
      rcases getElem?_concat_eq_some_iff.mp hlast.found with hi | ⟨rfl, rfl⟩
      · exact hi
      · have hdecides := hlast.decides
        rw [take_concat (Nat.le_refl _), List.take_length] at hdecides
        exact absurd hdecides h
    have hi := lt_length_of_getElem? hfound
    refine ⟨hfound, ?_, ?_⟩
    · rw [← take_concat (s := s) (by omega)]
      exact hlast.decides
    · intro j u hj hu
      have hjlt := lt_length_of_getElem? hu
      rw [← take_concat (s := s) (by omega)]
      exact hlast.last j u hj (getElem?_concat_eq_some_iff.mpr (.inl hu))
  · intro hlast
    have hi := lt_length_of_getElem? hlast.found
    refine ⟨getElem?_concat_eq_some_iff.mpr (.inl hlast.found), ?_, ?_⟩
    · rw [take_concat (by omega)]
      exact hlast.decides
    · intro j u hj hu
      rcases getElem?_concat_eq_some_iff.mp hu with hu | ⟨rfl, rfl⟩
      · have hjlt := lt_length_of_getElem? hu
        rw [take_concat (by omega)]
        exact hlast.last j u hj hu
      · rwa [take_concat (Nat.le_refl _), List.take_length]

theorem exists_build_of_decides {c : Configuration} {ev : Evaluator} {now : SessionName.Clock}
    (h : w.Decides isAddress (.enable c ev now)) :
    ∃ d handle, c.evaluated ev = .ok d ∧ Strategy.build isAddress d w.service.region now = .ok handle ∧
      (w.step isAddress (.enable c ev now)).2.service.held = some handle := by
  obtain ⟨handle, hhandle⟩ := decides_enable_iff.mp h
  obtain ⟨-, d, hevaluated, hbuild⟩ := Service.handleFor_eq_ok_iff.mp hhandle
  exact ⟨d, handle, hevaluated, hbuild, held_of_enable hhandle⟩

/-- What a service holds was built by the last decision of the run, if that was to enable it and if it
held nothing at the start. -/
theorem held_run_iff (hstart : w.service.held = none) {h : Handle} :
    (w.run isAddress steps).service.held = some h ↔
      ∃ i c ev now d, w.LastDecision isAddress steps i (.enable c ev now) ∧ c.evaluated ev = .ok d ∧
        Strategy.build isAddress d w.service.region now = .ok h := by
  induction steps using List.reverseRecOn with
  | nil =>
    constructor
    · intro hheld
      simp [hstart] at hheld
    · intro hlast
      obtain ⟨i, c, ev, now, d, hlast, -⟩ := hlast
      simpa using hlast.found
  | append_singleton steps s ih =>
    rw [run_concat]
    by_cases hdecides : (w.run isAddress steps).Decides isAddress s
    · simp only [lastDecision_concat_of_decides hdecides]
      cases s with
      | disable => simp [step]
      | validate | change => simp [Decides, step] at hdecides
      | enable c ev now =>
        obtain ⟨d, handle, hevaluated, hbuild, hheld⟩ := exists_build_of_decides hdecides
        rw [region_run] at hbuild
        rw [hheld]
        constructor
        · intro heq
          obtain rfl := Option.some.inj heq
          exact ⟨_, c, ev, now, d, ⟨rfl, rfl⟩, hevaluated, hbuild⟩
        · intro hlast
          obtain ⟨i, c', ev', now', d', ⟨-, hstep⟩, hevaluated', hbuild'⟩ := hlast
          cases hstep
          obtain rfl : d = d' := Except.ok.inj (hevaluated.symm.trans hevaluated')
          rw [Except.ok.inj (hbuild.symm.trans hbuild')]
    · simp only [lastDecision_concat_of_not_decides hdecides, service_of_not_decides hdecides, ih]

/-- What a service has come to at the end of a run. It is enabled exactly when the last decision was to
enable it, and then it gives the provider that this step built. Of the next step, the first stage that
fails decides the error, and nothing but a decision changes the service. -/
structure Accounted (isAddress : String → Bool) (w : Installation) (steps : List Step) : Prop where
  enabled : (w.run isAddress steps).service.isEnabled = true ↔
    ∃ i c ev now, w.LastDecision isAddress steps i (.enable c ev now)
  provider : ∀ i c ev now, w.LastDecision isAddress steps i (.enable c ev now) →
    ∃ d h, c.evaluated ev = .ok d ∧ Strategy.build isAddress d w.service.region now = .ok h ∧
      (w.run isAddress steps).service.provider = .ok h
  notEnabled : (w.run isAddress steps).service.isEnabled = false →
    (w.run isAddress steps).service.provider = .error .notEnabled
  refused : ∀ c ev now e,
    ((w.run isAddress steps).step isAddress (.enable c ev now)).1 = .enabling (.error e) ↔
      (w.run isAddress steps).service.Refusal isAddress ⟨c, ev, (w.run isAddress steps).files⟩ now e
  unchanged : ∀ s, ¬ (w.run isAddress steps).Decides isAddress s →
    ((w.run isAddress steps).step isAddress s).2.service = (w.run isAddress steps).service

theorem accounted_of_start (isAddress : String → Bool) (identifier : String)
    (region : Option String) (files : Files.FileSystem) (steps : List Step) :
    Accounted isAddress ⟨.start identifier region, files⟩ steps := by
  generalize hw : (⟨.start identifier region, files⟩ : Installation) = w
  have hstart : w.service.held = none := hw ▸ rfl
  have hbuilt : ∀ i c ev now, w.LastDecision isAddress steps i (.enable c ev now) →
      ∃ d h, c.evaluated ev = .ok d ∧ Strategy.build isAddress d w.service.region now = .ok h ∧
        (w.run isAddress steps).service.held = some h := by
    intro i c ev now hlast
    obtain ⟨d, h, hevaluated, hbuild, -⟩ := exists_build_of_decides hlast.decides
    rw [region_run] at hbuild
    exact ⟨d, h, hevaluated, hbuild,
      (held_run_iff hstart).mpr ⟨i, c, ev, now, d, hlast, hevaluated, hbuild⟩⟩
  constructor
  case enabled =>
    constructor
    · intro henabled
      obtain ⟨h, hheld⟩ := Option.isSome_iff_exists.mp henabled
      obtain ⟨i, c, ev, now, d, hlast, -⟩ := (held_run_iff hstart).mp hheld
      exact ⟨i, c, ev, now, hlast⟩
    · intro hlast
      obtain ⟨i, c, ev, now, hlast⟩ := hlast
      obtain ⟨d, h, -, -, hheld⟩ := hbuilt i c ev now hlast
      simp [Service.isEnabled, hheld]
  case provider =>
    intro i c ev now hlast
    obtain ⟨d, h, hevaluated, hbuild, hheld⟩ := hbuilt i c ev now hlast
    exact ⟨d, h, hevaluated, hbuild, by simp [Service.provider, hheld]⟩
  case notEnabled =>
    intro hdisabled
    have hnone := Option.isNone_iff_eq_none.mp (Option.isSome_eq_false_iff.mp hdisabled)
    simp [Service.provider, hnone]
  case refused =>
    intro c ev now e
    rw [← Service.enable_eq_error_iff]
    simp [step]
  case unchanged => exact fun s hs => service_of_not_decides hs

end Installation
end CredentialResolution
