import CredentialResolution.Proofs.Building

/-! The outcome of building, for every configuration, whether it was checked or not. Where nothing is
derived nothing can fail, and the settings of the proxy do not matter; otherwise three things can, and
the first of them is reported. -/

namespace CredentialResolution.Strategy
set_option autoImplicit false

variable {isAddress : String → Bool} {c : Configuration} {h : Handle} {region : Option String}
  {now : SessionName.Clock} {e : BuildError}

/-- The first thing that is wrong with a configuration from which `s` is derived. -/
inductive FirstFault (isAddress : String → Bool) (c : Configuration) (s : Strategy) :
    BuildError → Prop
  | proxy {e : BuildError} (hfault : ProxyFault isAddress c e) : FirstFault isAddress c s e
  | sessionTime {v : String} {cause : Text.IntegerError} (hs : s = assumeRole)
      (hproxy : c.ProxyWorks isAddress) (hvalue : c.value? .sessionTime = some v)
      (hblank : Text.trim v ≠ "")
      (hread : Text.integerOf .signed32 (Text.trim v) = .error cause) :
      FirstFault isAddress c s (.badSessionTime (Text.trim v) cause)

/-- A fault lies in the value of a property, never in its absence or in the choice of a strategy. -/
theorem FirstFault.property {s : Strategy} (hfault : FirstFault isAddress c s e) :
    (∃ value, e = .badPort value) ∨ (∃ uri, e = .badProxyAddress uri) ∨
      ∃ value cause, e = .badSessionTime value cause := by
  cases hfault with
  | proxy hfault =>
    cases hfault with
    | port => exact .inl ⟨_, rfl⟩
    | address => exact .inr (.inl ⟨_, rfl⟩)
  | sessionTime => exact .inr (.inr ⟨_, _, rfl⟩)

end CredentialResolution.Strategy
