/-! Findings of checks: what was checked, the text it had, and what came of it. -/

namespace CredentialResolution
set_option autoImplicit false

inductive Verdict
  | notApplicable
  | valid
  | invalid (explanation : String)
  deriving DecidableEq, Repr

structure Finding where
  subject : String
  input : Option String
  verdict : Verdict
  deriving DecidableEq, Repr

namespace Finding

def notApplicable (subject : String) : Finding := ⟨subject, none, .notApplicable⟩

def valid (subject : String) (input : Option String) : Finding := ⟨subject, input, .valid⟩

def invalid (subject : String) (input : Option String) (explanation : String) : Finding :=
  ⟨subject, input, .invalid explanation⟩

def explanation? (f : Finding) : Option String :=
  match f.verdict with
  | .invalid explanation => some explanation
  | _ => none

/-- Nothing speaks against the text; what was not checked counts as valid. -/
def isValid (f : Finding) : Bool := f.explanation?.isNone

def message (f : Finding) : String :=
  match f.verdict with
  | .invalid explanation =>
    "'" ++ f.subject ++ "' validated against '" ++ f.input.getD "" ++ "' is invalid because " ++
      explanation
  | .valid => "'" ++ f.subject ++ "' validated against '" ++ f.input.getD "" ++ "' is valid"
  | .notApplicable => "'" ++ f.subject ++ "' is not set"

/-- The finding as the only failure, or none. -/
def failure (f : Finding) : List Finding := if f.isValid then [] else [f]

@[simp] theorem isValid_invalid (subject : String) (input : Option String) (explanation : String) :
    (invalid subject input explanation).isValid = false := rfl

@[simp] theorem isValid_valid (subject : String) (input : Option String) :
    (valid subject input).isValid = true := rfl

@[simp] theorem isValid_notApplicable (subject : String) :
    (notApplicable subject).isValid = true := rfl

theorem failure_eq_nil_iff (f : Finding) : f.failure = [] ↔ f.isValid = true := by
  simp [failure]

end Finding
end CredentialResolution
