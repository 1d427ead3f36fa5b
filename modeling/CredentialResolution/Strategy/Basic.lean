import CredentialResolution.Configuration

/-! Strategies: the ways to come by credentials, in the order in which they are considered. A
configuration always selects exactly one primary strategy, and at most one that derives from it. -/

namespace CredentialResolution
set_option autoImplicit false

inductive Strategy
  | explicitDefault
  | accessKeyPair
  | file
  | namedProfile
  | anonymous
  | implicitDefault
  | assumeRole
  | webIdentity
  deriving DecidableEq, Repr

namespace Strategy

/-- Every strategy, the first to be considered first. -/
def all : List Strategy :=
  [explicitDefault, accessKeyPair, file, namedProfile, anonymous, implicitDefault, assumeRole,
    webIdentity]

def name : Strategy → String
  | explicitDefault | implicitDefault => "Default Credentials"
  | accessKeyPair => "Access Key Pair"
  | file => "Credentials File"
  | namedProfile => "Named Profile"
  | anonymous => "Anonymous Credentials"
  | assumeRole => "Assume Role"
  | webIdentity => "Web Identity Token"

def required : Strategy → List Property
  | explicitDefault => [.useDefault]
  | accessKeyPair => [.accessKey, .secretKey]
  | file => [.credentialsFile]
  | namedProfile => [.profile]
  | anonymous => [.useAnonymous]
  | implicitDefault => []
  | assumeRole => [.roleArn, .roleSessionName, .sessionTime]
  | webIdentity => [.webRoleArn, .webSessionName, .webTokenFile]

def isDerived : Strategy → Bool
  | assumeRole | webIdentity => true
  | _ => false

def canBePrimary (c : Configuration) : Strategy → Bool
  | explicitDefault => c.flag .useDefault
  | anonymous => c.flag .useAnonymous
  | implicitDefault => true
  | assumeRole | webIdentity => false
  | s => s.required.all c.isSet

def canDerive (c : Configuration) : Strategy → Bool
  | assumeRole => c.isSet .roleArn && c.isSet .roleSessionName
  | webIdentity => c.isSet .webRoleArn && c.isSet .webTokenFile
  | _ => false

def primaryOf (c : Configuration) : Strategy := (all.find? (canBePrimary c)).getD implicitDefault

def derivedOf? (c : Configuration) : Option Strategy := all.find? (canDerive c)

theorem mem_all (s : Strategy) : s ∈ all := by cases s <;> decide

theorem canBePrimary_primaryOf (c : Configuration) : canBePrimary c (primaryOf c) = true := by
  unfold primaryOf
  cases h : all.find? (canBePrimary c) with
  | none => rfl
  | some s => simpa using List.find?_some h

theorem canDerive_derivedOf? {c : Configuration} {s : Strategy} (h : derivedOf? c = some s) :
    canDerive c s = true := List.find?_some h

end Strategy
end CredentialResolution
