import CredentialResolution.Strategy.Basic

/-! Which strategies a configuration selects, as a function of what it sets. -/

namespace CredentialResolution.Strategy
set_option autoImplicit false

/-- Both keys are set. -/
def hasKeys (c : Configuration) : Bool := c.isSet .accessKey && c.isSet .secretKey

/-- A role can be assumed. -/
def hasRole (c : Configuration) : Bool := c.isSet .roleArn && c.isSet .roleSessionName

/-- A web identity token can be exchanged. -/
def hasToken (c : Configuration) : Bool := c.isSet .webRoleArn && c.isSet .webTokenFile

theorem primaryOf_eq (c : Configuration) :
    primaryOf c =
      if c.flag .useDefault then explicitDefault
      else if hasKeys c then accessKeyPair
      else if c.isSet .credentialsFile then file
      else if c.isSet .profile then namedProfile
      else if c.flag .useAnonymous then anonymous
      else implicitDefault := by
  repeat' split
  all_goals simp_all [primaryOf, all, canBePrimary, required, hasKeys, List.find?_cons]

theorem derivedOf?_eq (c : Configuration) :
    derivedOf? c =
      if hasRole c then some assumeRole else if hasToken c then some webIdentity else none := by
  repeat' split
  all_goals simp_all [derivedOf?, all, canDerive, hasRole, hasToken]

end CredentialResolution.Strategy
