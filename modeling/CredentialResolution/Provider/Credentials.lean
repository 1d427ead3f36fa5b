import CredentialResolution.Time.Timestamp

/-! Credentials as a provider hands them out. -/

namespace CredentialResolution
set_option autoImplicit false

structure Credentials where
  accessKeyId : String
  secretAccessKey : String
  sessionToken : Option String
  expiry : Option Timestamp
  provider : String
  deriving DecidableEq, Repr

end CredentialResolution
