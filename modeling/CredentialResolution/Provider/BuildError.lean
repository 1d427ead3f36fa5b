import CredentialResolution.Strategy.Basic
import CredentialResolution.Text.Integer

/-! Why a provider cannot be built from a configuration. -/

namespace CredentialResolution
set_option autoImplicit false

inductive BuildError
  | notPrimary (s : Strategy)
  | notDerived (s : Strategy)
  | missing (p : Property)
  | badPort (value : String)
  | badSessionTime (value : String) (cause : Text.IntegerError)
  | badProxyAddress (uri : String)
  deriving DecidableEq, Repr

namespace BuildError

def primaryOperation : String := "building a primary credentials provider"

def derivedOperation : String := "building a derived credentials provider"

def message : BuildError → String
  | notPrimary s => "the " ++ s.name ++ " strategy does not support " ++ primaryOperation
  | notDerived s => "the " ++ s.name ++ " strategy does not support " ++ derivedOperation
  | missing p => "the \"" ++ p.displayName ++ "\" property must be set to build this provider"
  | badPort value =>
    "The assume role proxy port value \"" ++ value ++ "\" is not an integer value."
  | badSessionTime value cause =>
    "The value \"" ++ value ++ "\" is not a valid value for the " ++
      Property.sessionTime.displayName ++ " property. The error is " ++ cause.message ++ "."
  | badProxyAddress uri => "`" ++ uri ++ "` is not a valid proxy address"

end BuildError
end CredentialResolution
