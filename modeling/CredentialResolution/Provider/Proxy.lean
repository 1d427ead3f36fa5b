import CredentialResolution.Provider.BuildError
import CredentialResolution.Text.Blank

/-! The proxy that exchanges of credentials go through. A configuration has one when host and port
are both set, and then the port must be a number of sixteen bits. Which texts are addresses is for a
parser to say, of which nothing is assumed. -/

namespace CredentialResolution
set_option autoImplicit false

structure Proxy where
  host : String
  port : Nat
  deriving DecidableEq, Repr

namespace Proxy

def uri (proxy : Proxy) : String := "http://" ++ proxy.host ++ ":" ++ toString proxy.port

def ofConfiguration (c : Configuration) : Except BuildError (Option Proxy) :=
  match c.filled? .proxyHost, c.filled? .proxyPort with
  | some host, some port =>
    match Text.integerOf .unsigned16 (Text.trim port) with
    | .ok n => .ok (some ⟨Text.trim host, n.toNat⟩)
    | .error _ => .error (.badPort port)
  | _, _ => .ok none

/-- A proxy is of use only if the parser takes its address. -/
def connect (isAddress : String → Bool) (proxy : Proxy) : Except BuildError Unit :=
  if isAddress proxy.uri then .ok () else .error (.badProxyAddress proxy.uri)

end Proxy
end CredentialResolution
