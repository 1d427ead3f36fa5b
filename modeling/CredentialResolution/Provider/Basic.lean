import CredentialResolution.Provider.Credentials
import CredentialResolution.Provider.Proxy
import CredentialResolution.SessionName

/-! Providers of credentials: sources that have them at hand or look them up, and two kinds that get
them from the security token service. -/

namespace CredentialResolution
set_option autoImplicit false

/-- Where credentials come from without any exchange. -/
inductive Source
  /-- The variables of the process, first of the places that are searched by default. -/
  | environment
  | keys (c : Credentials)
  | file (path : String)
  | profile (name : String)
  deriving DecidableEq, Repr

structure ServiceSettings where
  region : Option String
  proxy : Option Proxy
  deriving DecidableEq, Repr

structure AssumedRole where
  roleArn : String
  sessionName : String
  externalId : Option String
  /-- The length of the session in seconds. -/
  duration : Option Int
  source : Option Source
  settings : ServiceSettings
  deriving DecidableEq, Repr

structure TokenExchange where
  roleArn : String
  sessionName : String
  tokenFile : String
  settings : ServiceSettings
  deriving DecidableEq, Repr

inductive Provider
  | source (s : Source)
  | assumedRole (r : AssumedRole)
  | tokenExchange (t : TokenExchange)
  deriving DecidableEq, Repr

/-- A strategy with the provider built for it; anonymous credentials have none. -/
structure Handle where
  strategy : Strategy
  provider : Option Provider
  deriving DecidableEq, Repr

def Handle.isAnonymous (h : Handle) : Bool := h.provider.isNone

/-- The source that a role may be assumed with. -/
def Handle.source? (h : Handle) : Option Source :=
  match h.provider with
  | some (.source s) => some s
  | _ => none

end CredentialResolution
