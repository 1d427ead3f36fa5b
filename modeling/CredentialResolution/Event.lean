import CredentialResolution.Provider.Build
import CredentialResolution.Text.Quoted

/-! Events: what is told of selections, checks, buildings and requests as they happen. They are
gathered apart from the results, which do not depend on them. -/

namespace CredentialResolution
set_option autoImplicit false

inductive Event
  | selected (primary : Strategy)
  | validated (primary : Strategy) (failures : Nat)
  | wrapping (primary derived : Strategy)
  | assumingRole (roleArn : String) (source : Strategy)
  | exchangingToken (roleArn sessionName : String)
  | enabled (service : String) (strategy : Strategy)
  | disabled (service : String)
  | requestingRole (roleArn sessionName : String) (proxy : Option String)
  deriving DecidableEq, Repr

namespace Event

def line : Event → String
  | selected primary => "DEBUG selected primary credentials strategy strategy=" ++ primary.name
  | validated primary failures =>
    "DEBUG validated credentials configuration primary=" ++ primary.name ++ " failures=" ++
      toString failures
  | wrapping primary derived =>
    "INFO wrapping primary credentials primary=" ++ primary.name ++ " derived=" ++ derived.name
  | assumingRole roleArn source =>
    "INFO assuming role with credentials from the primary strategy role_arn=" ++ roleArn ++
      " source=" ++ source.name
  | exchangingToken roleArn sessionName =>
    "INFO assuming role with web identity token role_arn=" ++ roleArn ++ " session_name=" ++
      sessionName
  | enabled service strategy =>
    "INFO credentials provider enabled service=" ++ service ++ " strategy=" ++ strategy.name
  | disabled service => "INFO credentials provider disabled service=" ++ service
  | requestingRole roleArn sessionName proxy =>
    "DEBUG assuming role role_arn=" ++ roleArn ++ " session_name=" ++ sessionName ++ " proxy=" ++
      match proxy with
      | none => "None"
      | some uri => "Some(" ++ Text.quoted uri ++ ")"

def ofDerived (primary : Handle) : Except BuildError Handle → List Event
  | .error _ => []
  | .ok h =>
    match h.provider with
    | some (.assumedRole r) => [assumingRole r.roleArn primary.strategy]
    | some (.tokenExchange t) => [exchangingToken t.roleArn t.sessionName]
    | _ => []

def ofBuild (isAddress : String → Bool) (c : Configuration) (region : Option String)
    (now : SessionName.Clock) : List Event :=
  let primary := Strategy.primaryOf c
  selected primary ::
    match primary.buildPrimary c, Strategy.derivedOf? c with
    | .ok handle, some derived =>
      wrapping primary derived ::
        ofDerived handle (derived.buildDerived isAddress c handle region now)
    | _, _ => []

def ofValidation (primary : Strategy) (failures : Nat) : List Event :=
  [selected primary, validated primary failures]

def ofLoad (h : Handle) : List Event :=
  match h.provider with
  | some (.assumedRole r) =>
    [requestingRole r.roleArn r.sessionName (r.settings.proxy.map Proxy.uri)]
  | _ => []

end Event
end CredentialResolution
