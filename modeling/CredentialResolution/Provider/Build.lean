import CredentialResolution.Provider.Basic

/-! Building providers from configurations. Nothing is read or sent yet: the values must already be
evaluated, and what was checked before is not relied upon. `isAddress` is the parser of addresses. -/

namespace CredentialResolution
set_option autoImplicit false

/-- A value that must be there and not empty. -/
def Configuration.needed (c : Configuration) (p : Property) : Except BuildError String :=
  match c.filled? p with
  | some v => .ok v
  | none => .error (.missing p)

/-- Makes a session name up where none is given. -/
def AssumedRole.build (roleArn sessionName externalId : Option String) (duration : Option Int)
    (source : Option Source) (settings : ServiceSettings) (now : SessionName.Clock) :
    Except BuildError AssumedRole :=
  match roleArn with
  | none => .error (.missing .roleArn)
  | some arn =>
    .ok ⟨arn, sessionName.getD (SessionName.generated SessionName.roleBase now), externalId,
      duration, source, settings⟩

/-- Makes a session name up where none is given or an empty one. -/
def TokenExchange.build (roleArn sessionName tokenFile : Option String)
    (settings : ServiceSettings) (now : SessionName.Clock) : Except BuildError TokenExchange :=
  match roleArn, tokenFile with
  | none, _ => .error (.missing .webRoleArn)
  | some _, none => .error (.missing .webTokenFile)
  | some arn, some path =>
    .ok ⟨arn,
      (sessionName.filter fun s => s ≠ "").getD (SessionName.generated SessionName.webBase now),
      path, settings⟩

def ServiceSettings.ofConfiguration (isAddress : String → Bool) (c : Configuration)
    (region : Option String) : Except BuildError ServiceSettings :=
  match Proxy.ofConfiguration c with
  | .error e => .error e
  | .ok none => .ok ⟨region, none⟩
  | .ok (some proxy) =>
    match proxy.connect isAddress with
    | .error e => .error e
    | .ok () => .ok ⟨region, some proxy⟩

/-- The length of the session. A blank value counts as unset, and the limits are not looked at. -/
def sessionDuration (c : Configuration) : Except BuildError (Option Int) :=
  let given := ((c.value? .sessionTime).map Text.trim).filter fun v => v ≠ ""
  match given <|> Property.sessionTime.default? with
  | none => .ok none
  | some v =>
    match Text.integerOf .signed32 v with
    | .ok n => .ok (some n)
    | .error e => .error (.badSessionTime v e)

namespace Strategy

def keysProviderName : String := "Static"

def buildPrimary (s : Strategy) (c : Configuration) : Except BuildError Handle :=
  match s with
  | explicitDefault | implicitDefault => .ok ⟨s, some (.source .environment)⟩
  | accessKeyPair => do
    let access ← c.needed .accessKey
    let secret ← c.needed .secretKey
    return ⟨s, some (.source (.keys ⟨access, secret, none, none, keysProviderName⟩))⟩
  | file => do return ⟨s, some (.source (.file (← c.needed .credentialsFile)))⟩
  | namedProfile => do return ⟨s, some (.source (.profile (← c.needed .profile)))⟩
  | anonymous => .ok ⟨s, none⟩
  | assumeRole | webIdentity => .error (.notPrimary s)

def buildAssumedRole (isAddress : String → Bool) (c : Configuration) (primary : Handle)
    (region : Option String) (now : SessionName.Clock) : Except BuildError Handle := do
  let arn ← c.needed .roleArn
  let name ← c.needed .roleSessionName
  let settings ← ServiceSettings.ofConfiguration isAddress c region
  let duration ← sessionDuration c
  let role ← AssumedRole.build arn name (c.filled? .externalId) duration primary.source? settings now
  return ⟨assumeRole, some (.assumedRole role)⟩

def buildTokenExchange (isAddress : String → Bool) (c : Configuration) (region : Option String)
    (now : SessionName.Clock) : Except BuildError Handle := do
  let arn ← c.needed .webRoleArn
  let path ← c.needed .webTokenFile
  let settings ← ServiceSettings.ofConfiguration isAddress c region
  let token ← TokenExchange.build arn (c.value? .webSessionName) path settings now
  return ⟨webIdentity, some (.tokenExchange token)⟩

def buildDerived (s : Strategy) (isAddress : String → Bool) (c : Configuration) (primary : Handle)
    (region : Option String) (now : SessionName.Clock) : Except BuildError Handle :=
  match s with
  | assumeRole => buildAssumedRole isAddress c primary region now
  | webIdentity => buildTokenExchange isAddress c region now
  | _ => .error (.notDerived s)

/-- The provider that a configuration asks for: that of its primary strategy, or one derived from
it. -/
def build (isAddress : String → Bool) (c : Configuration) (region : Option String)
    (now : SessionName.Clock) : Except BuildError Handle := do
  let primary ← (primaryOf c).buildPrimary c
  match derivedOf? c with
  | some s => s.buildDerived isAddress c primary region now
  | none => return primary

end Strategy
end CredentialResolution
