import CredentialResolution.Strategy.Basic
import CredentialResolution.Validation.Validator

/-! What each strategy has against a configuration, given the primary strategy that it selects. The
failures of a whole configuration are those of all strategies, in their order. -/

namespace CredentialResolution.Strategy
set_option autoImplicit false

def notUsableWith (p : Property) (primary : Strategy) : String :=
  "property " ++ p.displayName ++ " cannot be used with " ++ primary.name

def neededWith (p : Property) (primary : Strategy) : String :=
  "property " ++ p.displayName ++ " must be set with " ++ primary.name

/-- Only the primary strategy may have its properties set, and it needs them all. -/
def exclusiveFailures (s : Strategy) (ctx : Context) (primary : Strategy) : List Finding :=
  let selected := s == primary
  (s.required.filter fun p => ctx.configuration.isSet p != selected).map fun p =>
    .invalid p.displayName (ctx.configuration.value? p)
      (if selected then neededWith p primary else notUsableWith p primary)

/-- A flag must read as one, and only the primary strategy may have it raised. -/
def flagFailures (s : Strategy) (p : Property) (ctx : Context) (primary : Strategy) : List Finding :=
  (Validator.boolean.judgeProperty ctx p).failure ++
    if s != primary && ctx.configuration.flag p then
      [.invalid p.displayName (ctx.configuration.value? p) (notUsableWith p primary)]
    else []

/-- The shortest and the longest session of an assumed role, in seconds. -/
def leastSession : Int := 900

def greatestSession : Int := 3600

def sessionLengthFailures (subject raw value : String) : List Finding :=
  match Validator.readInteger value with
  | .error explanation => [.invalid subject (some raw) explanation]
  | .ok n =>
    if leastSession ≤ n ∧ n ≤ greatestSession then []
    else
      [.invalid subject (some raw)
        ("must be between " ++ toString leastSession ++ " and " ++ toString greatestSession ++
          " seconds")]

/-- The length of the session, or its default, must lie within the limits. -/
def sessionTimeFailures (ctx : Context) : List Finding :=
  let p := Property.sessionTime
  match ctx.configuration.filled? p with
  | some raw =>
    let finding := Validator.integer.judge ctx p raw
    if finding.isValid then
      match ctx.evaluator.valueOf p raw with
      | .ok value => sessionLengthFailures p.displayName raw value
      | .error _ => []
    else [finding]
  | none =>
    match p.default? with
    | some value => sessionLengthFailures (p.displayName ++ " (Default Value)") value value
    | none => []

/-- Host and port of the proxy go together, and the port must be one. -/
def proxyFailures (ctx : Context) : List Finding :=
  let host := ctx.configuration.isSet .proxyHost
  let port := ctx.configuration.isSet .proxyPort
  (if host != port then
    [.invalid "Assume Role Proxy Host and Port" none
      "Assume role with proxy requires both host and port for the proxy to be set"]
  else []) ++
    if port then (Validator.port.judgeProperty ctx .proxyPort).failure else []

def assumeRoleFailures (ctx : Context) : List Finding :=
  let arn := ctx.configuration.isSet .roleArn
  let name := ctx.configuration.isSet .roleSessionName
  (if arn != name then
    [.invalid "Assume Role Arn and Name" none "Assume role requires both arn and name to be set"]
  else []) ++
    sessionTimeFailures ctx ++
    (if ctx.configuration.isSet .externalId && !(arn && name) then
      [.invalid Property.externalId.displayName (ctx.configuration.value? .externalId)
        "Assume role requires both arn and name to be set with External ID"]
    else []) ++
    proxyFailures ctx

/-- Says of each property of the strategy whether it is set. -/
def togetherExplanation (c : Configuration) : String :=
  "assuming roles with web identity session credentials requires the role ARN and token file " ++
    "properties to be set together:\n" ++
    String.join (webIdentity.required.map fun p =>
      "The \"" ++ p.displayName ++ "\" property " ++
        (if c.isSet p then "is set" else "is not set") ++ ".\n")

def webIdentityFailures (ctx : Context) : List Finding :=
  let arn := ctx.configuration.isSet .webRoleArn
  let token := ctx.configuration.isSet .webTokenFile
  (if arn != token then
    [.invalid webIdentity.name none (togetherExplanation ctx.configuration)]
  else []) ++
    (Validator.arn.judgeProperty ctx .webRoleArn).failure ++
    (Validator.sessionName.judgeProperty ctx .webSessionName).failure ++
    (Validator.tokenFile.judgeProperty ctx .webTokenFile).failure ++
    proxyFailures ctx

def failures (s : Strategy) (ctx : Context) (primary : Strategy) : List Finding :=
  match s with
  | explicitDefault => flagFailures s .useDefault ctx primary
  | anonymous => flagFailures s .useAnonymous ctx primary
  | file =>
    exclusiveFailures s ctx primary ++
      if s == primary then (Validator.credentialsFile.judgeProperty ctx .credentialsFile).failure
      else []
  | assumeRole => assumeRoleFailures ctx
  | webIdentity => webIdentityFailures ctx
  | s => exclusiveFailures s ctx primary

def allFailures (ctx : Context) : List Finding :=
  all.flatMap fun s => s.failures ctx (primaryOf ctx.configuration)

end CredentialResolution.Strategy
