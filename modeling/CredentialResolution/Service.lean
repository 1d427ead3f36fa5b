import CredentialResolution.Event
import CredentialResolution.Strategy.Check

/-! A service that holds at most one provider. Enabling it checks a configuration, evaluates it and
builds its provider; where one of these fails the service stays as it was. -/

namespace CredentialResolution
set_option autoImplicit false

inductive ServiceError
  | invalid (failures : List Finding)
  | expression (p : Property) (cause : ExpressionError)
  | build (cause : BuildError)
  | notEnabled
  deriving DecidableEq, Repr

namespace ServiceError

def message : ServiceError → String
  | invalid failures =>
    "invalid credentials configuration" ++
      String.join (failures.map fun f => "\n  " ++ f.message)
  | expression p _ => "failed to evaluate the expression in \"" ++ p.displayName ++ "\""
  | build _ => "failed to build the credentials provider"
  | notEnabled => "the credentials provider service is not enabled"

def causeMessage? : ServiceError → Option String
  | expression _ cause => some cause.message
  | build cause => some cause.message
  | _ => none

end ServiceError

structure Service where
  identifier : String
  /-- The region of the exchanges of derived providers. -/
  region : Option String
  held : Option Handle
  deriving DecidableEq, Repr

namespace Service

def start (identifier : String) (region : Option String) : Service := ⟨identifier, region, none⟩

def shown (s : Service) : String := "AWSCredentialsProviderService[id=" ++ s.identifier ++ "]"

def isEnabled (s : Service) : Bool := s.held.isSome

/-- The provider that a service enabled with the configuration would hold. -/
def handleFor (s : Service) (isAddress : String → Bool) (ctx : Context) (now : SessionName.Clock) :
    Except ServiceError Handle :=
  match Strategy.allFailures ctx with
  | f :: fs => .error (.invalid (f :: fs))
  | [] =>
    match ctx.configuration.evaluated ctx.evaluator with
    | .error (p, e) => .error (.expression p e)
    | .ok evaluated => (Strategy.build isAddress evaluated s.region now).mapError .build

/-- Takes a configuration, and leaves the service as it was where that fails. -/
def enable (s : Service) (isAddress : String → Bool) (ctx : Context) (now : SessionName.Clock) :
    Except ServiceError Unit × Service :=
  match s.handleFor isAddress ctx now with
  | .error e => (.error e, s)
  | .ok h => (.ok (), { s with held := some h })

def disable (s : Service) : Service := { s with held := none }

def provider (s : Service) : Except ServiceError Handle :=
  match s.held with
  | some h => .ok h
  | none => .error .notEnabled

/-- What is told of an attempt to enable the service. -/
def enableEvents (s : Service) (isAddress : String → Bool) (ctx : Context)
    (now : SessionName.Clock) : List Event :=
  let failures := Strategy.allFailures ctx
  Event.ofValidation (Strategy.primaryOf ctx.configuration) failures.length ++
    match failures, ctx.configuration.evaluated ctx.evaluator with
    | [], .ok evaluated =>
      Event.ofBuild isAddress evaluated s.region now ++
        match Strategy.build isAddress evaluated s.region now with
        | .ok h => [.enabled s.shown h.strategy]
        | .error _ => []
    | _, _ => []

def disableEvents (s : Service) : List Event :=
  if s.isEnabled then [.disabled s.shown] else []

@[simp] theorem held_disable (s : Service) : s.disable.held = none := rfl

section
variable {s : Service} {isAddress : String → Bool} {ctx : Context} {now : SessionName.Clock}

theorem enable_of_error {e : ServiceError} (h : s.handleFor isAddress ctx now = .error e) :
    s.enable isAddress ctx now = (.error e, s) := by
  simp [enable, h]

theorem enable_of_ok {handle : Handle} (h : s.handleFor isAddress ctx now = .ok handle) :
    s.enable isAddress ctx now = (.ok (), { s with held := some handle }) := by
  simp [enable, h]

end
end Service
end CredentialResolution
