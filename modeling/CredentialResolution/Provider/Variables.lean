import CredentialResolution.Provider.Load
import CredentialResolution.Uri

/-! A library that finds what it needs in the variables of the process, where these are set. It is one of
many: no result is about it alone, but runs need one. -/

namespace CredentialResolution.Library
set_option autoImplicit false

/-- The statuses of faults that pass. -/
def passingStatuses : List Nat := [500, 502, 503, 504]

/-- The codes of faults that pass and have nothing to do with the number of requests. -/
def passingCodes : List String := ["RequestTimeout", "RequestTimeoutException"]

def passes : Sts.Answer → Bool
  | .refused r =>
    passingStatuses.contains r.status ||
      r.code.any fun code => passingCodes.contains code || Sts.throttlingCodes.contains code
  | _ => false

def variablesProviderName : String := "EnvironmentVariable"

def ofVariables : Library where
  region? w := w.environment.lookup "AWS_REGION"
  -- A region becomes a part of the name of the host.
  endpoint? _ region := (region.filter fun r => Uri.isHostName r.toList).map Sts.Endpoint.mk
  policy _ := ⟨3, passes⟩
  isFresh _ _ := true
  chain _ w :=
    match w.environment.lookup "AWS_ACCESS_KEY_ID", w.environment.lookup "AWS_SECRET_ACCESS_KEY" with
    | some access, some secret =>
      .ok ⟨access, secret, w.environment.lookup "AWS_SESSION_TOKEN", none, variablesProviderName⟩
    | _, _ => .error .noVariables
  profile name _ w :=
    match w.profiles.lookup name with
    | some c => .ok c
    | none => .error (.unknownProfile name)

/-- Settings with a region need no variable for it. -/
theorem endpoint?_of_region {settings : ServiceSettings} {region : String}
    (h : settings.region = some region) (w : World) :
    settings.endpoint? .ofVariables w =
      if Uri.isHostName region.toList then some ⟨region⟩ else none := by
  cases hname : Uri.isHostName region.toList <;>
    simp [ServiceSettings.endpoint?, h, ofVariables, hname]

end CredentialResolution.Library
