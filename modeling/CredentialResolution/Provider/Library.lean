import CredentialResolution.Files.Basic
import CredentialResolution.Provider.CredentialsFile
import CredentialResolution.Sts.Exchange

/-! What providers leave to the library of the service: where a region, an endpoint and credentials are
found that nobody gave, and how often a request is sent. Nothing is assumed of a library. Whatever a
result needs of one is a hypothesis of that result. -/

namespace CredentialResolution
set_option autoImplicit false

/-- What a provider can see: files, variables and profiles, and the answers that the security token
service will give one after the other. -/
structure World where
  files : Files.FileSystem
  environment : List (String × String)
  profiles : List (String × Credentials)
  answers : List Sts.Answer

inductive LoadError
  | anonymous
  | unknownProfile (name : String)
  | noVariables
  | unreadableFile (path : String) (cause : Files.FileError)
  | missingKey (cause : CredentialsFile.MissingKey)
  | unreadableToken (cause : Files.FileError)
  | tokenNotText
  /-- There are no credentials to sign a request with. -/
  | unsigned
  /-- There is no endpoint to send a request to. -/
  | noEndpoint
  | refused (r : Sts.Refusal)
  | unanswered
  | nothingIssued
  deriving DecidableEq, Repr

/-- The reasons of an error, from the nearest to the farthest, where they are known by name. -/
def LoadError.reasons? : LoadError → Option (List String)
  | anonymous =>
    some ["anonymous credentials do not load credentials; requests are sent unsigned"]
  | unreadableFile path cause => some ["could not read credentials file " ++ path, cause.message]
  | missingKey cause => some [cause.message]
  | unreadableToken .nulInPath => none
  | unreadableToken cause => some [cause.message]
  | tokenNotText => some ["WebIdentityToken was not valid UTF-8"]
  | nothingIssued => some ["STS credentials must be defined"]
  | _ => none

/-- Where requests go, and the region that they are signed for there. -/
structure Sts.Endpoint where
  signingRegion : String
  deriving DecidableEq, Repr

/-- What clients and sources are made with looks at the world in which they are made, and is not made
again in a later one. -/
structure Library where
  /-- The region for a client that is given none. There may be none to be found. -/
  region? : World → Option String
  /-- The endpoint for a client in a region, or in none. -/
  endpoint? : World → Option String → Option Sts.Endpoint
  /-- The policy of a client that is given none. -/
  policy : World → Sts.Policy
  /-- Whether a client still signs with credentials that it loaded before. -/
  isFresh : World → Credentials → Bool
  /-- What the chain of default places, made in the first world, gives in the second. -/
  chain : World → World → Except LoadError Credentials
  /-- What the source of a profile, made in the first world, gives in the second. -/
  profile : String → World → World → Except LoadError Credentials

end CredentialResolution
