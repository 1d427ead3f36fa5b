/-! When the exchange of a web identity token is tried again: after timeouts and broken connections,
when the identity provider could not be reached or the token was not yet accepted, when requests come
too fast or with a wrong clock, and after faults of the server. Every other failure is final. -/

namespace CredentialResolution.Sts
set_option autoImplicit false

inductive Fault
  | expiredToken
  | idpCommunication
  | idpRejectedClaim
  | invalidIdentityToken
  | malformedPolicy
  | packedPolicy
  | regionDisabled
  | generic
  deriving DecidableEq, Repr

def Fault.ofCode : Option String → Fault
  | some "ExpiredTokenException" => expiredToken
  | some "IDPCommunicationError" => idpCommunication
  | some "IDPRejectedClaim" => idpRejectedClaim
  | some "InvalidIdentityToken" => invalidIdentityToken
  | some "MalformedPolicyDocument" => malformedPolicy
  | some "PackedPolicyTooLarge" => packedPolicy
  | some "RegionDisabledException" => regionDisabled
  | _ => generic

inductive ConnectionFault
  | io
  | timeout
  | user
  | other
  deriving DecidableEq, Repr

inductive Failure
  | timeout
  | connection (fault : ConnectionFault)
  | refused (fault : Fault) (code : Option String)
  /-- An error of another operation, whatever its code. -/
  | foreign
  | unreadable
  | other
  deriving DecidableEq, Repr

/-- How an attempt ended: its failure, if it failed, and the status of the answer, if there was one. -/
structure Attempt where
  failure : Option Failure
  status : Option Nat
  deriving DecidableEq, Repr

inductive RetryKind
  | transient
  | throttling
  | server
  | client
  deriving DecidableEq, Repr

inductive RetryAction
  | none
  | forbidden
  | retry (kind : RetryKind)
  deriving DecidableEq, Repr

def throttlingCodes : List String :=
  ["Throttling", "ThrottlingException", "ThrottledException", "RequestThrottledException",
    "TooManyRequestsException", "ProvisionedThroughputExceededException",
    "TransactionInProgressException", "RequestLimitExceeded", "BandwidthLimitExceeded",
    "LimitExceededException", "RequestThrottled", "SlowDown", "PriorRequestNotComplete",
    "EC2ThrottledException"]

def clockSkewCodes : List String :=
  ["RequestTimeTooSkewed", "RequestExpired", "InvalidSignatureException", "SignatureDoesNotMatch",
    "AuthFailure", "RequestInTheFuture"]

/-- The least status of an answer that tells of a fault of the server. -/
def leastServerStatus : Nat := 500

def statusAction (status : Option Nat) : RetryAction :=
  match status with
  | some n => if leastServerStatus ≤ n then .retry .server else .forbidden
  | Option.none => .forbidden

/-- What the code of a refusal says, before its status is looked at. -/
def codeAction? (code : String) : Option RetryAction :=
  if throttlingCodes.contains code then some (.retry .throttling)
  else if clockSkewCodes.contains code then some (.retry .client)
  else Option.none

def Attempt.action (a : Attempt) : RetryAction :=
  match a.failure with
  | Option.none => .none
  | some .timeout | some (.connection .io) | some (.connection .timeout) => .retry .transient
  | some (.connection _) => .forbidden
  | some (.refused .idpCommunication _) | some (.refused .invalidIdentityToken _) =>
    .retry .transient
  | some (.refused _ code) => (code.bind codeAction?).getD (statusAction a.status)
  | some _ => statusAction a.status

def policyName : String := "web identity token exchange"

def afterTransient : Bool := true

end CredentialResolution.Sts
