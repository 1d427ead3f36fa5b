import CredentialResolution.Provider.Credentials
import CredentialResolution.Sts.Retry

/-! Requests to the security token service, its answers, and the exchange of one for the other. An
exchange sends the same request again as long as its policy asks for it, and only the last answer
counts. -/

namespace CredentialResolution.Sts
set_option autoImplicit false

inductive Action
  | assumeRole (roleArn sessionName : String) (externalId : Option String) (duration : Option Int)
  | assumeRoleWithWebIdentity (roleArn sessionName token : String)
  deriving DecidableEq, Repr

def Action.params : Action → List (String × String)
  | assumeRole roleArn sessionName externalId duration =>
    [("Action", "AssumeRole"), ("RoleArn", roleArn), ("RoleSessionName", sessionName)] ++
      (externalId.map fun id => ("ExternalId", id)).toList ++
      (duration.map fun n => ("DurationSeconds", toString n)).toList
  | assumeRoleWithWebIdentity roleArn sessionName token =>
    [("Action", "AssumeRoleWithWebIdentity"), ("RoleArn", roleArn),
      ("RoleSessionName", sessionName), ("WebIdentityToken", token)]

structure Signature where
  accessKeyId : String
  sessionToken : Option String
  region : String
  deriving DecidableEq, Repr

structure Request where
  action : Action
  signature : Option Signature
  proxied : Bool
  deriving DecidableEq, Repr

structure Issued where
  accessKeyId : String
  secretAccessKey : String
  sessionToken : String
  expiry : Timestamp
  deriving DecidableEq, Repr

def Issued.credentials (c : Issued) (provider : String) : Credentials :=
  ⟨c.accessKeyId, c.secretAccessKey, some c.sessionToken, some c.expiry, provider⟩

structure Refusal where
  status : Nat
  code : Option String
  message : Option String
  deriving DecidableEq, Repr

inductive Answer
  | issued (c : Issued)
  | empty
  | refused (r : Refusal)
  deriving DecidableEq, Repr

inductive Body
  | credentials (accessKeyId secretAccessKey sessionToken expiry : String)
  | nothing
  | fault (code message : Option String)
  deriving DecidableEq, Repr

def Body.texts : Body → List String
  | credentials accessKeyId secretAccessKey sessionToken expiry =>
    [accessKeyId, secretAccessKey, sessionToken, expiry]
  | nothing => []
  | fault code message => code.toList ++ message.toList

/-- Whether a body can hold a character. Of the controls it holds only tabs and line ends. -/
def isHeld (c : Char) : Bool :=
  c == '\t' || c == '\n' || c == '\r' ||
    (0x20 ≤ c.toNat && c.toNat != 0xFFFE && c.toNat != 0xFFFF)

def Body.isReadable (body : Body) : Bool := body.texts.all fun s => s.toList.all isHeld

def isSuccess (status : Nat) : Bool := 200 ≤ status && status ≤ 299

def isBodiless (status : Nat) : Bool := status < 200 || status == 204 || status == 304

/-- What a reply is worth. One that cannot be read as what its status promises counts as a refusal that
gives no reason. -/
def Answer.ofReply (status : Nat) (body : Body) : Answer :=
  if isBodiless status || !body.isReadable then .refused ⟨status, none, none⟩
  else
    match body, isSuccess status with
    | .credentials accessKeyId secretAccessKey sessionToken expiry, true =>
      match Timestamp.read? expiry with
      | some t => .issued ⟨accessKeyId, secretAccessKey, sessionToken, t⟩
      | none => .refused ⟨status, none, none⟩
    | .nothing, true => .empty
    | .fault code message, false => .refused ⟨status, code, message⟩
    | _, _ => .refused ⟨status, none, none⟩

def Answer.attempt : Answer → Attempt
  | issued _ | empty => ⟨none, some 200⟩
  | refused r => ⟨some (.refused (.ofCode r.code) r.code), some r.status⟩

def Answer.asksRetry (a : Answer) : Bool :=
  match a.attempt.action with
  | .retry _ => true
  | _ => false

/-- How many times a request is sent at most, and after which answers it is sent again. -/
structure Policy where
  mostAttempts : Nat
  asksRetry : Answer → Bool

def mostAttempts : Nat := 3

namespace Policy

/-- The policy for the exchange of tokens. -/
def ofTokens : Policy := ⟨Sts.mostAttempts, Answer.asksRetry⟩

/-- How many requests are sent when `left + 1` may be, and the answer that the last one gets. -/
def exchangeWith (p : Policy) : Nat → List Answer → Nat × Option Answer
  | _, [] => (1, none)
  | 0, a :: _ => (1, some a)
  | left + 1, a :: as =>
    if p.asksRetry a then
      let r := p.exchangeWith left as
      (r.1 + 1, r.2)
    else (1, some a)

def exchange (p : Policy) (answers : List Answer) : Nat × Option Answer :=
  p.exchangeWith (p.mostAttempts - 1) answers

end Policy
end CredentialResolution.Sts
