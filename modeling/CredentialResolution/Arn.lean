import CredentialResolution.Text.Cut

/-! Resource names of the cloud: five fields behind a fixed scheme, the last of which may hold the
separator. Writing the fields of a name that was read gives the text back. -/

namespace CredentialResolution
set_option autoImplicit false

structure Arn where
  partition : String
  service : String
  region : String
  account : String
  resource : String
  deriving DecidableEq, Repr

/-- The first thing that is wrong with a text, from left to right. -/
inductive ArnError
  | noScheme
  | noPartition
  | noService
  | noRegion
  | noAccount
  | noResource
  deriving DecidableEq, Repr

def ArnError.message : ArnError → String
  | .noScheme => "Malformed ARN - doesn't start with 'arn:'"
  | .noPartition => "Malformed ARN - no AWS partition specified"
  | .noService => "Malformed ARN - no service specified"
  | .noRegion => "Malformed ARN - no AWS region partition specified"
  | .noAccount => "Malformed ARN - no AWS account specified"
  | .noResource => "Malformed ARN - no resource specified"

namespace Arn

/-- The fields between colons, of which the first `n` end at a colon. -/
def fields : Nat → List Char → List (List Char)
  | 0, cs => [cs]
  | n + 1, cs =>
    match Text.cutAt (· == ':') cs with
    | none => [cs]
    | some (field, rest) => field :: fields n rest

/-- Region and account may be empty; the other fields may not. -/
def ofFields : List (List Char) → Except ArnError Arn
  | [] | [] :: _ => .error .noPartition
  | [_] | _ :: [] :: _ => .error .noService
  | [_, _] => .error .noRegion
  | [_, _, _] => .error .noAccount
  | [_, _, _, _] | _ :: _ :: _ :: _ :: [] :: _ => .error .noResource
  | partition :: service :: region :: account :: resource :: _ =>
    .ok ⟨.ofList partition, .ofList service, .ofList region, .ofList account, .ofList resource⟩

def read (s : String) : Except ArnError Arn :=
  match Text.afterMark ['a', 'r', 'n', ':'] s.toList with
  | none => .error .noScheme
  | some rest => ofFields (fields 4 rest)

def text (a : Arn) : String :=
  "arn:" ++ a.partition ++ ":" ++ a.service ++ ":" ++ a.region ++ ":" ++ a.account ++ ":" ++
    a.resource

end Arn
end CredentialResolution
