import CredentialResolution.Configuration
import CredentialResolution.Json.Head

/-! Configurations read from JSON documents. A document is one object that gives texts to property
names; it is read from left to right and the first problem is reported. -/

namespace CredentialResolution.Configuration
set_option autoImplicit false

inductive DocumentError
  | malformed
  | unknownName (e : Property.UnknownName)
  | notObject (found : Json.Head)
  | notText (found : Json.Head)
  deriving DecidableEq, Repr

namespace DocumentError

def message : DocumentError → String
  | malformed => "malformed document"
  | unknownName e => e.message
  | notObject found => "invalid type: " ++ found.message ++ ", expected a map"
  | notText found => "invalid type: " ++ found.message ++ ", expected a string"

end DocumentError

open Json

/-- The error for a value of another kind than expected, or for what is no value. -/
def misplaced (asError : Head → DocumentError) (cs : List Char) : DocumentError :=
  match Head.read? cs with
  | some found => asError found
  | none => .malformed

def readValue (cs : List Char) : Except DocumentError (List Char × List Char) :=
  match skipSpace cs with
  | '"' :: rest =>
    match readText? rest with
    | some r => .ok r
    | none => .error .malformed
  | rest => .error (misplaced .notText rest)

/-- One member, from after the quote that opens its name. The name is looked up as soon as it is
read. -/
def readMember (cs : List Char) : Except DocumentError ((Property × String) × List Char) :=
  match readText? cs with
  | none => .error .malformed
  | some (name, afterName) =>
    match Property.ofName (String.ofList name) with
    | .error e => .error (.unknownName e)
    | .ok p =>
      match skipSpace afterName with
      | ':' :: afterColon =>
        match readValue afterColon with
        | .error e => .error e
        | .ok (value, rest) => .ok ((p, String.ofList value), rest)
      | _ => .error .malformed

theorem length_skipSpace_le (cs : List Char) : (skipSpace cs).length ≤ cs.length :=
  (List.dropWhile_sublist isSpace).length_le

theorem length_of_readValue {cs value rest : List Char} (h : readValue cs = .ok (value, rest)) :
    rest.length < cs.length := by
  have hs := length_skipSpace_le cs
  unfold readValue at h
  split at h
  · rename_i after hq
    split at h
    · rename_i r hr
      have := length_of_readText? hr
      simp_all
      omega
    · simp at h
  · simp at h

theorem length_of_readMember {cs rest : List Char} {e : Property × String}
    (h : readMember cs = .ok (e, rest)) : rest.length < cs.length := by
  unfold readMember at h
  split at h
  · simp at h
  · rename_i name afterName hn
    split at h
    · simp at h
    · split at h
      · rename_i afterColon hc
        split at h
        · simp at h
        · rename_i value r hv
          have h1 := length_of_readText? hn
          have h2 := length_skipSpace_le afterName
          have h3 := length_of_readValue hv
          simp_all
          omega
      · simp at h

/-- The members that follow, and what stands after the brace that closes the object. -/
def readMembers (cs : List Char) : Except DocumentError (List (Property × String) × List Char) :=
  match _hm : readMember cs with
  | .error e => .error e
  | .ok (e, rest) =>
    match _hs : skipSpace rest with
    | '\x7d' :: after => .ok ([e], after)
    | ',' :: after =>
      match _ha : skipSpace after with
      | '"' :: next =>
        match readMembers next with
        | .error err => .error err
        | .ok (es, last) => .ok (e :: es, last)
      | _ => .error .malformed
    | _ => .error .malformed
termination_by cs.length
decreasing_by
  have h1 := length_of_readMember _hm
  have h2 := length_skipSpace_le rest
  have h3 := length_skipSpace_le after
  simp_all
  omega

/-- The entries of an object, from after the brace that opens it. -/
def readObject (cs : List Char) : Except DocumentError (List (Property × String) × List Char) :=
  match skipSpace cs with
  | '\x7d' :: after => .ok ([], after)
  | '"' :: next => readMembers next
  | _ => .error .malformed

def documentEntries (cs : List Char) : Except DocumentError (List (Property × String)) :=
  match skipSpace cs with
  | '\x7b' :: rest =>
    match readObject rest with
    | .error e => .error e
    | .ok (es, after) => if (skipSpace after).isEmpty then .ok es else .error .malformed
  | rest => .error (misplaced .notObject rest)

/-- The configuration of a document. Of several members with one name the last stays. -/
def ofDocument (text : String) : Except DocumentError Configuration :=
  (documentEntries text.toList).map ofList

end CredentialResolution.Configuration
