import CredentialResolution.Provider.Credentials
import CredentialResolution.Text.Blank
import CredentialResolution.Text.Cut
import CredentialResolution.Text.Lines

/-! Credentials files: lines that give values to keys. Lines outside all sections and in the section
named default are read, and of several values of a key the last one stays. -/

namespace CredentialResolution.CredentialsFile
set_option autoImplicit false

/-- What a trimmed line says. -/
inductive Line
  /-- A blank line, a comment, or a line without a value. -/
  | nothing
  | header (name : List Char)
  | entry (key value : List Char)
  deriving DecidableEq, Repr

def startsComment (c : Char) : Bool := c == '#' || c == '!' || c == ';'

def isSeparator (c : Char) : Bool := c == '=' || c == ':'

def headerName? : List Char → Option (List Char)
  | '[' :: cs => if cs.getLast? = some ']' then some (Text.trimmed cs.dropLast) else none
  | _ => none

/-- Key and value around the first separator; a value that is blank says nothing. -/
def Line.ofEntry (cs : List Char) : Line :=
  match Text.cutAt isSeparator cs with
  | none => .nothing
  | some (key, value) =>
    if (Text.trimmed value).isEmpty then .nothing
    else .entry (Text.trimmed key) (Text.trimmed value)

def Line.read (line : List Char) : Line :=
  match Text.trimmed line with
  | [] => .nothing
  | c :: cs =>
    if startsComment c then .nothing
    else
      match headerName? (c :: cs) with
      | some name => .header name
      | none => .ofEntry (c :: cs)

/-- The section whose lines are read, like those before any section. -/
def defaultSection : List Char := "default".toList

/-- The entries of the lines that are read, where the lines follow a header or none. -/
def entriesAfter (current : Option (List Char)) : List Line → List (List Char × List Char)
  | [] => []
  | .nothing :: ls => entriesAfter current ls
  | .header name :: ls => entriesAfter (some name) ls
  | .entry key value :: ls =>
    if current.getD defaultSection = defaultSection then (key, value) :: entriesAfter current ls
    else entriesAfter current ls

def entries (text : String) : List (List Char × List Char) :=
  entriesAfter none ((Text.lines text.toList).map Line.read)

inductive Key
  | access
  | secret
  | token
  deriving DecidableEq, Repr

def Key.names : Key → List String
  | access => ["accessKey", "aws_access_key_id"]
  | secret => ["secretKey", "aws_secret_access_key"]
  | token => ["aws_session_token"]

def lastValue? (key : Key) (es : List (List Char × List Char)) : Option String :=
  (es.reverse.find? fun e => key.names.contains (String.ofList e.1)).map fun e => String.ofList e.2

/-- A key that the file does not give. -/
structure MissingKey where
  key : Key
  deriving DecidableEq, Repr

def MissingKey.message (e : MissingKey) : String :=
  "the credentials file does not define `" ++ e.key.names.headD "" ++ "`"

def providerName : String := "CredentialsFile"

/-- The credentials of a file. The access key is asked for first. -/
def read (text : String) : Except MissingKey Credentials :=
  let es := entries text
  match lastValue? .access es, lastValue? .secret es with
  | none, _ => .error ⟨.access⟩
  | some _, none => .error ⟨.secret⟩
  | some access, some secret => .ok ⟨access, secret, lastValue? .token es, none, providerName⟩

end CredentialResolution.CredentialsFile
