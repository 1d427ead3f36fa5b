import CredentialResolution.Arn
import CredentialResolution.Expression.Evaluator
import CredentialResolution.Files.Basic
import CredentialResolution.SessionName
import CredentialResolution.Text.Integer
import CredentialResolution.Validation.Finding

/-! Validators of single values. A validator judges the value of an expression, never its text; a
mandatory one also refuses blank texts and texts that evaluate to nothing. -/

namespace CredentialResolution
set_option autoImplicit false

/-- A configuration with what its values are judged against. -/
structure Context where
  configuration : Configuration
  evaluator : Evaluator
  files : Files.FileSystem

inductive Validator
  | arn
  | sessionName
  | tokenFile
  | integer
  | port
  | boolean
  | credentialsFile
  deriving DecidableEq, Repr

namespace Validator

def isMandatory : Validator → Bool
  | sessionName => false
  | _ => true

def blankExplanation (subject : String) : Validator → String
  | arn => "an ARN cannot be empty or blank."
  | _ => "The \"" ++ subject ++ "\" property cannot be empty or blank."

def integerExplanation (e : Text.IntegerError) : String :=
  "is not a valid integer. The error is \"" ++ e.message ++ "\"."

/-- The integer of a text with blanks around it, or why there is none. -/
def readInteger (value : String) : Except String Int :=
  (Text.integerOf .signed32 (Text.trim value)).mapError integerExplanation

def sessionNameExplanation (subject raw : String) : String :=
  "\"" ++ raw ++ "\" is not a valid " ++ subject ++ "\n" ++
    "A web identity role session name must be between 8 and 64 characters long.\n" ++
    "It must not contain space or tab characters.\n" ++
    "It must start with an alphabetic character.\n" ++
    "The remaining characters can be alphanumeric, '_', '=', ',', '.', '@', or '-'.\n"

def noFileExplanation (path : String) : String :=
  "the path " ++ path ++ " does not exist, or is not a regular file, or it cannot be determined " ++
    "whether the file is a regular file or not."

def noPathExplanation (path : String) (e : Files.FileError) : String :=
  "an error occurred getting the real path from " ++ path ++ ". This can happen if the effective " ++
    "user does not have permissions to access all the components of the path. The error is\n" ++
    e.message ++ "\n"

/-- Follows the path to its location and looks there for a regular file. -/
def checkTokenFile (files : Files.FileSystem) (path : String) : Except String Unit :=
  match files.locate path with
  | .ok loc =>
    if files.isFile loc then .ok ()
    else .error (noFileExplanation loc.text)
  | .error .notFound => .error (noFileExplanation path)
  | .error e => .error (noPathExplanation path e)

def checkCredentialsFile (files : Files.FileSystem) (path : String) : Except String Unit :=
  if files.isFileAt path then .ok ()
  else .error ("the credentials file " ++ path ++ " does not exist or is not a regular file.")

def greatestPort : Int := 65535

/-- What a validator has against a value. The text it was evaluated from is shown in messages. -/
def check (v : Validator) (files : Files.FileSystem) (subject raw value : String) :
    Except String Unit :=
  match v with
  | arn => ((Arn.read value).mapError ArnError.message).map fun _ => ()
  | sessionName =>
    if SessionName.isValid value then .ok () else .error (sessionNameExplanation subject raw)
  | tokenFile => checkTokenFile files value
  | integer => (readInteger value).map fun _ => ()
  | port =>
    match readInteger value with
    | .error e => .error e
    | .ok n =>
      if 0 ≤ n ∧ n ≤ greatestPort then .ok ()
      else .error "the proxy port value must be between 0 and 65535."
  | boolean =>
    if Configuration.sameFolded (Text.trim value) "true" ||
        Configuration.sameFolded (Text.trim value) "false" then .ok ()
    else .error "Value must be 'true' or 'false'"
  | credentialsFile => checkCredentialsFile files value

def judge (v : Validator) (ctx : Context) (p : Property) (raw : String) : Finding :=
  let invalid := Finding.invalid p.displayName (some raw)
  if v.isMandatory && Text.allBlank raw then invalid (v.blankExplanation p.displayName)
  else
    match ctx.evaluator.valueOf p raw with
    | .error e =>
      invalid ("\"" ++ raw ++ "\" is not a valid expression. The error is " ++ e.message ++ ".")
    | .ok value =>
      if v.isMandatory && value == "" && value != raw then
        invalid ("The expression \"" ++ raw ++ "\" must not evaluate to an empty string.")
      else if v.isMandatory || value != "" then
        match v.check ctx.files p.displayName raw value with
        | .error explanation => invalid explanation
        | .ok () => .valid p.displayName (some raw)
      else .valid p.displayName (some raw)

/-- Judges what a property holds in the configuration; one that is not set is left alone. -/
def judgeProperty (v : Validator) (ctx : Context) (p : Property) : Finding :=
  match ctx.configuration.filled? p with
  | none => .notApplicable p.displayName
  | some raw => v.judge ctx p raw

end Validator
end CredentialResolution
