import CredentialResolution.Text.Cut

/-! Paths: the names between the slashes of a text. An empty name or a dot stays where it is, so a
slash at the end asks for a directory. -/

namespace CredentialResolution.Files
set_option autoImplicit false

/-- Why a path leads nowhere, or nothing of use is there. -/
inductive FileError
  | notFound
  | notDirectory
  | isDirectory
  | nameTooLong
  | tooManyLinks
  | nulInPath
  | notText
  deriving DecidableEq, Repr

def FileError.message : FileError → String
  | .notFound => "No such file or directory (os error 2)"
  | .notDirectory => "Not a directory (os error 20)"
  | .isDirectory => "Is a directory (os error 21)"
  | .nameTooLong => "File name too long (os error 36)"
  | .tooManyLinks => "Too many levels of symbolic links (os error 40)"
  | .nulInPath => "file name contained an unexpected NUL byte"
  | .notText => "stream did not contain valid UTF-8"

structure Path where
  absolute : Bool
  names : List String
  deriving DecidableEq, Repr

def pieces : List Char → List (List Char)
  | [] => [[]]
  | c :: cs =>
    if c = '/' then [] :: pieces cs
    else
      match pieces cs with
      | [] => [[c]]
      | p :: ps => (c :: p) :: ps

/-- A name that leads nowhere new from a directory. -/
def stays (name : String) : Bool := name == "" || name == "."

namespace Path

/-- A path without names leads nowhere, and one with a NUL is none. -/
def ofString (s : String) : Except FileError Path :=
  if Char.ofNat 0 ∈ s.toList then .error .nulInPath
  else if s = "" then .error .notFound
  else .ok ⟨s.toList.head? == some '/', (pieces s.toList).map String.ofList⟩

end Path
end CredentialResolution.Files
