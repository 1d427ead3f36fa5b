/-! Names of role sessions: which ones are accepted, and the ones made up from the time. -/

namespace CredentialResolution.SessionName
set_option autoImplicit false

def isLetter (c : Char) : Bool := ('A' ≤ c && c ≤ 'Z') || ('a' ≤ c && c ≤ 'z')

/-- The characters that may follow the first one. -/
def isInner (c : Char) : Bool :=
  isLetter c || ('0' ≤ c && c ≤ '9') || c == '_' || c == '=' || c == ',' || c == '.' || c == '@' ||
    c == '-'

/-- From 8 to 64 characters, a letter first. -/
def isValid (s : String) : Bool :=
  match s.toList with
  | [] => false
  | c :: cs => isLetter c && 7 ≤ cs.length && cs.length ≤ 63 && cs.all isInner

/-- A point in time, in whole milliseconds after the epoch or before it. -/
structure Clock where
  millis : Int
  deriving DecidableEq, Repr

/-- The name made up at a point in time; all points before the epoch give the same. -/
def generated (base : String) (now : Clock) : String := base ++ "-" ++ toString now.millis.toNat

def webBase : String := "nifi"

def roleBase : String := "assume-role-provider"

end CredentialResolution.SessionName
