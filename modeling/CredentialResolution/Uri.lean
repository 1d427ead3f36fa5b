import CredentialResolution.Text.Cut

/-! Which texts are absolute addresses of the scheme `http`: an authority that is not empty, then a
path and a query of allowed characters. What follows a number sign does not count. Last, which texts
are names of hosts. -/

namespace CredentialResolution.Uri
set_option autoImplicit false

def isAlphanumeric (c : Char) : Bool :=
  ('A' ≤ c && c ≤ 'Z') || ('a' ≤ c && c ≤ 'z') || ('0' ≤ c && c ≤ '9')

def endsAuthority (c : Char) : Bool := c == '/' || c == '?' || c == '#'

def isAuthorityChar (c : Char) : Bool :=
  isAlphanumeric c || c == '!' || c == '$' || c == '&' || c == '\'' || c == '(' || c == ')' ||
    c == '*' || c == '+' || c == ',' || c == '-' || c == '.' || c == ':' || c == ';' || c == '=' ||
    c == '@' || c == '[' || c == ']' || c == '_' || c == '~'

/-- What has been seen of an authority. Colons and percent signs count from the last at sign or
closing bracket on: those before it belong to a user or to a numeric host. -/
structure Seen where
  colons : Nat
  percent : Bool
  opened : Bool
  closed : Bool
  atSign : Bool
  deriving DecidableEq, Repr

def Seen.start : Seen := ⟨0, false, false, false, false⟩

/-- The most colons in a numeric host with its port. -/
def mostColons : Nat := 8

def Seen.next? (s : Seen) (c : Char) : Option Seen :=
  let s := { s with atSign := c == '@' }
  if c = ':' then
    if s.colons < mostColons then some { s with colons := s.colons + 1 } else none
  else if c = '[' then
    if s.percent || s.opened then none else some { s with opened := true }
  else if c = ']' then
    if !s.opened || s.closed then none
    else some { s with closed := true, colons := 0, percent := false }
  else if c = '@' then some { s with colons := 0, percent := false }
  else if c = '%' then some { s with percent := true }
  else if isAuthorityChar c then some s
  else none

/-- An authority may end after balanced brackets, at most one colon of a port, and a host. -/
def Seen.mayEnd (s : Seen) : Bool :=
  s.opened == s.closed && s.colons ≤ 1 && !s.atSign && !s.percent

def isAuthority (cs : List Char) : Bool :=
  !cs.isEmpty && ((cs.foldlM Seen.next? Seen.start).map Seen.mayEnd).getD false

def isQueryChar (c : Char) : Bool :=
  let n := c.toNat
  n == 0x21 || (0x24 ≤ n && n ≤ 0x3B) || n == 0x3D || (0x3F ≤ n && n ≤ 0x7E)

def isPathChar (c : Char) : Bool :=
  let n := c.toNat
  n == 0x21 || n == 0x22 || (0x24 ≤ n && n ≤ 0x3B) || n == 0x3D || (0x40 ≤ n && n ≤ 0x5F) ||
    (0x61 ≤ n && n ≤ 0x7E)

def isPathAndQuery (cs : List Char) : Bool :=
  (cs.takeWhile (· != '?')).all isPathChar && ((cs.dropWhile (· != '?')).drop 1).all isQueryChar

/-- Longer addresses are refused. -/
def mostBytes : Nat := 65534

/-- Whether a text is an address of the scheme `http`. -/
def isAddress (s : String) : Bool :=
  match Text.afterMark ['h', 't', 't', 'p', ':', '/', '/'] s.toList with
  | none => false
  | some cs =>
    let authority := cs.takeWhile fun c => !endsAuthority c
    let rest := (cs.dropWhile fun c => !endsAuthority c).takeWhile (· != '#')
    s.utf8ByteSize ≤ mostBytes && isAuthority authority && isPathAndQuery rest

def mostLabelLength : Nat := 63

/-- A label of a host name: letters, digits and hyphens, of which none comes first. -/
def isLabel (cs : List Char) : Bool :=
  !cs.isEmpty && cs.length ≤ mostLabelLength && cs.head? != some '-' &&
    cs.all fun c => isAlphanumeric c || c == '-'

def labels : List Char → List (List Char)
  | [] => [[]]
  | c :: cs =>
    if c = '.' then [] :: labels cs
    else
      match labels cs with
      | [] => [[c]]
      | l :: ls => (c :: l) :: ls

def isHostName (cs : List Char) : Bool := (labels cs).all isLabel

end CredentialResolution.Uri
