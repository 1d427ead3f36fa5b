import CredentialResolution.Text.Unshown

/-! Texts written between double quotes on one line. Quotes, backslashes and unshown characters are
escaped, so different texts are written differently. -/

namespace CredentialResolution.Text
set_option autoImplicit false

/-- How a character is written between quotes; one without a short escape is given by its number. -/
def escapeChar (c : Char) : List Char :=
  if c = Char.ofNat 0 then ['\\', '0']
  else if c = '\t' then ['\\', 't']
  else if c = '\r' then ['\\', 'r']
  else if c = '\n' then ['\\', 'n']
  else if c = '"' then ['\\', '"']
  else if c = '\\' then ['\\', '\\']
  else if isUnshown c then ['\\', 'u', '{'] ++ Nat.toDigits 16 c.toNat ++ ['}']
  else [c]

def escape (cs : List Char) : List Char := cs.flatMap escapeChar

def quoted (s : String) : String := String.ofList ('"' :: escape s.toList ++ ['"'])

@[simp] theorem escape_nil : escape [] = [] := rfl

end CredentialResolution.Text
