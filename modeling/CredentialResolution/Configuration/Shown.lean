import CredentialResolution.Configuration
import CredentialResolution.Text.Quoted

/-! Configurations as they are shown, on one line or with a line for each property. A secret is
shown as redacted, so what is shown never depends on its value. -/

namespace CredentialResolution.Configuration
set_option autoImplicit false

/-- What is shown in place of a value. -/
def shownValue (p : Property) (v : String) : String :=
  if p.isSecret then "** redacted **" else v

def shownEntry (e : Property × String) : String :=
  Text.quoted e.1.name ++ ": " ++ Text.quoted (shownValue e.1 e.2)

def shown (c : Configuration) : String :=
  "\x7b" ++ ", ".intercalate (c.toList.map shownEntry) ++ "\x7d"

def shownInLines (c : Configuration) : String :=
  match c.toList with
  | [] => "\x7b\x7d"
  | es => "\x7b\n" ++ String.join (es.map fun e => "    " ++ shownEntry e ++ ",\n") ++ "\x7d"

end CredentialResolution.Configuration
