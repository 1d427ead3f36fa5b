import CredentialResolution.Json.Lexeme
import CredentialResolution.Text.Quoted

/-! What a JSON value is found to be where another kind was expected. Scalars are read whole; of
lists and objects only the opening is looked at. -/

namespace CredentialResolution.Json
set_option autoImplicit false

inductive Head
  | null
  | boolean (b : Bool)
  | number (n : Number)
  | text (cs : List Char)
  | list
  | object
  deriving DecidableEq, Repr

/-- The head of the value that the characters begin with, if they begin with one. -/
def Head.read? : List Char → Option Head
  | 'n' :: 'u' :: 'l' :: 'l' :: _ => some .null
  | 't' :: 'r' :: 'u' :: 'e' :: _ => some (.boolean true)
  | 'f' :: 'a' :: 'l' :: 's' :: 'e' :: _ => some (.boolean false)
  | '"' :: cs => (readText? cs).map fun r => .text r.1
  | '[' :: _ => some .list
  | '\x7b' :: _ => some .object
  | '-' :: cs => (readNumber? true cs).map fun r => .number r.1
  | c :: cs => if isDigit c then (readNumber? false (c :: cs)).map fun r => .number r.1 else none
  | [] => none

def Head.message : Head → String
  | null => "null"
  | boolean b => "boolean `" ++ (if b then "true" else "false") ++ "`"
  | number n => n.message
  | text cs => "string " ++ Text.quoted (String.ofList cs)
  | list => "sequence"
  | object => "map"

end CredentialResolution.Json
