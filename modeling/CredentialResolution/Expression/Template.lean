import CredentialResolution.Text.Blank
import CredentialResolution.Text.Cut

/-! Templates: texts with placeholders for variables. A placeholder opens with a dollar sign and a
brace and ends at the first closing brace; its name may not hold another opening. Filling a template
puts values in place of names and never reads them again. -/

namespace CredentialResolution
set_option autoImplicit false

/-- Why a text has no value. Positions count bytes from the start of the text. -/
inductive ExpressionError
  | unterminated (position : Nat)
  | emptyName (position : Nat)
  | nested (position : Nat)
  /-- An evaluator of the host gives its own reason. -/
  | other (reason : String)
  deriving DecidableEq, Repr

namespace ExpressionError

def message : ExpressionError → String
  | unterminated n => "unterminated expression starting at position " ++ toString n
  | emptyName n => "empty variable name at position " ++ toString n
  | nested n => "nested expressions are not supported (position " ++ toString n ++ ")"
  | other reason => reason

def position? : ExpressionError → Option Nat
  | unterminated n | emptyName n | nested n => some n
  | other _ => none

end ExpressionError

inductive Segment
  | literal (text : List Char)
  /-- The name as it is written, with the blanks around it. -/
  | placeholder (name : List Char)
  deriving DecidableEq, Repr

namespace Segment

def fill (value? : String → Option String) : Segment → List Char
  | literal text => text
  | placeholder name => ((value? (String.ofList (Text.trimmed name))).getD "").toList

end Segment

abbrev Template := List Segment

namespace Template

/-- What stands before the first opening of a placeholder, and what stands after it. -/
def cutOpening : List Char → Option (List Char × List Char)
  | [] => none
  | [_] => none
  | c :: d :: cs =>
    if c = '$' ∧ d = '{' then some ([], cs)
    else (cutOpening (d :: cs)).map fun r => (c :: r.1, r.2)

/-- The text up to the brace that closes a placeholder, and what stands after it. -/
def cutClosing (cs : List Char) : Option (List Char × List Char) := Text.cutAt (· == '}') cs

theorem cutOpening_eq_some {cs before body : List Char}
    (h : cutOpening cs = some (before, body)) : cs = before ++ '$' :: '{' :: body := by
  fun_induction cutOpening cs generalizing before with
  | case1 => simp at h
  | case2 => simp at h
  | case3 c d cs hcd =>
    simp only [Option.some.injEq, Prod.mk.injEq] at h
    obtain ⟨rfl, rfl⟩ := h
    simp [hcd]
  | case4 c d cs hcd ih =>
    simp only [Option.map_eq_some_iff, Prod.mk.injEq] at h
    obtain ⟨r, hr, rfl, rfl⟩ := h
    simp [ih hr]

theorem cutClosing_eq_some {cs name rest : List Char}
    (h : cutClosing cs = some (name, rest)) : cs = name ++ '}' :: rest := by
  obtain ⟨c, hc, rfl, _⟩ := Text.cutAt_eq_some h
  simp_all

/-- Reads the template that starts at byte `position` of the whole text. -/
def readFrom (position : Nat) (cs : List Char) : Except ExpressionError Template :=
  match _ho : cutOpening cs with
  | none => .ok [.literal cs]
  | some (before, body) =>
    let start := position + Text.byteLength before
    match _hc : cutClosing body with
    | none => .error (.unterminated start)
    | some (name, rest) =>
      match cutOpening name with
      | some (inner, _) => .error (.nested (start + 2 + Text.byteLength inner))
      | none =>
        if (Text.trimmed name).isEmpty then .error (.emptyName start)
        else
          match readFrom (start + 2 + Text.byteLength name + 1) rest with
          | .error e => .error e
          | .ok t => .ok (.literal before :: .placeholder name :: t)
termination_by cs.length
decreasing_by
  rw [cutOpening_eq_some _ho, cutClosing_eq_some _hc]
  simp
  omega

def read (s : String) : Except ExpressionError Template := readFrom 0 s.toList

/-- The template with every name replaced by its value, and by nothing where it has none. -/
def fill (value? : String → Option String) (t : Template) : String :=
  String.ofList (t.flatMap (Segment.fill value?))

end Template
end CredentialResolution
