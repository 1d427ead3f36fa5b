import CredentialResolution.Configuration
import CredentialResolution.Expression.Template
import CredentialResolution.Text.Quoted

/-! Evaluators of expressions, and configurations whose values they have replaced. An evaluator is
asked only about properties that support expressions, and only where it sees one. -/

namespace CredentialResolution
set_option autoImplicit false

structure Evaluator where
  /-- Whether a text holds an expression at all. -/
  contains : String → Bool
  evaluate : String → Except ExpressionError String

namespace Evaluator

def literal : Evaluator := ⟨fun _ => false, .ok⟩

def literalShown : String := "NoExpressions"

/-- Knows whole texts only, each with its value or a reason why it has none. -/
def ofTable (table : List (String × Except String String)) : Evaluator where
  contains s := (table.lookup s).isSome
  evaluate s :=
    match table.lookup s with
    | none => .ok s
    | some (.ok v) => .ok v
    | some (.error reason) => .error (.other reason)

end Evaluator

/-- Values of variables, the newest first. -/
structure Variables where
  entries : List (String × String)
  deriving DecidableEq, Repr

namespace Variables

def empty : Variables := ⟨[]⟩

def set (vs : Variables) (name value : String) : Variables := ⟨(name, value) :: vs.entries⟩

def ofList (entries : List (String × String)) : Variables :=
  entries.foldl (fun vs e => vs.set e.1 e.2) empty

def value? (vs : Variables) (name : String) : Option String := vs.entries.lookup name

def names (vs : Variables) : List String :=
  (vs.entries.map Prod.fst).eraseDups.mergeSort fun a b => decide (a ≤ b)

def shown (vs : Variables) : String :=
  "VariableRegistry \x7b variables: [" ++ ", ".intercalate (vs.names.map Text.quoted) ++ "] \x7d"

/-- A list of names with a line for each. -/
def listedInLines : List String → String
  | [] => "[]"
  | ns => "[\n" ++ String.join (ns.map fun n => "        " ++ Text.quoted n ++ ",\n") ++ "    ]"

def shownInLines (vs : Variables) : String :=
  "VariableRegistry \x7b\n    variables: " ++ listedInLines vs.names ++ ",\n\x7d"

def evaluate (vs : Variables) (s : String) : Except ExpressionError String :=
  (Template.read s).map (Template.fill vs.value?)

def evaluator (vs : Variables) : Evaluator where
  contains s := (Template.cutOpening s.toList).isSome
  evaluate := vs.evaluate

@[simp] theorem contains_evaluator_empty (vs : Variables) : vs.evaluator.contains "" = false := by
  simp [evaluator, Template.cutOpening]

end Variables

/-- The value of `p` when its text is `raw`. -/
def Evaluator.valueOf (ev : Evaluator) (p : Property) (raw : String) :
    Except ExpressionError String :=
  if p.supportsExpression && ev.contains raw then ev.evaluate raw else .ok raw

def Evaluator.evaluateEntry (ev : Evaluator) (e : Property × String) :
    Except (Property × ExpressionError) (Property × String) :=
  match ev.valueOf e.1 e.2 with
  | .ok v => .ok (e.1, v)
  | .error err => .error (e.1, err)

/-- The configuration with every value evaluated. The first property whose value has none, in the
order of properties, is reported. -/
def Configuration.evaluated (c : Configuration) (ev : Evaluator) :
    Except (Property × ExpressionError) Configuration :=
  (c.toList.mapM ev.evaluateEntry).map Configuration.ofList

theorem Evaluator.valueOf_literal (p : Property) (raw : String) :
    literal.valueOf p raw = .ok raw := by simp [valueOf, literal]

end CredentialResolution
