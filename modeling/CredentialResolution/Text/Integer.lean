/-! Decimal integers of bounded size, read from left to right.
The first character that is no digit, or the first step past the bound, decides the error. -/

namespace CredentialResolution.Text
set_option autoImplicit false

/-- Why a text is not an integer of the wanted size. -/
inductive IntegerError
  | empty
  | invalidDigit
  | tooLarge
  | tooSmall
  deriving DecidableEq, Repr

def IntegerError.message : IntegerError → String
  | .empty => "cannot parse integer from empty string"
  | .invalidDigit => "invalid digit found in string"
  | .tooLarge => "number too large to fit in target type"
  | .tooSmall => "number too small to fit in target type"

/-- A range of integers around zero, given by the greatest magnitude on either side. -/
structure IntegerSize where
  below : Nat
  above : Nat
  deriving DecidableEq, Repr

namespace IntegerSize

/-- Thirty-two bits with a sign. -/
def signed32 : IntegerSize := ⟨2147483648, 2147483647⟩

/-- Sixteen bits without a sign. -/
def unsigned16 : IntegerSize := ⟨0, 65535⟩

def Holds (size : IntegerSize) (n : Int) : Prop := -(size.below : Int) ≤ n ∧ n ≤ size.above

instance (size : IntegerSize) (n : Int) : Decidable (size.Holds n) :=
  inferInstanceAs (Decidable (_ ∧ _))

end IntegerSize

def digit? (c : Char) : Option Nat :=
  if 48 ≤ c.toNat ∧ c.toNat ≤ 57 then some (c.toNat - 48) else none

/-- Appends digits to the number `n`, which may not grow past `bound`. -/
def readDigits (bound : Nat) (overflow : IntegerError) : Nat → List Char → Except IntegerError Nat
  | n, [] => .ok n
  | n, c :: cs =>
    match digit? c with
    | none => .error .invalidDigit
    | some d =>
      if 10 * n + d ≤ bound then readDigits bound overflow (10 * n + d) cs else .error overflow

/-- A sign needs a digit after it. -/
def readMagnitude (bound : Nat) (overflow : IntegerError) : List Char → Except IntegerError Nat
  | [] => .error .invalidDigit
  | cs => readDigits bound overflow 0 cs

/-- Reads an integer with an optional sign. A minus is no sign where nothing lies below zero. -/
def readInteger (size : IntegerSize) : List Char → Except IntegerError Int
  | [] => .error .empty
  | '+' :: cs => (readMagnitude size.above .tooLarge cs).map Int.ofNat
  | '-' :: cs =>
    if size.below = 0 then .error .invalidDigit
    else (readMagnitude size.below .tooSmall cs).map fun n => -(n : Int)
  | cs => (readDigits size.above .tooLarge 0 cs).map Int.ofNat

def integerOf (size : IntegerSize) (s : String) : Except IntegerError Int :=
  readInteger size s.toList

end CredentialResolution.Text
