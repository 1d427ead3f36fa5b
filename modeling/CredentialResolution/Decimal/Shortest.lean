import CredentialResolution.Decimal.Binary64

/-! The fewest decimal digits that read back as the same number, and their written form. Of the
decimals with that many digits the nearest is taken. -/

namespace CredentialResolution.Decimal
set_option autoImplicit false

/-- The decimal `coefficient * 10 ^ exponent`. -/
structure Digits where
  coefficient : Nat
  exponent : Int
  deriving DecidableEq, Repr

/-- The half steps from a number to its lower and its upper neighbour, as shares of `2 ^ exponent`
over four. The step down from a power of two is half as long. -/
def halfSteps (x : Binary64) : Nat × Nat :=
  if x.significand = twoTo 52 ∧ Binary64.leastExponent < x.exponent then (1, 2) else (2, 2)

/-- Whether a decimal rounds to the number: it lies between the half steps, or on one of them when
the significand is even. -/
def readsBack (x : Binary64) (d : Digits) : Bool :=
  let scale := twoTo x.exponent.toNat * tenTo (-d.exponent).toNat
  let value := 4 * d.coefficient * tenTo d.exponent.toNat * twoTo (-x.exponent).toNat
  let low := (4 * x.significand - (halfSteps x).1) * scale
  let high := (4 * x.significand + (halfSteps x).2) * scale
  if x.significand % 2 = 0 then low ≤ value && value ≤ high else low < value && value < high

/-- The count of digits before the point, zero or less for numbers below one tenth. -/
def wholeDigits (x : Binary64) : Int :=
  let r := x.ratio
  if r.2 ≤ r.1 then ((Nat.toDigits 10 (r.1 / r.2)).length : Int)
  else 1 - ((Nat.toDigits 10 ((r.2 - 1) / r.1)).length : Int)

/-- The neighbours of the number on the grid of decimals with `n` digits, the nearer one first; of two
that are as near, the even one. -/
def candidates (x : Binary64) (n : Nat) : List Digits :=
  let p := wholeDigits x - n
  let num := x.ratio.1 * tenTo (-p).toNat
  let den := x.ratio.2 * tenTo p.toNat
  let c := num / den
  let rest := 2 * (num % den)
  if rest < den ∨ (rest = den ∧ c % 2 = 0) then [⟨c, p⟩, ⟨c + 1, p⟩] else [⟨c + 1, p⟩, ⟨c, p⟩]

/-- A decimal without zeros at the end of its coefficient. -/
def Digits.reduced (d : Digits) : Nat → Digits
  | 0 => d
  | fuel + 1 =>
    if d.coefficient ≠ 0 ∧ d.coefficient % 10 = 0 then
      reduced ⟨d.coefficient / 10, d.exponent + 1⟩ fuel
    else d

/-- Seventeen digits always read back. -/
def shortest (x : Binary64) : Digits :=
  let found := (List.range 17).findSome? fun k => (candidates x (k + 1)).find? (readsBack x)
  (found.getD ⟨0, 0⟩).reduced 20

/-- Where a number is written out and where with an exponent, by the place of its point. -/
structure Layout where
  /-- The greatest count of digits before the point that is written out. -/
  mostWhole : Int
  /-- The greatest count of zeros after the point that is written out. -/
  mostZeros : Int
  deriving DecidableEq, Repr

/-- Writes a decimal. Whole numbers end in a point and a zero, and an exponent always has a sign. -/
def Layout.write (layout : Layout) (d : Digits) : String :=
  let ds := Nat.toDigits 10 d.coefficient
  let whole := d.exponent + ds.length
  if d.coefficient = 0 then "0.0"
  else if 0 ≤ d.exponent ∧ whole ≤ layout.mostWhole then
    String.ofList (ds ++ List.replicate d.exponent.toNat '0' ++ ['.', '0'])
  else if 0 < whole ∧ whole ≤ layout.mostWhole then
    String.ofList (ds.take whole.toNat ++ '.' :: ds.drop whole.toNat)
  else if -layout.mostZeros ≤ whole ∧ whole ≤ 0 then
    String.ofList (['0', '.'] ++ List.replicate (-whole).toNat '0' ++ ds)
  else
    let fraction := if ds.length ≤ 1 then [] else '.' :: ds.drop 1
    let power := whole - 1
    String.ofList (ds.take 1 ++ fraction) ++ (if 0 ≤ power then "e+" else "e-") ++
      toString power.natAbs

end CredentialResolution.Decimal
