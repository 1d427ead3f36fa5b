import CredentialResolution.Decimal.Shortest

/-! The lexemes of JSON: blanks, texts and numbers, each read off the front of the characters that
are left. What is read is always shorter than what there was. -/

namespace CredentialResolution.Json
set_option autoImplicit false

open Decimal

def isSpace (c : Char) : Bool := c == ' ' || c == '\n' || c == '\t' || c == '\r'

def skipSpace (cs : List Char) : List Char := cs.dropWhile isSpace

def hexDigit? (c : Char) : Option Nat :=
  let n := c.toNat
  if 48 ≤ n ∧ n ≤ 57 then some (n - 48)
  else if 65 ≤ n ∧ n ≤ 70 then some (n - 55)
  else if 97 ≤ n ∧ n ≤ 102 then some (n - 87)
  else none

def codeUnit? (a b c d : Char) : Option Nat := do
  return (((← hexDigit? a) * 16 + (← hexDigit? b)) * 16 + (← hexDigit? c)) * 16 + (← hexDigit? d)

def isLeading (n : Nat) : Bool := 0xD800 ≤ n && n ≤ 0xDBFF

def isTrailing (n : Nat) : Bool := 0xDC00 ≤ n && n ≤ 0xDFFF

def joinHalves (leading trailing : Nat) : Char :=
  Char.ofNat (0x10000 + (leading - 0xD800) * 0x400 + (trailing - 0xDC00))

def escape? : Char → Option Char
  | '"' => some '"'
  | '\\' => some '\\'
  | '/' => some '/'
  | 'b' => some (Char.ofNat 8)
  | 'f' => some (Char.ofNat 12)
  | 'n' => some '\n'
  | 'r' => some '\r'
  | 't' => some '\t'
  | _ => none

/-- One character of a text and what follows it. A half of a pair cannot stand alone, and control
characters cannot stand for themselves. -/
def readChar? : List Char → Option (Char × List Char)
  | '\\' :: 'u' :: a :: b :: c :: d :: cs =>
    match codeUnit? a b c d with
    | none => none
    | some n =>
      if isTrailing n then none
      else if isLeading n then
        match cs with
        | '\\' :: 'u' :: e :: f :: g :: h :: cs' =>
          match codeUnit? e f g h with
          | none => none
          | some t => if isTrailing t then some (joinHalves n t, cs') else none
        | _ => none
      else some (Char.ofNat n, cs)
  | '\\' :: e :: cs =>
    match escape? e with
    | none => none
    | some c => some (c, cs)
  | ['\\'] => none
  | c :: cs => if c.toNat < 0x20 then none else some (c, cs)
  | [] => none

theorem length_of_readChar? {cs rest : List Char} {c : Char}
    (h : readChar? cs = some (c, rest)) : rest.length < cs.length := by
  unfold readChar? at h
  repeat' split at h
  all_goals simp only [Option.some.injEq, Prod.mk.injEq, reduceCtorEq] at h
  all_goals obtain ⟨-, rfl⟩ := h
  all_goals simp only [List.length_cons]
  all_goals omega

def readText? (cs : List Char) : Option (List Char × List Char) :=
  if cs.head? = some '"' then some ([], cs.drop 1)
  else
    match _h : readChar? cs with
    | none => none
    | some (c, rest) => (readText? rest).map fun r => (c :: r.1, r.2)
termination_by cs.length
decreasing_by exact length_of_readChar? _h

theorem length_of_readText? {cs text rest : List Char}
    (h : readText? cs = some (text, rest)) : rest.length < cs.length := by
  fun_induction readText? cs generalizing text with
  | case1 cs hq =>
    obtain ⟨-, rfl⟩ := Prod.mk.inj (Option.some.inj h)
    cases cs <;> simp_all
  | case2 => simp at h
  | case3 cs _ c r hr ih =>
    simp only [Option.map_eq_some_iff, Prod.mk.injEq] at h
    obtain ⟨p, hp, -, rfl⟩ := h
    exact Nat.lt_trans (ih hp) (length_of_readChar? hr)

inductive Number
  | integer (n : Int)
  | real (negative : Bool) (magnitude : Binary64)
  deriving DecidableEq, Repr

def isDigit (c : Char) : Bool := '0' ≤ c && c ≤ '9'

/-- The greatest number of 64 bits. -/
def greatestWord : Nat := 18446744073709551615

/-- The greatest magnitude of a negative number of 64 bits with a sign. -/
def greatestNegative : Nat := 9223372036854775808

/-- The greatest power of ten that is reckoned with. -/
def greatestPower : Nat := 2147483647

/-- Appends digits to the coefficient `n` as long as it keeps to 64 bits, counting them. -/
def takeDigits (n count : Nat) : List Char → Nat × Nat × List Char
  | [] => (n, count, [])
  | c :: cs =>
    if isDigit c ∧ n * 10 + (c.toNat - 48) ≤ greatestWord then
      takeDigits (n * 10 + (c.toNat - 48)) (count + 1) cs
    else (n, count, c :: cs)

/-- The binary number for `n * 10 ^ e`, by one step of multiplication or division with a power of
ten, and by several for very small ones. -/
def scaled? (n : Nat) (e : Int) : Option Binary64 := do
  let x ← Binary64.ofNat n
  if 0 ≤ e then
    if e ≤ 308 then x.times (← Binary64.ofNat (tenTo e.toNat))
    else if n = 0 then some .zero else none
  else if -308 ≤ e then x.dividedBy (← Binary64.ofNat (tenTo (-e).toNat))
  else
    let y ← x.dividedBy (← Binary64.ofNat (tenTo 308))
    if -616 ≤ e then y.dividedBy (← Binary64.ofNat (tenTo (-e - 308).toNat)) else some .zero

/-- The exponent part of a number, from after its letter. An exponent past 31 bits leaves only zero
or nothing. -/
def readExponent? (n : Nat) (e : Int) (cs : List Char) : Option (Binary64 × List Char) :=
  let negative := cs.head? == some '-'
  let digits := if negative || cs.head? == some '+' then cs.drop 1 else cs
  let append (k : Nat) (c : Char) : Nat := min (k * 10 + (c.toNat - 48)) (greatestPower + 1)
  let power : Nat := (digits.takeWhile isDigit).foldl append 0
  let rest := digits.dropWhile isDigit
  if rest.length = digits.length then none
  else if greatestPower < power then
    if n ≠ 0 ∧ ¬ negative then none else some (.zero, rest)
  else
    (scaled? n (if negative then e - (power : Int) else e + power)).map fun x => (x, rest)

/-- What may follow the digits of a coefficient: an exponent, or the end of the number. -/
def finishReal? (n : Nat) (e : Int) : List Char → Option (Binary64 × List Char)
  | 'e' :: cs | 'E' :: cs => readExponent? n e cs
  | cs => (scaled? n e).map fun x => (x, cs)

def readFraction? (n : Nat) (e : Int) (cs : List Char) : Option (Binary64 × List Char) :=
  let (m, count, rest) := takeDigits n 0 cs
  if count = 0 ∧ rest.length = (rest.dropWhile isDigit).length then none
  else finishReal? m (e - count) (rest.dropWhile isDigit)

/-- A number from after its sign. Digits that no longer fit into 64 bits only count. -/
def readNumber? (negative : Bool) (cs : List Char) : Option (Number × List Char) :=
  let real (r : Option (Binary64 × List Char)) := r.map fun p => (Number.real negative p.1, p.2)
  let leadingZero := cs.head? == some '0'
  let (n, count, rest) :=
    if leadingZero then (0, 1, cs.drop 1) else takeDigits 0 0 cs
  let dropped := rest.takeWhile isDigit
  if count = 0 ∨ (leadingZero ∧ dropped ≠ []) then none
  else
    match rest.dropWhile isDigit with
    | '.' :: after => real (readFraction? n dropped.length after)
    | after =>
      if dropped ≠ [] ∨ after.head? = some 'e' ∨ after.head? = some 'E' then
        real (finishReal? n dropped.length after)
      else if negative then
        if n = 0 ∨ greatestNegative < n then real ((Binary64.ofNat n).map fun x => (x, after))
        else some (.integer (-(n : Int)), after)
      else some (.integer n, after)

/-- Numbers are written out up to sixteen digits before the point and four zeros after it. -/
def numberLayout : Layout := ⟨16, 4⟩

def Number.message : Number → String
  | integer n => "integer `" ++ toString n ++ "`"
  | real negative x =>
    "floating point `" ++ (if negative then "-" else "") ++ numberLayout.write (shortest x) ++ "`"

end CredentialResolution.Json
