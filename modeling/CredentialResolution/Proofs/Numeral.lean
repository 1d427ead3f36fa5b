import CredentialResolution.Text.Integer

/-! Decimal numerals, read without any bound. A text is an integer of some size exactly when it is a
numeral of a number of that size; besides the bounds only a minus sign depends on the size. -/

namespace CredentialResolution.Text
set_option autoImplicit false

def IsDigit (c : Char) : Prop := 48 ≤ c.toNat ∧ c.toNat ≤ 57

instance (c : Char) : Decidable (IsDigit c) := inferInstanceAs (Decidable (_ ∧ _))

def digitValue (c : Char) : Nat := (digit? c).getD 0

/-- The number that digits give when they follow those of `n`. -/
def decimal : Nat → List Char → Nat
  | n, [] => n
  | n, c :: cs => decimal (10 * n + digitValue c) cs

def AreDigits (cs : List Char) : Prop := cs ≠ [] ∧ ∀ c ∈ cs, IsDigit c

/-- Digits, with a sign in front or without one, and the number that they stand for. -/
inductive Numeral (cs : List Char) : Int → Prop
  | unsigned : AreDigits cs → Numeral cs (decimal 0 cs)
  | plus {ds : List Char} : cs = '+' :: ds → AreDigits ds → Numeral cs (decimal 0 ds)
  | minus {ds : List Char} : cs = '-' :: ds → AreDigits ds → Numeral cs (-(decimal 0 ds : Int))

theorem le_decimal (n : Nat) (cs : List Char) : n ≤ decimal n cs := by
  induction cs generalizing n with
  | nil => exact Nat.le_refl n
  | cons c cs ih =>
    have h := ih (10 * n + digitValue c)
    simp only [decimal]
    omega

theorem digit?_eq_some {c : Char} (h : IsDigit c) : digit? c = some (digitValue c) := by
  have hd : digit? c = some (c.toNat - 48) := if_pos h
  simp [digitValue, hd]

theorem digit?_eq_none {c : Char} (h : ¬ IsDigit c) : digit? c = none := if_neg h

theorem AreDigits.head_ne {c d : Char} {cs : List Char} (h : AreDigits (c :: cs))
    (hd : ¬ IsDigit d) : c ≠ d := by
  rintro rfl
  exact hd (h.2 c List.mem_cons_self)

theorem not_isDigit_plus : ¬ IsDigit '+' := by decide

theorem not_isDigit_minus : ¬ IsDigit '-' := by decide

/-- Checking the bound at every digit is the same as checking it once at the end, because the number
only grows. -/
theorem readDigits_eq_ok_iff {bound n m : Nat} {overflow : IntegerError} {cs : List Char}
    (hn : n ≤ bound) :
    readDigits bound overflow n cs = .ok m ↔
      (∀ c ∈ cs, IsDigit c) ∧ decimal n cs = m ∧ m ≤ bound := by
  induction cs generalizing n with
  | nil =>
    simp only [readDigits, Except.ok.injEq, List.not_mem_nil, false_implies, implies_true,
      true_and, decimal]
    omega
  | cons c cs ih =>
    by_cases hc : IsDigit c
    · simp only [readDigits, digit?_eq_some hc, decimal, List.forall_mem_cons, hc, true_and]
      split
      · exact ih (by assumption)
      · rename_i hover
        have hle := le_decimal (10 * n + digitValue c) cs
        constructor
        · intro h
          simp at h
        · intro hdigits
          obtain ⟨_, rfl, hm⟩ := hdigits
          omega
    · simp [readDigits, digit?_eq_none hc, hc]

theorem readMagnitude_eq_ok_iff {bound m : Nat} {overflow : IntegerError} {cs : List Char} :
    readMagnitude bound overflow cs = .ok m ↔ AreDigits cs ∧ decimal 0 cs = m ∧ m ≤ bound := by
  cases cs with
  | nil => simp [readMagnitude, AreDigits]
  | cons c cs => simp [readMagnitude, readDigits_eq_ok_iff (Nat.zero_le bound), AreDigits]

theorem readInteger_plus (size : IntegerSize) (cs : List Char) :
    readInteger size ('+' :: cs) = (readMagnitude size.above .tooLarge cs).map Int.ofNat := rfl

theorem readInteger_minus (size : IntegerSize) (cs : List Char) :
    readInteger size ('-' :: cs) =
      if size.below = 0 then .error .invalidDigit
      else (readMagnitude size.below .tooSmall cs).map fun n : Nat => -(n : Int) := by
  cases h : readMagnitude size.below .tooSmall cs <;>
    simp [readInteger, h, Except.map, Functor.map]

theorem readInteger_unsigned {size : IntegerSize} {c : Char} (hp : c ≠ '+') (hm : c ≠ '-')
    (cs : List Char) :
    readInteger size (c :: cs) = (readMagnitude size.above .tooLarge (c :: cs)).map Int.ofNat := by
  unfold readInteger
  split <;> simp_all [readMagnitude]

theorem map_eq_ok_iff {ε α β : Type} {f : α → β} {r : Except ε α} {b : β} :
    r.map f = .ok b ↔ ∃ a, r = .ok a ∧ f a = b := by
  cases r <;> simp [Except.map]

/-- A text reads as an integer exactly when it is a numeral in the range; where nothing lies below
zero it may have no minus sign either, not even before a zero. -/
theorem readInteger_eq_ok_iff {size : IntegerSize} {cs : List Char} {n : Int} :
    readInteger size cs = .ok n ↔
      Numeral cs n ∧ size.Holds n ∧ (size.below = 0 → cs.head? ≠ some '-') := by
  constructor
  · intro h
    match cs with
    | [] => simp [readInteger] at h
    | c :: cs =>
      by_cases hp : c = '+'
      · subst hp
        rw [readInteger_plus] at h
        obtain ⟨m, hm, rfl⟩ := map_eq_ok_iff.mp h
        obtain ⟨hd, rfl, hle⟩ := readMagnitude_eq_ok_iff.mp hm
        refine ⟨.plus rfl hd, ?_, by simp⟩
        simp only [IntegerSize.Holds, Int.ofNat_eq_natCast]
        omega
      by_cases hm : c = '-'
      · subst hm
        rw [readInteger_minus] at h
        split at h
        · simp at h
        · rename_i hb
          obtain ⟨m, hm, rfl⟩ := map_eq_ok_iff.mp h
          obtain ⟨hd, rfl, hle⟩ := readMagnitude_eq_ok_iff.mp hm
          refine ⟨.minus rfl hd, ?_, fun h0 => absurd h0 hb⟩
          simp only [IntegerSize.Holds]
          omega
      · rw [readInteger_unsigned hp hm] at h
        obtain ⟨m, hm', rfl⟩ := map_eq_ok_iff.mp h
        obtain ⟨hd, rfl, hle⟩ := readMagnitude_eq_ok_iff.mp hm'
        refine ⟨.unsigned hd, ?_, by simpa using fun _ => hm⟩
        simp only [IntegerSize.Holds, Int.ofNat_eq_natCast]
        omega
  · intro hnumeral
    obtain ⟨hnum, hsize, hminus⟩ := hnumeral
    simp only [IntegerSize.Holds] at hsize
    cases hnum with
    | plus hcs hd =>
      subst hcs
      rw [readInteger_plus]
      exact map_eq_ok_iff.mpr ⟨_, readMagnitude_eq_ok_iff.mpr ⟨hd, rfl, by omega⟩, rfl⟩
    | minus hcs hd =>
      subst hcs
      have hb : size.below ≠ 0 := fun h0 => hminus h0 rfl
      rw [readInteger_minus, if_neg hb]
      exact map_eq_ok_iff.mpr ⟨_, readMagnitude_eq_ok_iff.mpr ⟨hd, rfl, by omega⟩, rfl⟩
    | unsigned hd =>
      match cs with
      | [] => exact absurd rfl hd.1
      | c :: cs =>
        rw [readInteger_unsigned (hd.head_ne not_isDigit_plus) (hd.head_ne not_isDigit_minus)]
        exact map_eq_ok_iff.mpr ⟨_, readMagnitude_eq_ok_iff.mpr ⟨hd, rfl, by omega⟩, rfl⟩

theorem Numeral.nonpos_of_minus {cs : List Char} {n : Int} (h : Numeral cs n)
    (hs : cs.head? = some '-') : n ≤ 0 := by
  cases h with
  | minus hcs hd => omega
  | plus hcs hd =>
    subst hcs
    simp at hs
  | unsigned hd =>
    match cs with
    | [] => simp at hs
    | c :: cs => exact absurd (Option.some.inj hs) (hd.head_ne not_isDigit_minus)

theorem integerOf_signed32_of_unsigned16 {s : String} {n : Int}
    (h : integerOf .unsigned16 s = .ok n) :
    integerOf .signed32 s = .ok n ∧ 0 ≤ n ∧ n ≤ 65535 := by
  obtain ⟨hnum, hsize, -⟩ := readInteger_eq_ok_iff.mp h
  simp only [IntegerSize.Holds, IntegerSize.unsigned16] at hsize
  have hlarger : IntegerSize.signed32.Holds n := by
    simp only [IntegerSize.Holds, IntegerSize.signed32]
    omega
  have hbelow : IntegerSize.signed32.below ≠ 0 := by decide
  refine ⟨readInteger_eq_ok_iff.mpr ⟨hnum, hlarger, fun h0 => absurd h0 hbelow⟩, ?_, ?_⟩ <;> omega

/-- Sixteen bits without a sign take what thirty-two bits with one take between zero and their own
greatest number, except where a minus sign stands before a zero. -/
theorem integerOf_unsigned16_iff {s : String} {n : Int} (h : integerOf .signed32 s = .ok n) :
    integerOf .unsigned16 s = .ok n ↔ (0 ≤ n ∧ n ≤ 65535) ∧ s.toList.head? ≠ some '-' := by
  obtain ⟨hnum, -, -⟩ := readInteger_eq_ok_iff.mp h
  unfold integerOf
  rw [readInteger_eq_ok_iff]
  simp only [IntegerSize.Holds, IntegerSize.unsigned16, hnum, true_and, true_implies]
  constructor
  · intro hsize
    obtain ⟨hb, hs⟩ := hsize
    exact ⟨⟨by omega, by omega⟩, hs⟩
  · intro hsize
    obtain ⟨hb, hs⟩ := hsize
    exact ⟨⟨by omega, by omega⟩, hs⟩

end CredentialResolution.Text
