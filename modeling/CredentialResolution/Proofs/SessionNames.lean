import CredentialResolution.SessionName

/-! Names of sessions that are made up from the time. All their digits are characters that may follow the
first one, so that only their length decides whether they are accepted. -/

namespace CredentialResolution.SessionName
set_option autoImplicit false

variable {now : Clock}

/-- The milliseconds since the epoch in decimal digits. -/
def Clock.digits (now : Clock) : List Char := Nat.toDigits 10 now.millis.toNat

/-- Clocks count whole seconds in sixty-four bits. -/
def Clock.mostMillis : Int := 18446744073709551615999

theorem Clock.length_digits_le (hmost : now.millis ≤ Clock.mostMillis) : now.digits.length ≤ 23 := by
  refine (Nat.length_toDigits_le_iff (by decide) (by decide)).mpr ?_
  simp only [Clock.mostMillis] at hmost
  omega

theorem toList_generated (base : String) (now : Clock) :
    (generated base now).toList = base.toList ++ '-' :: now.digits := by
  simp [generated, Clock.digits]

theorem isInner_of_isDigit {c : Char} (h : c.isDigit = true) : isInner c = true := by
  simp only [Char.isDigit, Bool.and_eq_true, decide_eq_true_eq] at h
  have hrange : '0' ≤ c ∧ c ≤ '9' := h
  simp [isInner, hrange]

theorem isInner_of_mem_digits {c : Char} (h : c ∈ now.digits) : isInner c = true :=
  isInner_of_isDigit (Nat.isDigit_of_mem_toDigits (by decide) (by decide) h)

/-- With a base of the right characters a name is as good as it is long. -/
theorem isValid_generated_iff {base : String} {c : Char} {cs : List Char}
    (hbase : base.toList = c :: cs) (hc : isLetter c = true) (hcs : cs.all isInner = true) :
    isValid (generated base now) = true ↔
      7 ≤ cs.length + 1 + now.digits.length ∧ cs.length + 1 + now.digits.length ≤ 63 := by
  have hlist : (generated base now).toList = c :: (cs ++ '-' :: now.digits) := by
    rw [toList_generated, hbase, List.cons_append]
  have hall : (cs ++ '-' :: now.digits).all isInner = true := by
    have hhyphen : isInner '-' = true := by decide
    have hdigits : now.digits.all isInner = true :=
      List.all_eq_true.mpr fun _ => isInner_of_mem_digits
    rw [List.all_append, List.all_cons, hcs, hhyphen, hdigits]
    rfl
  have hlength : (cs ++ '-' :: now.digits).length = cs.length + 1 + now.digits.length := by
    rw [List.length_append, List.length_cons]
    omega
  simp only [isValid, hlist, hc, hall, hlength, Bool.true_and, Bool.and_true, Bool.and_eq_true,
    decide_eq_true_eq]

theorem isValid_generated_web_iff :
    isValid (generated webBase now) = true ↔ 100 ≤ now.millis ∧ now.digits.length ≤ 59 := by
  have hbase : webBase.toList = 'n' :: ['i', 'f', 'i'] := rfl
  have htwo : now.digits.length ≤ 2 ↔ now.millis.toNat < 100 :=
    Nat.length_toDigits_le_iff (by decide) (by decide)
  rw [isValid_generated_iff hbase (by decide) (by decide)]
  simp only [List.length_cons, List.length_nil]
  constructor
  · intro hlength
    have hmore : ¬ now.millis.toNat < 100 := by
      rw [← htwo]
      omega
    exact ⟨by omega, by omega⟩
  · intro hlength
    obtain ⟨hleast, hmost⟩ := hlength
    have hmore : ¬ now.digits.length ≤ 2 := by
      rw [htwo]
      omega
    exact ⟨by omega, by omega⟩

end CredentialResolution.SessionName
