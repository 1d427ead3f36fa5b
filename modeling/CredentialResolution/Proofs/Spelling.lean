import CredentialResolution.Json.Lexeme

/-! How texts may be spelled in JSON. Each relation holds of the characters that there are, of what they
say, and of the rest that follows it, and reading finds what there is. -/

namespace CredentialResolution
set_option autoImplicit false

namespace Json
variable {cs rest text : List Char} {c d : Char}

/-- Only blanks stand before the rest. -/
def Blanks (cs rest : List Char) : Prop := ∃ w, (∀ c ∈ w, isSpace c = true) ∧ cs = w ++ rest

/-- One character of a text. -/
inductive Character : List Char → Char → List Char → Prop
  | plain {c : Char} {rest : List Char} : 0x20 ≤ c.toNat → c ≠ '"' → c ≠ '\\' →
      Character (c :: rest) c rest
  | escaped {e c : Char} {rest : List Char} : escape? e = some c → Character ('\\' :: e :: rest) c rest
  | unit {a b c d : Char} {n : Nat} {rest : List Char} : codeUnit? a b c d = some n →
      isLeading n = false → isTrailing n = false →
      Character ('\\' :: 'u' :: a :: b :: c :: d :: rest) (Char.ofNat n) rest
  | pair {a b c d e f g h : Char} {n t : Nat} {rest : List Char} : codeUnit? a b c d = some n →
      isLeading n = true → codeUnit? e f g h = some t → isTrailing t = true →
      Character ('\\' :: 'u' :: a :: b :: c :: d :: '\\' :: 'u' :: e :: f :: g :: h :: rest)
        (joinHalves n t) rest

/-- A text, from after the quote that opens it. -/
inductive Spelled : List Char → List Char → List Char → Prop
  | nil {rest : List Char} : Spelled ('"' :: rest) [] rest
  | cons {cs mid text rest : List Char} {c : Char} : Character cs c mid → Spelled mid text rest →
      Spelled cs (c :: text) rest

theorem skipSpace_append {w : List Char} (hw : ∀ c ∈ w, isSpace c = true) :
    skipSpace (w ++ rest) = skipSpace rest :=
  List.dropWhile_append_of_pos hw

theorem blanks_skipSpace (cs : List Char) : Blanks cs (skipSpace cs) :=
  ⟨cs.takeWhile isSpace, List.all_eq_true.mp List.all_takeWhile, List.takeWhile_append_dropWhile.symm⟩

theorem skipSpace_eq_nil_iff : skipSpace cs = [] ↔ Blanks cs [] := by
  constructor
  · intro h
    exact h ▸ blanks_skipSpace cs
  · rintro ⟨w, hw, rfl⟩
    exact skipSpace_append hw

theorem skipSpace_eq_cons_iff (hd : isSpace d = false) :
    skipSpace cs = d :: rest ↔ Blanks cs (d :: rest) := by
  constructor
  · intro h
    exact h ▸ blanks_skipSpace cs
  · rintro ⟨w, hw, rfl⟩
    rw [skipSpace_append hw, skipSpace, List.dropWhile_cons_of_neg (by simp [hd])]

theorem Character.head?_ne (h : Character cs c rest) : cs.head? ≠ some '"' := by
  cases h with
  | plain _ hq _ => exact fun h => hq (Option.some.inj h)
  | escaped | unit | pair => exact fun h => absurd (Option.some.inj h) (by decide)

theorem character_of_readChar? (hq : cs.head? ≠ some '"') (h : readChar? cs = some (c, rest)) :
    Character cs c rest := by
  unfold readChar? at h
  repeat' split at h
  all_goals simp only [Option.some.injEq, Prod.mk.injEq, reduceCtorEq] at h
  all_goals obtain ⟨rfl, rfl⟩ := h
  · rename_i hn _ hl _ _ _ _ _ _ _ _ ht htrailing
    exact .pair hn hl ht htrailing
  · rename_i hn ht hl
    exact .unit hn (Bool.eq_false_iff.mpr hl) (Bool.eq_false_iff.mpr ht)
  · rename_i he
    exact .escaped he
  · rename_i c cs _ hescape hslash hlt
    refine .plain (Nat.le_of_not_lt hlt) (fun hc => hq (congrArg some hc)) ?_
    intro hc
    cases cs with
    | nil => exact hslash hc rfl
    | cons e cs => exact hescape e cs hc rfl

theorem isTrailing_of_isLeading {n : Nat} (h : isLeading n = true) : isTrailing n = false := by
  simp only [isLeading, isTrailing, Bool.and_eq_true, decide_eq_true_eq, Bool.and_eq_false_imp,
    decide_eq_false_iff_not] at h ⊢
  omega

theorem readChar?_of_character (h : Character cs c rest) : readChar? cs = some (c, rest) := by
  cases h with
  | plain hlt _ hs =>
    have hread : readChar? (c :: rest) = if c.toNat < 0x20 then none else some (c, rest) := by
      rw [readChar?]
      all_goals simp [hs]
    rw [hread, if_neg (Nat.not_lt.mpr hlt)]
  | @escaped e _ _ he =>
    have hu : e ≠ 'u' := by
      rintro rfl
      cases he
    rw [readChar?, he]
    simp [hu]
  | unit hn hl ht => simp [readChar?, hn, hl, ht]
  | pair hn hl ht htrailing => simp [readChar?, hn, hl, isTrailing_of_isLeading hl, ht, htrailing]

theorem readText?_eq_some_iff : readText? cs = some (text, rest) ↔ Spelled cs text rest := by
  constructor
  · intro h
    fun_induction readText? cs generalizing text with
    | case1 cs hq =>
      obtain ⟨cs, rfl⟩ := List.head?_eq_some_iff.mp hq
      obtain ⟨rfl, rfl⟩ := Prod.mk.inj (Option.some.inj h)
      exact .nil
    | case2 => cases h
    | case3 cs hq c mid hc ih =>
      obtain ⟨⟨text, rest⟩, htext, heq⟩ := Option.map_eq_some_iff.mp h
      obtain ⟨rfl, rfl⟩ := Prod.mk.inj heq
      exact .cons (character_of_readChar? hq hc) (ih htext)
  · intro h
    induction h with
    | nil =>
      rw [readText?]
      rfl
    | cons hc _ ih =>
      rw [readText?, if_neg hc.head?_ne]
      split
      · rename_i hnone
        rw [readChar?_of_character hc] at hnone
        cases hnone
      · rename_i hread
        rw [readChar?_of_character hc] at hread
        obtain ⟨rfl, rfl⟩ := Prod.mk.inj (Option.some.inj hread)
        rw [ih]
        rfl

theorem hexDigit?_digitChar {n : Nat} (h : n < 16) : hexDigit? n.digitChar = some n := by
  have hall : ∀ n < 16, hexDigit? (Nat.digitChar n) = some n := by decide
  exact hall n h

/-- Every number of sixteen bits is written with four digits. -/
theorem codeUnit?_digitChar {n : Nat} (h : n < 0x10000) :
    codeUnit? (n / 0x1000).digitChar (n / 0x100 % 16).digitChar (n / 0x10 % 16).digitChar
      (n % 16).digitChar = some n := by
  have h1 := hexDigit?_digitChar (show n / 0x1000 < 16 by omega)
  have h2 := hexDigit?_digitChar (Nat.mod_lt (n / 0x100) (by decide : 0 < 16))
  have h3 := hexDigit?_digitChar (Nat.mod_lt (n / 0x10) (by decide : 0 < 16))
  have h4 := hexDigit?_digitChar (Nat.mod_lt n (by decide : 0 < 16))
  have hsum : ((n / 0x1000 * 16 + n / 0x100 % 16) * 16 + n / 0x10 % 16) * 16 + n % 16 = n := by omega
  simp [codeUnit?, h1, h2, h3, h4, hsum]

theorem exists_character (c : Char) (rest : List Char) : ∃ cs, Character cs c rest := by
  by_cases hq : c = '"'
  · subst hq
    exact ⟨_, .escaped (e := '"') rfl⟩
  by_cases hs : c = '\\'
  · subst hs
    exact ⟨_, .escaped (e := '\\') rfl⟩
  by_cases hlt : c.toNat < 0x20
  · have hleading : isLeading c.toNat = false := by
      simp [isLeading]
      omega
    have htrailing : isTrailing c.toNat = false := by
      simp [isTrailing]
      omega
    have hunit : Character ('\\' :: 'u' :: _ :: _ :: _ :: _ :: rest) (Char.ofNat c.toNat) rest :=
      .unit (codeUnit?_digitChar (by omega)) hleading htrailing
    exact ⟨_, Char.ofNat_toNat c ▸ hunit⟩
  · exact ⟨_, .plain (Nat.le_of_not_lt hlt) hq hs⟩

theorem exists_spelled (text rest : List Char) : ∃ cs, Spelled cs text rest := by
  induction text with
  | nil => exact ⟨_, .nil⟩
  | cons c text ih =>
    obtain ⟨mid, hmid⟩ := ih
    obtain ⟨cs, hcs⟩ := exists_character c mid
    exact ⟨cs, .cons hcs hmid⟩

theorem blanks_refl (cs : List Char) : Blanks cs cs := ⟨[], List.forall_mem_nil _, rfl⟩

end Json
end CredentialResolution
