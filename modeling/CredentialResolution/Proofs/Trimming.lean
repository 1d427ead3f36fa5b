import CredentialResolution.Text.Blank

/-! Trimming, said without its two passes: blanks are taken off both ends of a text, and the text that is
left begins and ends with none. -/

namespace CredentialResolution.Text
set_option autoImplicit false

/-- What is left of a text when all blanks at its ends are gone, and nothing else. -/
inductive IsTrim (cs core : List Char) : Prop
  | intro {before after : List Char} : cs = before ++ core ++ after →
      (∀ c ∈ before, isBlank c = true) → (∀ c ∈ after, isBlank c = true) →
      (∀ c, core.head? = some c → isBlank c = false) →
      (∀ c, core.getLast? = some c → isBlank c = false) → IsTrim cs core

variable {cs core before after : List Char}

theorem trimStart_eq_self (h : ∀ c, cs.head? = some c → isBlank c = false) : trimStart cs = cs := by
  cases cs with
  | nil => rfl
  | cons c cs => exact trimStart_cons_of_not_blank (h c rfl) cs

theorem trimEnd_eq_self (h : ∀ c, cs.getLast? = some c → isBlank c = false) : trimEnd cs = cs := by
  have hreversed : trimStart cs.reverse = cs.reverse := by
    apply trimStart_eq_self
    simpa using h
  rw [trimEnd, ← trimStart, hreversed, List.reverse_reverse]

theorem trimStart_append (h : ∀ c ∈ before, isBlank c = true) :
    trimStart (before ++ cs) = trimStart cs :=
  List.dropWhile_append_of_pos h

theorem trimEnd_append (h : ∀ c ∈ after, isBlank c = true) : trimEnd (cs ++ after) = trimEnd cs := by
  have hreversed : ∀ c ∈ after.reverse, isBlank c = true := by simpa using h
  rw [trimEnd, List.reverse_append, List.dropWhile_append_of_pos hreversed, trimEnd]

theorem exists_trimEnd_append (cs : List Char) :
    ∃ after, cs = trimEnd cs ++ after ∧ ∀ c ∈ after, isBlank c = true := by
  refine ⟨(cs.reverse.takeWhile isBlank).reverse, ?_, ?_⟩
  · rw [trimEnd, ← List.reverse_append, List.takeWhile_append_dropWhile, List.reverse_reverse]
  · intro c hc
    exact List.all_eq_true.mp List.all_takeWhile c (List.mem_reverse.mp hc)

theorem not_blank_of_head_trimStart {c : Char} (h : (trimStart cs).head? = some c) :
    isBlank c = false := by
  have hfirst := List.head?_dropWhile_not isBlank cs
  rw [← trimStart, h] at hfirst
  exact hfirst

theorem IsTrim.trimmed_eq (h : IsTrim cs core) : trimmed cs = core := by
  obtain @⟨before, after, rfl, hbefore, hafter, hhead, hlast⟩ := h
  rw [trimmed, List.append_assoc, trimStart_append hbefore]
  cases core with
  | nil =>
    have hnone : trimStart (after ++ []) = trimStart [] := trimStart_append hafter
    rw [List.nil_append, ← List.append_nil after, hnone]
    rfl
  | cons c core =>
    rw [trimStart_eq_self (by simpa using hhead), trimEnd_append hafter, trimEnd_eq_self hlast]

theorem isTrim_trimmed (cs : List Char) : IsTrim cs (trimmed cs) := by
  obtain ⟨after, hsplit, hafter⟩ := exists_trimEnd_append (trimStart cs)
  have hwhole : cs = cs.takeWhile isBlank ++ trimmed cs ++ after := by
    rw [List.append_assoc, trimmed, ← hsplit, trimStart, List.takeWhile_append_dropWhile]
  refine .intro hwhole (List.all_eq_true.mp List.all_takeWhile) hafter ?_ ?_
  · intro c hc
    have hstart : (trimStart cs).head? = some c := by
      rw [hsplit, ← trimmed, List.head?_append, hc, Option.some_or]
    exact not_blank_of_head_trimStart hstart
  · intro c hc
    have hend : (trimStart (trimStart cs).reverse).head? = some c := by
      rw [← List.getLast?_reverse]
      exact hc
    exact not_blank_of_head_trimStart hend

theorem isTrim_iff : IsTrim cs core ↔ trimmed cs = core := by
  constructor
  · exact IsTrim.trimmed_eq
  · rintro rfl
    exact isTrim_trimmed cs

theorem isTrim_toList_iff {s t : String} : IsTrim s.toList t.toList ↔ trim s = t := by
  rw [isTrim_iff, ← toList_trim, String.toList_inj]

theorem trimmed_eq_nil_iff : trimmed cs = [] ↔ ∀ c ∈ cs, isBlank c = true := by
  rw [← isTrim_iff]
  constructor
  · rintro ⟨rfl, hbefore, hafter, -, -⟩ c hc
    rw [List.append_nil] at hc
    exact (List.mem_append.mp hc).elim (hbefore c) (hafter c)
  · intro h
    have hsplit : cs = cs ++ [] ++ [] := by simp
    exact .intro hsplit h (by simp) (by simp) (by simp)

end CredentialResolution.Text
