/-! Cutting a text at the first place where a mark stands, and lengths in bytes of UTF-8. -/

namespace CredentialResolution.Text
set_option autoImplicit false

def byteLength : List Char → Nat
  | [] => 0
  | c :: cs => c.utf8Size + byteLength cs

/-- What stands before the first character that satisfies `p`, and what stands after it. -/
def cutAt (p : Char → Bool) : List Char → Option (List Char × List Char)
  | [] => none
  | c :: cs => if p c then some ([], cs) else (cutAt p cs).map fun r => (c :: r.1, r.2)

/-- What follows the characters `mark` in a text that begins with them. -/
def afterMark (mark cs : List Char) : Option (List Char) :=
  if mark.isPrefixOf cs then some (cs.drop mark.length) else none

@[simp] theorem byteLength_nil : byteLength [] = 0 := rfl

@[simp] theorem byteLength_cons (c : Char) (cs : List Char) :
    byteLength (c :: cs) = c.utf8Size + byteLength cs := rfl

@[simp] theorem byteLength_append (cs ds : List Char) :
    byteLength (cs ++ ds) = byteLength cs + byteLength ds := by
  induction cs with
  | nil => simp
  | cons c cs ih => simp [ih, Nat.add_assoc]

theorem utf8ByteSize_ofList (cs : List Char) : (String.ofList cs).utf8ByteSize = byteLength cs := by
  induction cs with
  | nil => rfl
  | cons c cs ih =>
    rw [String.ofList_cons, String.utf8ByteSize_append, ih, String.utf8ByteSize_singleton,
      byteLength_cons]

theorem byteLength_toList (s : String) : byteLength s.toList = s.utf8ByteSize := by
  rw [← utf8ByteSize_ofList, String.ofList_toList]

theorem cutAt_eq_none_iff {p : Char → Bool} {cs : List Char} :
    cutAt p cs = none ↔ ∀ c ∈ cs, p c = false := by
  induction cs with
  | nil => simp [cutAt]
  | cons c cs ih => by_cases h : p c <;> simp [cutAt, h, ih]

/-- A cut gives back the text around one character that satisfies `p`, the first to do so. -/
theorem cutAt_eq_some {p : Char → Bool} {cs before after : List Char}
    (h : cutAt p cs = some (before, after)) :
    ∃ c, p c = true ∧ cs = before ++ c :: after ∧ ∀ d ∈ before, p d = false := by
  induction cs generalizing before with
  | nil => simp [cutAt] at h
  | cons c cs ih =>
    by_cases hc : p c
    · simp only [cutAt, hc, if_true, Option.some.injEq, Prod.mk.injEq] at h
      obtain ⟨rfl, rfl⟩ := h
      exact ⟨c, hc, rfl, by simp⟩
    · simp only [cutAt, hc, Bool.false_eq_true, if_false, Option.map_eq_some_iff, Prod.mk.injEq] at h
      obtain ⟨r, hr, rfl, rfl⟩ := h
      obtain ⟨m, hm, rfl, hb⟩ := ih hr
      exact ⟨m, hm, rfl, by simpa [hc] using hb⟩

theorem cutAt_append {p : Char → Bool} {c : Char} {before after : List Char} (hc : p c = true)
    (hb : ∀ d ∈ before, p d = false) : cutAt p (before ++ c :: after) = some (before, after) := by
  induction before with
  | nil => simp [cutAt, hc]
  | cons d before ih =>
    obtain ⟨hd, hbefore⟩ := List.forall_mem_cons.mp hb
    simp [cutAt, hd, ih hbefore]

theorem afterMark_eq_some_iff {mark cs rest : List Char} :
    afterMark mark cs = some rest ↔ cs = mark ++ rest := by
  unfold afterMark
  by_cases h : mark <+: cs
  · rw [if_pos (List.isPrefixOf_iff_prefix.mpr h), Option.some.injEq]
    obtain ⟨tail, rfl⟩ := h
    rw [List.drop_left, List.append_cancel_left_eq]
  · rw [if_neg (mt List.isPrefixOf_iff_prefix.mp h)]
    simp only [reduceCtorEq, false_iff]
    rintro rfl
    exact h (List.prefix_append mark rest)

end CredentialResolution.Text
