import CredentialResolution.Proofs.TemplateGrammar
import Mathlib.Data.List.Basic

/-! Texts put together. Where no placeholder opens across the seam, the template of the whole is that of
the parts, with the literals at the seam made one; values are put together and faults move on. An
opening whose placeholder ends is as wrong in every longer text. -/

namespace CredentialResolution
set_option autoImplicit false

namespace Template

/-- A placeholder opens where the second text begins, although neither text holds the opening. -/
def OpensAcross (a b : List Char) : Prop := ['$'] <:+ a ∧ ['{'] <+: b

def join : Template → Template → Template
  | [], u => u
  | [.literal text], .literal text' :: u => .literal (text ++ text') :: u
  | g :: t, u => g :: join t u

section
variable {a b c : List Char} {t u : Template} {n : Nat} {e : ExpressionError}

theorem OpensAcross.of_suffix (h : OpensAcross c b) (hc : c <:+ a) : OpensAcross a b :=
  ⟨h.1.trans hc, h.2⟩

theorem OpensAcross.of_prefix (h : OpensAcross a c) (hc : c <+: b) : OpensAcross a b :=
  ⟨h.1, h.2.trans hc⟩

theorem isLiteral_append (ha : IsLiteral a) (hb : IsLiteral b) (hseam : ¬ OpensAcross a b) :
    IsLiteral (a ++ b) := by
  induction a with
  | nil => exact hb
  | cons c a ih =>
    obtain ⟨hc, ha⟩ := isLiteral_cons_iff.mp ha
    have hrest := ih ha fun h => hseam (h.of_suffix (List.suffix_cons c a))
    refine isLiteral_cons_iff.mpr ⟨?_, hrest⟩
    rintro ⟨rfl, hbrace⟩
    cases a with
    | nil => exact hseam ⟨List.suffix_refl _, hbrace⟩
    | cons d a =>
      obtain ⟨rfl, -⟩ := List.cons_prefix_cons.mp hbrace
      exact hc ⟨rfl, a, rfl⟩

theorem Reads.literal_append (ha : IsLiteral a) (hb : Reads b u) (hseam : ¬ OpensAcross a b) :
    Reads (a ++ b) (join [.literal a] u) := by
  cases hb with
  | literal hb => exact .literal (isLiteral_append ha hb hseam)
  | @placeholder text name cs t htext hname ht =>
    have hwhole : IsLiteral (a ++ text) := by
      apply isLiteral_append ha htext
      intro h
      exact hseam (h.of_prefix (by simp))
    simpa [join] using Reads.placeholder hwhole hname ht

/-- What two texts are read as, one after the other. -/
theorem Reads.append (ha : Reads a t) (hb : Reads b u) (hseam : ¬ OpensAcross a b) :
    Reads (a ++ b) (t.join u) := by
  induction ha with
  | literal ha => exact .literal_append ha hb hseam
  | @placeholder text name cs t htext hname _ ih =>
    have hsuffix : cs <:+ text ++ opening ++ name ++ '}' :: cs :=
      ⟨text ++ opening ++ name ++ ['}'], by simp⟩
    have hrest := ih fun h => hseam (h.of_suffix hsuffix)
    simpa [join] using Reads.placeholder htext hname hrest

theorem toList_fill_join (value? : String → Option String) (t u : Template) :
    ((t.join u).fill value?).toList = (t.fill value?).toList ++ (u.fill value?).toList := by
  fun_induction join t u with
  | case1 => simp [fill]
  | case2 => simp [Segment.fill, fill]
  | case3 g t u _ ih => rw [toList_fill_cons, toList_fill_cons, ih, List.append_assoc]

theorem Filled.join {value? : String → Option String} {x y : List Char} (ht : t.Filled value? x)
    (hu : u.Filled value? y) : (t.join u).Filled value? (x ++ y) := by
  rw [filled_iff] at ht hu ⊢
  rw [toList_fill_join, ht, hu]

theorem Offence.append (h : Offence n a e) (hclosed : ∀ k, e ≠ .unterminated k) (b : List Char) :
    Offence n (a ++ b) e := by
  cases h with
  | unterminated => exact absurd rfl (hclosed n)
  | @nested name rest inner after hbody hunclosed hname hinner =>
    have hlonger : a ++ b = name ++ '}' :: (rest ++ b) := by simp [hbody]
    exact .nested hlonger hunclosed hname hinner
  | @emptyName name rest hbody hunclosed hname hblank =>
    have hlonger : a ++ b = name ++ '}' :: (rest ++ b) := by simp [hbody]
    exact .emptyName hlonger hunclosed hname hblank

theorem Fault.append (h : Fault a e) (hclosed : ∀ k, e ≠ .unterminated k) (b : List Char) :
    Fault (a ++ b) e := by
  obtain ⟨rfl, hbefore, hbody⟩ := h
  exact .intro (List.append_assoc ..) hbefore (hbody.append hclosed b)

/-- Behind a text with a template, the leftmost fault is that of the text that follows. -/
theorem Reads.fault_append (ha : Reads a t) (hb : Fault b e) (hseam : ¬ OpensAcross a b) :
    Fault (a ++ b) (e.shift (Text.byteLength a)) := by
  obtain @⟨before, body, u, rfl, hbefore, hbody⟩ := hb
  have hstart := ha.append hbefore fun h => hseam (h.of_prefix (by simp))
  have hmoved := hbody.shift (Text.byteLength a)
  rw [← Text.byteLength_append] at hmoved
  exact .intro (by simp) hstart hmoved

end
end Template

/-- Evaluation goes part by part where no placeholder opens across the seam. A fault of the second part
moves on by the length of the first; one of the first stays, unless its placeholder might still end. -/
theorem Variables.evaluate_append (vs : Variables) (a b : String) :
    (¬ Template.OpensAcross a.toList b.toList → ∀ x, vs.evaluate a = .ok x →
      (∀ y, vs.evaluate b = .ok y → vs.evaluate (a ++ b) = .ok (x ++ y)) ∧
      ∀ e, vs.evaluate b = .error e → vs.evaluate (a ++ b) = .error (e.shift a.utf8ByteSize)) ∧
    ∀ n, (vs.evaluate a = .error (.emptyName n) → vs.evaluate (a ++ b) = .error (.emptyName n)) ∧
      (vs.evaluate a = .error (.nested n) → vs.evaluate (a ++ b) = .error (.nested n)) := by
  simp only [evaluate_eq_ok_iff, evaluate_eq_error_iff, String.toList_append]
  refine ⟨fun hseam x hx => ⟨fun y hy => ?_, fun e he => ?_⟩, fun n => ⟨fun h => ?_, fun h => ?_⟩⟩
  · obtain ⟨t, ht, hx⟩ := hx
    obtain ⟨u, hu, hy⟩ := hy
    exact ⟨t.join u, ht.append hu hseam, hx.join hy⟩
  · obtain ⟨t, ht, -⟩ := hx
    rw [← Text.byteLength_toList]
    exact ht.fault_append he hseam
  · exact h.append (by simp) b.toList
  · exact h.append (by simp) b.toList

theorem Variables.evaluate_append_faults :
    ¬ Template.OpensAcross "é$\x7bx\x7d$".toList "y$\x7bx".toList ∧
      (ofList [("x", "1")]).evaluate "é$\x7bx\x7d$" = .ok "é1$" ∧
      (ofList [("x", "1")]).evaluate "y$\x7bx" = .error (.unterminated 1) ∧
      (ofList [("x", "1")]).evaluate ("é$\x7bx\x7d$" ++ "y$\x7bx") = .error (.unterminated 8) ∧
      empty.evaluate "$\x7b \x7d" = .error (.emptyName 0) ∧
      empty.evaluate ("$\x7b \x7d" ++ "$\x7b") = .error (.emptyName 0) := by
  have hseam : ¬ Template.OpensAcross "é$\x7bx\x7d$".toList "y$\x7bx".toList := by
    rintro ⟨-, hbrace⟩
    revert hbrace
    decide
  have ha : (ofList [("x", "1")]).evaluate "é$\x7bx\x7d$" = .ok "é1$" := by decide +kernel
  have hb : (ofList [("x", "1")]).evaluate "y$\x7bx" = .error (.unterminated 1) := by decide +kernel
  have hblank : empty.evaluate "$\x7b \x7d" = .error (.emptyName 0) := by decide +kernel
  exact ⟨hseam, ha, hb, ((evaluate_append _ _ _).1 hseam _ ha).2 _ hb, hblank,
    ((evaluate_append _ _ _).2 0).1 hblank⟩

/-- A placeholder that opens across the seam is one of the whole alone. -/
example :
    Variables.empty.evaluate "$" = .ok "$" ∧ Variables.empty.evaluate "\x7bx\x7d" = .ok "\x7bx\x7d" ∧
      Variables.empty.evaluate ("$" ++ "\x7bx\x7d") = .ok "" := by decide +kernel

end CredentialResolution
