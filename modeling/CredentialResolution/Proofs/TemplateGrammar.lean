import CredentialResolution.Expression.Evaluator
import CredentialResolution.Proofs.Trimming

/-! The grammar of templates, said without a reader: literal stretches in which no placeholder opens, and
placeholders that end at the first closing brace. A text has at most one template, and reading finds it;
in a text that has none it finds the leftmost opening that begins no placeholder. -/

namespace CredentialResolution
set_option autoImplicit false

/-- The error with its position moved on by `n` bytes. -/
def ExpressionError.shift (n : Nat) : ExpressionError → ExpressionError
  | unterminated position => unterminated (n + position)
  | emptyName position => emptyName (n + position)
  | nested position => nested (n + position)
  | other reason => other reason

namespace Template

def opening : List Char := ['$', '{']

/-- No placeholder opens in the text. -/
def IsLiteral (cs : List Char) : Prop := ¬ opening <:+: cs

/-- What may stand in a placeholder. -/
structure IsName (name : List Char) : Prop where
  unclosed : '}' ∉ name
  literal : IsLiteral name
  notBlank : ∃ c ∈ name, Text.isBlank c = false

/-- The text is read as the template, from left to right. -/
inductive Reads : List Char → Template → Prop
  | literal {text : List Char} : IsLiteral text → Reads text [.literal text]
  | placeholder {text name cs : List Char} {t : Template} : IsLiteral text → IsName name → Reads cs t →
      Reads (text ++ opening ++ name ++ '}' :: cs) (.literal text :: .placeholder name :: t)

/-- What becomes of a template when the names in it are looked up. -/
inductive Filled (value? : String → Option String) : Template → List Char → Prop
  | nil : Filled value? [] []
  | literal {text out : List Char} {t : Template} : Filled value? t out →
      Filled value? (.literal text :: t) (text ++ out)
  | known {name core out : List Char} {value : String} {t : Template} : Text.IsTrim name core →
      value? (String.ofList core) = some value → Filled value? t out →
      Filled value? (.placeholder name :: t) (value.toList ++ out)
  | unknown {name core out : List Char} {t : Template} : Text.IsTrim name core →
      value? (String.ofList core) = none → Filled value? t out →
      Filled value? (.placeholder name :: t) out

/-- What is wrong with an opening at a position, which `body` follows. -/
inductive Offence (position : Nat) (body : List Char) : ExpressionError → Prop
  | unterminated : '}' ∉ body → Offence position body (.unterminated position)
  | nested {name rest inner after : List Char} : body = name ++ '}' :: rest → '}' ∉ name →
      name = inner ++ opening ++ after → IsLiteral inner →
      Offence position body (.nested (position + Text.byteLength (opening ++ inner)))
  | emptyName {name rest : List Char} : body = name ++ '}' :: rest → '}' ∉ name →
      IsLiteral name → (∀ c ∈ name, Text.isBlank c = true) →
      Offence position body (.emptyName position)

/-- The leftmost offending opening: what stands before it has a template. -/
inductive Fault (cs : List Char) (e : ExpressionError) : Prop
  | intro {before body : List Char} {t : Template} : cs = before ++ opening ++ body → Reads before t →
      Offence (Text.byteLength before) body e → Fault cs e

/-- A placeholder opens at the byte `n` of the text. -/
def OpensAt (s : String) (n : Nat) : Prop :=
  ∃ before after, s = before ++ "$\x7b" ++ after ∧ before.utf8ByteSize = n

section Cuts
variable {cs before body name rest : List Char}

theorem isLiteral_nil : IsLiteral [] := by
  intro h
  cases List.infix_nil.mp h

theorem isLiteral_cons_iff {c : Char} :
    IsLiteral (c :: cs) ↔ ¬ (c = '$' ∧ ['{'] <+: cs) ∧ IsLiteral cs := by
  simp only [IsLiteral, opening, List.infix_cons_iff, List.cons_prefix_cons, eq_comm (a := '$'),
    not_or]

theorem cutOpening_of_isLiteral (h : IsLiteral cs) : cutOpening cs = none := by
  cases hcut : cutOpening cs with
  | none => rfl
  | some r =>
    rw [cutOpening_eq_some hcut] at h
    exact absurd ⟨r.1, r.2, by simp [opening]⟩ h

theorem cutOpening_append (h : IsLiteral before) :
    cutOpening (before ++ opening ++ body) = some (before, body) := by
  induction before with
  | nil => simp [opening, cutOpening]
  | cons c before ih =>
    obtain ⟨hc, hbefore⟩ := isLiteral_cons_iff.mp h
    cases before with
    | nil => simp [opening, cutOpening]
    | cons d before =>
      have hcd : ¬ (c = '$' ∧ d = '{') := by
        rintro ⟨rfl, rfl⟩
        exact hc ⟨rfl, before, rfl⟩
      have hcut := ih hbefore
      simp only [List.cons_append] at hcut ⊢
      rw [cutOpening, if_neg hcd, hcut]
      rfl

theorem isLiteral_or_opens (cs : List Char) :
    IsLiteral cs ∨ ∃ before body, IsLiteral before ∧ cs = before ++ opening ++ body := by
  induction cs with
  | nil => exact .inl isLiteral_nil
  | cons c cs ih =>
    by_cases hc : c = '$' ∧ ['{'] <+: cs
    · obtain ⟨rfl, body, rfl⟩ := hc
      exact .inr ⟨[], body, isLiteral_nil, rfl⟩
    · rcases ih with hcs | ⟨before, body, hbefore, rfl⟩
      · exact .inl (isLiteral_cons_iff.mpr ⟨hc, hcs⟩)
      · refine .inr ⟨c :: before, body, isLiteral_cons_iff.mpr ⟨?_, hbefore⟩, rfl⟩
        rintro ⟨rfl, hbrace⟩
        exact hc ⟨rfl, hbrace.trans (by simp)⟩

theorem IsName.trimmed_ne_nil (h : IsName name) : Text.trimmed name ≠ [] := by
  obtain ⟨c, hc, hblank⟩ := h.notBlank
  intro hnil
  rw [Text.trimmed_eq_nil_iff.mp hnil c hc] at hblank
  cases hblank

theorem cutClosing_eq_none_iff : cutClosing cs = none ↔ '}' ∉ cs := by
  simp only [cutClosing, Text.cutAt_eq_none_iff, beq_eq_false_iff_ne]
  exact List.forall_mem_ne'

theorem cutClosing_append (h : '}' ∉ name) : cutClosing (name ++ '}' :: rest) = some (name, rest) := by
  apply Text.cutAt_append (by decide)
  simpa using List.forall_mem_ne'.mpr h

end Cuts

section Reading
variable {n : Nat} {text name body cs : List Char} {t : Template} {e : ExpressionError}

/-- One round of reading, free of the proofs that it ends: the text up to an opening, its name up to a
closing brace, and then either an opening in the name or none. -/
theorem readFrom_eq (n : Nat) (cs : List Char) :
    readFrom n cs = (cutOpening cs).elim (.ok [.literal cs]) fun o =>
      (cutClosing o.2).elim (.error (.unterminated (n + Text.byteLength o.1))) fun c =>
        (cutOpening c.1).elim
          (if Text.trimmed c.1 = [] then .error (.emptyName (n + Text.byteLength o.1))
          else (readFrom (n + Text.byteLength o.1 + 2 + Text.byteLength c.1 + 1) c.2).map
            fun t => .literal o.1 :: .placeholder c.1 :: t)
          fun i => .error (.nested (n + Text.byteLength o.1 + 2 + Text.byteLength i.1)) := by
  rw [readFrom]
  split
  · simp_all
  · rename_i text body hopening
    rw [hopening, Option.elim_some]
    split
    · simp_all
    · rename_i name rest hclosing
      simp only [hclosing, Option.elim_some, List.isEmpty_iff]
      cases cutOpening name with
      | some r => rfl
      | none => cases readFrom (n + Text.byteLength text + 2 + Text.byteLength name + 1) rest <;> rfl

theorem readFrom_of_isLiteral (h : IsLiteral cs) : readFrom n cs = .ok [.literal cs] := by
  rw [readFrom_eq, cutOpening_of_isLiteral h, Option.elim_none]

theorem readFrom_placeholder (htext : IsLiteral text) (hname : IsName name) :
    readFrom n (text ++ opening ++ name ++ '}' :: cs) =
      (readFrom (n + Text.byteLength (text ++ opening ++ name ++ ['}'])) cs).map
        fun t => .literal text :: .placeholder name :: t := by
  have hposition : n + Text.byteLength text + 2 + Text.byteLength name + 1 =
      n + Text.byteLength (text ++ opening ++ name ++ ['}']) := by
    have hsizes : Text.byteLength opening = 2 ∧ Text.byteLength ['}'] = 1 := by decide
    simp only [Text.byteLength_append]
    omega
  rw [readFrom_eq, List.append_assoc _ name, cutOpening_append htext]
  simp only [Option.elim_some, cutClosing_append hname.unclosed, Option.elim_none,
    cutOpening_of_isLiteral hname.literal, if_neg hname.trimmed_ne_nil, hposition]

theorem readFrom_of_offence (htext : IsLiteral text)
    (hbody : Offence (n + Text.byteLength text) body e) :
    readFrom n (text ++ opening ++ body) = .error e := by
  rw [readFrom_eq, cutOpening_append htext, Option.elim_some]
  cases hbody with
  | unterminated hunclosed => rw [cutClosing_eq_none_iff.mpr hunclosed, Option.elim_none]
  | @nested name rest inner after hbody hunclosed hname hinner =>
    have hposition : n + Text.byteLength text + 2 + Text.byteLength inner =
        n + Text.byteLength text + Text.byteLength (opening ++ inner) := by
      rw [Text.byteLength_append, ← Nat.add_assoc]
      rfl
    rw [hbody, cutClosing_append hunclosed, Option.elim_some, hname, cutOpening_append hinner,
      Option.elim_some, hposition]
  | emptyName hbody hunclosed hname hblank =>
    rw [hbody, cutClosing_append hunclosed, Option.elim_some, cutOpening_of_isLiteral hname,
      Option.elim_none, if_pos (Text.trimmed_eq_nil_iff.mpr hblank)]

theorem Reads.readFrom_eq (h : Reads cs t) (n : Nat) : readFrom n cs = .ok t := by
  induction h generalizing n with
  | literal htext => exact readFrom_of_isLiteral htext
  | placeholder htext hname _ ih =>
    rw [readFrom_placeholder htext hname, ih]
    rfl

theorem Reads.readFrom_offence {before : List Char} (h : Reads before t)
    (hbody : Offence (n + Text.byteLength before) body e) :
    readFrom n (before ++ opening ++ body) = .error e := by
  induction h generalizing n with
  | literal htext => exact readFrom_of_offence htext hbody
  | @placeholder text name cs t htext hname _ ih =>
    have hsplit : text ++ opening ++ name ++ '}' :: cs ++ opening ++ body =
        text ++ opening ++ name ++ '}' :: (cs ++ opening ++ body) := by simp
    have hlength : Text.byteLength (text ++ opening ++ name ++ '}' :: cs) =
        Text.byteLength (text ++ opening ++ name ++ ['}']) + Text.byteLength cs := by
      rw [← Text.byteLength_append]
      simp
    rw [hlength, ← Nat.add_assoc] at hbody
    rw [hsplit, readFrom_placeholder htext hname, ih hbody]
    rfl

theorem Offence.shift (h : Offence n body e) (k : Nat) : Offence (k + n) body (e.shift k) := by
  cases h with
  | unterminated hunclosed => exact .unterminated hunclosed
  | nested hbody hunclosed hname hinner =>
    rw [ExpressionError.shift, ← Nat.add_assoc]
    exact .nested hbody hunclosed hname hinner
  | emptyName hbody hunclosed hname hblank => exact .emptyName hbody hunclosed hname hblank

theorem offence_or_name (n : Nat) (body : List Char) :
    (∃ e, Offence n body e) ∨ ∃ name rest, IsName name ∧ body = name ++ '}' :: rest := by
  by_cases hclosed : '}' ∈ body
  · obtain ⟨name, rest, rfl, hunclosed⟩ := List.eq_append_cons_of_mem hclosed
    rcases isLiteral_or_opens name with hname | ⟨inner, after, hinner, hname⟩
    · by_cases hblank : ∀ c ∈ name, Text.isBlank c = true
      · exact .inl ⟨_, .emptyName rfl hunclosed hname hblank⟩
      · exact .inr ⟨name, rest, ⟨hunclosed, hname, by simpa using hblank⟩, rfl⟩
    · exact .inl ⟨_, .nested rfl hunclosed hname hinner⟩
  · exact .inl ⟨_, .unterminated hclosed⟩

/-- The grammar and its faults leave no text out. -/
theorem reads_or_fault (cs : List Char) : (∃ t, Reads cs t) ∨ ∃ e, Fault cs e := by
  induction hlength : cs.length using Nat.strongRecOn generalizing cs with
  | ind length ih =>
    rcases isLiteral_or_opens cs with hcs | ⟨text, body, htext, rfl⟩
    · exact .inl ⟨_, .literal hcs⟩
    rcases offence_or_name (Text.byteLength text) body with ⟨e, he⟩ | ⟨name, rest, hname, rfl⟩
    · exact .inr ⟨e, .intro rfl (.literal htext) he⟩
    have hshorter : rest.length < length := by
      simp only [← hlength, List.length_append, List.length_cons]
      omega
    rw [← List.append_assoc]
    rcases ih rest.length hshorter rest rfl with ⟨t, ht⟩ | ⟨e, @⟨before, body, t, hrest, ht, he⟩⟩
    · exact .inl ⟨_, .placeholder htext hname ht⟩
    · -- The fault of what follows the placeholder stands further on in the whole text.
      have hsplit : text ++ opening ++ name ++ '}' :: rest =
          text ++ opening ++ name ++ '}' :: before ++ opening ++ body := by simp [hrest]
      have hmoved := he.shift (Text.byteLength (text ++ opening ++ name ++ ['}']))
      rw [← Text.byteLength_append] at hmoved
      exact .inr ⟨_, .intro hsplit (.placeholder htext hname ht) (by simpa using hmoved)⟩

theorem Fault.readFrom_eq (h : Fault cs e) : readFrom 0 cs = .error e := by
  obtain ⟨rfl, hbefore, hbody⟩ := h
  exact hbefore.readFrom_offence (by simpa using hbody)

theorem read_eq_ok_iff {s : String} : read s = .ok t ↔ Reads s.toList t := by
  constructor
  · intro h
    rcases reads_or_fault s.toList with ⟨u, hu⟩ | ⟨e, he⟩
    · obtain rfl : t = u := Except.ok.inj (h.symm.trans (hu.readFrom_eq 0))
      exact hu
    · cases h.symm.trans he.readFrom_eq
  · intro h
    exact h.readFrom_eq 0

theorem read_eq_error_iff {s : String} : read s = .error e ↔ Fault s.toList e := by
  constructor
  · intro h
    rcases reads_or_fault s.toList with ⟨t, ht⟩ | ⟨e', he'⟩
    · cases h.symm.trans (ht.readFrom_eq 0)
    · obtain rfl : e = e' := Except.error.inj (h.symm.trans he'.readFrom_eq)
      exact he'
  · exact Fault.readFrom_eq

theorem opensAt_of_append {s : String} {before after : List Char}
    (h : s.toList = before ++ opening ++ after) : OpensAt s (Text.byteLength before) := by
  refine ⟨.ofList before, .ofList after, ?_, Text.utf8ByteSize_ofList before⟩
  rw [← String.toList_inj, h]
  simp [opening]

theorem Fault.opensAt {s : String} (h : Fault s.toList e) :
    ∃ n, e.position? = some n ∧ OpensAt s n := by
  obtain @⟨before, body, t, hs, -, hbody⟩ := h
  cases hbody with
  | unterminated | emptyName => exact ⟨_, rfl, opensAt_of_append hs⟩
  | @nested name rest inner after hbody hunclosed hname hinner =>
    have hsplit : s.toList = before ++ (opening ++ inner) ++ opening ++ (after ++ '}' :: rest) := by
      rw [hs, hbody, hname]
      simp
    refine ⟨_, rfl, ?_⟩
    rw [← Text.byteLength_append]
    exact opensAt_of_append hsplit

end Reading

theorem toList_fill_cons (value? : String → Option String) (g : Segment) (t : Template) :
    (fill value? (g :: t)).toList = g.fill value? ++ (t.fill value?).toList := by
  simp [fill]

theorem filled_iff {value? : String → Option String} {t : Template} {out : List Char} :
    t.Filled value? out ↔ (t.fill value?).toList = out := by
  constructor
  · intro h
    induction h with
    | nil => rfl
    | literal _ ih => rw [toList_fill_cons, ih, Segment.fill]
    | known hcore hvalue _ ih =>
      rw [toList_fill_cons, ih, Segment.fill, hcore.trimmed_eq, hvalue, Option.getD_some]
    | unknown hcore hvalue _ ih =>
      rw [toList_fill_cons, ih, Segment.fill, hcore.trimmed_eq, hvalue, Option.getD_none,
        String.toList_empty, List.nil_append]
  · rintro rfl
    induction t with
    | nil => exact .nil
    | cons g t ih =>
      rw [toList_fill_cons]
      cases g with
      | literal text => exact .literal ih
      | placeholder name =>
        cases hvalue : value? (String.ofList (Text.trimmed name)) with
        | some value =>
          rw [Segment.fill, hvalue, Option.getD_some]
          exact .known (Text.isTrim_trimmed name) hvalue ih
        | none =>
          rw [Segment.fill, hvalue, Option.getD_none, String.toList_empty, List.nil_append]
          exact .unknown (Text.isTrim_trimmed name) hvalue ih

end Template

namespace Variables
variable {vs : Variables} {s v : String}

theorem evaluate_eq_ok_iff :
    vs.evaluate s = .ok v ↔ ∃ t, Template.Reads s.toList t ∧ t.Filled vs.value? v.toList := by
  simp only [← Template.read_eq_ok_iff, Template.filled_iff, String.toList_inj]
  cases h : Template.read s <;> simp [evaluate, h, Except.map]

theorem evaluate_eq_error_iff {e : ExpressionError} :
    vs.evaluate s = .error e ↔ Template.Fault s.toList e := by
  rw [← Template.read_eq_error_iff]
  cases h : Template.read s <;> simp [evaluate, h, Except.map]

/-- Evaluation follows the grammar: a text has a value exactly when it has a template, and then the
value is that of the template; otherwise the error tells of the leftmost offending opening, and its
position is that of an opening. -/
theorem evaluate_iff_grammar (vs : Variables) (s : String) :
    (∀ v, vs.evaluate s = .ok v ↔
      ∃ t, Template.Reads s.toList t ∧ t.Filled vs.value? v.toList) ∧
    ∀ e, vs.evaluate s = .error e ↔
      Template.Fault s.toList e ∧ ∃ n, e.position? = some n ∧ Template.OpensAt s n := by
  refine ⟨fun v => evaluate_eq_ok_iff, fun e => ?_⟩
  rw [evaluate_eq_error_iff]
  constructor
  · intro h
    exact ⟨h, h.opensAt⟩
  · exact And.left

end Variables
end CredentialResolution
