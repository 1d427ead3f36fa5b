import CredentialResolution.Proofs.Evaluation
import CredentialResolution.Proofs.TemplateGrammar

/-! Evaluation of a whole configuration. Either every value has one of its own and all properties keep
their places, or nothing comes of it but the first failure in the order of properties. An evaluator of
variables gives the same whether it is asked about every text or only about those with an opening. -/

namespace CredentialResolution
set_option autoImplicit false

/-- The place of a property in the order in which configurations are gone through. -/
def Property.position (p : Property) : Nat := all.idxOf p

theorem Property.all_pairwise : all.Pairwise fun p q => p.position < q.position := by decide

namespace Evaluator
variable {ev : Evaluator} {p : Property} {raw v : String}

/-- The evaluator that sees an expression in every text. -/
def unguarded (ev : Evaluator) : Evaluator := ⟨fun _ => true, ev.evaluate⟩

theorem valueOf_eq_error_iff {e : ExpressionError} :
    ev.valueOf p raw = .error e ↔
      p.supportsExpression = true ∧ ev.contains raw = true ∧ ev.evaluate raw = .error e := by
  cases hp : p.supportsExpression <;> cases hraw : ev.contains raw <;> simp [valueOf, hp, hraw]

theorem exists_valueOf_iff :
    (∃ v, ev.valueOf p raw = .ok v) ↔
      (p.supportsExpression = true → ev.contains raw = true → ∃ v, ev.evaluate raw = .ok v) := by
  cases hp : p.supportsExpression <;> cases hraw : ev.contains raw <;> simp [valueOf, hp, hraw]

end Evaluator

namespace Variables

/-- A text without an opening is its own value. -/
theorem evaluate_of_not_contains {vs : Variables} {s : String}
    (h : vs.evaluator.contains s = false) : vs.evaluate s = .ok s := by
  have hcut : Template.cutOpening s.toList = none := by simpa [evaluator] using h
  have hread : Template.read s = .ok [.literal s.toList] := by
    rw [Template.read, Template.readFrom_eq, hcut, Option.elim_none]
  simp [evaluate, hread, Except.map, Template.fill, Segment.fill]

theorem valueOf_unguarded (vs : Variables) (p : Property) (raw : String) :
    vs.evaluator.unguarded.valueOf p raw = vs.evaluator.valueOf p raw := by
  cases hp : p.supportsExpression with
  | false => rw [Evaluator.valueOf_of_not_supports hp, Evaluator.valueOf_of_not_supports hp]
  | true =>
    rw [Evaluator.valueOf_of_contains hp rfl]
    cases hraw : vs.evaluator.contains raw with
    | true => exact (Evaluator.valueOf_of_contains hp hraw).symm
    | false =>
      rw [Evaluator.valueOf_of_not_contains hraw]
      exact evaluate_of_not_contains hraw

end Variables

namespace Configuration
variable {ev : Evaluator} {c d : Configuration}

/-- What the evaluator is asked for: a value of a property that supports expressions, where one is
seen. -/
structure Asks (c : Configuration) (ev : Evaluator) (p : Property) (raw : String) : Prop where
  held : c.value? p = some raw
  supports : p.supportsExpression = true
  contains : ev.contains raw = true

/-- The value of `p` fails, and no value of an earlier property does. -/
structure FirstFailure (c : Configuration) (ev : Evaluator) (p : Property) (e : ExpressionError) :
    Prop where
  fails : ∃ raw, c.Asks ev p raw ∧ ev.evaluate raw = .error e
  first : ∀ q raw, q.position < p.position → c.Asks ev q raw → ∃ v, ev.evaluate raw = .ok v

theorem toList_pairwise (c : Configuration) :
    c.toList.Pairwise fun x y => x.1.position < y.1.position := by
  refine List.Pairwise.filterMap _ ?_ Property.all_pairwise
  intro p q hpq x hx y hy
  obtain ⟨v, -, rfl⟩ := Option.map_eq_some_iff.mp hx
  obtain ⟨w, -, rfl⟩ := Option.map_eq_some_iff.mp hy
  exact hpq

/-- What stands before an entry are the entries of earlier properties. -/
theorem mem_before_iff {before after : List (Property × String)} {p q : Property} {raw text : String}
    (hsplit : c.toList = before ++ (p, raw) :: after) :
    (q, text) ∈ before ↔ q.position < p.position ∧ c.value? q = some text := by
  have hsorted := c.toList_pairwise
  rw [hsplit, List.pairwise_append, List.pairwise_cons] at hsorted
  obtain ⟨-, ⟨hafter, -⟩, hbefore⟩ := hsorted
  rw [← mem_toList, hsplit, List.mem_append, List.mem_cons]
  constructor
  · intro hmem
    exact ⟨hbefore _ hmem _ List.mem_cons_self, .inl hmem⟩
  · intro h
    obtain ⟨hlt, hmem | heq | hmem⟩ := h
    · exact hmem
    · cases heq
      exact absurd hlt (Nat.lt_irrefl _)
    · exact absurd hlt (Nat.lt_asymm (hafter _ hmem))

theorem evaluated_eq_error_iff_mapM {p : Property} {e : ExpressionError} :
    c.evaluated ev = .error (p, e) ↔ c.toList.mapM ev.evaluateEntry = .error (p, e) := by
  unfold evaluated
  cases c.toList.mapM ev.evaluateEntry <;> simp [Except.map]

theorem evaluated_eq_error_iff {p : Property} {e : ExpressionError} :
    c.evaluated ev = .error (p, e) ↔ c.FirstFailure ev p e := by
  rw [evaluated_eq_error_iff_mapM, mapM_eq_error_iff]
  constructor
  · intro h
    obtain ⟨before, ⟨q, raw⟩, after, hsplit, hfails, hbefore⟩ := h
    obtain ⟨rfl, hvalue⟩ := Evaluator.evaluateEntry_eq_error_iff.mp hfails
    obtain ⟨hsupports, hcontains, he⟩ := Evaluator.valueOf_eq_error_iff.mp hvalue
    have hheld : c.value? p = some raw := mem_toList.mp (by simp [hsplit])
    refine ⟨⟨raw, ⟨hheld, hsupports, hcontains⟩, he⟩, ?_⟩
    intro q text hlt hasks
    obtain ⟨⟨r, v⟩, hv⟩ := hbefore _ ((mem_before_iff hsplit).mpr ⟨hlt, hasks.held⟩)
    exact Evaluator.exists_valueOf_iff.mp ⟨v, (Evaluator.evaluateEntry_eq_ok_iff.mp hv).2⟩
      hasks.supports hasks.contains
  · intro h
    obtain ⟨raw, hasks, he⟩ := h.fails
    obtain ⟨before, after, hsplit⟩ := List.append_of_mem (mem_toList.mpr hasks.held)
    have hvalue := Evaluator.valueOf_eq_error_iff.mpr ⟨hasks.supports, hasks.contains, he⟩
    refine ⟨before, (p, raw), after, hsplit,
      Evaluator.evaluateEntry_eq_error_iff.mpr ⟨rfl, hvalue⟩, ?_⟩
    rintro ⟨q, text⟩ hq
    obtain ⟨hlt, hheld⟩ := (mem_before_iff hsplit).mp hq
    obtain ⟨v, hv⟩ := Evaluator.exists_valueOf_iff.mpr fun hsupports hcontains =>
      h.first q text hlt ⟨hheld, hsupports, hcontains⟩
    exact ⟨(q, v), Evaluator.evaluateEntry_eq_ok_iff.mpr ⟨rfl, hv⟩⟩

theorem exists_evaluated_iff_asks :
    (∃ d, c.evaluated ev = .ok d) ↔ ∀ p raw, c.Asks ev p raw → ∃ v, ev.evaluate raw = .ok v := by
  rw [exists_evaluated_iff]
  constructor
  · intro h p raw hasks
    exact Evaluator.exists_valueOf_iff.mp (h p raw hasks.held) hasks.supports hasks.contains
  · intro h p raw hheld
    exact Evaluator.exists_valueOf_iff.mpr fun hsupports hcontains =>
      h p raw ⟨hheld, hsupports, hcontains⟩

theorem evaluated_congr {ev' : Evaluator} (h : ∀ p raw, ev'.valueOf p raw = ev.valueOf p raw) :
    c.evaluated ev' = c.evaluated ev := by
  have hentry : ev'.evaluateEntry = ev.evaluateEntry := by
    funext e
    simp only [Evaluator.evaluateEntry, h]
  rw [evaluated, evaluated, hentry]

/-- The properties whose values hold no expressions. -/
def literals : List Property := [.useDefault, .credentialsFile, .useAnonymous]

theorem mem_literals_iff {p : Property} : p ∈ literals ↔ p.supportsExpression = false := by
  cases p <;> decide

/-- The one configuration with the values of the other in place of its texts. -/
structure EvaluatedOnce (ev : Evaluator) (c d : Configuration) : Prop where
  keys : ∀ p, (d.value? p).isSome = (c.value? p).isSome
  literal : ∀ p ∈ literals, d.value? p = c.value? p
  value : ∀ p raw, p ∉ literals → c.value? p = some raw →
    if ev.contains raw then ∃ v, ev.evaluate raw = .ok v ∧ d.value? p = some v
    else d.value? p = some raw

theorem evaluatedOnce_of_evaluates (h : ev.Evaluates c d) : EvaluatedOnce ev c d := by
  constructor
  case keys =>
    intro p
    cases hc : c.value? p with
    | none => rw [h.absent p hc]
    | some raw =>
      obtain ⟨v, -, hd⟩ := h.present p raw hc
      rw [hd]
      rfl
  case literal => exact fun p hp => h.value?_of_not_supports (mem_literals_iff.mp hp)
  case value =>
    intro p raw hp hc
    have hsupports : p.supportsExpression = true := by simpa [mem_literals_iff] using hp
    obtain ⟨v, hv, hd⟩ := h.present p raw hc
    cases hraw : ev.contains raw with
    | true =>
      rw [Evaluator.valueOf_of_contains hsupports hraw] at hv
      exact ⟨v, hv, hd⟩
    | false =>
      rw [Evaluator.valueOf_of_not_contains hraw] at hv
      obtain rfl := Except.ok.inj hv
      exact hd

/-- What evaluation comes to: all of the values, or the first failure alone. -/
structure AllOrNothing (ev : Evaluator) (c : Configuration) : Prop where
  succeeds : (∃ d, c.evaluated ev = .ok d) ↔
    ∀ p raw, c.Asks ev p raw → ∃ v, ev.evaluate raw = .ok v
  once : ∀ d, c.evaluated ev = .ok d → EvaluatedOnce ev c d
  fails : ∀ p e, c.evaluated ev = .error (p, e) ↔ c.FirstFailure ev p e
  unguarded : ∀ vs : Variables, ev = vs.evaluator → c.evaluated ev = c.evaluated ev.unguarded

theorem allOrNothing_evaluated (c : Configuration) (ev : Evaluator) : AllOrNothing ev c where
  succeeds := exists_evaluated_iff_asks
  once := fun _ hd => evaluatedOnce_of_evaluates (evaluates_of_evaluated hd)
  fails := fun _ _ => evaluated_eq_error_iff
  unguarded := by
    rintro vs rfl
    exact (evaluated_congr vs.valueOf_unguarded).symm

end Configuration
end CredentialResolution
