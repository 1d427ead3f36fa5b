import CredentialResolution.Expression.Evaluator

/-! Evaluated configurations, property by property. Evaluation succeeds exactly when every value that
is present has a value of its own, and it neither adds nor removes properties. -/

namespace CredentialResolution
set_option autoImplicit false

section Traversal
variable {ε α β : Type} {f : α → Except ε β}

theorem mapM_cons_eq_ok_iff {x : α} {xs : List α} {zs : List β} :
    (x :: xs).mapM f = .ok zs ↔ ∃ y ys, f x = .ok y ∧ xs.mapM f = .ok ys ∧ zs = y :: ys := by
  rw [List.mapM_cons]
  cases hx : f x with
  | error e => simp [bind, Except.bind]
  | ok y =>
    cases hxs : xs.mapM f with
    | error e => simp [bind, Except.bind]
    | ok ys => simp [bind, Except.bind, pure, Except.pure, eq_comm]

theorem mem_of_mapM {xs : List α} {ys : List β} (h : xs.mapM f = .ok ys) (y : β) :
    y ∈ ys ↔ ∃ x ∈ xs, f x = .ok y := by
  induction xs generalizing ys with
  | nil =>
    obtain rfl : [] = ys := Except.ok.inj h
    simp
  | cons x xs ih =>
    obtain ⟨z, zs, hz, hzs, rfl⟩ := mapM_cons_eq_ok_iff.mp h
    simp [ih hzs, hz, eq_comm]

theorem exists_mapM {xs : List α} (h : ∀ x ∈ xs, ∃ y, f x = .ok y) : ∃ ys, xs.mapM f = .ok ys := by
  induction xs with
  | nil => exact ⟨[], rfl⟩
  | cons x xs ih =>
    obtain ⟨y, hy⟩ := h x List.mem_cons_self
    obtain ⟨ys, hys⟩ := ih fun z hz => h z (List.mem_cons_of_mem x hz)
    exact ⟨y :: ys, mapM_cons_eq_ok_iff.mpr ⟨y, ys, hy, hys, rfl⟩⟩

theorem ok_of_mapM {xs : List α} {ys : List β} (h : xs.mapM f = .ok ys) :
    ∀ x ∈ xs, ∃ y, f x = .ok y := by
  induction xs generalizing ys with
  | nil => simp
  | cons x xs ih =>
    obtain ⟨y, zs, hy, hzs, rfl⟩ := mapM_cons_eq_ok_iff.mp h
    intro z hz
    rcases List.mem_cons.mp hz with rfl | hz
    · exact ⟨y, hy⟩
    · exact ih hzs z hz

theorem mapM_cons_eq_error_iff {x : α} {xs : List α} {e : ε} :
    (x :: xs).mapM f = .error e ↔ f x = .error e ∨ (∃ y, f x = .ok y) ∧ xs.mapM f = .error e := by
  rw [List.mapM_cons]
  cases hx : f x with
  | error e' => simp [bind, Except.bind]
  | ok y => cases xs.mapM f <;> simp [bind, Except.bind, pure, Except.pure]

/-- A traversal fails as the first of its elements does that fails at all. -/
theorem mapM_eq_error_iff {xs : List α} {e : ε} :
    xs.mapM f = .error e ↔
      ∃ before x after, xs = before ++ x :: after ∧ f x = .error e ∧
        ∀ y ∈ before, ∃ z, f y = .ok z := by
  induction xs with
  | nil => simp [pure, Except.pure]
  | cons x xs ih =>
    rw [mapM_cons_eq_error_iff, ih]
    constructor
    · intro h
      rcases h with hx | ⟨hx, before, y, after, rfl, hy, hbefore⟩
      · exact ⟨[], x, xs, rfl, hx, by simp⟩
      · exact ⟨x :: before, y, after, rfl, hy, List.forall_mem_cons.mpr ⟨hx, hbefore⟩⟩
    · intro h
      obtain ⟨before, y, after, hsplit, hy, hbefore⟩ := h
      cases before with
      | nil =>
        obtain ⟨rfl, rfl⟩ := List.cons.inj hsplit
        exact .inl hy
      | cons z before =>
        obtain ⟨rfl, rfl⟩ := List.cons.inj hsplit
        obtain ⟨hz, hbefore⟩ := List.forall_mem_cons.mp hbefore
        exact .inr ⟨hz, before, y, after, rfl, hy, hbefore⟩

/-- A traversal that keeps a key of its elements keeps the list of the keys. -/
theorem map_of_mapM {κ : Type} {k : α → κ} {l : β → κ} (hf : ∀ x y, f x = .ok y → l y = k x)
    {xs : List α} {ys : List β} (h : xs.mapM f = .ok ys) : ys.map l = xs.map k := by
  induction xs generalizing ys with
  | nil =>
    obtain rfl : [] = ys := Except.ok.inj h
    rfl
  | cons x xs ih =>
    obtain ⟨y, zs, hy, hzs, rfl⟩ := mapM_cons_eq_ok_iff.mp h
    simp [hf x y hy, ih hzs]

end Traversal

namespace Configuration

theorem filled?_eq_some_iff {c : Configuration} {p : Property} {v : String} :
    c.filled? p = some v ↔ c.value? p = some v ∧ v ≠ "" := by
  simp [filled?, Option.filter_eq_some_iff]

theorem isSet_iff_filled {c : Configuration} {p : Property} :
    c.isSet p = true ↔ ∃ v, c.filled? p = some v := Option.isSome_iff_exists

theorem isSet_eq_false_iff {c : Configuration} {p : Property} :
    c.isSet p = false ↔ c.filled? p = none := Option.isSome_eq_false_iff.trans Option.isNone_iff_eq_none

theorem keys_toList (c : Configuration) :
    c.toList.map Prod.fst = Property.all.filter fun p => (c.value? p).isSome := by
  unfold toList
  induction Property.all with
  | nil => rfl
  | cons p ps ih => cases h : c.value? p <;> simp [h, ih]

theorem nodup_keys_toList (c : Configuration) : (c.toList.map Prod.fst).Nodup := by
  rw [keys_toList]
  exact Property.all_nodup.filter _

theorem value?_foldl_set {entries : List (Property × String)} (hn : (entries.map Prod.fst).Nodup)
    (c : Configuration) (p : Property) (v : String) :
    (entries.foldl (fun c e => c.set e.1 e.2) c).value? p = some v ↔
      (p, v) ∈ entries ∨ p ∉ entries.map Prod.fst ∧ c.value? p = some v := by
  induction entries generalizing c with
  | nil => simp
  | cons e entries ih =>
    obtain ⟨q, w⟩ := e
    obtain ⟨hq, hn⟩ := List.nodup_cons.mp hn
    rw [List.foldl_cons, ih hn, value?_set]
    by_cases hp : p = q
    · subst hp
      have hv : (p, v) ∉ entries := fun h => hq (List.mem_map.mpr ⟨_, h, rfl⟩)
      simp only [if_pos, List.mem_cons, Prod.mk.injEq, List.map_cons, hv, true_and, or_false,
        Option.some.injEq]
      constructor
      · rintro (h | ⟨_, rfl⟩)
        · exact h.elim
        · exact .inl rfl
      · rintro (rfl | ⟨h, _⟩)
        · exact .inr ⟨hq, rfl⟩
        · exact absurd (.inl trivial) h
    · simp [hp]

/-- Where no property comes twice, every entry stays. -/
theorem value?_ofList {entries : List (Property × String)} (hn : (entries.map Prod.fst).Nodup)
    (p : Property) (v : String) : (ofList entries).value? p = some v ↔ (p, v) ∈ entries := by
  simp [ofList, value?_foldl_set hn]

end Configuration

/-- The values of `d` are those of the values of `c`, for the same properties. -/
structure Evaluator.Evaluates (ev : Evaluator) (c d : Configuration) : Prop where
  absent : ∀ p, c.value? p = none → d.value? p = none
  present : ∀ p raw, c.value? p = some raw →
    ∃ v, ev.valueOf p raw = .ok v ∧ d.value? p = some v

namespace Evaluator
variable {ev : Evaluator} {c d : Configuration}

theorem valueOf_of_not_supports {p : Property} {raw : String} (hp : p.supportsExpression = false) :
    ev.valueOf p raw = .ok raw := by
  rw [valueOf, hp, Bool.false_and, if_neg Bool.false_ne_true]

theorem valueOf_of_not_contains {raw : String} (h : ev.contains raw = false) (p : Property) :
    ev.valueOf p raw = .ok raw := by
  rw [valueOf, h, Bool.and_false, if_neg Bool.false_ne_true]

theorem valueOf_of_contains {p : Property} {raw : String} (hp : p.supportsExpression = true)
    (h : ev.contains raw = true) : ev.valueOf p raw = ev.evaluate raw := by
  rw [valueOf, hp, h, Bool.and_self, if_pos rfl]

theorem evaluateEntry_eq_ok_iff {p q : Property} {raw v : String} :
    ev.evaluateEntry (p, raw) = .ok (q, v) ↔ q = p ∧ ev.valueOf p raw = .ok v := by
  unfold evaluateEntry
  cases h : ev.valueOf p raw <;> simp [eq_comm]

theorem evaluateEntry_eq_error_iff {p q : Property} {raw : String} {e : ExpressionError} :
    ev.evaluateEntry (p, raw) = .error (q, e) ↔ q = p ∧ ev.valueOf p raw = .error e := by
  unfold evaluateEntry
  cases h : ev.valueOf p raw <;> simp [eq_comm]

theorem Evaluates.unique {d' : Configuration} (h : ev.Evaluates c d) (h' : ev.Evaluates c d') :
    d = d' := by
  ext1
  funext p
  cases hc : c.value? p with
  | none => rw [h.absent p hc, h'.absent p hc]
  | some raw =>
    obtain ⟨v, hv, hd⟩ := h.present p raw hc
    obtain ⟨v', hv', hd'⟩ := h'.present p raw hc
    obtain rfl : v = v' := Except.ok.inj (hv.symm.trans hv')
    rw [hd, hd']

/-- The evaluated value of a property goes back to a value that it has. -/
theorem Evaluates.source (h : ev.Evaluates c d) {p : Property} {v : String}
    (hd : d.value? p = some v) : ∃ raw, c.value? p = some raw ∧ ev.valueOf p raw = .ok v := by
  cases hc : c.value? p with
  | none => simp [h.absent p hc] at hd
  | some raw =>
    obtain ⟨w, hw, hdw⟩ := h.present p raw hc
    obtain rfl : w = v := Option.some.inj (hdw.symm.trans hd)
    exact ⟨raw, rfl, hw⟩

theorem Evaluates.value?_of_not_supports (h : ev.Evaluates c d) {p : Property}
    (hp : p.supportsExpression = false) : d.value? p = c.value? p := by
  cases hc : c.value? p with
  | none => exact h.absent p hc
  | some raw =>
    obtain ⟨v, hv, hd⟩ := h.present p raw hc
    obtain rfl : raw = v := Except.ok.inj ((valueOf_of_not_supports hp).symm.trans hv)
    exact hd

/-- The empty text has itself as its value where no expression is seen in it. -/
theorem valueOf_empty (h : ev.contains "" = false) (p : Property) : ev.valueOf p "" = .ok "" :=
  valueOf_of_not_contains h p

/-- Then no property becomes set. -/
theorem Evaluates.source_filled (h : ev.Evaluates c d) (hempty : ev.contains "" = false)
    {p : Property} {v : String} (hv : d.filled? p = some v) :
    ∃ raw, c.filled? p = some raw ∧ ev.valueOf p raw = .ok v := by
  obtain ⟨hd, hne⟩ := Configuration.filled?_eq_some_iff.mp hv
  obtain ⟨raw, hraw, hvalue⟩ := h.source hd
  refine ⟨raw, Configuration.filled?_eq_some_iff.mpr ⟨hraw, ?_⟩, hvalue⟩
  rintro rfl
  rw [valueOf_empty hempty] at hvalue
  exact hne (Except.ok.inj hvalue).symm

theorem evaluates_of_mapM {entries : List (Property × String)}
    (h : c.toList.mapM ev.evaluateEntry = .ok entries) :
    ev.Evaluates c (.ofList entries) := by
  have hkeys : entries.map Prod.fst = c.toList.map Prod.fst := by
    apply map_of_mapM _ h
    rintro ⟨p, raw⟩ ⟨q, v⟩ he
    exact (evaluateEntry_eq_ok_iff.mp he).1
  have hn : (entries.map Prod.fst).Nodup := hkeys ▸ c.nodup_keys_toList
  have hmem : ∀ p v, (Configuration.ofList entries).value? p = some v ↔
      ∃ raw, c.value? p = some raw ∧ ev.valueOf p raw = .ok v := by
    intro p v
    rw [Configuration.value?_ofList hn, mem_of_mapM h]
    constructor
    · intro hentry
      obtain ⟨⟨q, raw⟩, hq, he⟩ := hentry
      obtain ⟨rfl, hv⟩ := evaluateEntry_eq_ok_iff.mp he
      exact ⟨raw, Configuration.mem_toList.mp hq, hv⟩
    · intro hvalue
      obtain ⟨raw, hraw, hv⟩ := hvalue
      exact ⟨(p, raw), Configuration.mem_toList.mpr hraw,
        evaluateEntry_eq_ok_iff.mpr ⟨rfl, hv⟩⟩
  constructor
  · intro p hp
    cases hd : (Configuration.ofList entries).value? p with
    | none => rfl
    | some v =>
      obtain ⟨raw, hraw, -⟩ := (hmem p v).mp hd
      simp [hp] at hraw
  · intro p raw hraw
    obtain ⟨⟨q, v⟩, he⟩ := ok_of_mapM h (p, raw) (Configuration.mem_toList.mpr hraw)
    obtain ⟨rfl, hv⟩ := evaluateEntry_eq_ok_iff.mp he
    exact ⟨v, hv, (hmem q v).mpr ⟨raw, hraw, hv⟩⟩

end Evaluator

namespace Configuration
variable {ev : Evaluator} {c d : Configuration}

theorem evaluated_of_forall
    (h : ∀ p raw, c.value? p = some raw → ∃ v, ev.valueOf p raw = .ok v) :
    ∃ d, c.evaluated ev = .ok d := by
  have he : ∃ entries, c.toList.mapM ev.evaluateEntry = .ok entries := by
    apply exists_mapM
    rintro ⟨p, raw⟩ hp
    obtain ⟨v, hv⟩ := h p raw (mem_toList.mp hp)
    exact ⟨(p, v), Evaluator.evaluateEntry_eq_ok_iff.mpr ⟨rfl, hv⟩⟩
  obtain ⟨entries, he⟩ := he
  exact ⟨ofList entries, by rw [evaluated, he]; rfl⟩

theorem evaluates_of_evaluated (h : c.evaluated ev = .ok d) : ev.Evaluates c d := by
  unfold evaluated at h
  cases he : c.toList.mapM ev.evaluateEntry with
  | error e => simp [he, Except.map] at h
  | ok entries =>
    obtain rfl : ofList entries = d := by simpa [he, Except.map] using h
    exact Evaluator.evaluates_of_mapM he

theorem evaluated_eq_ok_iff : c.evaluated ev = .ok d ↔ ev.Evaluates c d := by
  refine ⟨evaluates_of_evaluated, fun h => ?_⟩
  obtain ⟨d', hd'⟩ := evaluated_of_forall fun p raw hp => (h.present p raw hp).imp fun _ => And.left
  rw [hd', (evaluates_of_evaluated hd').unique h]

theorem exists_evaluated_iff :
    (∃ d, c.evaluated ev = .ok d) ↔
      ∀ p raw, c.value? p = some raw → ∃ v, ev.valueOf p raw = .ok v := by
  refine ⟨?_, evaluated_of_forall⟩
  rintro ⟨d, hd⟩ p raw hp
  exact ((evaluates_of_evaluated hd).present p raw hp).imp fun _ => And.left

/-- The property that an error names has a value that cannot be evaluated, for the same reason. -/
theorem valueOf_of_evaluated_error {p : Property} {e : ExpressionError}
    (h : c.evaluated ev = .error (p, e)) :
    ∃ raw, c.value? p = some raw ∧ ev.valueOf p raw = .error e := by
  unfold evaluated at h
  cases he : c.toList.mapM ev.evaluateEntry with
  | ok entries => simp [he, Except.map] at h
  | error q =>
    obtain rfl : q = (p, e) := by simpa [he, Except.map] using h
    obtain ⟨before, ⟨q, raw⟩, after, hsplit, hq, -⟩ := mapM_eq_error_iff.mp he
    obtain ⟨rfl, hv⟩ := Evaluator.evaluateEntry_eq_error_iff.mp hq
    exact ⟨raw, mem_toList.mp (by simp [hsplit]), hv⟩

end Configuration
end CredentialResolution
