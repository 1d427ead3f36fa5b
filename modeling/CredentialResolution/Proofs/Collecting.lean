import CredentialResolution.Proofs.Evaluation
import Mathlib.Data.List.Induction
import Mathlib.Data.List.Nodup

/-! Configurations made by a run of edits or collected from entries. For each property the last of them
decides, so that nothing is left of the order among different properties, nor of a table that entries pass
through on their way. -/

namespace CredentialResolution
set_option autoImplicit false

section
variable {α κ : Type} {key : α → κ} {l : List α} {a b : α} {k : κ}

/-- The last one of a list among those with its key. -/
def LastAt (key : α → κ) (l : List α) (a : α) : Prop :=
  ∃ before after, l = before ++ a :: after ∧ ∀ b ∈ after, key b ≠ key a

theorem mem_of_lastAt (h : LastAt key l a) : a ∈ l := by
  obtain ⟨before, after, rfl, -⟩ := h
  simp

theorem lastAt_concat_iff : LastAt key (l ++ [b]) a ↔ a = b ∨ key b ≠ key a ∧ LastAt key l a := by
  constructor
  · rintro ⟨before, after, hsplit, hafter⟩
    rcases List.eq_nil_or_concat after with rfl | ⟨after, c, rfl⟩
    · have hlast := (List.append_inj' hsplit rfl).2
      exact .inl (List.cons.inj hlast).1.symm
    · have hsplit' : l ++ [b] = (before ++ a :: after) ++ [c] := by simpa using hsplit
      obtain ⟨rfl, hlast⟩ := List.append_inj' hsplit' rfl
      rw [List.concat_eq_append] at hafter
      obtain ⟨hbetween, hc⟩ := List.forall_mem_append.mp hafter
      obtain rfl : b = c := (List.cons.inj hlast).1
      exact .inr ⟨hc b List.mem_cons_self, before, after, rfl, hbetween⟩
  · rintro (rfl | ⟨hb, before, after, rfl, hafter⟩)
    · exact ⟨l, [], rfl, List.forall_mem_nil _⟩
    · refine ⟨before, after ++ [b], by simp, List.forall_mem_append.mpr ⟨hafter, ?_⟩⟩
      exact List.forall_mem_singleton.mpr hb

theorem exists_lastAt_or (key : α → κ) (l : List α) (k : κ) :
    (∃ a, key a = k ∧ LastAt key l a) ∨ ∀ a ∈ l, key a ≠ k := by
  induction l using List.reverseRecOn with
  | nil => exact .inr (List.forall_mem_nil _)
  | append_singleton l b ih =>
    by_cases hb : key b = k
    · exact .inl ⟨b, hb, lastAt_concat_iff.mpr (.inl rfl)⟩
    · rcases ih with ⟨a, ha, hlast⟩ | hnone
      · exact .inl ⟨a, ha, lastAt_concat_iff.mpr (.inr ⟨ha ▸ hb, hlast⟩)⟩
      · exact .inr (List.forall_mem_append.mpr ⟨hnone, List.forall_mem_singleton.mpr hb⟩)

/-- Where no key comes twice, every one is the last with its key. -/
theorem lastAt_iff_mem (hn : (l.map key).Nodup) : LastAt key l a ↔ a ∈ l := by
  refine ⟨mem_of_lastAt, fun h => ?_⟩
  obtain ⟨before, after, rfl⟩ := List.append_of_mem h
  rw [List.map_append, List.map_cons, List.nodup_append, List.nodup_cons] at hn
  obtain ⟨-, ⟨hafter, -⟩, -⟩ := hn
  exact ⟨before, after, rfl, fun b hb heq => hafter (heq ▸ List.mem_map_of_mem hb)⟩

end

namespace Configuration
variable {c d : Configuration} {p q : Property} {v : String}

theorem eq_of_values (h : ∀ p v, c.value? p = some v ↔ d.value? p = some v) : c = d := by
  ext1
  funext p
  exact Option.ext (h p)

/-! ### Runs of edits -/

inductive Edit
  | set (p : Property) (v : String)
  | remove (p : Property)
  deriving DecidableEq, Repr

def Edit.property : Edit → Property
  | set p _ | remove p => p

/-- What the property holds afterwards. -/
def Edit.value? : Edit → Option String
  | set _ v => some v
  | remove _ => none

def edit (c : Configuration) : Edit → Configuration
  | .set p v => c.set p v
  | .remove p => c.remove p

def edited (c : Configuration) (es : List Edit) : Configuration := es.foldl edit c

theorem value?_edit (c : Configuration) (e : Edit) (p : Property) :
    (c.edit e).value? p = if p = e.property then e.value? else c.value? p := by
  cases e <;> rfl

theorem edited_concat (c : Configuration) (es : List Edit) (e : Edit) :
    c.edited (es ++ [e]) = (c.edited es).edit e := by
  rw [edited, List.foldl_append]
  rfl

/-- What a run of edits leaves, and how it is listed. -/
structure Edited (c : Configuration) (es : List Edit) : Prop where
  written : ∀ e, LastAt Edit.property es e → (c.edited es).value? e.property = e.value?
  untouched : ∀ p, (∀ e ∈ es, e.property ≠ p) → (c.edited es).value? p = c.value? p
  holds : ∀ p v, (c.edited es).value? p = some v ↔
    LastAt Edit.property es (.set p v) ∨ (∀ e ∈ es, e.property ≠ p) ∧ c.value? p = some v
  keys : (c.edited es).toList.map Prod.fst =
    Property.all.filter fun p => ((c.edited es).value? p).isSome
  listed : ∀ p v, (p, v) ∈ (c.edited es).toList ↔ (c.edited es).value? p = some v

theorem written_edited (c : Configuration) (es : List Edit) {e : Edit} (h : LastAt Edit.property es e) :
    (c.edited es).value? e.property = e.value? := by
  induction es using List.reverseRecOn with
  | nil => exact absurd (mem_of_lastAt h) List.not_mem_nil
  | append_singleton es f ih =>
    rw [edited_concat, value?_edit]
    rcases lastAt_concat_iff.mp h with rfl | ⟨hne, hlast⟩
    · rw [if_pos rfl]
    · rw [if_neg hne.symm, ih hlast]

theorem untouched_edited (c : Configuration) {es : List Edit} (h : ∀ e ∈ es, e.property ≠ p) :
    (c.edited es).value? p = c.value? p := by
  induction es using List.reverseRecOn with
  | nil => rfl
  | append_singleton es f ih =>
    obtain ⟨hes, hf⟩ := List.forall_mem_append.mp h
    rw [edited_concat, value?_edit, if_neg (hf f List.mem_cons_self).symm, ih hes]

theorem edited_run (c : Configuration) (es : List Edit) : Edited c es where
  written _ := written_edited c es
  untouched _ := untouched_edited c
  holds p v := by
    rcases exists_lastAt_or Edit.property es p with ⟨e, rfl, hlast⟩ | hnone
    · have hwritten := written_edited c es hlast
      have htouched : ¬ ∀ f ∈ es, f.property ≠ e.property :=
        fun hnone => hnone e (mem_of_lastAt hlast) rfl
      rw [hwritten, or_iff_left (fun h => htouched h.1)]
      constructor
      · intro hv
        cases e with
        | set p w =>
          obtain rfl : w = v := Option.some.inj hv
          exact hlast
        | remove p => cases hv
      · intro hset
        exact hwritten.symm.trans (written_edited c es hset)
    · have hunset : ¬ LastAt Edit.property es (.set p v) :=
        fun h => hnone _ (mem_of_lastAt h) rfl
      rw [untouched_edited c hnone, or_iff_right hunset, and_iff_right hnone]
  keys := keys_toList _
  listed _ _ := mem_toList

/-! ### Collected entries -/

theorem value?_ofList_iff {es : List (Property × String)} :
    (ofList es).value? p = some v ↔ LastAt Prod.fst es (p, v) := by
  induction es using List.reverseRecOn with
  | nil => exact iff_of_false nofun fun h => List.not_mem_nil (mem_of_lastAt h)
  | append_singleton es e ih =>
    have hset : ofList (es ++ [e]) = (ofList es).set e.1 e.2 := by simp [ofList]
    rw [hset, value?_set, lastAt_concat_iff, ← ih]
    by_cases hp : p = e.1
    · rw [if_pos hp, Option.some.injEq, hp, Prod.ext_iff]
      simp [eq_comm]
    · rw [if_neg hp]
      simp [Prod.ext_iff, hp, Ne.symm hp]

/-- The tables that entries may lead to which are put into it one after the other. An entry takes the place
of what there was for its property, and then the table may be in any order. -/
inductive Tabulated : List (Property × String) → List (Property × String) → Prop
  | nil : Tabulated [] []
  | concat {es table next : List (Property × String)} {e : Property × String} : Tabulated es table →
      next.Perm (e :: table.filter fun f => f.1 ≠ e.1) → Tabulated (es ++ [e]) next

/-- What collecting entries gives. -/
structure Collected (es : List (Property × String)) : Prop where
  holds : ∀ p v, (ofList es).value? p = some v ↔ LastAt Prod.fst es (p, v)
  keys : (ofList es).toList.map Prod.fst = Property.all.filter fun p => ((ofList es).value? p).isSome
  listed : ∀ e, e ∈ (ofList es).toList ↔ LastAt Prod.fst es e
  permuted : ∀ fs, es.Perm fs → (es.map Prod.fst).Nodup → ofList fs = ofList es
  tabulated : ∀ table, Tabulated es table → ofList table = ofList es

theorem mem_toList_ofList {es : List (Property × String)} {e : Property × String} :
    e ∈ (ofList es).toList ↔ LastAt Prod.fst es e :=
  mem_toList.trans value?_ofList_iff

/-- Entries that are the last ones with their keys, without repetition, collect to the same. -/
theorem ofList_eq_of_last {es fs : List (Property × String)} (hn : (fs.map Prod.fst).Nodup)
    (h : ∀ e, e ∈ fs ↔ LastAt Prod.fst es e) : ofList fs = ofList es := by
  apply eq_of_values
  intro p v
  rw [value?_ofList_iff, lastAt_iff_mem hn, h, value?_ofList_iff]

theorem ofList_eq_of_perm {es fs : List (Property × String)} (h : es.Perm fs)
    (hn : (es.map Prod.fst).Nodup) : ofList fs = ofList es := by
  apply ofList_eq_of_last ((h.map Prod.fst).nodup_iff.mp hn)
  intro e
  rw [lastAt_iff_mem hn, h.mem_iff]

/-- One more entry in a table. -/
theorem nodup_and_mem_of_perm {table next : List (Property × String)} {e : Property × String}
    (hn : (table.map Prod.fst).Nodup) (h : next.Perm (e :: table.filter fun f => f.1 ≠ e.1)) :
    (next.map Prod.fst).Nodup ∧ ∀ f, f ∈ next ↔ f = e ∨ e.1 ≠ f.1 ∧ f ∈ table := by
  constructor
  · have hkept := (List.filter_sublist (p := fun f => f.1 ≠ e.1) (l := table)).map Prod.fst
    rw [(h.map Prod.fst).nodup_iff, List.map_cons, List.nodup_cons]
    refine ⟨?_, hn.sublist hkept⟩
    simp
  · intro f
    rw [h.mem_iff, List.mem_cons, List.mem_filter, decide_eq_true_eq, and_comm, ne_comm]

/-- A table holds each property once, with the value it was given last, and may hold it anywhere. -/
theorem tabulated_iff {es table : List (Property × String)} :
    Tabulated es table ↔ (table.map Prod.fst).Nodup ∧ ∀ e, e ∈ table ↔ LastAt Prod.fst es e := by
  constructor
  · intro h
    induction h with
    | nil =>
      exact ⟨List.nodup_nil, fun e => iff_of_false List.not_mem_nil fun h =>
        List.not_mem_nil (mem_of_lastAt h)⟩
    | concat _ hnext ih =>
      obtain ⟨hn, hlast⟩ := nodup_and_mem_of_perm ih.1 hnext
      exact ⟨hn, fun f => by rw [hlast, ih.2, lastAt_concat_iff]⟩
  · intro h
    induction es using List.reverseRecOn generalizing table with
    | nil =>
      obtain rfl : table = [] :=
        List.eq_nil_iff_forall_not_mem.mpr fun e he => List.not_mem_nil (mem_of_lastAt ((h.2 e).mp he))
      exact .nil
    | append_singleton es e ih =>
      -- the table before the last entry may be in any order, so also in that of the properties
      have hbefore := ih ⟨nodup_keys_toList (ofList es), fun _ => mem_toList_ofList⟩
      refine .concat hbefore ?_
      obtain ⟨hn, hlast⟩ := nodup_and_mem_of_perm (nodup_keys_toList (ofList es)) (.refl _)
      rw [List.perm_ext_iff_of_nodup (List.Nodup.of_map _ h.1) (List.Nodup.of_map _ hn)]
      intro f
      rw [hlast, mem_toList_ofList, h.2, lastAt_concat_iff]

theorem Tabulated.ofList_eq {es table : List (Property × String)} (h : Tabulated es table) :
    ofList table = ofList es :=
  ofList_eq_of_last (tabulated_iff.mp h).1 (tabulated_iff.mp h).2

theorem collected (es : List (Property × String)) : Collected es where
  holds _ _ := value?_ofList_iff
  keys := keys_toList _
  listed _ := mem_toList_ofList
  permuted _ := ofList_eq_of_perm
  tabulated _ := Tabulated.ofList_eq

end Configuration
end CredentialResolution
