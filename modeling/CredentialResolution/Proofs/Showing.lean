import CredentialResolution.Configuration.Shown
import CredentialResolution.Expression.Evaluator
import CredentialResolution.Proofs.Evaluation
import CredentialResolution.Proofs.Quoting
import Mathlib.Data.List.Basic
import Mathlib.Data.List.Induction

/-! What configurations and variables tell when they are shown. A configuration tells all but the value of
its secret key, variables their names alone, and whoever reads the text can tell no less and no more. -/

namespace CredentialResolution
set_option autoImplicit false

namespace Configuration
variable {c d : Configuration} {p : Property} {v : String}

/-- They hold the same properties, and the same values of all but the secret key. -/
structure Alike (c d : Configuration) : Prop where
  properties : ∀ p, (c.value? p).isSome = (d.value? p).isSome
  values : ∀ p, p ≠ .secretKey → c.value? p = d.value? p

/-- The entry as it is shown. -/
def redactedEntry (e : Property × String) : Property × String := (e.1, shownValue e.1 e.2)

def writeEntry (e : Property × String) : List Char :=
  (Text.quoted e.1.name).toList ++ ": ".toList ++ (Text.quoted e.2).toList

theorem shownValue_of_ne (h : p ≠ .secretKey) (v : String) : shownValue p v = v := by
  cases p <;> first | rfl | exact absurd rfl h

theorem toList_shownEntry (e : Property × String) :
    (shownEntry e).toList = writeEntry (redactedEntry e) := Text.toList_between _ _ _

theorem delimited_writeEntry : Text.Delimited writeEntry := by
  intro e f rest rest' h
  simp only [writeEntry, List.append_assoc] at h
  obtain ⟨hname, hmore⟩ := Text.delimited_quoted _ _ _ _ h
  obtain ⟨hvalue, hrest⟩ := Text.delimited_quoted _ _ _ _ (List.append_cancel_left hmore)
  exact ⟨Prod.ext (Property.name_injective hname) hvalue, hrest⟩

theorem mem_redacted_iff :
    (p, v) ∈ c.toList.map redactedEntry ↔ (c.value? p).map (shownValue p) = some v := by
  constructor
  · intro h
    obtain ⟨⟨q, w⟩, hmem, heq⟩ := List.mem_map.mp h
    obtain ⟨rfl, rfl⟩ := Prod.mk.inj heq
    rw [mem_toList.mp hmem, Option.map_some]
  · intro h
    obtain ⟨w, hw, rfl⟩ := Option.map_eq_some_iff.mp h
    exact List.mem_map.mpr ⟨(p, w), mem_toList.mpr hw, rfl⟩

/-- Of the secret key it shows only whether there is one. -/
theorem map_shownValue_secretKey_eq_iff {o o' : Option String} :
    o.map (shownValue .secretKey) = o'.map (shownValue .secretKey) ↔ o.isSome = o'.isSome := by
  cases o <;> cases o' <;> simp [shownValue, Property.isSecret]

theorem alike_iff :
    c.Alike d ↔ ∀ p, (c.value? p).map (shownValue p) = (d.value? p).map (shownValue p) := by
  constructor
  · intro h p
    by_cases hp : p = .secretKey
    · subst hp
      exact map_shownValue_secretKey_eq_iff.mpr (h.properties .secretKey)
    · rw [h.values p hp]
  · intro h
    constructor
    case properties =>
      intro p
      simpa using congrArg Option.isSome (h p)
    case values =>
      intro p hp
      have hid : shownValue p = id := funext (shownValue_of_ne hp)
      simpa [hid] using h p

theorem redacted_eq_iff :
    c.toList.map redactedEntry = d.toList.map redactedEntry ↔ c.Alike d := by
  rw [alike_iff]
  constructor
  · intro h p
    ext v
    rw [← mem_redacted_iff, ← mem_redacted_iff, h]
  · intro h
    simp only [toList, List.map_filterMap, Option.map_map]
    apply List.filterMap_congr
    intro p _
    have hshown := congrArg (Option.map (Prod.mk p)) (h p)
    simpa [Function.comp_def, redactedEntry] using hshown

def writeEntries (es : List (Property × String)) : List Char :=
  ['{'] ++ ", ".toList.intercalate (es.map writeEntry) ++ ['}']

theorem toList_shown (c : Configuration) :
    c.shown.toList = writeEntries (c.toList.map redactedEntry) := by
  have hentries : (c.toList.map shownEntry).map String.toList =
      (c.toList.map redactedEntry).map writeEntry := by
    rw [List.map_map, List.map_map]
    exact congrArg (fun f => c.toList.map f) (funext toList_shownEntry)
  rw [writeEntries, ← hentries, ← String.toList_intercalate]
  exact Text.toList_between _ _ _

theorem writeEntries_inj {es fs : List (Property × String)} (h : writeEntries es = writeEntries fs) :
    es = fs := by
  rw [writeEntries, writeEntries, List.append_assoc, List.append_assoc] at h
  apply delimited_writeEntry.intercalate_inj _ _ (List.append_cancel_left h)
  · intro e rest
    simp [writeEntry, Text.toList_quoted]
  · intro rest
    simp

def writeLine (e : Property × String) : List Char := "    ".toList ++ writeEntry e ++ ",\n".toList

theorem toList_line (e : Property × String) :
    ("    " ++ shownEntry e ++ ",\n").toList = writeLine (redactedEntry e) :=
  (Text.toList_between _ _ _).trans
    (congrArg (fun cs => "    ".toList ++ cs ++ ",\n".toList) (toList_shownEntry e))

theorem toList_shownInLines (c : Configuration) :
    c.shownInLines.toList = Text.inLines writeLine '{' '}' [] (c.toList.map redactedEntry) := by
  unfold shownInLines
  cases c.toList with
  | nil => rfl
  | cons e es =>
    have hlines : ((e :: es).map fun e => "    " ++ shownEntry e ++ ",\n").flatMap String.toList =
        ((e :: es).map redactedEntry).flatMap writeLine := by
      rw [List.flatMap_map, List.flatMap_map]
      exact congrArg (fun f => (e :: es).flatMap f) (funext toList_line)
    refine (Text.toList_between _ _ _).trans ?_
    rw [String.toList_join, hlines, List.append_assoc]
    rfl

theorem shown_eq_iff : c.shown = d.shown ↔ c.Alike d := by
  rw [← redacted_eq_iff, ← String.toList_inj, toList_shown, toList_shown]
  constructor
  · exact writeEntries_inj
  · intro h
    rw [h]

theorem shownInLines_eq_iff : c.shownInLines = d.shownInLines ↔ c.Alike d := by
  rw [← redacted_eq_iff, ← String.toList_inj, toList_shownInLines, toList_shownInLines]
  constructor
  · intro h
    apply (delimited_writeEntry.between _ _).inLines_inj (by decide) _ h
    intro e rest
    simp
  · intro h
    rw [h]

end Configuration

namespace Variables
variable {vs ws : Variables} {n : String} {keys others : List String}

/-- The names of the variables, each once, in whatever order a table holds them. -/
structure Lists (vs : Variables) (keys : List String) : Prop where
  once : keys.Nodup
  all : ∀ n, n ∈ keys ↔ (vs.value? n).isSome = true

def sorted (keys : List String) : List String := keys.mergeSort fun a b => decide (a ≤ b)

theorem pairwise_sorted (keys : List String) : (sorted keys).Pairwise (· ≤ ·) := by
  have htrans : ∀ a b c : String, decide (a ≤ b) = true → decide (b ≤ c) = true →
      decide (a ≤ c) = true := by
    intro a b c hab hbc
    exact decide_eq_true (String.le_trans (of_decide_eq_true hab) (of_decide_eq_true hbc))
  have htotal : ∀ a b : String, (decide (a ≤ b) || decide (b ≤ a)) = true := by
    intro a b
    simpa using String.le_total a b
  exact (List.pairwise_mergeSort htrans htotal keys).imp of_decide_eq_true

/-- Sorted, the same names come in the same order. -/
theorem sorted_eq_of_mem (h : keys.Nodup) (ho : others.Nodup) (hmem : ∀ n, n ∈ keys ↔ n ∈ others) :
    sorted keys = sorted others := by
  have hperm : (sorted keys).Perm (sorted others) :=
    (List.mergeSort_perm _ _).trans
      (((List.perm_ext_iff_of_nodup h ho).mpr hmem).trans (List.mergeSort_perm _ _).symm)
  exact hperm.eq_of_pairwise (fun a b _ _ hab hba => String.le_antisymm hab hba)
    (pairwise_sorted keys) (pairwise_sorted others)

theorem nodup_eraseDups (keys : List String) : keys.eraseDups.Nodup := by
  induction keys using List.reverseRecOn with
  | nil => exact List.nodup_nil
  | append_singleton keys n ih =>
    rw [List.eraseDups_append]
    by_cases hn : n ∈ keys
    · simpa [List.removeAll, hn] using ih
    · have hne : ∀ m ∈ keys, m ≠ n := fun m hm heq => hn (heq ▸ hm)
      simpa [List.removeAll, hn, List.nodup_append, ih, List.mem_eraseDups,
        List.eraseDups_cons] using hne

theorem isSome_value?_iff : (vs.value? n).isSome = true ↔ n ∈ vs.entries.map Prod.fst := by
  unfold value?
  induction vs.entries with
  | nil => simp
  | cons e entries ih =>
    obtain ⟨m, v⟩ := e
    by_cases hn : n = m
    · simp [hn]
    · have hne : (n == m) = false := beq_false_of_ne hn
      simp [List.lookup_cons, hn, hne]

theorem lists_names (vs : Variables) : vs.Lists vs.names := by
  constructor
  case once => exact (List.mergeSort_perm _ _).nodup_iff.mpr (nodup_eraseDups _)
  case all =>
    intro n
    rw [names, List.mem_mergeSort, List.mem_eraseDups, isSome_value?_iff]

theorem Lists.sorted_eq (h : vs.Lists keys) : sorted keys = vs.names := by
  refine sorted_eq_of_mem h.once (nodup_eraseDups _) fun n => ?_
  rw [h.all, isSome_value?_iff, List.mem_eraseDups]

theorem entries_ofList (es : List (String × String)) : (ofList es).entries = es.reverse := by
  have hfold : ∀ vs : Variables,
      (es.foldl (fun vs e => vs.set e.1 e.2) vs).entries = es.reverse ++ vs.entries := by
    induction es with
    | nil => intro vs; rfl
    | cons e es ih =>
      intro vs
      rw [List.foldl_cons, ih, List.reverse_cons, List.append_assoc]
      rfl
  exact (hfold empty).trans (List.append_nil _)

theorem names_eq_iff : vs.names = ws.names ↔ ∀ n, (vs.value? n).isSome = (ws.value? n).isSome := by
  constructor
  · intro h n
    rw [Bool.eq_iff_iff, ← vs.lists_names.all, ← ws.lists_names.all, h]
  · intro h
    have hlists : ws.Lists vs.names := ⟨vs.lists_names.once, fun n => by rw [vs.lists_names.all, h]⟩
    exact vs.lists_names.sorted_eq.symm.trans hlists.sorted_eq

theorem shown_eq_iff_intercalate :
    vs.shown = ws.shown ↔
      ", ".intercalate (vs.names.map Text.quoted) = ", ".intercalate (ws.names.map Text.quoted) :=
  (String.append_left_inj _).trans (String.append_right_inj _)

theorem shownInLines_eq_iff_listed :
    vs.shownInLines = ws.shownInLines ↔ listedInLines vs.names = listedInLines ws.names :=
  (String.append_left_inj _).trans (String.append_right_inj _)

def writeLine (n : String) : List Char := "        ".toList ++ (Text.quoted n).toList ++ ",\n".toList

theorem toList_line (n : String) :
    ("        " ++ Text.quoted n ++ ",\n").toList = writeLine n := Text.toList_between _ _ _

theorem toList_listedInLines (ns : List String) :
    (listedInLines ns).toList = Text.inLines writeLine '[' ']' "    ".toList ns := by
  cases ns with
  | nil => rfl
  | cons n ns =>
    have hlines : ((n :: ns).map fun n => "        " ++ Text.quoted n ++ ",\n").flatMap
        String.toList = (n :: ns).flatMap writeLine := by
      rw [List.flatMap_map]
      exact congrArg (fun f => (n :: ns).flatMap f) (funext toList_line)
    refine (Text.toList_between _ _ _).trans ?_
    rw [String.toList_join, hlines, List.append_assoc]
    rfl

theorem shown_eq_iff_names : vs.shown = ws.shown ↔ vs.names = ws.names := by
  rw [shown_eq_iff_intercalate, Text.intercalate_eq_iff, List.map_map, List.map_map]
  constructor
  · intro h
    apply Text.delimited_quoted.intercalate_inj _ _ (congrArg (· ++ []) h)
    · intro n rest
      simp [Text.toList_quoted]
    · intro rest
      simp
  · intro h
    rw [h]

theorem shownInLines_eq_iff_names : vs.shownInLines = ws.shownInLines ↔ vs.names = ws.names := by
  rw [shownInLines_eq_iff_listed, ← String.toList_inj, toList_listedInLines, toList_listedInLines]
  constructor
  · intro h
    apply (Text.delimited_quoted.between _ _).inLines_inj (by decide) _ h
    intro n rest
    simp
  · intro h
    rw [h]

end Variables

/-- What is shown of a configuration is decided by all but the value of its secret key, and decides all of
it. What is shown of variables is decided by their names alone, in whatever order they were set and are
held, and decides them. -/
theorem shown_tells_all_but_secrets :
    (∀ c d : Configuration, (c.shown = d.shown ↔ c.Alike d) ∧
      (c.shownInLines = d.shownInLines ↔ c.Alike d)) ∧
    (∀ es fs : List (String × String),
      ((Variables.ofList es).shown = (Variables.ofList fs).shown ↔
        ∀ n, n ∈ es.map Prod.fst ↔ n ∈ fs.map Prod.fst) ∧
      ((Variables.ofList es).shownInLines = (Variables.ofList fs).shownInLines ↔
        ∀ n, n ∈ es.map Prod.fst ↔ n ∈ fs.map Prod.fst)) ∧
    ∀ (vs : Variables) (keys : List String), vs.Lists keys → Variables.sorted keys = vs.names := by
  refine ⟨fun c d => ⟨Configuration.shown_eq_iff, Configuration.shownInLines_eq_iff⟩, ?_,
    fun vs keys h => h.sorted_eq⟩
  intro es fs
  have hnames : (Variables.ofList es).names = (Variables.ofList fs).names ↔
      ∀ n, n ∈ es.map Prod.fst ↔ n ∈ fs.map Prod.fst := by
    rw [Variables.names_eq_iff]
    apply forall_congr'
    intro n
    rw [Bool.eq_iff_iff, Variables.isSome_value?_iff, Variables.isSome_value?_iff,
      Variables.entries_ofList, Variables.entries_ofList, List.map_reverse, List.map_reverse,
      List.mem_reverse, List.mem_reverse]
  exact ⟨Variables.shown_eq_iff_names.trans hnames, Variables.shownInLines_eq_iff_names.trans hnames⟩

end CredentialResolution
