import CredentialResolution.Arn

/-! The grammar of resource names: a scheme and five fields with colons between them, of which the last
alone may hold colons. Reading takes exactly these texts and loses nothing of them; of any other text it
tells the first thing that is wrong. -/

namespace CredentialResolution
set_option autoImplicit false

namespace Arn

def IsField (f : String) : Prop := ':' ∉ f.toList

def IsName (f : String) : Prop := IsField f ∧ f ≠ ""

structure WellFormed (a : Arn) : Prop where
  partition : IsName a.partition
  service : IsName a.service
  region : IsField a.region
  account : IsField a.account
  resource : a.resource ≠ ""

/-- The scheme and the fields behind it. -/
def joined (fs : List String) : String := ":".intercalate ("arn" :: fs)

/-- What is wrong with a text whose fields before it are as they should be. -/
inductive FirstDefect (s : String) : ArnError → Prop
  | scheme : (∀ rest, s ≠ "arn:" ++ rest) → FirstDefect s .noScheme
  | emptyPartition {fs : List String} : s = joined ("" :: fs) → FirstDefect s .noPartition
  | absentService {partition : String} : IsName partition → s = joined [partition] →
      FirstDefect s .noService
  | emptyService {partition : String} {fs : List String} : IsName partition →
      s = joined (partition :: "" :: fs) → FirstDefect s .noService
  | absentRegion {partition service : String} : IsName partition → IsName service →
      s = joined [partition, service] → FirstDefect s .noRegion
  | absentAccount {partition service region : String} : IsName partition → IsName service →
      IsField region → s = joined [partition, service, region] → FirstDefect s .noAccount
  | absentResource {partition service region account : String} : IsName partition →
      IsName service → IsField region → IsField account →
      s = joined [partition, service, region, account] → FirstDefect s .noResource
  | emptyResource {partition service region account : String} : IsName partition →
      IsName service → IsField region → IsField account →
      s = joined [partition, service, region, account, ""] → FirstDefect s .noResource

section
variable {n : Nat} {f g : String} {fs : List String}

theorem isField_empty : IsField "" := by simp [IsField]

theorem toList_ne_nil (h : f ≠ "") : f.toList ≠ [] := by simpa using h

theorem cutAt_colon_eq_none (hf : IsField f) : Text.cutAt (· == ':') f.toList = none :=
  Text.cutAt_eq_none_iff.mpr fun _ hc => beq_false_of_ne fun h => hf (h ▸ hc)

theorem cutAt_colon_eq_some (hf : IsField f) (cs : List Char) :
    Text.cutAt (· == ':') (f.toList ++ ':' :: cs) = some (f.toList, cs) :=
  Text.cutAt_append (by decide) fun _ hc => beq_false_of_ne fun h => hf (h ▸ hc)

theorem fields_of_isField (hf : IsField f) : fields n f.toList = [f.toList] := by
  cases n with
  | zero => rfl
  | succ n => rw [fields, cutAt_colon_eq_none hf]

theorem fields_intercalate (hf : IsField f) :
    fields (n + 1) (":".intercalate (f :: g :: fs)).toList =
      f.toList :: fields n (":".intercalate (g :: fs)).toList := by
  rw [String.intercalate_cons_cons, String.toList_append, String.toList_append, List.append_assoc,
    show ":".toList = [':'] from rfl, List.singleton_append, fields, cutAt_colon_eq_some hf]

theorem exists_fields_cons (hf : IsField f) (fs : List String) :
    ∃ rest, fields (n + 1) (":".intercalate (f :: fs)).toList = f.toList :: rest := by
  cases fs with
  | nil => exact ⟨[], by rw [String.intercalate_singleton, fields_of_isField hf]⟩
  | cons g fs => exact ⟨_, fields_intercalate hf⟩

theorem read_joined :
    read (joined (f :: fs)) = ofFields (fields 4 (":".intercalate (f :: fs)).toList) := by
  have hscheme : (joined (f :: fs)).toList =
      ['a', 'r', 'n', ':'] ++ (":".intercalate (f :: fs)).toList := by
    rw [joined, String.intercalate_cons_cons, String.toList_append]
    rfl
  rw [read, Text.afterMark_eq_some_iff.mpr hscheme]

theorem text_eq_joined (a : Arn) :
    a.text = joined [a.partition, a.service, a.region, a.account, a.resource] := by
  have htext : a.text = "arn:" ++ a.partition ++ ":" ++ a.service ++ ":" ++ a.region ++ ":" ++
      a.account ++ ":" ++ a.resource := rfl
  have hscheme : "arn:" = "arn" ++ ":" := by decide
  rw [htext, hscheme, joined]
  simp only [String.intercalate_cons_cons, String.intercalate_singleton, String.append_assoc]

/-- Every text is cut at its colons. -/
theorem exists_intercalate (cs : List Char) :
    ∃ f fs, (∀ g ∈ f :: fs, IsField g) ∧ String.ofList cs = ":".intercalate (f :: fs) := by
  induction cs with
  | nil => exact ⟨"", [], by simp [IsField], by simp⟩
  | cons c cs ih =>
    obtain ⟨f, fs, hfs, hcs⟩ := ih
    rw [String.ofList_cons, hcs]
    by_cases hc : c = ':'
    · subst hc
      exact ⟨"", f :: fs, List.forall_mem_cons.mpr ⟨isField_empty, hfs⟩, by simp⟩
    · obtain ⟨hf, hrest⟩ := List.forall_mem_cons.mp hfs
      have hfield : IsField (String.singleton c ++ f) := by
        simpa [IsField, Ne.symm hc] using hf
      exact ⟨_, fs, List.forall_mem_cons.mpr ⟨hfield, hrest⟩, String.intercalate_cons_append.symm⟩

theorem WellFormed.read_text {a : Arn} (h : a.WellFormed) : read a.text = .ok a := by
  rw [text_eq_joined, read_joined, fields_intercalate h.partition.1, fields_intercalate h.service.1,
    fields_intercalate h.region, fields_intercalate h.account, String.intercalate_singleton, fields,
    ofFields]
  · simp only [String.ofList_toList]
  · exact toList_ne_nil h.partition.2
  · exact toList_ne_nil h.service.2
  · exact toList_ne_nil h.resource

theorem FirstDefect.read_eq {s : String} {e : ArnError} (h : FirstDefect s e) :
    read s = .error e := by
  cases h with
  | scheme h =>
    have hnone : Text.afterMark ['a', 'r', 'n', ':'] s.toList = none := by
      cases hmark : Text.afterMark ['a', 'r', 'n', ':'] s.toList with
      | none => rfl
      | some rest =>
        have hs := Text.afterMark_eq_some_iff.mp hmark
        exact absurd (String.toList_inj.mp (by simpa using hs)) (h (.ofList rest))
    rw [read, hnone]
  | @emptyPartition fs hs =>
    obtain ⟨rest, hrest⟩ := exists_fields_cons isField_empty fs
    rw [hs, read_joined, hrest, String.toList_empty, ofFields]
  | absentService hpartition hs =>
    rw [hs, read_joined, String.intercalate_singleton, fields_of_isField hpartition.1, ofFields]
    exact toList_ne_nil hpartition.2
  | @emptyService partition fs hpartition hs =>
    obtain ⟨rest, hrest⟩ := exists_fields_cons isField_empty fs
    rw [hs, read_joined, fields_intercalate hpartition.1, hrest, String.toList_empty, ofFields]
    exact toList_ne_nil hpartition.2
  | absentRegion hpartition hservice hs =>
    rw [hs, read_joined, fields_intercalate hpartition.1, String.intercalate_singleton,
      fields_of_isField hservice.1, ofFields]
    · exact toList_ne_nil hpartition.2
    · exact toList_ne_nil hservice.2
  | absentAccount hpartition hservice hregion hs =>
    rw [hs, read_joined, fields_intercalate hpartition.1, fields_intercalate hservice.1,
      String.intercalate_singleton, fields_of_isField hregion, ofFields]
    · exact toList_ne_nil hpartition.2
    · exact toList_ne_nil hservice.2
  | absentResource hpartition hservice hregion haccount hs =>
    rw [hs, read_joined, fields_intercalate hpartition.1, fields_intercalate hservice.1,
      fields_intercalate hregion, String.intercalate_singleton, fields_of_isField haccount, ofFields]
    · exact toList_ne_nil hpartition.2
    · exact toList_ne_nil hservice.2
  | emptyResource hpartition hservice hregion haccount hs =>
    rw [hs, read_joined, fields_intercalate hpartition.1, fields_intercalate hservice.1,
      fields_intercalate hregion, fields_intercalate haccount, String.intercalate_singleton, fields,
      String.toList_empty, ofFields]
    · exact toList_ne_nil hpartition.2
    · exact toList_ne_nil hservice.2

/-- The grammar and its defects leave no text out. -/
theorem wellFormed_or_defect (s : String) :
    (∃ a : Arn, a.WellFormed ∧ s = a.text) ∨ ∃ e, FirstDefect s e := by
  by_cases hscheme : ∃ rest, s = "arn:" ++ rest
  case neg => exact .inr ⟨_, .scheme (not_exists.mp hscheme)⟩
  obtain ⟨rest, rfl⟩ := hscheme
  obtain ⟨partition, fs, hfields, hrest⟩ := exists_intercalate rest.toList
  have hs : "arn:" ++ rest = joined (partition :: fs) := by
    rw [String.ofList_toList] at hrest
    simp [joined, hrest]
  rw [hs]
  obtain ⟨hpartition, hfields⟩ := List.forall_mem_cons.mp hfields
  by_cases hne : partition = ""
  · exact .inr ⟨_, .emptyPartition (by rw [hne])⟩
  replace hpartition : IsName partition := ⟨hpartition, hne⟩
  rcases fs with _ | ⟨service, fs⟩
  · exact .inr ⟨_, .absentService hpartition rfl⟩
  obtain ⟨hservice, hfields⟩ := List.forall_mem_cons.mp hfields
  by_cases hne : service = ""
  · exact .inr ⟨_, .emptyService hpartition (by rw [hne])⟩
  replace hservice : IsName service := ⟨hservice, hne⟩
  rcases fs with _ | ⟨region, fs⟩
  · exact .inr ⟨_, .absentRegion hpartition hservice rfl⟩
  obtain ⟨hregion, hfields⟩ := List.forall_mem_cons.mp hfields
  rcases fs with _ | ⟨account, fs⟩
  · exact .inr ⟨_, .absentAccount hpartition hservice hregion rfl⟩
  obtain ⟨haccount, -⟩ := List.forall_mem_cons.mp hfields
  rcases fs with _ | ⟨resource, fs⟩
  · exact .inr ⟨_, .absentResource hpartition hservice hregion haccount rfl⟩
  -- From here on colons belong to the resource.
  have hlast : joined (partition :: service :: region :: account :: resource :: fs) =
      joined [partition, service, region, account, ":".intercalate (resource :: fs)] := by
    simp [joined]
  rw [hlast]
  by_cases hne : ":".intercalate (resource :: fs) = ""
  · exact .inr ⟨_, .emptyResource hpartition hservice hregion haccount (by rw [hne])⟩
  · refine .inl ⟨⟨partition, service, region, account, ":".intercalate (resource :: fs)⟩,
      ⟨hpartition, hservice, hregion, haccount, hne⟩, ?_⟩
    rw [text_eq_joined]

theorem read_eq_ok_iff {s : String} {a : Arn} : read s = .ok a ↔ a.WellFormed ∧ s = a.text := by
  constructor
  · intro h
    rcases wellFormed_or_defect s with ⟨b, hb, rfl⟩ | ⟨e, he⟩
    · obtain rfl : a = b := Except.ok.inj (h.symm.trans hb.read_text)
      exact ⟨hb, rfl⟩
    · cases h.symm.trans he.read_eq
  · rintro ⟨ha, rfl⟩
    exact ha.read_text

theorem read_eq_error_iff {s : String} {e : ArnError} : read s = .error e ↔ FirstDefect s e := by
  constructor
  · intro h
    rcases wellFormed_or_defect s with ⟨a, ha, rfl⟩ | ⟨e', he⟩
    · cases h.symm.trans ha.read_text
    · obtain rfl : e = e' := Except.error.inj (h.symm.trans he.read_eq)
      exact he
  · exact FirstDefect.read_eq

end

/-- Reading takes a text exactly when it is the text of a well-formed name, and gives that name; of any
other text it tells the first defect. -/
theorem read_iff_grammar (s : String) :
    (∀ a, read s = .ok a ↔ a.WellFormed ∧ s = a.text) ∧
      ∀ e, read s = .error e ↔ FirstDefect s e :=
  ⟨fun _ => read_eq_ok_iff, fun _ => read_eq_error_iff⟩

end Arn
end CredentialResolution
