import CredentialResolution.Configuration.Document
import CredentialResolution.Proofs.Collecting
import CredentialResolution.Proofs.Spelling

/-! The documents that reading accepts, said without a reader, and what becomes of their entries. -/

namespace CredentialResolution
set_option autoImplicit false

namespace Configuration
open Json

/-- A text after a colon, the rest of a member. -/
def Given (cs : List Char) (value : String) (rest : List Char) : Prop :=
  ∃ opened, Blanks cs ('"' :: opened) ∧ Spelled opened value.toList rest

/-- A member, from after the quote that opens its name. -/
def Member (cs : List Char) (name value : String) (rest : List Char) : Prop :=
  ∃ afterName afterColon, Spelled cs name.toList afterName ∧ Blanks afterName (':' :: afterColon) ∧
    Given afterColon value rest

/-- A comma, and after it the quote that opens the name of another member. -/
def Another (cs next : List Char) : Prop := ∃ mid, Blanks cs (',' :: mid) ∧ Blanks mid ('"' :: next)

/-- The members of an object and the brace that closes it, from after the first quote. -/
inductive Members : List Char → List (String × String) → List Char → Prop
  | last {cs rest after : List Char} {name value : String} : Member cs name value rest →
      Blanks rest ('}' :: after) → Members cs [(name, value)] after
  | more {cs rest next after : List Char} {name value : String} {es : List (String × String)} :
      Member cs name value rest → Another rest next → Members next es after →
      Members cs ((name, value) :: es) after

/-- After members that are complete there is a name that is no property's. What follows the name may be
anything. -/
inductive NamesUnknown : List Char → String → Prop
  | here {cs rest : List Char} {name : String} : Spelled cs name.toList rest →
      (∀ p : Property, p.name ≠ name) → NamesUnknown cs name
  | later {cs rest next : List Char} {p : Property} {value name : String} :
      Member cs p.name value rest → Another rest next → NamesUnknown next name → NamesUnknown cs name

/-- An object, from after the brace that opens it. -/
inductive Object : List Char → List (String × String) → List Char → Prop
  | empty {cs after : List Char} : Blanks cs ('}' :: after) → Object cs [] after
  | members {cs next after : List Char} {es : List (String × String)} : Blanks cs ('"' :: next) →
      Members next es after → Object cs es after

/-- A document that gives the values to the names, in this order. -/
def Writes (cs : List Char) (es : List (String × String)) : Prop :=
  ∃ mid after, Blanks cs ('{' :: mid) ∧ Object mid es after ∧ Blanks after []

/-- An object begins in which a name is met that is no property's. -/
def MeetsUnknown (cs : List Char) (name : String) : Prop :=
  ∃ mid next, Blanks cs ('{' :: mid) ∧ Blanks mid ('"' :: next) ∧ NamesUnknown next name

/-- An entry as documents have it. -/
def named (e : Property × String) : String × String := (e.1.name, e.2)

section
variable {cs rest next mid after : List Char} {value : List Char} {p : Property} {v name : String}
  {es : List (Property × String)} {ms : List (String × String)} {e : Property.UnknownName}

theorem readValue_eq_ok_iff :
    readValue cs = .ok (value, rest) ↔ Given cs (String.ofList value) rest := by
  rw [Given, String.toList_ofList]
  constructor
  · intro h
    unfold readValue at h
    split at h
    · rename_i opened hopened
      split at h
      · rename_i r hr
        obtain rfl := Except.ok.inj h
        exact ⟨opened, (skipSpace_eq_cons_iff rfl).mp hopened, readText?_eq_some_iff.mp hr⟩
      · cases h
    · cases h
  · rintro ⟨opened, hopened, hvalue⟩
    simp only [readValue, (skipSpace_eq_cons_iff rfl).mpr hopened, readText?_eq_some_iff.mpr hvalue]

/-- Values are not looked up. -/
theorem readValue_ne_unknownName : readValue cs ≠ .error (.unknownName e) := by
  unfold readValue misplaced
  repeat' split
  all_goals exact nofun

theorem readMember_eq_ok_iff : readMember cs = .ok ((p, v), rest) ↔ Member cs p.name v rest := by
  constructor
  · intro h
    unfold readMember at h
    split at h
    · cases h
    · rename_i name afterName hname
      split at h
      · cases h
      · rename_i q hq
        split at h
        · rename_i afterColon hcolon
          split at h
          · cases h
          · rename_i value r hvalue
            cases h
            refine ⟨afterName, afterColon, ?_, (skipSpace_eq_cons_iff rfl).mp hcolon,
              readValue_eq_ok_iff.mp hvalue⟩
            rw [Property.ofName_eq_ok_iff.mp hq, String.toList_ofList]
            exact readText?_eq_some_iff.mp hname
        · cases h
  · rintro ⟨afterName, afterColon, hname, hcolon, hvalue⟩
    rw [← String.ofList_toList (s := v)] at hvalue
    simp only [readMember, readText?_eq_some_iff.mpr hname, String.ofList_toList, Property.ofName_name,
      (skipSpace_eq_cons_iff rfl).mpr hcolon, readValue_eq_ok_iff.mpr hvalue]

/-- A name is looked up before anything that follows it is read. -/
theorem readMember_eq_unknownName_iff :
    readMember cs = .error (.unknownName ⟨name⟩) ↔
      ∃ rest, Spelled cs name.toList rest ∧ ∀ p : Property, p.name ≠ name := by
  constructor
  · intro h
    unfold readMember at h
    split at h
    · cases h
    · rename_i text afterName hname
      split at h
      · rename_i e he
        obtain ⟨rfl, hnone⟩ := Property.ofName_eq_error_iff.mp he
        cases h
        refine ⟨afterName, ?_, hnone⟩
        rw [String.toList_ofList]
        exact readText?_eq_some_iff.mp hname
      · split at h
        · split at h
          · rename_i he
            cases h
            exact absurd he readValue_ne_unknownName
          · cases h
        · cases h
  · rintro ⟨rest, hname, hnone⟩
    have herror := Property.ofName_eq_error_iff.mpr ⟨rfl, hnone⟩
    simp only [readMember, readText?_eq_some_iff.mpr hname, String.ofList_toList, herror]

/-- One round of reading members, free of the proofs that it ends. -/
theorem readMembers_eq (cs : List Char) :
    readMembers cs = match readMember cs with
      | .error err => .error err
      | .ok (e, rest) =>
        match skipSpace rest with
        | '}' :: after => .ok ([e], after)
        | ',' :: mid =>
          match skipSpace mid with
          | '"' :: next => (readMembers next).map fun r => (e :: r.1, r.2)
          | _ => .error .malformed
        | _ => .error .malformed := by
  rw [readMembers]
  repeat' split
  all_goals simp_all [Except.map]

theorem readMembers_last (h : Member cs p.name v rest) (hend : Blanks rest ('}' :: after)) :
    readMembers cs = .ok ([(p, v)], after) := by
  rw [readMembers_eq, readMember_eq_ok_iff.mpr h]
  simp only [(skipSpace_eq_cons_iff rfl).mpr hend]

theorem readMembers_more (h : Member cs p.name v rest) (hnext : Another rest next) :
    readMembers cs = (readMembers next).map fun r => ((p, v) :: r.1, r.2) := by
  obtain ⟨mid, hcomma, hquote⟩ := hnext
  rw [readMembers_eq, readMember_eq_ok_iff.mpr h]
  simp only [(skipSpace_eq_cons_iff rfl).mpr hcomma, (skipSpace_eq_cons_iff rfl).mpr hquote]

theorem another_of_skipSpace (hs : skipSpace rest = ',' :: mid) (hm : skipSpace mid = '"' :: next) :
    Another rest next :=
  ⟨mid, (skipSpace_eq_cons_iff rfl).mp hs, (skipSpace_eq_cons_iff rfl).mp hm⟩

theorem readMembers_eq_ok_iff : readMembers cs = .ok (es, after) ↔ Members cs (es.map named) after := by
  constructor
  · intro h
    fun_induction readMembers cs generalizing es with
    | case2 cs e rest hm after hend =>
      cases h
      exact .last (readMember_eq_ok_iff.mp hm) ((skipSpace_eq_cons_iff rfl).mp hend)
    | case4 cs e rest hm mid hcomma next hquote es last hes ih =>
      cases h
      exact .more (readMember_eq_ok_iff.mp hm) (another_of_skipSpace hcomma hquote) (ih hes)
    | case1 | case3 | case5 | case6 => cases h
  · intro h
    -- The induction is on the grammar, where names are texts.
    generalize hms : es.map named = ms at h
    induction h generalizing es with
    | last hm hend =>
      obtain ⟨⟨p, v⟩, rfl, heq⟩ := List.map_eq_singleton_iff.mp hms
      cases heq
      exact readMembers_last hm hend
    | more hm hnext _ ih =>
      obtain ⟨⟨p, v⟩, es, rfl, heq, hes⟩ := List.map_eq_cons_iff.mp hms
      cases heq
      rw [readMembers_more hm hnext, ih hes]
      rfl

theorem readMembers_eq_unknownName_iff :
    readMembers cs = .error (.unknownName ⟨name⟩) ↔ NamesUnknown cs name := by
  constructor
  · intro h
    fun_induction readMembers cs with
    | case1 cs e he =>
      cases h
      obtain ⟨rest, hname, hnone⟩ := readMember_eq_unknownName_iff.mp he
      exact .here hname hnone
    | case3 cs e rest hm mid hcomma next hquote err herr ih =>
      cases h
      exact .later (readMember_eq_ok_iff.mp hm) (another_of_skipSpace hcomma hquote) (ih herr)
    | case2 | case4 | case5 | case6 => cases h
  · intro h
    induction h with
    | here hname hnone =>
      rw [readMembers_eq, readMember_eq_unknownName_iff.mpr ⟨_, hname, hnone⟩]
    | later hm hnext _ ih =>
      rw [readMembers_more hm hnext, ih]
      rfl

theorem readObject_eq_ok_iff : readObject cs = .ok (es, after) ↔ Object cs (es.map named) after := by
  constructor
  · intro h
    unfold readObject at h
    split at h
    · rename_i hclose
      cases h
      exact .empty ((skipSpace_eq_cons_iff rfl).mp hclose)
    · rename_i hquote
      exact .members ((skipSpace_eq_cons_iff rfl).mp hquote) (readMembers_eq_ok_iff.mp h)
    · cases h
  · intro h
    generalize hms : es.map named = ms at h
    cases h with
    | empty hclose =>
      obtain rfl := List.map_eq_nil_iff.mp hms
      simp only [readObject, (skipSpace_eq_cons_iff rfl).mpr hclose]
    | members hquote hmembers =>
      subst hms
      simp only [readObject, (skipSpace_eq_cons_iff rfl).mpr hquote, readMembers_eq_ok_iff.mpr hmembers]

theorem readObject_eq_unknownName_iff :
    readObject cs = .error (.unknownName ⟨name⟩) ↔
      ∃ next, Blanks cs ('"' :: next) ∧ NamesUnknown next name := by
  constructor
  · intro h
    unfold readObject at h
    split at h
    · cases h
    · rename_i next hquote
      exact ⟨next, (skipSpace_eq_cons_iff rfl).mp hquote, readMembers_eq_unknownName_iff.mp h⟩
    · cases h
  · rintro ⟨next, hquote, hunknown⟩
    simp only [readObject, (skipSpace_eq_cons_iff rfl).mpr hquote,
      readMembers_eq_unknownName_iff.mpr hunknown]

theorem documentEntries_eq_ok_iff : documentEntries cs = .ok es ↔ Writes cs (es.map named) := by
  constructor
  · intro h
    unfold documentEntries at h
    split at h
    · rename_i mid hopen
      split at h
      · cases h
      · rename_i fs after hobject
        split at h
        · rename_i hend
          cases h
          exact ⟨mid, after, (skipSpace_eq_cons_iff rfl).mp hopen, readObject_eq_ok_iff.mp hobject,
            skipSpace_eq_nil_iff.mp (List.isEmpty_iff.mp hend)⟩
        · cases h
    · cases h
  · rintro ⟨mid, after, hopen, hobject, hend⟩
    simp only [documentEntries, (skipSpace_eq_cons_iff rfl).mpr hopen, readObject_eq_ok_iff.mpr hobject,
      skipSpace_eq_nil_iff.mpr hend, List.isEmpty_nil, if_true]

theorem documentEntries_eq_unknownName_iff :
    documentEntries cs = .error (.unknownName ⟨name⟩) ↔ MeetsUnknown cs name := by
  constructor
  · intro h
    unfold documentEntries at h
    split at h
    · rename_i mid hopen
      split at h
      · rename_i err hobject
        cases h
        obtain ⟨next, hquote, hunknown⟩ := readObject_eq_unknownName_iff.mp hobject
        exact ⟨mid, next, (skipSpace_eq_cons_iff rfl).mp hopen, hquote, hunknown⟩
      · split at h
        all_goals cases h
    · unfold misplaced at h
      split at h
      all_goals cases h
  · rintro ⟨mid, next, hopen, hquote, hunknown⟩
    have hobject := readObject_eq_unknownName_iff.mpr ⟨next, hquote, hunknown⟩
    simp only [documentEntries, (skipSpace_eq_cons_iff rfl).mpr hopen, hobject]

/-! ### Documents with names that are not known -/

theorem namesUnknown_of_member {v : String} (hnone : ∀ p : Property, p.name ≠ name)
    (h : Member cs name v rest) : NamesUnknown cs name := by
  obtain ⟨afterName, -, hname, -⟩ := h
  exact .here hname hnone

/-- Of the names that are no property's, the first one is met. -/
theorem namesUnknown_of_members {before : List (Property × String)} {v : String}
    (hnone : ∀ p : Property, p.name ≠ name)
    (h : Members cs (before.map named ++ (name, v) :: ms) after) : NamesUnknown cs name := by
  generalize hwritten : before.map named ++ (name, v) :: ms = written at h
  induction h generalizing before with
  | last hm =>
    cases before with
    | nil =>
      cases hwritten
      exact namesUnknown_of_member hnone hm
    | cons e before => cases before <;> cases hwritten
  | more hm hnext _ ih =>
    cases before with
    | nil =>
      cases hwritten
      exact namesUnknown_of_member hnone hm
    | cons e before =>
      cases hwritten
      exact .later hm hnext (ih rfl)

theorem exists_first_unknown (h : ∃ m ∈ ms, ∀ p : Property, p.name ≠ m.1) :
    ∃ (before : List (Property × String)) (m : String × String) (after : List (String × String)),
      ms = before.map named ++ m :: after ∧ ∀ p : Property, p.name ≠ m.1 := by
  induction ms with
  | nil =>
    obtain ⟨m, hm, -⟩ := h
    cases hm
  | cons m ms ih =>
    by_cases hm : ∀ p : Property, p.name ≠ m.1
    · exact ⟨[], m, ms, rfl, hm⟩
    · obtain ⟨p, hp⟩ := not_forall_not.mp hm
      obtain ⟨before, n, after, rfl, hn⟩ := ih (by simpa [hm] using h)
      refine ⟨(p, m.2) :: before, n, after, ?_, hn⟩
      rw [List.map_cons, named, hp]
      rfl

theorem meetsUnknown_of_writes {before : List (Property × String)} {v : String}
    (hnone : ∀ p : Property, p.name ≠ name) (h : Writes cs (before.map named ++ (name, v) :: ms)) :
    MeetsUnknown cs name := by
  obtain ⟨mid, after, hopen, hobject, -⟩ := h
  generalize hms : before.map named ++ (name, v) :: ms = written at hobject
  cases hobject with
  | empty => simp at hms
  | members hquote hmembers =>
    exact ⟨mid, _, hopen, hquote, namesUnknown_of_members hnone (hms ▸ hmembers)⟩

/-! ### Every list of entries has a document -/

theorem exists_member (name v : String) (rest : List Char) : ∃ cs, Member cs name v rest := by
  obtain ⟨value, hvalue⟩ := exists_spelled v.toList rest
  obtain ⟨cs, hname⟩ := exists_spelled name.toList (':' :: '"' :: value)
  exact ⟨cs, _, _, hname, blanks_refl _, value, blanks_refl _, hvalue⟩

theorem exists_members (m : String × String) (ms : List (String × String)) (after : List Char) :
    ∃ cs, Members cs (m :: ms) after := by
  induction ms generalizing m with
  | nil =>
    obtain ⟨cs, hm⟩ := exists_member m.1 m.2 ('}' :: after)
    exact ⟨cs, .last hm (blanks_refl _)⟩
  | cons n ms ih =>
    obtain ⟨next, hnext⟩ := ih n
    obtain ⟨cs, hm⟩ := exists_member m.1 m.2 (',' :: '"' :: next)
    exact ⟨cs, .more hm ⟨_, blanks_refl _, blanks_refl _⟩ hnext⟩

theorem exists_writes (ms : List (String × String)) : ∃ text : String, Writes text.toList ms := by
  have hobject : ∃ mid, Object mid ms [] := by
    cases ms with
    | nil => exact ⟨_, .empty (blanks_refl _)⟩
    | cons m ms =>
      obtain ⟨next, hnext⟩ := exists_members m ms []
      exact ⟨_, .members (blanks_refl _) hnext⟩
  obtain ⟨mid, hmid⟩ := hobject
  refine ⟨String.ofList ('{' :: mid), mid, [], ?_, hmid, blanks_refl _⟩
  rw [String.toList_ofList]
  exact blanks_refl _

/-- What reading makes of a text. -/
structure ReadsDocument (text : String) : Prop where
  ok : ∀ c, ofDocument text = .ok c ↔ ∃ es, Writes text.toList (es.map named) ∧ c = ofList es
  tables : ∀ es table, Writes text.toList (es.map named) → Tabulated es table →
    ofDocument text = .ok (ofList table)
  unknown : ∀ name, ofDocument text = .error (.unknownName ⟨name⟩) ↔ MeetsUnknown text.toList name
  first : ∀ (before : List (Property × String)) name v after, (∀ p : Property, p.name ≠ name) →
    Writes text.toList (before.map named ++ (name, v) :: after) →
    ofDocument text = .error (.unknownName ⟨name⟩)
  refused : ∀ ms, Writes text.toList ms → (∃ m ∈ ms, ∀ p : Property, p.name ≠ m.1) →
    ∃ m ∈ ms, (∀ p : Property, p.name ≠ m.1) ∧ ofDocument text = .error (.unknownName ⟨m.1⟩)

theorem ofDocument_eq_ok_iff {text : String} {c : Configuration} :
    ofDocument text = .ok c ↔ ∃ es, Writes text.toList (es.map named) ∧ c = ofList es := by
  simp only [← documentEntries_eq_ok_iff, ofDocument]
  cases documentEntries text.toList <;> simp [Except.map, eq_comm]

theorem ofDocument_eq_unknownName_iff {text : String} :
    ofDocument text = .error (.unknownName ⟨name⟩) ↔ MeetsUnknown text.toList name := by
  rw [← documentEntries_eq_unknownName_iff, ofDocument]
  cases documentEntries text.toList <;> simp [Except.map]

theorem readsDocument (text : String) : ReadsDocument text where
  ok _ := ofDocument_eq_ok_iff
  tables _ _ hes htable := ofDocument_eq_ok_iff.mpr ⟨_, hes, htable.ofList_eq⟩
  unknown _ := ofDocument_eq_unknownName_iff
  first _ _ _ _ hnone h := ofDocument_eq_unknownName_iff.mpr (meetsUnknown_of_writes hnone h)
  refused ms h hunknown := by
    obtain ⟨before, m, after, rfl, hnone⟩ := exists_first_unknown hunknown
    have hmem : m ∈ before.map named ++ m :: after := List.mem_append_right _ List.mem_cons_self
    exact ⟨m, hmem, hnone, ofDocument_eq_unknownName_iff.mpr (meetsUnknown_of_writes hnone h)⟩

/-- Of several writes to one property the last decides, and nothing else of their order, whether they are
edits, collected entries or the members of a document, which go through a table on their way. A name that is
no property's is refused where it is met. -/
theorem last_write_decides :
    (∀ c es, Edited c es) ∧ (∀ es, Collected es) ∧ (∀ text, ReadsDocument text) ∧
      ∀ ms, ∃ text : String, Writes text.toList ms :=
  ⟨edited_run, collected, readsDocument, exists_writes⟩

end
end Configuration
end CredentialResolution
