import CredentialResolution.Strategy.Check

/-! What the texts of failures tell apart. A text about properties that exclude each other names the
property and the strategy, and no other text begins as it does. -/

namespace CredentialResolution.Strategy
set_option autoImplicit false

section
variable {p q : Property} {s t : Strategy} {x y : Char} {as bs : List Char}

/-- Words of shown names begin with capitals, so such a name ends where a small letter follows. -/
theorem displayName_append_inj (hx : x ∈ ['c', 'm']) (hy : y ∈ ['c', 'm'])
    (h : p.displayName.toList ++ [' ', x] ++ as = q.displayName.toList ++ [' ', y] ++ bs) :
    p = q ∧ x = y ∧ as = bs := by
  have hall : ∀ p ∈ Property.all, ∀ q ∈ Property.all,
      (['c', 'm'].all fun x => ['c', 'm'].all fun y => decide
        (p.displayName.toList ++ [' ', x] <+: q.displayName.toList ++ [' ', y] →
          p = q ∧ x = y)) = true := by decide +kernel
  have hstems (p q : Property) {x y : Char} (hx : x ∈ ['c', 'm']) (hy : y ∈ ['c', 'm'])
      (hstem : p.displayName.toList ++ [' ', x] <+: q.displayName.toList ++ [' ', y]) :
      p = q ∧ x = y := by
    have hpq := List.all_eq_true.mp (hall p p.mem_all q q.mem_all) x hx
    exact of_decide_eq_true (List.all_eq_true.mp hpq y hy) hstem
  have hstem : p = q ∧ x = y := by
    rcases List.prefix_or_prefix_of_prefix (List.prefix_append _ as) (h ▸ List.prefix_append _ bs)
      with hstem | hstem
    · exact hstems p q hx hy hstem
    · exact (hstems q p hy hx hstem).imp Eq.symm Eq.symm
  obtain ⟨rfl, rfl⟩ := hstem
  exact ⟨rfl, rfl, List.append_cancel_left h⟩

theorem toList_notUsableWith : (notUsableWith p s).toList =
    "property ".toList ++ (p.displayName.toList ++ [' ', 'c'] ++
      ("annot be used with ".toList ++ s.name.toList)) := by
  simp [notUsableWith]

theorem toList_neededWith : (neededWith p s).toList =
    "property ".toList ++ (p.displayName.toList ++ [' ', 'm'] ++
      ("ust be set with ".toList ++ s.name.toList)) := by
  simp [neededWith]

/-- The text of a conflict tells what it is about. -/
theorem notUsableWith_inj (h : notUsableWith p s = notUsableWith q t) : p = q ∧ s.name = t.name := by
  have htext := congrArg String.toList h
  rw [toList_notUsableWith, toList_notUsableWith, List.append_cancel_left_eq] at htext
  obtain ⟨hp, -, htext⟩ := displayName_append_inj (by simp) (by simp) htext
  exact ⟨hp, String.toList_inj.mp (List.append_cancel_left htext)⟩

theorem notUsableWith_ne_neededWith : notUsableWith p s ≠ neededWith q t := by
  intro h
  have htext := congrArg String.toList h
  rw [toList_notUsableWith, toList_neededWith, List.append_cancel_left_eq] at htext
  obtain ⟨-, hx, -⟩ := displayName_append_inj (by simp) (by simp) htext
  exact absurd hx (by decide)

/-- The text cannot begin with the word `property`. -/
def beginsOtherwise (e : String) : Bool := e.toList.head?.any fun c => c != 'p'

theorem beginsOtherwise_append {a b : String} (h : beginsOtherwise a = true) :
    beginsOtherwise (a ++ b) = true := by
  cases ha : a.toList with
  | nil => simp [beginsOtherwise, ha] at h
  | cons c cs => simpa [beginsOtherwise, ha] using h

theorem beginsOtherwise_notUsableWith : beginsOtherwise (notUsableWith p s) = false := by
  rw [beginsOtherwise, toList_notUsableWith]
  rfl

theorem beginsOtherwise_neededWith : beginsOtherwise (neededWith p s) = false := by
  rw [beginsOtherwise, toList_neededWith]
  rfl

end

/-- Any failure is told in a text that begins otherwise. -/
def TellsOtherwise (r : Except String Unit) : Prop := ∀ e, r = .error e → beginsOtherwise e = true

theorem tellsOtherwise_ok : TellsOtherwise (.ok ()) := by
  intro e he
  cases he

theorem tellsOtherwise_error {e : String} (h : beginsOtherwise e = true) :
    TellsOtherwise (.error e) := by
  intro e' he
  cases he
  exact h

theorem beginsOtherwise_integerExplanation (e : Text.IntegerError) :
    beginsOtherwise (Validator.integerExplanation e) = true :=
  beginsOtherwise_append (beginsOtherwise_append rfl)

theorem beginsOtherwise_of_readInteger {value e : String}
    (h : Validator.readInteger value = .error e) : beginsOtherwise e = true := by
  unfold Validator.readInteger at h
  cases hread : Text.integerOf .signed32 (Text.trim value) with
  | ok n =>
    rw [hread] at h
    cases h
  | error error =>
    rw [hread] at h
    cases h
    exact beginsOtherwise_integerExplanation error

theorem beginsOtherwise_noFileExplanation (path : String) :
    beginsOtherwise (Validator.noFileExplanation path) = true :=
  beginsOtherwise_append (beginsOtherwise_append (beginsOtherwise_append rfl))

theorem beginsOtherwise_noPathExplanation (path : String) (e : Files.FileError) :
    beginsOtherwise (Validator.noPathExplanation path e) = true := by
  unfold Validator.noPathExplanation
  iterate 5 apply beginsOtherwise_append
  rfl

theorem tellsOtherwise_checkTokenFile (files : Files.FileSystem) (path : String) :
    TellsOtherwise (Validator.checkTokenFile files path) := by
  unfold Validator.checkTokenFile
  split
  · split
    · exact tellsOtherwise_ok
    · exact tellsOtherwise_error (beginsOtherwise_noFileExplanation _)
  · exact tellsOtherwise_error (beginsOtherwise_noFileExplanation _)
  · exact tellsOtherwise_error (beginsOtherwise_noPathExplanation _ _)

theorem tellsOtherwise_check (v : Validator) (files : Files.FileSystem)
    (subject raw value : String) : TellsOtherwise (v.check files subject raw value) := by
  cases v with
  | arn =>
    simp only [Validator.check]
    cases Arn.read value with
    | ok a => exact tellsOtherwise_ok
    | error e =>
      apply tellsOtherwise_error
      cases e <;> rfl
  | sessionName =>
    simp only [Validator.check]
    split
    · exact tellsOtherwise_ok
    · apply tellsOtherwise_error
      unfold Validator.sessionNameExplanation
      iterate 8 apply beginsOtherwise_append
      rfl
  | tokenFile => exact tellsOtherwise_checkTokenFile files value
  | integer =>
    simp only [Validator.check]
    cases hread : Validator.readInteger value with
    | ok n => exact tellsOtherwise_ok
    | error e => exact tellsOtherwise_error (beginsOtherwise_of_readInteger hread)
  | port =>
    simp only [Validator.check]
    cases hread : Validator.readInteger value with
    | ok n =>
      dsimp only
      split
      · exact tellsOtherwise_ok
      · exact tellsOtherwise_error rfl
    | error e => exact tellsOtherwise_error (beginsOtherwise_of_readInteger hread)
  | boolean =>
    simp only [Validator.check]
    split
    · exact tellsOtherwise_ok
    · exact tellsOtherwise_error rfl
  | credentialsFile =>
    simp only [Validator.check, Validator.checkCredentialsFile]
    split
    · exact tellsOtherwise_ok
    · apply tellsOtherwise_error
      rw [String.append_assoc]
      exact beginsOtherwise_append rfl

theorem beginsOtherwise_blankExplanation (v : Validator) (subject : String) :
    beginsOtherwise (v.blankExplanation subject) = true := by
  cases v with
  | arn =>
    rw [Validator.blankExplanation]
    rfl
  | sessionName | tokenFile | integer | port | boolean | credentialsFile =>
    exact beginsOtherwise_append (beginsOtherwise_append rfl)

/-- None of the failures is told as a conflict is. -/
def AllOther (fs : List Finding) : Prop :=
  ∀ f ∈ fs, ∀ e, f.explanation? = some e → beginsOtherwise e = true

theorem allOther_nil : AllOther [] := by
  intro f hf
  cases hf

theorem AllOther.append {fs gs : List Finding} (hf : AllOther fs) (hg : AllOther gs) :
    AllOther (fs ++ gs) := List.forall_mem_append.mpr ⟨hf, hg⟩

theorem allOther_invalid {subject e : String} {input : Option String}
    (h : beginsOtherwise e = true) : AllOther [.invalid subject input e] := by
  intro f hf e' he
  rw [List.mem_singleton.mp hf] at he
  cases he
  exact h

theorem AllOther.ite {fs : List Finding} {P : Prop} [Decidable P] (h : AllOther fs) :
    AllOther (if P then fs else []) := by
  split
  · exact h
  · exact allOther_nil

theorem allOther_failure_judge (v : Validator) (ctx : Context) (p : Property) (raw : String) :
    AllOther (v.judge ctx p raw).failure := by
  have hvalid : AllOther (Finding.valid p.displayName (some raw)).failure := allOther_nil
  unfold Validator.judge
  split
  · exact allOther_invalid (beginsOtherwise_blankExplanation _ _)
  split
  · apply allOther_invalid
    simp only [String.append_assoc]
    exact beginsOtherwise_append rfl
  split
  · apply allOther_invalid
    rw [String.append_assoc]
    exact beginsOtherwise_append rfl
  split
  · split
    · rename_i hcheck
      exact allOther_invalid (tellsOtherwise_check _ _ _ _ _ _ hcheck)
    · exact hvalid
  · exact hvalid

theorem allOther_failure_judgeProperty (v : Validator) (ctx : Context) (p : Property) :
    AllOther (v.judgeProperty ctx p).failure := by
  unfold Validator.judgeProperty
  split
  · exact allOther_nil
  · exact allOther_failure_judge v ctx p _

theorem allOther_sessionLengthFailures (subject raw value : String) :
    AllOther (sessionLengthFailures subject raw value) := by
  unfold sessionLengthFailures
  split
  · rename_i hread
    exact allOther_invalid (beginsOtherwise_of_readInteger hread)
  · split
    · exact allOther_nil
    · apply allOther_invalid
      iterate 4 apply beginsOtherwise_append
      rfl

theorem allOther_sessionTimeFailures (ctx : Context) : AllOther (sessionTimeFailures ctx) := by
  simp only [sessionTimeFailures]
  split
  · split
    · split
      · exact allOther_sessionLengthFailures _ _ _
      · exact allOther_nil
    · rename_i raw _ hinvalid
      have hjudge := allOther_failure_judge .integer ctx .sessionTime raw
      rwa [Finding.failure, if_neg hinvalid] at hjudge
  · split
    · exact allOther_sessionLengthFailures _ _ _
    · exact allOther_nil

theorem allOther_proxyFailures (ctx : Context) : AllOther (proxyFailures ctx) := by
  apply AllOther.append
  · exact (allOther_invalid rfl).ite
  · exact (allOther_failure_judgeProperty _ _ _).ite

theorem allOther_assumeRoleFailures (ctx : Context) : AllOther (assumeRoleFailures ctx) := by
  apply AllOther.append
  · apply AllOther.append
    · apply AllOther.append
      · exact (allOther_invalid rfl).ite
      · exact allOther_sessionTimeFailures ctx
    · exact (allOther_invalid rfl).ite
  · exact allOther_proxyFailures ctx

theorem allOther_webIdentityFailures (ctx : Context) : AllOther (webIdentityFailures ctx) := by
  have htogether : beginsOtherwise (togetherExplanation ctx.configuration) = true :=
    beginsOtherwise_append (beginsOtherwise_append rfl)
  apply AllOther.append
  · apply AllOther.append
    · apply AllOther.append
      · apply AllOther.append
        · exact (allOther_invalid htogether).ite
        · exact allOther_failure_judgeProperty _ _ _
      · exact allOther_failure_judgeProperty _ _ _
    · exact allOther_failure_judgeProperty _ _ _
  · exact allOther_proxyFailures ctx

end CredentialResolution.Strategy
