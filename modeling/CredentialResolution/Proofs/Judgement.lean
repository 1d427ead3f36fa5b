import CredentialResolution.Proofs.Evaluation
import CredentialResolution.Proofs.Numeral
import CredentialResolution.Validation.Validator
import Mathlib.Data.List.DropRight

/-! What validators accept, said without the steps in which they look. Only the value of a text counts;
the text itself matters where it is blank. -/

namespace CredentialResolution
set_option autoImplicit false

theorem Text.ne_empty_of_not_blank {s : String} (h : Text.allBlank s = false) : s ≠ "" := by
  rintro rfl
  simp [Text.allBlank] at h

theorem Text.ne_empty_of_trim {s : String} (h : Text.trim s ≠ "") : s ≠ "" := by
  rintro rfl
  exact h Text.trim_empty

theorem Text.trim_of_allBlank {s : String} (h : Text.allBlank s = true) : Text.trim s = "" := by
  have hs : Text.trimStart s.toList = [] := List.dropWhile_eq_nil_iff.mpr (List.all_eq_true.mp h)
  simp [Text.trim, Text.trimmed, hs]

theorem Text.trim_eq_empty_iff {s : String} : Text.trim s = "" ↔ Text.allBlank s = true := by
  refine ⟨fun h => ?_, Text.trim_of_allBlank⟩
  have hend : (Text.trimStart s.toList).rdropWhile Text.isBlank = [] := by
    change Text.trimmed s.toList = []
    rw [← Text.toList_trim, h, String.toList_empty]
  -- What is left without the blanks in front has none in front again, so it is nothing.
  have hstart : Text.trimStart s.toList = [] := by
    rw [Text.trimStart, ← List.dropWhile_idempotent]
    exact List.dropWhile_eq_nil_iff.mpr (List.rdropWhile_eq_nil_iff.mp hend)
  exact List.all_eq_true.mpr (List.dropWhile_eq_nil_iff.mp hstart)

namespace Context

/-- Where the property is set it is to a text that is not blank and has a value with the quality `Q`. -/
def HasValue (ctx : Context) (p : Property) (Q : String → Prop) : Prop :=
  ∀ raw, ctx.configuration.filled? p = some raw →
    Text.allBlank raw = false ∧ ∃ v, ctx.evaluator.valueOf p raw = .ok v ∧ Q v

/-- Without expressions a text is its own value. -/
theorem hasValue_iff_of_not_supports {ctx : Context} {p : Property} {Q : String → Prop}
    (hp : p.supportsExpression = false) :
    ctx.HasValue p Q ↔
      ∀ raw, ctx.configuration.filled? p = some raw → Text.allBlank raw = false ∧ Q raw := by
  simp [HasValue, Evaluator.valueOf, hp]

/-- The property is set, to a text with the value `v`. -/
def Sets (ctx : Context) (p : Property) (v : String) : Prop :=
  ∃ raw, ctx.configuration.filled? p = some raw ∧ ctx.evaluator.valueOf p raw = .ok v

section
variable {ctx : Context} {d : Configuration} {p : Property} {v w : String} {Q : String → Prop}

theorem Sets.unique (hv : ctx.Sets p v) (hw : ctx.Sets p w) : v = w := by
  obtain ⟨raw, hraw, hvalue⟩ := hv
  obtain ⟨raw', hraw', hvalue'⟩ := hw
  obtain rfl : raw = raw' := Option.some.inj (hraw.symm.trans hraw')
  exact Except.ok.inj (hvalue.symm.trans hvalue')

theorem Sets.isSet (hv : ctx.Sets p v) : ctx.configuration.isSet p = true :=
  Configuration.isSet_iff_filled.mpr (hv.imp fun _ => And.left)

theorem HasValue.of_sets (h : ctx.HasValue p Q) (hv : ctx.Sets p v) : Q v := by
  obtain ⟨raw, hraw, hvalue⟩ := hv
  obtain ⟨-, w, hw, hq⟩ := h raw hraw
  obtain rfl : v = w := Except.ok.inj (hvalue.symm.trans hw)
  exact hq

theorem HasValue.exists_sets (h : ctx.HasValue p Q) (hp : ctx.configuration.isSet p = true) :
    ∃ v, ctx.Sets p v ∧ Q v := by
  obtain ⟨raw, hraw⟩ := Configuration.isSet_iff_filled.mp hp
  obtain ⟨-, v, hv, hq⟩ := h raw hraw
  exact ⟨v, ⟨raw, hraw, hv⟩, hq⟩

variable (hd : ctx.evaluator.Evaluates ctx.configuration d)
include hd

theorem Sets.value? (hv : ctx.Sets p v) : d.value? p = some v := by
  obtain ⟨raw, hraw, hvalue⟩ := hv
  obtain ⟨w, hw, hdw⟩ := hd.present p raw (Configuration.filled?_eq_some_iff.mp hraw).1
  obtain rfl : v = w := Except.ok.inj (hvalue.symm.trans hw)
  exact hdw

theorem exists_sets (hp : ctx.configuration.isSet p = true) : ∃ v, ctx.Sets p v := by
  obtain ⟨raw, hraw⟩ := Configuration.isSet_iff_filled.mp hp
  obtain ⟨v, hv, -⟩ := hd.present p raw (Configuration.filled?_eq_some_iff.mp hraw).1
  exact ⟨v, raw, hraw, hv⟩

variable (hempty : ctx.evaluator.contains "" = false)
include hempty

theorem sets_of_filled (hv : d.filled? p = some v) : ctx.Sets p v := hd.source_filled hempty hv

end

/-- The value that a property is set to has the quality, where nothing becomes set by evaluation. -/
theorem HasValue.evaluated {ctx : Context} {d : Configuration} {p : Property} {Q : String → Prop}
    (h : ctx.HasValue p Q) (hempty : ctx.evaluator.contains "" = false)
    (hd : ctx.evaluator.Evaluates ctx.configuration d) {v : String} (hv : d.filled? p = some v) :
    Q v := h.of_sets (sets_of_filled hd hempty hv)

end Context

/-- The trimmed text is a numeral of a number within bounds. -/
def Text.IsNumeralIn (least greatest : Int) (s : String) : Prop :=
  ∃ n, Text.Numeral (Text.trim s).toList n ∧ least ≤ n ∧ n ≤ greatest

theorem Text.not_isNumeralIn_empty (least greatest : Int) : ¬ Text.IsNumeralIn least greatest "" := by
  intro hnumeral
  obtain ⟨n, hn, -⟩ := hnumeral
  cases hn <;> simp_all [Text.AreDigits]

theorem Arn.not_exists_read_empty : ¬ ∃ a, Arn.read "" = .ok a := by
  simp [Arn.read, Text.afterMark]

theorem Files.FileSystem.not_exists_locate_empty {files : Files.FileSystem} :
    ¬ ∃ loc, files.locate "" = .ok loc ∧ files.isFile loc = true := by
  simp [Files.FileSystem.locate, Files.Path.ofString]

namespace Validator
variable {v : Validator} {ctx : Context} {p : Property} {raw value : String}

/-- The text has a value that passes the check; a mandatory validator asks for one that is not empty,
of a text that is not blank. -/
structure Accepts (v : Validator) (ctx : Context) (p : Property) (raw : String) : Prop where
  notBlank : v.isMandatory = true → Text.allBlank raw = false
  checked : ∃ value, ctx.evaluator.valueOf p raw = .ok value ∧
    (value = "" → v.isMandatory = false) ∧
    (value ≠ "" → v.check ctx.files p.displayName raw value = .ok ())

theorem judge_isValid_iff : (v.judge ctx p raw).isValid = true ↔ v.Accepts ctx p raw := by
  unfold judge
  by_cases hb : (v.isMandatory && Text.allBlank raw) = true
  · rw [if_pos hb]
    simp only [Finding.isValid_invalid, Bool.false_eq_true, false_iff]
    intro h
    rw [Bool.and_eq_true] at hb
    simp [h.notBlank hb.1] at hb
  rw [if_neg hb]
  have hblank : v.isMandatory = true → Text.allBlank raw = false := by simpa using hb
  cases hv : ctx.evaluator.valueOf p raw with
  | error e =>
    simp only [Finding.isValid_invalid, Bool.false_eq_true, false_iff]
    intro h
    obtain ⟨value, hvalue, -⟩ := h.checked
    rw [hv] at hvalue
    simp at hvalue
  | ok value =>
    have hiff : v.Accepts ctx p raw ↔ (value = "" → v.isMandatory = false) ∧
        (value ≠ "" → v.check ctx.files p.displayName raw value = .ok ()) := by
      constructor
      · intro h
        obtain ⟨value', hvalue, hc⟩ := h.checked
        obtain rfl : value = value' := Except.ok.inj (hv.symm.trans hvalue)
        exact hc
      · exact fun h => ⟨hblank, value, hv, h⟩
    rw [hiff]
    cases hm : v.isMandatory with
    | false =>
      by_cases he : value = ""
      · simp [he]
      · cases hc : v.check ctx.files p.displayName raw value <;> simp [he, hc]
    | true =>
      by_cases he : value = ""
      · have hne := Text.ne_empty_of_not_blank (hblank hm)
        simp [he, hne.symm]
      · cases hc : v.check ctx.files p.displayName raw value <;> simp [he, hc]

/-- A property passes when it is not set, or set to a text that is accepted. -/
theorem failure_judgeProperty_eq_nil_iff :
    (v.judgeProperty ctx p).failure = [] ↔
      ∀ raw, ctx.configuration.filled? p = some raw → v.Accepts ctx p raw := by
  rw [Finding.failure_eq_nil_iff, judgeProperty]
  cases h : ctx.configuration.filled? p with
  | none => simp
  | some raw => simp [judge_isValid_iff]

/-- A mandatory validator whose check comes to `Q`, which the empty text does not have, asks for a
value with `Q`. -/
theorem failure_eq_nil_iff_hasValue {Q : String → Prop} (hm : v.isMandatory = true)
    (hQ : ∀ raw value, v.check ctx.files p.displayName raw value = .ok () ↔ Q value)
    (hempty : ¬ Q "") : (v.judgeProperty ctx p).failure = [] ↔ ctx.HasValue p Q := by
  rw [failure_judgeProperty_eq_nil_iff]
  constructor
  · intro h raw hraw
    obtain ⟨hb, value, hv, hmand, hc⟩ := h raw hraw
    refine ⟨hb hm, value, hv, (hQ raw value).mp (hc ?_)⟩
    intro he
    simp [hmand he] at hm
  · intro h raw hraw
    obtain ⟨hb, value, hv, hq⟩ := h raw hraw
    refine ⟨fun _ => hb, value, hv, ?_, fun _ => (hQ raw value).mpr hq⟩
    rintro rfl
    exact absurd hq hempty

theorem readInteger_eq_ok_iff_integerOf {n : Int} :
    readInteger value = .ok n ↔ Text.integerOf .signed32 (Text.trim value) = .ok n := by
  unfold readInteger
  cases Text.integerOf .signed32 (Text.trim value) <;> simp [Except.mapError]

theorem readInteger_eq_ok_iff {n : Int} :
    readInteger value = .ok n ↔
      Text.Numeral (Text.trim value).toList n ∧ Text.IntegerSize.signed32.Holds n := by
  have hsize : ¬ Text.IntegerSize.signed32.below = 0 := by decide
  have hread := @Text.readInteger_eq_ok_iff .signed32 (Text.trim value).toList n
  simp only [hsize, false_implies, and_true] at hread
  rw [← hread]
  exact readInteger_eq_ok_iff_integerOf

/-- Bounds within thirty-two bits leave nothing to the size of the integer. -/
theorem readInteger_between_iff {least greatest : Int} (hl : -2147483648 ≤ least)
    (hg : greatest ≤ 2147483647) :
    (∃ n, readInteger value = .ok n ∧ least ≤ n ∧ n ≤ greatest) ↔
      Text.IsNumeralIn least greatest value := by
  apply exists_congr
  intro n
  rw [readInteger_eq_ok_iff, and_assoc]
  simp only [Text.IntegerSize.Holds, Text.IntegerSize.signed32]
  constructor
  · exact fun h => ⟨h.1, h.2.2⟩
  · exact fun h => ⟨h.1, ⟨by omega, by omega⟩, h.2⟩

theorem integerOf_of_isNumeralIn {least greatest : Int} (hl : -2147483648 ≤ least)
    (hg : greatest ≤ 2147483647) (h : Text.IsNumeralIn least greatest value) :
    ∃ n, Text.integerOf .signed32 (Text.trim value) = .ok n ∧ least ≤ n ∧ n ≤ greatest := by
  obtain ⟨n, hn, hbounds⟩ := (readInteger_between_iff hl hg).mpr h
  exact ⟨n, readInteger_eq_ok_iff_integerOf.mp hn, hbounds⟩

theorem check_arn_iff {files : Files.FileSystem} {subject : String} :
    arn.check files subject raw value = .ok () ↔ ∃ a, Arn.read value = .ok a := by
  unfold check
  cases Arn.read value <;> simp [Except.map, Except.mapError]

theorem check_sessionName_iff {files : Files.FileSystem} {subject : String} :
    sessionName.check files subject raw value = .ok () ↔ SessionName.isValid value = true := by
  simp [check]

theorem check_tokenFile_iff {files : Files.FileSystem} {subject : String} :
    tokenFile.check files subject raw value = .ok () ↔
      ∃ loc, files.locate value = .ok loc ∧ files.isFile loc = true := by
  simp only [check, checkTokenFile]
  split <;> simp_all

theorem check_integer_iff {files : Files.FileSystem} {subject : String} :
    integer.check files subject raw value = .ok () ↔ ∃ n, readInteger value = .ok n := by
  unfold check
  cases readInteger value <;> simp [Except.map]

theorem check_port_iff {files : Files.FileSystem} {subject : String} :
    port.check files subject raw value = .ok () ↔
      ∃ n, readInteger value = .ok n ∧ 0 ≤ n ∧ n ≤ 65535 := by
  simp only [check, greatestPort]
  cases readInteger value with
  | error e => simp
  | ok n => by_cases h : 0 ≤ n ∧ n ≤ 65535 <;> simp [h]

theorem check_boolean_iff {files : Files.FileSystem} {subject : String} :
    boolean.check files subject raw value = .ok () ↔
      Configuration.sameFolded (Text.trim value) "true" = true ∨
        Configuration.sameFolded (Text.trim value) "false" = true := by
  simp only [check]
  cases Configuration.sameFolded (Text.trim value) "true" <;> simp

theorem check_credentialsFile_iff {files : Files.FileSystem} {subject : String} :
    credentialsFile.check files subject raw value = .ok () ↔ files.isFileAt value = true := by
  simp [check, checkCredentialsFile]

/-- What a check comes to depends on the value alone; subject and text only show in messages. -/
theorem check_eq_ok_congr {files : Files.FileSystem} {subject subject' raw' : String} :
    v.check files subject raw value = .ok () ↔ v.check files subject' raw' value = .ok () := by
  cases v with
  | sessionName => rw [check_sessionName_iff, check_sessionName_iff]
  | arn | tokenFile | integer | port | boolean | credentialsFile => exact Iff.rfl

theorem exists_judge_eq : ∃ verdict, v.judge ctx p raw = ⟨p.displayName, some raw, verdict⟩ := by
  unfold judge
  split
  · exact ⟨_, rfl⟩
  split
  · exact ⟨_, rfl⟩
  split
  · exact ⟨_, rfl⟩
  split
  · split <;> exact ⟨_, rfl⟩
  · exact ⟨_, rfl⟩

theorem isValid_eq_false_of_not_accepts (h : ¬ v.Accepts ctx p raw) :
    (v.judge ctx p raw).isValid = false := by
  rw [← Bool.not_eq_true, judge_isValid_iff]
  exact h

/-- A text is accepted as its value is where nothing is evaluated. A mandatory validator must not find
either blank; it has its own way with a value that is empty. -/
theorem accepts_iff_literal {c : Configuration} (hvalue : ctx.evaluator.valueOf p raw = .ok value)
    (hblank : v.isMandatory = true →
      Text.allBlank raw = false ∧ (value ≠ "" → Text.allBlank value = false)) :
    v.Accepts ctx p raw ↔ v.Accepts ⟨c, .literal, ctx.files⟩ p value := by
  constructor
  · intro h
    obtain ⟨value', hvalue', hempty, hcheck⟩ := h.checked
    obtain rfl : value = value' := Except.ok.inj (hvalue.symm.trans hvalue')
    refine ⟨?_, value, Evaluator.valueOf_literal p value, hempty, ?_⟩
    · intro hm
      apply (hblank hm).2
      intro he
      rw [hempty he] at hm
      exact Bool.false_ne_true hm
    · exact fun hne => check_eq_ok_congr.mp (hcheck hne)
  · intro h
    obtain ⟨value', hvalue', hempty, hcheck⟩ := h.checked
    rw [Evaluator.valueOf_literal] at hvalue'
    obtain rfl : value = value' := Except.ok.inj hvalue'
    refine ⟨fun hm => (hblank hm).1, value, hvalue, hempty, ?_⟩
    exact fun hne => check_eq_ok_congr.mp (hcheck hne)

/-- The finding on a text is about its value. -/
structure JudgesValue (v : Validator) (ctx : Context) (p : Property) (raw : String) : Prop where
  subject : (v.judge ctx p raw).subject = p.displayName
  input : (v.judge ctx p raw).input = some raw
  blank : v.isMandatory = true → Text.allBlank raw = true → (v.judge ctx p raw).isValid = false
  failed : ∀ e, ctx.evaluator.valueOf p raw = .error e → (v.judge ctx p raw).isValid = false
  /-- The value would be judged alike if it stood there itself. -/
  value : ∀ value, ctx.evaluator.valueOf p raw = .ok value →
    (v.isMandatory = true →
      Text.allBlank raw = false ∧ (value ≠ "" → Text.allBlank value = false)) →
    ∀ c, (v.judge ctx p raw).isValid = (v.judge ⟨c, .literal, ctx.files⟩ p value).isValid

theorem judgesValue (v : Validator) (ctx : Context) (p : Property) (raw : String) :
    v.JudgesValue ctx p raw := by
  obtain ⟨verdict, heq⟩ := @exists_judge_eq v ctx p raw
  constructor
  case subject => rw [heq]
  case input => rw [heq]
  case blank =>
    intro hm hblank
    apply isValid_eq_false_of_not_accepts
    intro h
    rw [h.notBlank hm] at hblank
    exact Bool.false_ne_true hblank
  case failed =>
    intro e herror
    apply isValid_eq_false_of_not_accepts
    intro h
    obtain ⟨value, hvalue, -⟩ := h.checked
    rw [herror] at hvalue
    cases hvalue
  case value =>
    intro value hvalue hblank c
    rw [Bool.eq_iff_iff, judge_isValid_iff, judge_isValid_iff]
    exact accepts_iff_literal hvalue hblank

end Validator
end CredentialResolution
