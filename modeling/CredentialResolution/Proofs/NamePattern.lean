import CredentialResolution.Proofs.SessionNames
import CredentialResolution.Provider.Build

/-! The language of session names, once by lengths and characters and once by a pattern between the two
ends of a text. The names that builders make up are not checked when they are made; they are judged
here. -/

namespace CredentialResolution
set_option autoImplicit false

/-- The first and the last character of each run of a class. -/
abbrev Runs := List (Char × Char)

def Runs.Holds (runs : Runs) (c : Char) : Prop := ∃ r ∈ runs, r.1 ≤ c ∧ c ≤ r.2

inductive Pattern
  | start
  | finish
  | oneOf (runs : Runs)
  | times (least most : Nat) (p : Pattern)
  | followed (p q : Pattern)

namespace Pattern
variable {p q : Pattern} {runs : Runs} {least most : Nat} {text before cs ds after : List Char}

/-- What a pattern may cover of the text `before ++ cs ++ after`. Both ends are those of the whole text, so
that a line inside of it begins and ends nowhere. -/
inductive Covers : Pattern → List Char → List Char → List Char → Prop
  | start (after : List Char) : Covers .start [] [] after
  | finish (before : List Char) : Covers .finish before [] []
  | oneOf {runs : Runs} {c : Char} (before after : List Char) (hc : runs.Holds c) :
      Covers (.oneOf runs) before [c] after
  | enough (p : Pattern) (most : Nat) (before after : List Char) :
      Covers (.times 0 most p) before [] after
  | again {p : Pattern} {least most : Nat} {before cs ds after : List Char}
      (hp : Covers p before cs (ds ++ after))
      (hrest : Covers (.times (least - 1) most p) (before ++ cs) ds after) :
      Covers (.times least (most + 1) p) before (cs ++ ds) after
  | followed {p q : Pattern} {before cs ds after : List Char} (hp : Covers p before cs (ds ++ after))
      (hq : Covers q (before ++ cs) ds after) : Covers (.followed p q) before (cs ++ ds) after

/-- A pattern is looked for anywhere in a text. -/
def FoundIn (p : Pattern) (text : List Char) : Prop :=
  ∃ before cs after, text = before ++ cs ++ after ∧ p.Covers before cs after

theorem covers_start_iff : Covers .start before cs after ↔ before = [] ∧ cs = [] := by
  constructor
  · rintro ⟨⟩
    exact ⟨rfl, rfl⟩
  · rintro ⟨rfl, rfl⟩
    exact .start after

theorem covers_finish_iff : Covers .finish before cs after ↔ cs = [] ∧ after = [] := by
  constructor
  · rintro ⟨⟩
    exact ⟨rfl, rfl⟩
  · rintro ⟨rfl, rfl⟩
    exact .finish before

theorem covers_oneOf_iff :
    Covers (.oneOf runs) before cs after ↔ ∃ c, cs = [c] ∧ runs.Holds c := by
  constructor
  · rintro (_ | _ | ⟨_, _, hc⟩)
    exact ⟨_, rfl, hc⟩
  · rintro ⟨c, rfl, hc⟩
    exact .oneOf before after hc

theorem covers_followed_iff :
    Covers (.followed p q) before text after ↔
      ∃ cs ds, text = cs ++ ds ∧ Covers p before cs (ds ++ after) ∧
        Covers q (before ++ cs) ds after := by
  constructor
  · rintro (_ | _ | _ | _ | _ | ⟨hp, hq⟩)
    exact ⟨_, _, rfl, hp, hq⟩
  · rintro ⟨cs, ds, rfl, hp, hq⟩
    exact .followed hp hq

/-- Characters of one class, so many of them. -/
theorem covers_times_oneOf_iff :
    Covers (.times least most (.oneOf runs)) before cs after ↔
      least ≤ cs.length ∧ cs.length ≤ most ∧ ∀ c ∈ cs, runs.Holds c := by
  induction most generalizing least before cs with
  | zero =>
    constructor
    · rintro ⟨⟩
      exact ⟨Nat.le_refl 0, Nat.le_refl 0, List.forall_mem_nil _⟩
    · rintro ⟨hleast, hmost, -⟩
      obtain rfl := List.length_eq_zero_iff.mp (Nat.le_zero.mp hmost)
      obtain rfl := Nat.le_zero.mp hleast
      exact .enough _ 0 before after
  | succ most ih =>
    constructor
    · intro h
      cases h with
      | enough => exact ⟨Nat.le_refl 0, Nat.zero_le _, List.forall_mem_nil _⟩
      | again hp hrest =>
        obtain ⟨c, rfl, hc⟩ := covers_oneOf_iff.mp hp
        obtain ⟨hleast, hmost, hall⟩ := ih.mp hrest
        refine ⟨?_, ?_, List.forall_mem_cons.mpr ⟨hc, hall⟩⟩
        · rw [List.singleton_append, List.length_cons]
          omega
        · rw [List.singleton_append, List.length_cons]
          omega
    · rintro ⟨hleast, hmost, hall⟩
      cases cs with
      | nil =>
        obtain rfl := Nat.le_zero.mp hleast
        exact .enough _ _ before after
      | cons c cs =>
        obtain ⟨hc, hcs⟩ := List.forall_mem_cons.mp hall
        rw [List.length_cons] at hleast hmost
        have hrest : Covers (.times (least - 1) most (.oneOf runs)) (before ++ [c]) cs after :=
          ih.mpr ⟨by omega, by omega, hcs⟩
        have hagain : Covers (.times least (most + 1) (.oneOf runs)) before ([c] ++ cs) after :=
          .again (.oneOf before _ hc) hrest
        exact hagain

end Pattern

/-- A pattern between the two ends of a text is found only where it covers all of it. -/
theorem Pattern.foundIn_ends_iff {p : Pattern} {text : List Char} :
    FoundIn (.followed .start (.followed p .finish)) text ↔ Covers p [] text [] := by
  constructor
  · rintro ⟨before, cs, after, rfl, hcovers⟩
    obtain ⟨_, ds, rfl, hstart, hmore⟩ := covers_followed_iff.mp hcovers
    obtain ⟨rfl, rfl⟩ := covers_start_iff.mp hstart
    obtain ⟨covered, _, rfl, hp, hfinish⟩ := covers_followed_iff.mp hmore
    obtain ⟨rfl, rfl⟩ := covers_finish_iff.mp hfinish
    simpa using hp
  · intro hp
    refine ⟨[], text, [], by simp, covers_followed_iff.mpr ⟨[], text, rfl, .start _, ?_⟩⟩
    refine covers_followed_iff.mpr ⟨text, [], (List.append_nil text).symm, ?_, .finish _⟩
    exact hp

namespace SessionName
variable {s : String} {c : Char} {cs : List Char} {now later : Clock}

/-- The characters other than letters and digits that may follow the first one. -/
def marks : List Char := ['_', '=', ',', '.', '@', '-']

def letters : Runs := [('A', 'Z'), ('a', 'z')]

def inner : Runs := letters ++ ('0', '9') :: marks.map fun c => (c, c)

/-- A letter and from 7 to 63 further characters, from one end of the text to the other. -/
def pattern : Pattern :=
  .followed .start (.followed (.followed (.oneOf letters) (.times 7 63 (.oneOf inner))) .finish)

structure WellFormed (s : String) : Prop where
  least : 8 ≤ s.length
  most : s.length ≤ 64
  first : ∃ c, s.toList.head? = some c ∧ c.isAlpha = true
  others : ∀ c ∈ s.toList.tail, c.isAlphanum = true ∨ c ∈ marks

theorem isLetter_eq (c : Char) : isLetter c = c.isAlpha := by
  have hupper : c.isUpper = ('A' ≤ c && c ≤ 'Z') := Bool.decide_and _ _
  rw [isLetter, ← hupper]
  rfl

theorem isInner_iff : isInner c = true ↔ c.isAlphanum = true ∨ c ∈ marks := by
  have hdigit : c.isDigit = true ↔ '0' ≤ c ∧ c ≤ '9' := by
    simp [Char.isDigit]
    rfl
  simp [isInner, isLetter_eq, Char.isAlphanum, hdigit, marks, or_assoc]

theorem holds_letters_iff : letters.Holds c ↔ isLetter c = true := by
  simp [letters, Runs.Holds, isLetter]

theorem holds_inner_iff : inner.Holds c ↔ isInner c = true := by
  have hsingle : ∀ d : Char, d ≤ c ∧ c ≤ d ↔ c = d := by
    intro d
    constructor
    · rintro ⟨hd, hc⟩
      exact Char.le_antisymm hc hd
    · rintro rfl
      exact ⟨Char.le_refl c, Char.le_refl c⟩
  simp [inner, letters, marks, Runs.Holds, isInner, isLetter, hsingle, or_assoc]

theorem isValid_iff :
    isValid s = true ↔ ∃ c cs, s.toList = c :: cs ∧ isLetter c = true ∧ 7 ≤ cs.length ∧
      cs.length ≤ 63 ∧ ∀ d ∈ cs, isInner d = true := by
  cases hs : s.toList with
  | nil => simp [isValid, hs]
  | cons c cs => simp [isValid, hs, and_assoc]

theorem isValid_iff_wellFormed : isValid s = true ↔ WellFormed s := by
  rw [isValid_iff]
  constructor
  · rintro ⟨c, cs, hs, hc, hleast, hmost, hall⟩
    have hlength : s.length = cs.length + 1 := by rw [← String.length_toList, hs, List.length_cons]
    refine ⟨by omega, by omega, ⟨c, by rw [hs, List.head?_cons], isLetter_eq c ▸ hc⟩, ?_⟩
    rw [hs, List.tail_cons]
    exact fun d hd => isInner_iff.mp (hall d hd)
  · rintro ⟨hleast, hmost, ⟨c, hhead, hc⟩, hall⟩
    obtain ⟨cs, hs⟩ := List.head?_eq_some_iff.mp hhead
    have hlength : s.length = cs.length + 1 := by rw [← String.length_toList, hs, List.length_cons]
    rw [hs, List.tail_cons] at hall
    exact ⟨c, cs, hs, (isLetter_eq c).symm ▸ hc, by omega, by omega,
      fun d hd => isInner_iff.mpr (hall d hd)⟩

theorem isValid_iff_foundIn : isValid s = true ↔ pattern.FoundIn s.toList := by
  rw [isValid_iff, pattern, Pattern.foundIn_ends_iff, Pattern.covers_followed_iff]
  simp only [Pattern.covers_oneOf_iff, Pattern.covers_times_oneOf_iff, holds_letters_iff,
    holds_inner_iff]
  constructor
  · rintro ⟨c, cs, hs, hc, hcs⟩
    exact ⟨[c], cs, hs, ⟨c, rfl, hc⟩, hcs⟩
  · rintro ⟨_, cs, hs, ⟨c, rfl, hc⟩, hcs⟩
    exact ⟨c, cs, hs, hc, hcs⟩

/-- A name that is accepted has no line feed, not at its end either, and ASCII characters alone. -/
theorem ascii_of_isValid (hs : isValid s = true) (hc : c ∈ s.toList) : c ≠ '\n' ∧ c.toNat < 128 := by
  have hinner : isInner c = true := by
    obtain ⟨d, ds, htext, hd, -, -, hds⟩ := isValid_iff.mp hs
    rw [htext] at hc
    rcases List.mem_cons.mp hc with rfl | hmem
    · simp [isInner, hd]
    · exact hds c hmem
  obtain ⟨r, hr, hleast, hmost⟩ := holds_inner_iff.mpr hinner
  have hruns : ∀ r ∈ inner, ' ' ≤ r.1 ∧ r.2.toNat < 128 := by decide
  obtain ⟨hblank, hascii⟩ := hruns r hr
  have hle : c.toNat ≤ r.2.toNat := hmost
  constructor
  · rintro rfl
    exact absurd (Char.le_trans hblank hleast) (by decide)
  · omega

theorem generated_inj (base : String) :
    generated base now = generated base later ↔ now.millis.toNat = later.millis.toNat := by
  constructor
  · intro h
    have hlist := congrArg String.toList h
    rw [toList_generated, toList_generated] at hlist
    have hdigits := List.cons.inj (List.append_cancel_left hlist)
    have hvalue := congrArg (fun ds => Nat.ofDigitChars 10 ds 0) hdigits.2
    simpa [Clock.digits, Nat.ofDigitChars_ten_toDigits] using hvalue
  · intro h
    rw [generated, generated, h]

theorem isValid_generated_role (hmost : now.millis ≤ Clock.mostMillis) :
    isValid (generated roleBase now) = true := by
  have hbase : roleBase.toList = 'a' :: "ssume-role-provider".toList := rfl
  have hlength : "ssume-role-provider".toList.length = 19 := rfl
  have hdigits := Clock.length_digits_le hmost
  rw [isValid_generated_iff hbase (by decide) (by decide), hlength]
  omega

/-- The names that builders make up at a time. One that a token is exchanged under is long enough from a
tenth of a second after the epoch on. -/
structure MadeUp (now : Clock) : Prop where
  exchange : ∀ arn name path settings, name = none ∨ name = some "" →
    ∃ t, TokenExchange.build (some arn) name (some path) settings now = .ok t ∧
      t.sessionName = "nifi-" ++ toString now.millis.toNat ∧
      (isValid t.sessionName = true ↔ 100 ≤ now.millis.toNat)
  role : ∀ arn externalId duration source settings,
    ∃ r, AssumedRole.build (some arn) none externalId duration source settings now = .ok r ∧
      r.sessionName = "assume-role-provider-" ++ toString now.millis.toNat ∧
      isValid r.sessionName = true

theorem madeUp (hmost : now.millis ≤ Clock.mostMillis) : MadeUp now := by
  constructor
  case exchange =>
    intro arn name path settings hname
    have hnone : name.filter (fun s => s ≠ "") = none := by
      rcases hname with rfl | rfl <;> rfl
    refine ⟨⟨arn, generated webBase now, path, settings⟩, ?_, rfl, ?_⟩
    · simp only [TokenExchange.build, hnone, Option.getD_none]
    · have hdigits := Clock.length_digits_le hmost
      rw [isValid_generated_web_iff, and_iff_left (by omega)]
      omega
  case role =>
    intro arn externalId duration source settings
    exact ⟨_, rfl, rfl, isValid_generated_role hmost⟩

/-- Accepted are the names of the language and no others, and they are those that the pattern finds. Names
that are made up at different times differ, and which of them are accepted depends on the time alone. -/
theorem accepted_exactly (now : Clock) (hmost : now.millis ≤ Clock.mostMillis) :
    (∀ s, (isValid s = true ↔ WellFormed s) ∧ (isValid s = true ↔ pattern.FoundIn s.toList)) ∧
    (∀ s, isValid s = true → ∀ c ∈ s.toList, c ≠ '\n' ∧ c.toNat < 128) ∧
    MadeUp now ∧
    ∀ base later,
      generated base now = generated base later ↔ now.millis.toNat = later.millis.toNat := by
  refine ⟨fun s => ⟨isValid_iff_wellFormed, isValid_iff_foundIn⟩, ?_, madeUp hmost, ?_⟩
  · intro s hs c hc
    exact ascii_of_isValid hs hc
  · intro base later
    exact generated_inj base

/-- Before the epoch the clock reads as at the epoch. -/
theorem accepted_exactly_beforeEpoch :
    (-1 : Int) ≤ Clock.mostMillis ∧
      ∃ t, TokenExchange.build (some "A") (some "") (some "t") ⟨none, none⟩ ⟨-1⟩ = .ok t ∧
        t.sessionName = "nifi-0" ∧ ¬ WellFormed t.sessionName := by
  have hmost : (-1 : Int) ≤ Clock.mostMillis := by decide
  obtain ⟨hlanguage, -, hmade, -⟩ := accepted_exactly ⟨-1⟩ hmost
  obtain ⟨t, hbuild, hname, hvalid⟩ := hmade.exchange "A" (some "") "t" ⟨none, none⟩ (.inr rfl)
  refine ⟨hmost, t, hbuild, hname, fun hwell => ?_⟩
  have hlate : 100 ≤ (-1 : Int).toNat := hvalid.mp ((hlanguage t.sessionName).1.mpr hwell)
  exact absurd hlate (by decide)

end SessionName
end CredentialResolution
