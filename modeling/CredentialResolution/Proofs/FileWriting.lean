import CredentialResolution.Proofs.FileReading

/-! Credentials written to a file, in any of the layouts that files have. The values may hold every
character but a line feed; separators, brackets and marks of comments in them do no harm, since a line
is cut at its first separator and begins with a name. Whatever the layout, reading gives the values
back. -/

namespace CredentialResolution.CredentialsFile
set_option autoImplicit false

/-- The parts of credentials that a file gives. -/
structure Secrets where
  access : String
  secret : String
  token : Option String

namespace Secrets

def value? (s : Secrets) : Key → Option String
  | .access => some s.access
  | .secret => some s.secret
  | .token => s.token

def keys (s : Secrets) : List Key :=
  [Key.access, Key.secret, Key.token].filter fun key => (s.value? key).isSome

/-- Every value fits on a line, and trimming leaves it as it is. -/
def Writable (s : Secrets) : Prop :=
  ∀ key value, s.value? key = some value →
    value ≠ "" ∧ Text.IsTrim value.toList value.toList ∧ '\n' ∉ value.toList

theorem mem_keys_iff {s : Secrets} {key : Key} : key ∈ s.keys ↔ (s.value? key).isSome = true := by
  cases key <;> simp [keys]

end Secrets

/-- The two families of names: before all sections, and in the default section. -/
inductive Style
  | properties
  | profile
  deriving DecidableEq, Repr

def Style.name : Style → Key → String
  | properties, .access => "accessKey"
  | properties, .secret => "secretKey"
  | profile, .access => "aws_access_key_id"
  | profile, .secret => "aws_secret_access_key"
  | _, .token => "aws_session_token"

/-- A blank line or a comment. -/
def IsIdle (line : List Char) : Prop :=
  ∀ core c, Text.IsTrim line core → core.head? = some c → c = '#' ∨ c = '!' ∨ c = ';'

/-- The line gives the value its name. Blanks may stand around the name and around the value. -/
inductive WritesValue (style : Style) (key : Key) (value : String) (line : List Char) : Prop
  | intro {indent left right tail : List Char} {mark : Char} :
      line = indent ++ ((style.name key).toList ++ left ++ mark :: (right ++ value.toList)) ++ tail →
      (mark = '=' ∨ mark = ':') → (∀ c ∈ indent, Text.isBlank c = true) →
      (∀ c ∈ left, Text.isBlank c = true) → (∀ c ∈ right, Text.isBlank c = true) →
      (∀ c ∈ tail, Text.isBlank c = true) → WritesValue style key value line

/-- The lines give values to these keys, in this order; idle lines may stand anywhere. -/
inductive Block (style : Style) (s : Secrets) : List Key → List (List Char) → Prop
  | nil : Block style s [] []
  | idle {keys : List Key} {line : List Char} {ls : List (List Char)} :
      IsIdle line → Block style s keys ls → Block style s keys (line :: ls)
  | entry {key : Key} {keys : List Key} {value : String} {line : List Char}
      {ls : List (List Char)} : s.value? key = some value → WritesValue style key value line →
      Block style s keys ls → Block style s (key :: keys) (line :: ls)

/-- Sections none of which is the default one. -/
inductive ForeignSections : List (List Char) → Prop
  | nil : ForeignSections []
  | cons {header name : List Char} {ls rest : List (List Char)} :
      Opens header name → name ≠ "default".toList → (∀ l ∈ ls, ∀ other, ¬ Opens l other) →
      ForeignSections rest → ForeignSections (header :: ls ++ rest)

/-- The lines of a file with these credentials: the values stand before all sections, or in the
default section with others before and behind it. -/
inductive Renders (s : Secrets) : List (List Char) → Prop
  | properties {keys : List Key} {block later : List (List Char)} :
      Block .properties s keys block → keys.Perm s.keys → ForeignSections later →
      Renders s (block ++ later)
  | profile {keys : List Key} {header : List Char} {top earlier block later : List (List Char)} :
      (∀ l ∈ top, IsIdle l) → ForeignSections earlier → Opens header "default".toList →
      Block .profile s keys block → keys.Perm s.keys → ForeignSections later →
      Renders s (top ++ earlier ++ header :: block ++ later)

/-- A text of these lines. Each ends with a line feed, perhaps behind a carriage return; the last one
may have no end. -/
inductive IsTextOf : List (List Char) → List Char → Prop
  | nil : IsTextOf [] []
  | last {l : List Char} : '\n' ∉ l → IsTextOf [l] l
  | feed {l rest : List Char} {ls : List (List Char)} :
      '\n' ∉ l → IsTextOf ls rest → IsTextOf (l :: ls) (l ++ '\n' :: rest)
  | returnFeed {l rest : List Char} {ls : List (List Char)} :
      '\n' ∉ l → IsTextOf ls rest → IsTextOf (l :: ls) (l ++ '\r' :: '\n' :: rest)

section
variable {s : Secrets} {style : Style} {key : Key} {keys : List Key} {value : String}
variable {line : List Char} {ls : List (List Char)} {current : Option (List Char)}

theorem Style.first_of_append {cs : List Char} {c : Char}
    (h : ((style.name key).toList ++ cs).head? = some c) : c = 'a' ∨ c = 's' := by
  have hname : (style.name key).toList.head? = some 'a' ∨
      (style.name key).toList.head? = some 's' := by
    cases style <;> cases key <;> decide +kernel
  rw [List.head?_append] at h
  rcases hname with hname | hname
  · rw [hname, Option.some_or] at h
    exact .inl (Option.some.inj h).symm
  · rw [hname, Option.some_or] at h
    exact .inr (Option.some.inj h).symm

theorem Style.isTrim_name (style : Style) (key : Key) :
    Text.IsTrim (style.name key).toList (style.name key).toList := by
  rw [Text.isTrim_iff]
  cases style <;> cases key <;> decide +kernel

theorem Style.plain_of_mem_name (style : Style) (key : Key) :
    ∀ c ∈ (style.name key).toList, c ≠ '=' ∧ c ≠ ':' := by
  have hall : (style.name key).toList.all (fun c => c != '=' && c != ':') = true := by
    cases style <;> cases key <;> decide +kernel
  simpa using hall

theorem Style.isName_name_iff {key' : Key} : key'.IsName (style.name key) ↔ key = key' := by
  cases style <;> cases key <;> cases key' <;> simp [Style.name, Key.IsName]

theorem IsIdle.read_eq (h : IsIdle line) : Line.read line = .nothing := by
  apply read_of_not_tells
  intro core htells
  obtain ⟨c, cs, rfl⟩ := List.exists_cons_of_ne_nil htells.notBlank
  have hmark := h _ c htells.trimmed rfl
  have hplain := htells.notComment c rfl
  tauto

/-- A written line, once it is trimmed, begins with the name and ends with the value. -/
theorem WritesValue.exists_isTrim (h : WritesValue style key value line) (hne : value ≠ "")
    (htrim : Text.IsTrim value.toList value.toList) :
    ∃ left right mark, Text.IsTrim line
        ((style.name key).toList ++ left ++ mark :: (right ++ value.toList)) ∧
      (mark = '=' ∨ mark = ':') ∧ (∀ c ∈ left, Text.isBlank c = true) ∧
      ∀ c ∈ right, Text.isBlank c = true := by
  obtain @⟨indent, left, right, tail, mark, hline, hmark, hindent, hleft, hright, htail⟩ := h
  refine ⟨left, right, mark, .intro hline hindent htail ?_ ?_, hmark, hleft, hright⟩
  · intro c hc
    rw [List.append_assoc] at hc
    rcases Style.first_of_append hc with rfl | rfl
    · rfl
    · rfl
  · intro c hc
    have hvalue : value.toList ≠ [] := by simpa using hne
    have hsplit : (style.name key).toList ++ left ++ mark :: (right ++ value.toList) =
        ((style.name key).toList ++ left ++ mark :: right) ++ value.toList := by simp
    rw [hsplit, List.getLast?_append_of_ne_nil _ hvalue] at hc
    obtain @⟨_, _, _, _, _, _, hlast⟩ := htrim
    exact hlast c hc

theorem WritesValue.read_eq (h : WritesValue style key value line) (hne : value ≠ "")
    (htrim : Text.IsTrim value.toList value.toList) :
    Line.read line = .entry (style.name key).toList value.toList := by
  obtain ⟨left, right, mark, hcore, hmark, hleft, hright⟩ := h.exists_isTrim hne htrim
  have hfirst : ∀ c, ((style.name key).toList ++ left ++ mark :: (right ++ value.toList)).head? =
      some c → c = 'a' ∨ c = 's' := by
    intro c hc
    rw [List.append_assoc] at hc
    exact Style.first_of_append hc
  rw [read_eq_entry_iff]
  refine ⟨?_, _, ⟨hcore, by simp, ?_⟩, ?_⟩
  · intro header hheader
    obtain ⟨inner, hopens, -⟩ := hheader
    have hbracket := hfirst '[' (by
      rw [← hcore.trimmed_eq, hopens.trimmed.trimmed_eq, List.head?_cons])
    simp at hbracket
  · intro c hc
    rcases hfirst c hc with rfl | rfl <;> decide
  · refine ofEntry_eq_entry_iff.mpr ⟨_, mark, _, rfl, hmark, ?_, ?_, ?_, ?_⟩
    · intro c hc
      rcases List.mem_append.mp hc with hc | hc
      · exact Style.plain_of_mem_name style key c hc
      · have hblank := hleft c hc
        constructor
        · intro hmark
          rw [hmark] at hblank
          exact absurd hblank (by decide)
        · intro hmark
          rw [hmark] at hblank
          exact absurd hblank (by decide)
    · rw [Text.isTrim_iff, Text.trimmed_append_of_blank hleft, (Style.isTrim_name style key).trimmed_eq]
    · rw [Text.isTrim_iff, Text.trimmed_append_of_blank_left hright, htrim.trimmed_eq]
    · simpa using hne

/-- The entries of written values. -/
def Secrets.entries (s : Secrets) (style : Style) (keys : List Key) : List (List Char × List Char) :=
  keys.map fun key => ((style.name key).toList, ((s.value? key).getD "").toList)

theorem Block.entriesAfter_eq (h : Block style s keys ls) (hs : s.Writable)
    (hcurrent : current.getD defaultSection = defaultSection) :
    entriesAfter current (ls.map Line.read) = s.entries style keys := by
  induction h with
  | nil => rfl
  | idle hidle _ ih =>
    rw [List.map_cons, hidle.read_eq]
    exact ih
  | @entry key keys value line ls hvalue hwrites _ ih =>
    obtain ⟨hne, htrim, -⟩ := hs key value hvalue
    simp [hwrites.read_eq hne htrim, entriesAfter, hcurrent, hvalue, ih, Secrets.entries]

theorem ForeignSections.entriesAfter_eq (h : ForeignSections ls) :
    entriesAfter current (ls.map Line.read) = [] := by
  induction h generalizing current with
  | nil => rfl
  | @cons header name ls rest hopens hname hplain _ ih =>
    rw [List.cons_append, List.map_cons, read_eq_header_iff.mpr hopens, entriesAfter, List.map_append,
      entriesAfter_append, entriesAfter_foreign hname hplain, ih, List.append_nil]

theorem entriesAfter_idle (h : ∀ l ∈ ls, IsIdle l) : entriesAfter current (ls.map Line.read) = [] := by
  induction ls with
  | nil => rfl
  | cons l ls ih =>
    obtain ⟨hl, hls⟩ := List.forall_mem_cons.mp h
    rw [List.map_cons, hl.read_eq]
    exact ih hls

theorem Renders.exists_entries (h : Renders s ls) (hs : s.Writable) :
    ∃ (style : Style) (keys : List Key), keys.Perm s.keys ∧
      entriesAfter none (ls.map Line.read) = s.entries style keys := by
  cases h with
  | @properties keys block later hblock hkeys hlater =>
    refine ⟨.properties, keys, hkeys, ?_⟩
    rw [List.map_append, entriesAfter_append, hblock.entriesAfter_eq hs rfl, hlater.entriesAfter_eq,
      List.append_nil]
  | @profile keys header top earlier block later htop hearlier hopens hblock hkeys hlater =>
    refine ⟨.profile, keys, hkeys, ?_⟩
    have hheader : Line.read header = .header defaultSection := read_eq_header_iff.mpr hopens
    have hread : (some defaultSection).getD defaultSection = defaultSection := rfl
    simp only [List.map_append, List.map_cons, List.append_assoc, List.cons_append,
      entriesAfter_append, hheader, entriesAfter, entriesAfter_idle htop, hearlier.entriesAfter_eq,
      hblock.entriesAfter_eq hs hread, hlater.entriesAfter_eq,
      List.append_nil, List.nil_append]

theorem lastValue?_entries (hkeys : keys.Perm s.keys) (key : Key) :
    lastValue? key (s.entries style keys) = s.value? key := by
  have hname : ∀ k : Key, key.names.contains (style.name k) = decide (k = key) := by
    intro k
    rw [Bool.eq_iff_iff, List.contains_iff_mem, mem_names_iff, Style.isName_name_iff,
      decide_eq_true_iff]
  rw [lastValue?, Secrets.entries, ← List.map_reverse, List.find?_map, Option.map_map]
  simp only [Function.comp_def, String.ofList_toList, hname]
  cases hfind : keys.reverse.find? fun k => decide (k = key) with
  | none =>
    have hnot : key ∉ s.keys := by
      intro hmem
      simpa using List.find?_eq_none.mp hfind key (List.mem_reverse.mpr (hkeys.mem_iff.mpr hmem))
    rw [Secrets.mem_keys_iff, Option.not_isSome_iff_eq_none] at hnot
    rw [hnot, Option.map_none]
  | some k =>
    obtain rfl : k = key := by simpa using List.find?_some hfind
    have hmem : k ∈ s.keys :=
      hkeys.mem_iff.mp (List.mem_reverse.mp (List.mem_of_find?_eq_some hfind))
    obtain ⟨value, hvalue⟩ := Option.isSome_iff_exists.mp (Secrets.mem_keys_iff.mp hmem)
    rw [Option.map_some, hvalue, Option.getD_some]

theorem read_congr {l l' : List Char} (h : Text.trimmed l = Text.trimmed l') :
    Line.read l = Line.read l' := by
  simp only [Line.read, h]

theorem IsTextOf.exists_splitLines {cs : List Char} (h : IsTextOf ls cs) :
    ∃ last, (Text.splitLines cs).map Line.read = (ls ++ last).map Line.read ∧ ∀ l ∈ last, l = [] := by
  induction h with
  | nil => exact ⟨[[]], rfl, by simp⟩
  | last hl => exact ⟨[], by rw [Text.splitLines_of_not_mem hl, List.append_nil], by simp⟩
  | feed hl _ ih =>
    obtain ⟨last, hrest, hlast⟩ := ih
    refine ⟨last, ?_, hlast⟩
    rw [Text.splitLines_append_feed hl, List.map_cons, hrest,
      read_congr (Text.trimmed_withoutReturn _)]
    rfl
  | @returnFeed l rest ls hl _ ih =>
    obtain ⟨last, hrest, hlast⟩ := ih
    refine ⟨last, ?_, hlast⟩
    have hreturn : '\n' ∉ l ++ ['\r'] := by simp [hl]
    have hblank : ∀ c ∈ ['\r'], Text.isBlank c = true := List.forall_mem_singleton.mpr rfl
    rw [List.append_cons, Text.splitLines_append_feed hreturn, List.map_cons, hrest,
      read_congr (Text.trimmed_withoutReturn _), read_congr (Text.trimmed_append_of_blank hblank)]
    rfl

theorem IsTextOf.entries_eq {text : String} (h : IsTextOf ls text.toList) :
    entries text = entriesAfter none (ls.map Line.read) := by
  obtain ⟨last, hsplit, hlast⟩ := h.exists_splitLines
  rw [CredentialsFile.entries_eq, hsplit, List.map_append, entriesAfter_append,
    entriesAfter_empty hlast, List.append_nil]

theorem read_rendered {text : String} (hs : s.Writable) (hlines : Renders s ls)
    (htext : IsTextOf ls text.toList) :
    read text = .ok ⟨s.access, s.secret, s.token, none, "CredentialsFile"⟩ := by
  obtain ⟨style, keys, hkeys, hentries⟩ := hlines.exists_entries hs
  rw [← htext.entries_eq] at hentries
  rw [read_eq_ok_iff, hentries, lastValue?_entries hkeys, lastValue?_entries hkeys,
    lastValue?_entries hkeys]
  exact ⟨rfl, rfl, rfl, rfl, rfl⟩

end

/-- Values that look like separators, comments and headers. -/
def bracketed : Secrets := ⟨"[K=:", "#a;b]", none⟩

def bracketedBlock : List (List Char) :=
  ["\taws_secret_access_key : #a;b]".toList, [], "aws_access_key_id=[K=:".toList]

def bracketedLines : List (List Char) :=
  ["; exported".toList] ++ ["[dev]".toList, "aws_access_key_id=D".toList] ++
    "[ default ]".toList :: bracketedBlock ++ ["[prod]".toList, "aws_session_token=T".toList]

def bracketedText : String :=
  "; exported\r\n[dev]\naws_access_key_id=D\n[ default ]\n\taws_secret_access_key : #a;b]\r\n\n" ++
    "aws_access_key_id=[K=:\n[prod]\naws_session_token=T"

theorem block_bracketed : Block .profile bracketed [.secret, .access] bracketedBlock := by
  have hsecret : "\taws_secret_access_key : #a;b]".toList = ['\t'] ++
      ((Style.profile.name .secret).toList ++ [' '] ++ ':' :: ([' '] ++ "#a;b]".toList)) ++ [] := by
    decide +kernel
  have haccess : "aws_access_key_id=[K=:".toList = [] ++
      ((Style.profile.name .access).toList ++ [] ++ '=' :: ([] ++ "[K=:".toList)) ++ [] := by
    decide +kernel
  refine .entry rfl (.intro hsecret (.inr rfl) ?_ ?_ ?_ ?_) (.idle ?_ (.entry rfl
    (.intro haccess (.inl rfl) ?_ ?_ ?_ ?_) .nil))
  case refine_5 =>
    intro core c hcore hc
    rw [← hcore.trimmed_eq] at hc
    exact absurd hc (by simp)
  all_goals simp [Text.isBlank]

theorem foreignSections_of_two {header name line : List Char}
    (hheader : Line.read header = .header name) (hname : name ≠ "default".toList)
    (hline : (Line.read line).header? = none) :
    ForeignSections [header, line] := by
  have hplain : ∀ l ∈ [line], ∀ other, ¬ Opens l other := by
    intro l hl
    rw [List.mem_singleton.mp hl]
    exact header?_read_eq_none_iff.mp hline
  exact .cons (read_eq_header_iff.mp hheader) hname hplain .nil

theorem renders_bracketed : Renders bracketed bracketedLines := by
  have htop : ∀ l ∈ ["; exported".toList], IsIdle l := by
    intro l hl core c hcore hc
    have hfirst : (Text.trimmed "; exported".toList).head? = some ';' := by decide +kernel
    rw [← hcore.trimmed_eq, List.mem_singleton.mp hl, hfirst] at hc
    exact .inr (.inr (Option.some.inj hc).symm)
  have hdev : Line.read "[dev]".toList = .header "dev".toList := by decide +kernel
  have hprod : Line.read "[prod]".toList = .header "prod".toList := by decide +kernel
  have hearlier : ForeignSections ["[dev]".toList, "aws_access_key_id=D".toList] :=
    foreignSections_of_two hdev (by decide +kernel) (by decide +kernel)
  have hlater : ForeignSections ["[prod]".toList, "aws_session_token=T".toList] :=
    foreignSections_of_two hprod (by decide +kernel) (by decide +kernel)
  have hheader : Opens "[ default ]".toList "default".toList :=
    read_eq_header_iff.mp (by decide +kernel)
  exact .profile htop hearlier hheader block_bracketed (.swap _ _ _) hlater

theorem isTextOf_bracketed : IsTextOf bracketedLines bracketedText.toList := by
  have htext : bracketedText.toList = "; exported".toList ++ '\r' :: '\n' :: ("[dev]".toList ++ '\n' ::
      ("aws_access_key_id=D".toList ++ '\n' :: ("[ default ]".toList ++ '\n' ::
        ("\taws_secret_access_key : #a;b]".toList ++ '\r' :: '\n' :: ([] ++ '\n' ::
          ("aws_access_key_id=[K=:".toList ++ '\n' :: ("[prod]".toList ++ '\n' ::
            "aws_session_token=T".toList))))))) := by decide +kernel
  rw [htext]
  refine .returnFeed ?_ (.feed ?_ (.feed ?_ (.feed ?_ (.returnFeed ?_ (.feed ?_ (.feed ?_ (.feed ?_
    (.last ?_))))))))
  all_goals decide +kernel

theorem read_rendered_bracketed : bracketed.Writable ∧ Renders bracketed bracketedLines ∧
    IsTextOf bracketedLines bracketedText.toList ∧
    read bracketedText = .ok ⟨"[K=:", "#a;b]", none, none, "CredentialsFile"⟩ := by
  have hwritable : bracketed.Writable := by
    intro key value hvalue
    cases key with
    | access | secret =>
      cases hvalue
      exact ⟨by decide +kernel, Text.isTrim_iff.mpr (by decide +kernel), by decide +kernel⟩
    | token => cases hvalue
  exact ⟨hwritable, renders_bracketed, isTextOf_bracketed,
    read_rendered hwritable renders_bracketed isTextOf_bracketed⟩

end CredentialResolution.CredentialsFile
