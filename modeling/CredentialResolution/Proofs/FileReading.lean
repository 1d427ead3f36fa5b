import CredentialResolution.Proofs.Trimming
import CredentialResolution.Provider.CredentialsFile
import Mathlib.Data.List.Basic
import Mathlib.Data.List.Induction

/-! What a credentials file says, told from its lines. Every line stands in the section of the
nearest header in front of it, and the last line that is read and gives a key a value decides. Nothing
is told of the order in which lines are looked at, and no state is carried from one to the next. -/

namespace CredentialResolution
set_option autoImplicit false

namespace Text
variable {cs l rest before after : List Char}

theorem trimmed_append_of_blank (hafter : ∀ c ∈ after, isBlank c = true) :
    trimmed (cs ++ after) = trimmed cs := by
  obtain @⟨front, back, hsplit, hfront, hback, hhead, hlast⟩ := isTrim_trimmed cs
  apply IsTrim.trimmed_eq
  have hwhole : cs ++ after = front ++ trimmed cs ++ (back ++ after) := by
    rw [← List.append_assoc, ← hsplit]
  exact .intro hwhole hfront (List.forall_mem_append.mpr ⟨hback, hafter⟩) hhead hlast

theorem trimmed_append_of_blank_left (hbefore : ∀ c ∈ before, isBlank c = true) :
    trimmed (before ++ cs) = trimmed cs := by
  rw [trimmed, trimStart_append hbefore, trimmed]

/-- A line without the carriage return at its end. -/
def withoutReturn (l : List Char) : List Char := if l.getLast? = some '\r' then l.dropLast else l

theorem trimmed_withoutReturn (l : List Char) : trimmed (withoutReturn l) = trimmed l := by
  unfold withoutReturn
  split
  · rename_i hlast
    obtain ⟨front, rfl⟩ := List.getLast?_eq_some_iff.mp hlast
    have hblank : ∀ c ∈ ['\r'], isBlank c = true := List.forall_mem_singleton.mpr rfl
    rw [List.dropLast_concat, trimmed_append_of_blank hblank]
  · rfl

theorem withoutReturn_cons {c : Char} (h : l = [] → c ≠ '\r') :
    withoutReturn (c :: l) = c :: withoutReturn l := by
  cases l with
  | nil => simp [withoutReturn, h rfl]
  | cons d l =>
    simp only [withoutReturn, List.getLast?_cons_cons, List.dropLast_cons_cons]
    split <;> rfl

/-- The pieces of a text between its line feeds. A carriage return before a line feed is cut off. -/
def splitLines (cs : List Char) : List (List Char) :=
  let pieces := cs.splitOn '\n'
  pieces.dropLast.map withoutReturn ++ pieces.getLast?.toList

theorem lines_of_not_mem (h : '\n' ∉ l) (hne : l ≠ []) : lines l = [l] := by
  induction l with
  | nil => exact absurd rfl hne
  | cons c l ih =>
    obtain ⟨hc, hl⟩ := not_or.mp (mt List.mem_cons.mpr h)
    cases l with
    | nil => simp [lines, Ne.symm hc]
    | cons d l =>
      have hd : '\n' ≠ d := List.ne_of_not_mem_cons hl
      apply lines_cons (Ne.symm hc) _ (ih hl (List.cons_ne_nil d l))
      simp [hd.symm]

theorem lines_append_feed (h : '\n' ∉ l) :
    lines (l ++ '\n' :: rest) = withoutReturn l :: lines rest := by
  induction l with
  | nil => simp [lines, withoutReturn]
  | cons c l ih =>
    obtain ⟨hc, hl⟩ := not_or.mp (mt List.mem_cons.mpr h)
    by_cases hreturn : l = [] ∧ c = '\r'
    · obtain ⟨rfl, rfl⟩ := hreturn
      simp [lines, withoutReturn]
    · rw [withoutReturn_cons (not_and.mp hreturn)]
      apply lines_cons (Ne.symm hc) _ (ih hl)
      intro hr
      obtain ⟨d, l, rfl⟩ := List.exists_cons_of_ne_nil fun hnil => hreturn ⟨hnil, hr⟩
      have hd : '\n' ≠ d := List.ne_of_not_mem_cons hl
      simp [hd.symm]

/-- A text is a last piece, or a piece, a line feed and a text. -/
@[elab_as_elim] theorem line_induction {P : List Char → Prop} (last : ∀ l, '\n' ∉ l → P l)
    (feed : ∀ l rest, '\n' ∉ l → P rest → P (l ++ '\n' :: rest)) (cs : List Char) : P cs := by
  by_cases hfeed : '\n' ∈ cs
  · obtain ⟨l, rest, hsplit, hl⟩ := List.eq_append_cons_of_mem hfeed
    have hshorter : rest.length < cs.length := by
      rw [hsplit, List.length_append, List.length_cons]
      omega
    rw [hsplit]
    exact feed l rest hl (line_induction last feed rest)
  · exact last cs hfeed
termination_by cs.length

theorem splitLines_of_not_mem (h : '\n' ∉ l) : splitLines l = [l] := by
  simp [splitLines, List.splitOn_eq_singleton h]

theorem splitLines_append_feed (h : '\n' ∉ l) :
    splitLines (l ++ '\n' :: rest) = withoutReturn l :: splitLines rest := by
  have hpieces := List.splitOn_ne_nil '\n' rest
  simp only [splitLines, List.splitOn_append_cons_self_of_not_mem h,
    List.dropLast_cons_of_ne_nil hpieces, List.getLast?_cons_of_ne_nil hpieces, List.map_cons,
    List.cons_append]

/-- The lines that are read are the pieces between line feeds, up to an empty one at the end. -/
theorem exists_splitLines_eq (cs : List Char) :
    ∃ last, splitLines cs = lines cs ++ last ∧ ∀ l ∈ last, l = [] := by
  induction cs using line_induction with
  | last l hl =>
    rw [splitLines_of_not_mem hl]
    by_cases hne : l = []
    · exact ⟨[[]], by simp [hne], by simp⟩
    · exact ⟨[], by simp [lines_of_not_mem hl hne], by simp⟩
  | feed l rest hl ih =>
    obtain ⟨last, hrest, hlast⟩ := ih
    refine ⟨last, ?_, hlast⟩
    rw [splitLines_append_feed hl, lines_append_feed hl, hrest, List.cons_append]

end Text

namespace CredentialsFile

/-- What a line holds once it is trimmed, unless it is blank or a comment. -/
structure Tells (line core : List Char) : Prop where
  trimmed : Text.IsTrim line core
  notBlank : core ≠ []
  notComment : ∀ c, core.head? = some c → c ≠ '#' ∧ c ≠ '!' ∧ c ≠ ';'

/-- The line is a header, of the section `name`. -/
def Opens (line name : List Char) : Prop :=
  ∃ inner, Tells line ('[' :: (inner ++ [']'])) ∧ Text.IsTrim inner name

/-- The section of a line that stands behind `before`: that of the nearest header, or none. -/
inductive InSection (before : List (List Char)) : Option (List Char) → Prop
  | outside : (∀ l ∈ before, ∀ name, ¬ Opens l name) → InSection before none
  | inside {earlier later : List (List Char)} {header name : List Char} :
      before = earlier ++ header :: later → Opens header name →
      (∀ l ∈ later, ∀ other, ¬ Opens l other) → InSection before (some name)

/-- A line that stands behind `before` is read. -/
def IsRead (before : List (List Char)) : Prop :=
  InSection before none ∨ InSection before (some "default".toList)

def Key.IsName : Key → String → Prop
  | access, s => s = "accessKey" ∨ s = "aws_access_key_id"
  | secret, s => s = "secretKey" ∨ s = "aws_secret_access_key"
  | token, s => s = "aws_session_token"

/-- The line is no header, and around its first separator stand a name of the key and the value. -/
inductive Gives (key : Key) (line : List Char) (value : String) : Prop
  | intro {left right : List Char} {mark : Char} {name : String} : (∀ header, ¬ Opens line header) →
      Tells line (left ++ mark :: right) → (mark = '=' ∨ mark = ':') →
      (∀ c ∈ left, c ≠ '=' ∧ c ≠ ':') → Text.IsTrim left name.toList → key.IsName name →
      Text.IsTrim right value.toList → value ≠ "" → Gives key line value

/-- Of the lines `rest`, which stand behind `before`, one is read and gives the key a value. -/
def Given (key : Key) (before rest : List (List Char)) : Prop :=
  ∃ between line later, rest = between ++ line :: later ∧ IsRead (before ++ between) ∧
    ∃ value, Gives key line value

/-- The last one of them to do so gives it this value. -/
def LastGiven (key : Key) (before rest : List (List Char)) (value : String) : Prop :=
  ∃ between line later, rest = between ++ line :: later ∧ IsRead (before ++ between) ∧
    Gives key line value ∧ ¬ Given key (before ++ between ++ [line]) later

section
variable {line core name k v : List Char}

theorem startsComment_iff {c : Char} : startsComment c = true ↔ c = '#' ∨ c = '!' ∨ c = ';' := by
  simp [startsComment, or_assoc]

theorem isSeparator_iff {c : Char} : isSeparator c = true ↔ c = '=' ∨ c = ':' := by
  simp [isSeparator]

theorem headerName?_eq_some_iff :
    headerName? core = some name ↔
      ∃ inner, core = '[' :: (inner ++ [']']) ∧ Text.IsTrim inner name := by
  unfold headerName?
  split
  · rename_i cs
    split
    · rename_i hlast
      obtain ⟨inner, rfl⟩ := List.getLast?_eq_some_iff.mp hlast
      simp [Text.isTrim_iff]
    · rename_i hlast
      simp only [reduceCtorEq, false_iff]
      intro hinner
      obtain ⟨inner, hcs, -⟩ := hinner
      apply hlast
      rw [(List.cons.inj hcs).2, List.getLast?_concat]
  · rename_i hopen
    simp only [reduceCtorEq, false_iff]
    intro hinner
    obtain ⟨inner, hcs, -⟩ := hinner
    exact hopen _ hcs

theorem ofEntry_eq_entry_iff :
    Line.ofEntry core = .entry k v ↔
      ∃ before mark after, core = before ++ mark :: after ∧ (mark = '=' ∨ mark = ':') ∧
        (∀ c ∈ before, c ≠ '=' ∧ c ≠ ':') ∧ Text.IsTrim before k ∧ Text.IsTrim after v ∧
        v ≠ [] := by
  have hplain : ∀ cs : List Char,
      (∀ c ∈ cs, isSeparator c = false) ↔ ∀ c ∈ cs, c ≠ '=' ∧ c ≠ ':' := by
    intro cs
    simp [isSeparator]
  constructor
  · intro h
    unfold Line.ofEntry at h
    split at h
    · cases h
    · rename_i before after hcut
      obtain ⟨mark, hmark, hcore, hbefore⟩ := Text.cutAt_eq_some hcut
      split at h
      · cases h
      · rename_i hvalue
        injection h with hkey hval
        refine ⟨before, mark, after, hcore, isSeparator_iff.mp hmark, (hplain _).mp hbefore,
          Text.isTrim_iff.mpr hkey, Text.isTrim_iff.mpr hval, ?_⟩
        rw [← hval]
        simpa using hvalue
  · intro hcut
    obtain ⟨before, mark, after, rfl, hmark, hbefore, hkey, hval, hne⟩ := hcut
    obtain rfl := hkey.trimmed_eq
    obtain rfl := hval.trimmed_eq
    have hcut := @Text.cutAt_append isSeparator mark before after (isSeparator_iff.mpr hmark)
      ((hplain _).mpr hbefore)
    simp [Line.ofEntry, hcut, hne]

/-- What a trimmed line says that is neither blank nor a comment. -/
def Line.ofCore (core : List Char) : Line :=
  match headerName? core with
  | some name => .header name
  | none => .ofEntry core

theorem read_of_tells (h : Tells line core) : Line.read line = .ofCore core := by
  obtain ⟨htrimmed, hne, hcomment⟩ := h
  obtain ⟨c, cs, rfl⟩ := List.exists_cons_of_ne_nil hne
  have hnot : ¬ startsComment c = true := by
    rw [startsComment_iff]
    have := hcomment c rfl
    tauto
  rw [Line.read, htrimmed.trimmed_eq]
  exact if_neg hnot

theorem read_of_not_tells (h : ∀ core, ¬ Tells line core) : Line.read line = .nothing := by
  unfold Line.read
  split
  · rfl
  · rename_i c cs htrimmed
    split
    · rfl
    · rename_i hcomment
      refine absurd ⟨Text.isTrim_iff.mpr htrimmed, List.cons_ne_nil c cs, ?_⟩ (h (c :: cs))
      intro d hd
      rw [← Option.some.inj hd]
      simpa [startsComment_iff] using hcomment

theorem ofCore_eq_header_iff : Line.ofCore core = .header name ↔ headerName? core = some name := by
  unfold Line.ofCore
  cases h : headerName? core with
  | some other => simp
  | none =>
    simp only [Line.ofEntry]
    repeat' split
    all_goals simp

theorem read_eq_header_iff : Line.read line = .header name ↔ Opens line name := by
  constructor
  · intro h
    by_cases htells : ∃ core, Tells line core
    · obtain ⟨core, hcore⟩ := htells
      rw [read_of_tells hcore, ofCore_eq_header_iff, headerName?_eq_some_iff] at h
      obtain ⟨inner, rfl, hname⟩ := h
      exact ⟨inner, hcore, hname⟩
    · rw [read_of_not_tells (not_exists.mp htells)] at h
      cases h
  · intro hopens
    obtain ⟨inner, hcore, hname⟩ := hopens
    rw [read_of_tells hcore, ofCore_eq_header_iff, headerName?_eq_some_iff]
    exact ⟨inner, rfl, hname⟩

theorem read_eq_entry_iff :
    Line.read line = .entry k v ↔
      (∀ header, ¬ Opens line header) ∧
        ∃ core, Tells line core ∧ Line.ofEntry core = .entry k v := by
  constructor
  · intro h
    by_cases htells : ∃ core, Tells line core
    · refine ⟨fun header hopens => ?_, ?_⟩
      · rw [read_eq_header_iff.mpr hopens] at h
        cases h
      · obtain ⟨core, hcore⟩ := htells
        refine ⟨core, hcore, ?_⟩
        rw [read_of_tells hcore, Line.ofCore] at h
        split at h
        · cases h
        · exact h
    · rw [read_of_not_tells (not_exists.mp htells)] at h
      cases h
  · intro htold
    obtain ⟨hopens, core, hcore, hentry⟩ := htold
    rw [read_of_tells hcore, Line.ofCore]
    split
    · rename_i header hheader
      refine absurd (read_eq_header_iff.mp ?_) (hopens header)
      rw [read_of_tells hcore, ofCore_eq_header_iff, hheader]
    · exact hentry

theorem mem_names_iff {key : Key} {s : String} : s ∈ key.names ↔ key.IsName s := by
  cases key <;> simp [Key.names, Key.IsName]

theorem gives_iff {key : Key} {value : String} :
    Gives key line value ↔ ∃ k v, Line.read line = .entry k v ∧ key.IsName (String.ofList k) ∧
      String.ofList v = value := by
  constructor
  · intro hgives
    obtain @⟨left, right, mark, name, hopens, htells, hmark, hleft, hname, hkey, hvalue, hne⟩ := hgives
    refine ⟨name.toList, value.toList, read_eq_entry_iff.mpr ⟨hopens, _, htells, ?_⟩, ?_, ?_⟩
    · refine ofEntry_eq_entry_iff.mpr ⟨left, mark, right, rfl, hmark, hleft, hname, hvalue, ?_⟩
      simpa using hne
    · rwa [String.ofList_toList]
    · exact String.ofList_toList
  · intro hentry
    obtain ⟨k, v, hread, hkey, rfl⟩ := hentry
    obtain ⟨hopens, core, htells, hentry⟩ := read_eq_entry_iff.mp hread
    obtain ⟨left, mark, right, rfl, hmark, hleft, hname, hvalue, hne⟩ :=
      ofEntry_eq_entry_iff.mp hentry
    refine .intro hopens htells hmark hleft ?_ hkey ?_ ?_
    · rwa [String.toList_ofList]
    · rwa [String.toList_ofList]
    · simpa using hne

end

/-! Entries of several lines, from those of each. -/

def Line.header? : Line → Option (List Char)
  | header name => some name
  | _ => none

/-- The section behind some lines, the first of which stand in the section `current`. -/
def sectionAfter (current : Option (List Char)) (ls : List Line) : Option (List Char) :=
  ls.foldl (fun before l => l.header?.or before) current

section
variable {current : Option (List Char)} {ls ms : List Line} {key : Key}

theorem entriesAfter_append :
    entriesAfter current (ls ++ ms) =
      entriesAfter current ls ++ entriesAfter (sectionAfter current ls) ms := by
  induction ls generalizing current with
  | nil => rfl
  | cons l ls ih =>
    cases l with
    | nothing => exact ih
    | header name => exact ih
    | entry k v =>
      simp only [List.cons_append, entriesAfter, ih]
      split <;> rfl

theorem sectionAfter_of_plain (h : ∀ l ∈ ls, l.header? = none) :
    sectionAfter current ls = current := by
  induction ls with
  | nil => rfl
  | cons l ls ih =>
    obtain ⟨hl, hls⟩ := List.forall_mem_cons.mp h
    rw [sectionAfter, List.foldl_cons, hl, Option.none_or]
    exact ih hls

theorem lastValue?_append {es fs : List (List Char × List Char)} :
    lastValue? key (es ++ fs) = (lastValue? key fs).or (lastValue? key es) := by
  simp [lastValue?, List.find?_append, Option.map_or]

theorem lastValue?_entry {line : Line} {v : String} :
    lastValue? key (entriesAfter current [line]) = some v ↔
      current.getD defaultSection = defaultSection ∧
        ∃ k given, line = .entry k given ∧ key.IsName (String.ofList k) ∧
          String.ofList given = v := by
  cases line with
  | nothing => simp [entriesAfter, lastValue?]
  | header name => simp [entriesAfter, lastValue?]
  | entry k given =>
    simp only [entriesAfter, Line.entry.injEq]
    by_cases hread : current.getD defaultSection = defaultSection
    · simp [hread, lastValue?, mem_names_iff]
    · simp [hread, lastValue?]

end

section
variable {before rest ls : List (List Char)} {line : List Char} {key : Key} {value : String}

/-- The section behind some lines of a file. -/
abbrev sectionBehind (before : List (List Char)) : Option (List Char) :=
  sectionAfter none (before.map Line.read)

theorem header?_read_eq_none_iff :
    (Line.read line).header? = none ↔ ∀ name, ¬ Opens line name := by
  constructor
  · intro h name hopens
    rw [read_eq_header_iff.mpr hopens] at h
    cases h
  · intro h
    cases hread : Line.read line with
    | header name => exact absurd (read_eq_header_iff.mp hread) (h name)
    | nothing | entry => rfl

theorem sectionAfter_map_of_plain {current : Option (List Char)}
    (h : ∀ l ∈ ls, ∀ name, ¬ Opens l name) : sectionAfter current (ls.map Line.read) = current := by
  apply sectionAfter_of_plain
  intro l hl
  obtain ⟨line, hline, rfl⟩ := List.mem_map.mp hl
  exact header?_read_eq_none_iff.mpr (h line hline)

theorem sectionBehind_concat :
    sectionBehind (before ++ [line]) = sectionAfter (sectionBehind before) [Line.read line] := by
  simp [sectionAfter]

theorem InSection.sectionBehind_eq {s : Option (List Char)} (h : InSection before s) :
    sectionBehind before = s := by
  cases h with
  | outside hplain => exact sectionAfter_map_of_plain hplain
  | @inside earlier later header name hsplit hopens hlater =>
    rw [hsplit, sectionBehind, List.map_append, List.map_cons, sectionAfter, List.foldl_append,
      List.foldl_cons, read_eq_header_iff.mpr hopens]
    exact sectionAfter_map_of_plain hlater

theorem InSection.concat {s : Option (List Char)} (h : InSection before s)
    (hline : ∀ name, ¬ Opens line name) : InSection (before ++ [line]) s := by
  have hlast : ∀ l ∈ [line], ∀ name, ¬ Opens l name := List.forall_mem_singleton.mpr hline
  cases h with
  | outside hplain => exact .outside (List.forall_mem_append.mpr ⟨hplain, hlast⟩)
  | @inside earlier later header name hsplit hopens hlater =>
    have hwhole : before ++ [line] = earlier ++ header :: (later ++ [line]) := by simp [hsplit]
    exact .inside hwhole hopens (List.forall_mem_append.mpr ⟨hlater, hlast⟩)

theorem inSection_sectionBehind (before : List (List Char)) :
    InSection before (sectionBehind before) := by
  induction before using List.reverseRecOn with
  | nil => exact .outside (by simp)
  | append_singleton before line ih =>
    rw [sectionBehind_concat]
    cases hread : Line.read line with
    | header name => exact .inside rfl (read_eq_header_iff.mp hread) (by simp)
    | nothing | entry =>
      have hplain : (Line.read line).header? = none := by rw [hread]; rfl
      exact ih.concat (header?_read_eq_none_iff.mp hplain)

theorem isRead_iff : IsRead before ↔ (sectionBehind before).getD defaultSection = defaultSection := by
  constructor
  · intro h
    rcases h with h | h
    · rw [h.sectionBehind_eq]
      rfl
    · rw [h.sectionBehind_eq]
      rfl
  · intro h
    have hsection := inSection_sectionBehind before
    cases hs : sectionBehind before with
    | none => exact .inl (hs ▸ hsection)
    | some name =>
      rw [hs] at h hsection
      obtain rfl : name = defaultSection := h
      exact .inr hsection

/-- What one line adds to what was read. -/
theorem lastValue?_line :
    lastValue? key (entriesAfter (sectionBehind before) [Line.read line]) = some value ↔
      IsRead before ∧ Gives key line value := by
  rw [lastValue?_entry, isRead_iff, gives_iff]

theorem exists_split_cons_iff {α : Type} {a : α} {as : List α} {P : List α → α → List α → Prop} :
    (∃ between x later, a :: as = between ++ x :: later ∧ P between x later) ↔
      P [] a as ∨ ∃ between x later, as = between ++ x :: later ∧ P (a :: between) x later := by
  constructor
  · intro hsome
    obtain ⟨between, x, later, hsplit, h⟩ := hsome
    rcases List.cons_eq_append_iff.mp hsplit with ⟨rfl, hcons⟩ | ⟨between, rfl, rfl⟩
    · obtain ⟨rfl, rfl⟩ := List.cons.inj hcons
      exact .inl h
    · exact .inr ⟨between, x, later, rfl, h⟩
  · intro hsome
    rcases hsome with h | ⟨between, x, later, rfl, h⟩
    · exact ⟨[], a, as, rfl, h⟩
    · exact ⟨a :: between, x, later, rfl, h⟩

theorem given_cons_iff : Given key before (line :: rest) ↔
    (IsRead before ∧ ∃ value, Gives key line value) ∨ Given key (before ++ [line]) rest := by
  simp only [Given, exists_split_cons_iff, List.append_nil, List.append_assoc, List.singleton_append]

theorem lastGiven_cons_iff : LastGiven key before (line :: rest) value ↔
    (IsRead before ∧ Gives key line value ∧ ¬ Given key (before ++ [line]) rest) ∨
      LastGiven key (before ++ [line]) rest value := by
  simp only [LastGiven, exists_split_cons_iff, List.append_nil, List.append_assoc,
    List.cons_append, List.nil_append]

theorem lastValue?_cons :
    lastValue? key (entriesAfter (sectionBehind before) ((line :: rest).map Line.read)) =
      (lastValue? key (entriesAfter (sectionBehind (before ++ [line])) (rest.map Line.read))).or
        (lastValue? key (entriesAfter (sectionBehind before) [Line.read line])) := by
  rw [List.map_cons, ← List.singleton_append, entriesAfter_append, lastValue?_append,
    sectionBehind_concat]

theorem lastValue?_eq_none_iff :
    lastValue? key (entriesAfter (sectionBehind before) (rest.map Line.read)) = none ↔
      ¬ Given key before rest := by
  induction rest generalizing before with
  | nil => simp [entriesAfter, lastValue?, Given]
  | cons line rest ih =>
    have hline : lastValue? key (entriesAfter (sectionBehind before) [Line.read line]) = none ↔
        ¬ (IsRead before ∧ ∃ value, Gives key line value) := by
      rw [Option.eq_none_iff_forall_ne_some, ← exists_and_left, not_exists]
      simp only [ne_eq, lastValue?_line]
    rw [lastValue?_cons, Option.or_eq_none_iff, ih, hline, given_cons_iff, not_or, and_comm]

theorem lastValue?_eq_some_iff :
    lastValue? key (entriesAfter (sectionBehind before) (rest.map Line.read)) = some value ↔
      LastGiven key before rest value := by
  induction rest generalizing before with
  | nil => simp [entriesAfter, lastValue?, LastGiven]
  | cons line rest ih =>
    rw [lastValue?_cons, Option.or_eq_some_iff, ih, lastValue?_eq_none_iff, lastValue?_line,
      lastGiven_cons_iff]
    tauto

end

theorem entriesAfter_empty {current : Option (List Char)} {ls : List (List Char)}
    (h : ∀ l ∈ ls, l = []) : entriesAfter current (ls.map Line.read) = [] := by
  induction ls with
  | nil => rfl
  | cons l ls ih =>
    obtain ⟨rfl, hls⟩ := List.forall_mem_cons.mp h
    exact ih hls

theorem entries_eq (text : String) :
    entries text = entriesAfter none ((Text.splitLines text.toList).map Line.read) := by
  obtain ⟨last, hsplit, hlast⟩ := Text.exists_splitLines_eq text.toList
  rw [hsplit, List.map_append, entriesAfter_append, entriesAfter_empty hlast, List.append_nil,
    entries]

theorem lastValue?_entries_eq_some_iff {key : Key} {text value : String} :
    lastValue? key (entries text) = some value ↔
      LastGiven key [] (Text.splitLines text.toList) value := by
  rw [entries_eq, ← lastValue?_eq_some_iff]
  rfl

theorem lastValue?_entries_eq_none_iff {key : Key} {text : String} :
    lastValue? key (entries text) = none ↔ ¬ Given key [] (Text.splitLines text.toList) := by
  rw [entries_eq, ← lastValue?_eq_none_iff]
  rfl

theorem read_eq_ok_iff {text : String} {c : Credentials} :
    read text = .ok c ↔ lastValue? .access (entries text) = some c.accessKeyId ∧
      lastValue? .secret (entries text) = some c.secretAccessKey ∧
        lastValue? .token (entries text) = c.sessionToken ∧ c.expiry = none ∧
          c.provider = providerName := by
  simp only [read]
  cases lastValue? .access (entries text) with
  | none => simp
  | some access =>
    cases lastValue? .secret (entries text) with
    | none => simp
    | some secret =>
      cases c
      simp [eq_comm]

theorem read_eq_error_iff {text : String} {e : MissingKey} :
    read text = .error e ↔ (lastValue? .access (entries text) = none ∧ e = ⟨.access⟩) ∨
      (lastValue? .access (entries text) ≠ none ∧ lastValue? .secret (entries text) = none ∧
        e = ⟨.secret⟩) := by
  simp only [read]
  cases lastValue? .access (entries text) with
  | none => simp [eq_comm]
  | some access => cases lastValue? .secret (entries text) <;> simp [eq_comm]

/-- Entries of another section are not read, whatever its lines say. -/
theorem entriesAfter_foreign {name : List Char} {ls : List (List Char)}
    (hname : name ≠ defaultSection) (h : ∀ l ∈ ls, ∀ other, ¬ Opens l other) :
    entriesAfter (some name) (ls.map Line.read) = [] := by
  induction ls with
  | nil => rfl
  | cons l ls ih =>
    obtain ⟨hl, hls⟩ := List.forall_mem_cons.mp h
    rw [List.map_cons]
    cases hread : Line.read l with
    | header other => exact absurd (read_eq_header_iff.mp hread) (hl other)
    | nothing => exact ih hls
    | entry k v => simp [entriesAfter, hname, ih hls]

theorem entriesAfter_replace {before lines lines' after : List (List Char)} {name : List Char}
    (hsection : InSection before (some name)) (hname : name ≠ defaultSection)
    (h : ∀ l ∈ lines, ∀ other, ¬ Opens l other) (h' : ∀ l ∈ lines', ∀ other, ¬ Opens l other) :
    entriesAfter none ((before ++ lines ++ after).map Line.read) =
      entriesAfter none ((before ++ lines' ++ after).map Line.read) := by
  have hbehind := hsection.sectionBehind_eq
  simp only [List.map_append, List.append_assoc, entriesAfter_append]
  rw [sectionBehind] at hbehind
  rw [hbehind, entriesAfter_foreign hname h, entriesAfter_foreign hname h',
    sectionAfter_map_of_plain h, sectionAfter_map_of_plain h']

/-- What reading a file comes to. Credentials are put together from the lines that give their parts
last; the access key is missed before the secret key; and the lines of another section may be
replaced by any others that are no headers. -/
structure Reading (text : String) : Prop where
  credentials : ∀ c, read text = .ok c ↔
    LastGiven .access [] (Text.splitLines text.toList) c.accessKeyId ∧
      LastGiven .secret [] (Text.splitLines text.toList) c.secretAccessKey ∧
        (∀ token, c.sessionToken = some token ↔
          LastGiven .token [] (Text.splitLines text.toList) token) ∧
            c.expiry = none ∧ c.provider = "CredentialsFile"
  missing : ∀ e, read text = .error e ↔
    (e = ⟨.access⟩ ∧ ¬ Given .access [] (Text.splitLines text.toList)) ∨
      (e = ⟨.secret⟩ ∧ Given .access [] (Text.splitLines text.toList) ∧
        ¬ Given .secret [] (Text.splitLines text.toList))
  foreign : ∀ (other : String) (before lines lines' after : List (List Char)) (name : List Char),
    Text.splitLines text.toList = before ++ lines ++ after →
    Text.splitLines other.toList = before ++ lines' ++ after →
    InSection before (some name) → name ≠ "default".toList →
    (∀ l ∈ lines, ∀ header, ¬ Opens l header) → (∀ l ∈ lines', ∀ header, ¬ Opens l header) →
      read text = read other

theorem reading (text : String) : Reading text := by
  constructor
  case credentials =>
    intro c
    rw [read_eq_ok_iff, lastValue?_entries_eq_some_iff, lastValue?_entries_eq_some_iff]
    have htoken : lastValue? .token (entries text) = c.sessionToken ↔ ∀ token,
        c.sessionToken = some token ↔ LastGiven .token [] (Text.splitLines text.toList) token := by
      simp only [← lastValue?_entries_eq_some_iff]
      rw [eq_comm, Option.ext_iff]
    rw [htoken, providerName]
  case missing =>
    intro e
    rw [read_eq_error_iff, ne_eq, lastValue?_entries_eq_none_iff, lastValue?_entries_eq_none_iff,
      not_not]
    tauto
  case foreign =>
    intro other before lines lines' after name htext hother hsection hname h h'
    have hentries : entries text = entries other := by
      rw [entries_eq, entries_eq, htext, hother, entriesAfter_replace hsection hname h h']
    simp only [read, hentries]

end CredentialsFile
end CredentialResolution
