import CredentialResolution.Proofs.Judgement
import CredentialResolution.Proofs.Loading
import CredentialResolution.Proofs.Resolution

/-! The checks of files and the reading that they are for. A file that is opened is accepted by both and
can be read. The check of a token file asks for the canonical path first, which the system finds for
every path it can open but for those that are too long, or lead through places whose path is. -/

namespace CredentialResolution
set_option autoImplicit false

namespace Files.FileSystem
variable {fs : FileSystem} {path : String} {loc : Location}

/-- The system has a canonical path for a text exactly if it resolves the text. -/
def Canonicalizes (fs : FileSystem) (path : String) : Prop :=
  (∃ loc, fs.locate path = .ok loc) ↔ ∃ loc, fs.locateToOpen path = .ok loc

theorem locate_eq_ok_iff :
    fs.locate path = .ok loc ↔
      ∃ p, Path.ofString path = .ok p ∧
        fs.Leads (some mostPathBytes) mostLinks [] (fs.namesOf p) loc := by
  rw [locate]
  cases Path.ofString path with
  | error e => simp
  | ok p => simp [walk_eq_ok_iff]

theorem locateToOpen_eq_ok_iff :
    fs.locateToOpen path = .ok loc ↔
      ∃ p, Path.ofString path = .ok p ∧ path.utf8ByteSize ≤ mostPathBytes ∧
        fs.Leads none mostLinks [] (fs.namesOf p) loc := by
  rw [locateToOpen, namesToOpen]
  cases Path.ofString path with
  | error e => simp
  | ok p =>
    by_cases hlong : mostPathBytes < path.utf8ByteSize
    · simp [hlong, Nat.not_le.mpr hlong]
    · simp [hlong, Nat.le_of_not_lt hlong, walk_eq_ok_iff]

theorem locateToOpen_of_locate (h : fs.locate path = .ok loc)
    (hshort : path.utf8ByteSize ≤ mostPathBytes) : fs.locateToOpen path = .ok loc := by
  obtain ⟨p, hp, hleads⟩ := locate_eq_ok_iff.mp h
  exact locateToOpen_eq_ok_iff.mpr ⟨p, hp, hshort, hleads.unlimited⟩

theorem locate_of_locateToOpen (h : fs.locateToOpen path = .ok loc) :
    fs.locate path = .ok loc ∨ fs.locate path = .error .nameTooLong := by
  obtain ⟨p, hp, -, hleads⟩ := locateToOpen_eq_ok_iff.mp h
  rcases hleads.limited with hlimited | hlong
  · exact .inl (locate_eq_ok_iff.mpr ⟨p, hp, hlimited⟩)
  · exact .inr (by rw [locate, hp]; exact hlong)

theorem short_of_locateToOpen (h : fs.locateToOpen path = .ok loc) :
    path.utf8ByteSize ≤ mostPathBytes := by
  obtain ⟨p, -, hshort, -⟩ := locateToOpen_eq_ok_iff.mp h
  exact hshort

/-- The two searches differ over texts and places that are too long, and over nothing else. -/
theorem canonicalizes_iff :
    fs.Canonicalizes path ↔
      ((∃ loc, fs.locate path = .ok loc) → path.utf8ByteSize ≤ mostPathBytes) ∧
        ((∃ loc, fs.locateToOpen path = .ok loc) → fs.locate path ≠ .error .nameTooLong) := by
  constructor
  · intro h
    constructor
    · intro hlocate
      obtain ⟨loc, hopen⟩ := h.mp hlocate
      exact short_of_locateToOpen hopen
    · intro hopen hlong
      obtain ⟨loc, hlocate⟩ := h.mpr hopen
      simp [hlocate] at hlong
  · rintro ⟨hshort, hplaces⟩
    constructor
    · rintro ⟨loc, hlocate⟩
      exact ⟨loc, locateToOpen_of_locate hlocate (hshort ⟨loc, hlocate⟩)⟩
    · rintro ⟨loc, hopen⟩
      exact ⟨loc, (locate_of_locateToOpen hopen).resolve_right (hplaces ⟨loc, hopen⟩)⟩

theorem Canonicalizes.locate_eq_ok_iff (h : fs.Canonicalizes path) :
    fs.locate path = .ok loc ↔ fs.locateToOpen path = .ok loc := by
  constructor
  · intro hlocate
    exact locateToOpen_of_locate hlocate ((canonicalizes_iff.mp h).1 ⟨loc, hlocate⟩)
  · intro hopen
    exact (locate_of_locateToOpen hopen).resolve_right ((canonicalizes_iff.mp h).2 ⟨loc, hopen⟩)

/-! ### Reading -/

theorem isFileAt_iff :
    fs.isFileAt path = true ↔ ∃ loc, fs.locateToOpen path = .ok loc ∧ fs.isFile loc = true := by
  rw [isFileAt]
  cases fs.locateToOpen path <;> simp

theorem exists_read_iff : (∃ bytes, fs.read path = .ok bytes) ↔ fs.isFileAt path = true := by
  rw [read, isFileAt]
  cases fs.locateToOpen path with
  | error e => simp
  | ok loc =>
    simp only [isFile]
    cases fs.node? loc with
    | none => simp
    | some node => cases node <;> simp

theorem walk_ne_notText {most : Option Nat} {links : Nat} {names : List String} :
    fs.walk most links loc names ≠ .error .notText := by
  fun_induction walk fs most links loc names with
  | case3 | case4 | case8 | case9 => assumption
  | case1 | case2 | case5 | case6 | case7 => simp

theorem locateToOpen_ne_notText : fs.locateToOpen path ≠ .error .notText := by
  have hnames : fs.namesToOpen path ≠ .error .notText := by
    rw [namesToOpen, Path.ofString]
    split_ifs <;> simp
  rw [locateToOpen]
  cases h : fs.namesToOpen path with
  | error e => simpa [h] using hnames
  | ok names => exact walk_ne_notText

/-- Bytes are read whether they are a text or not. -/
theorem read_ne_notText : fs.read path ≠ .error .notText := by
  rw [read]
  cases h : fs.locateToOpen path with
  | error e => simpa [h] using @locateToOpen_ne_notText fs path
  | ok loc =>
    simp only
    split <;> simp

end Files.FileSystem

section
variable {lib : Library} {made w : World} {path : String}

/-- An exchange tells that it cannot read its token exactly where the file cannot be read. -/
theorem TokenExchange.unreadable_token_iff (t : TokenExchange) :
    (∃ e, t.token w = .error (.unreadableToken e)) ↔
      ¬ ∃ bytes, w.files.read t.tokenFile = .ok bytes := by
  rw [TokenExchange.token]
  cases w.files.read t.tokenFile with
  | error e => simp
  | ok bytes => cases htext : String.fromUTF8? bytes <;> simp [htext]

/-- So does a credentials file, which tells of bytes that are no text in the same way. -/
theorem Source.unreadable_file_iff :
    (∃ e, e ≠ .notText ∧
      (Source.file path).load lib made w = .error (.unreadableFile path e)) ↔
      ¬ ∃ bytes, w.files.read path = .ok bytes := by
  rw [Source.load, Files.FileSystem.readText]
  cases h : w.files.read path with
  | error e =>
    have hne : e ≠ .notText := fun heq => Files.FileSystem.read_ne_notText (heq ▸ h)
    simp [hne]
  | ok bytes =>
    cases htext : String.fromUTF8? bytes with
    | none => simp [htext]
    | some text => cases hread : CredentialsFile.read text <;> simp [htext, hread, Except.mapError]

end

namespace Files.FileSystem
variable {fs : FileSystem} {path : String}

/-- Both checks accept what can be read, by the checks themselves and by the providers that read it
later; and the canonical path that is checked in place of the text leads where the text does. -/
structure ChecksAgree (fs : FileSystem) (path : String) : Prop where
  checks : ∀ subject raw, Validator.tokenFile.check fs subject raw path = .ok () ↔
    Validator.credentialsFile.check fs subject raw path = .ok ()
  reading : ∀ subject raw, Validator.credentialsFile.check fs subject raw path = .ok () ↔
    ∃ bytes, fs.read path = .ok bytes
  exchange : ∀ (t : TokenExchange) (w : World), t.tokenFile = path → w.files = fs →
    ((∃ bytes, fs.read path = .ok bytes) ↔ ∀ e, t.token w ≠ .error (.unreadableToken e))
  source : ∀ (lib : Library) (made w : World), w.files = fs → ((∃ bytes, fs.read path = .ok bytes) ↔
    ∀ e, e ≠ .notText → (Source.file path).load lib made w ≠ .error (.unreadableFile path e))
  canonical : fs.WellNamed → ∀ loc, fs.locate path = .ok loc →
    fs.Stands (some mostPathBytes) loc ∧ fs.locateToOpen loc.text = .ok loc ∧
      fs.locateToOpen path = .ok loc

theorem checksAgree_of_canonicalizes (fs : FileSystem) (path : String) (h : fs.Canonicalizes path) :
    ChecksAgree fs path where
  checks := by
    intro subject raw
    rw [Validator.check_tokenFile_iff, Validator.check_credentialsFile_iff, isFileAt_iff]
    simp only [h.locate_eq_ok_iff]
  reading := by
    intro subject raw
    rw [Validator.check_credentialsFile_iff, exists_read_iff]
  exchange := by
    rintro t w rfl rfl
    simpa using (not_congr t.unreadable_token_iff).symm
  source := by
    rintro lib made w rfl
    simpa using (not_congr Source.unreadable_file_iff).symm
  canonical := by
    intro hnamed loc hloc
    obtain ⟨p, -, hleads⟩ := locate_eq_ok_iff.mp hloc
    have hstands := hleads.stands .root
    exact ⟨hstands, hstands.locateToOpen_text hnamed, h.locate_eq_ok_iff.mp hloc⟩

/-- A token that is named by a link in a chain, which goes up and down again. -/
def linked : FileSystem where
  entries := [
    ("d", .directory [("t", .file "token".toUTF8), ("near", .link ⟨false, ["..", "d", "t"]⟩)]),
    ("far", .link ⟨true, ["", "d", ".", "near"]⟩)]
  workingDirectory := ["d"]

theorem locate_linked : linked.locate "../far" = .ok ["d", "t"] := by
  have hpath : Path.ofString "../far" = .ok ⟨false, ["..", "far"]⟩ := by decide +kernel
  have hd : linked.Names (some mostPathBytes) [] "d" :=
    ⟨rfl, by decide, by decide, by decide, by decide +kernel⟩
  have ht : linked.Names (some mostPathBytes) ["d"] "t" :=
    ⟨rfl, by decide, by decide, by decide, by decide +kernel⟩
  have hnear : linked.Names (some mostPathBytes) ["d"] "near" :=
    ⟨rfl, by decide, by decide, by decide, by decide +kernel⟩
  have hfar : linked.Names (some mostPathBytes) [] "far" :=
    ⟨rfl, by decide, by decide, by decide, by decide +kernel⟩
  refine locate_eq_ok_iff.mpr ⟨_, hpath, ?_⟩
  refine .enter hd rfl nofun (.up rfl (.follow hfar rfl ?_))
  refine .stay rfl (by decide) (.enter hd rfl nofun (.stay rfl (by decide) (.follow hnear rfl ?_)))
  exact .up rfl (.enter hd rfl nofun (.enter ht rfl nofun .arrive))

theorem wellNamed_linked : linked.WellNamed := by
  have hplain : ∀ name ∈ ["d", "far", "t", "near"], IsPlain name := by
    simp only [List.forall_mem_cons, List.not_mem_nil, false_implies, implies_true, and_true,
      IsPlain]
    decide +kernel
  refine Node.wellNamed_directory (List.forall_mem_cons.mpr ⟨⟨hplain "d" (by simp), ?_⟩, ?_⟩)
  · refine Node.wellNamed_directory (List.forall_mem_cons.mpr ⟨⟨hplain "t" (by simp), ?_⟩, ?_⟩)
    · exact Node.wellNamed_file _
    · simpa using ⟨hplain "near" (by simp), Node.wellNamed_link _⟩
  · simpa using ⟨hplain "far" (by simp), Node.wellNamed_link _⟩

theorem checksAgree_of_canonicalizes_linked :
    linked.Canonicalizes "../far" ∧ ChecksAgree linked "../far" ∧
      Validator.tokenFile.check linked "" "" "../far" = .ok () ∧
      linked.locateToOpen "/d/t" = .ok ["d", "t"] := by
  have hshort : "../far".utf8ByteSize ≤ mostPathBytes := by decide +kernel
  have hcanonicalizes : linked.Canonicalizes "../far" := by
    refine canonicalizes_iff.mpr ⟨fun _ => hshort, fun _ => ?_⟩
    simp [locate_linked]
  have hagree := checksAgree_of_canonicalizes linked "../far" hcanonicalizes
  have htext : Location.text ["d", "t"] = "/d/t" := by decide +kernel
  obtain ⟨-, hcanonical, -⟩ := hagree.canonical wellNamed_linked ["d", "t"] locate_linked
  rw [htext] at hcanonical
  have hcheck : Validator.tokenFile.check linked "" "" "../far" = .ok () :=
    Validator.check_tokenFile_iff.mpr ⟨["d", "t"], locate_linked, rfl⟩
  exact ⟨hcanonicalizes, hagree, hcheck, hcanonical⟩

end Files.FileSystem
end CredentialResolution
