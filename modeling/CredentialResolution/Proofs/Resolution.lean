import CredentialResolution.Files.Basic

/-! Where paths lead. A walk arrives at a place that has a path of its own, without links or dots, and
this path leads there again. Apart from places whose path is too long for it, the walk to the canonical
path of a text and the walk that opens it arrive at the same place. -/

namespace CredentialResolution.Files
set_option autoImplicit false

/-- A name that can be written between the slashes of a path. -/
def IsPlain (name : String) : Prop := '/' ∉ name.toList ∧ Char.ofNat 0 ∉ name.toList

/-- The names of all that lies below the node are plain. -/
def Node.WellNamed (node : Node) : Prop :=
  ∀ loc name child, node.at? (loc ++ [name]) = some child → IsPlain name

theorem Node.wellNamed_file (bytes : ByteArray) : (Node.file bytes).WellNamed := by
  intro loc name child h
  cases loc <;> cases h

theorem Node.wellNamed_link (target : Path) : (Node.link target).WellNamed := by
  intro loc name child h
  cases loc <;> cases h

theorem Node.wellNamed_directory {entries : List (String × Node)}
    (h : ∀ e ∈ entries, IsPlain e.1 ∧ e.2.WellNamed) : (Node.directory entries).WellNamed := by
  have hlookup : ∀ name child, entries.lookup name = some child →
      IsPlain name ∧ child.WellNamed := by
    intro name child hchild
    obtain ⟨before, after, rfl, -⟩ := List.lookup_eq_some_iff.mp hchild
    exact h (name, child) (by simp)
  intro loc name child hat
  cases loc with
  | nil =>
    cases hchild : entries.lookup name with
    | none => simp [at?, child?, hchild] at hat
    | some next => exact (hlookup name next hchild).1
  | cons first loc =>
    cases hchild : entries.lookup first with
    | none => simp [at?, child?, hchild] at hat
    | some next =>
      have hnext : next.at? (loc ++ [name]) = some child := by simpa [at?, child?, hchild] using hat
      exact (hlookup first next hchild).2 loc name child hnext

namespace FileSystem

/-- A name that stands for an entry of the directory `loc`, whether there is one or not. -/
structure Names (fs : FileSystem) (most : Option Nat) (loc : Location) (name : String) : Prop where
  directory : fs.isDirectory loc = true
  moves : stays name = false
  notUp : name ≠ ".."
  short : name.utf8ByteSize ≤ mostNameBytes
  fits : (loc ++ [name]).isWithin most = true

/-- Names lead from a location to another, where as many links may be followed. -/
inductive Leads (fs : FileSystem) (most : Option Nat) :
    Nat → Location → List String → Location → Prop
  | arrive {links : Nat} {loc : Location} : Leads fs most links loc [] loc
  | stay {links : Nat} {loc dest : Location} {name : String} {names : List String}
    (hdir : fs.isDirectory loc = true) (hname : stays name = true)
    (h : Leads fs most links loc names dest) : Leads fs most links loc (name :: names) dest
  | up {links : Nat} {loc dest : Location} {names : List String}
    (hdir : fs.isDirectory loc = true) (h : Leads fs most links loc.dropLast names dest) :
    Leads fs most links loc (".." :: names) dest
  | follow {links : Nat} {loc dest : Location} {name : String} {names : List String} {target : Path}
    (hname : fs.Names most loc name) (hnode : fs.node? (loc ++ [name]) = some (.link target))
    (h : Leads fs most links (if target.absolute then [] else loc) (target.names ++ names) dest) :
    Leads fs most (links + 1) loc (name :: names) dest
  | enter {links : Nat} {loc dest : Location} {name : String} {names : List String} {node : Node}
    (hname : fs.Names most loc name) (hnode : fs.node? (loc ++ [name]) = some node)
    (hlink : ∀ target, node ≠ .link target) (h : Leads fs most links (loc ++ [name]) names dest) :
    Leads fs most links loc (name :: names) dest

/-- A place that is reached from the root name by name, through directories and no links. -/
inductive Stands (fs : FileSystem) (most : Option Nat) : Location → Prop
  | root : Stands fs most []
  | entry {loc : Location} {name : String} {node : Node} (h : Stands fs most loc)
    (hname : fs.Names most loc name) (hnode : fs.node? (loc ++ [name]) = some node)
    (hlink : ∀ target, node ≠ .link target) : Stands fs most (loc ++ [name])

variable {fs : FileSystem} {most : Option Nat} {links n : Nat} {loc dest : Location} {name : String}
  {names : List String}

/-! ### Single names -/

theorem walk_stay (hdir : fs.isDirectory loc = true) (hname : stays name = true) :
    fs.walk most links loc (name :: names) = fs.walk most links loc names := by
  rw [walk, hdir, if_neg (by simp), if_pos hname]

theorem walk_up (hdir : fs.isDirectory loc = true) :
    fs.walk most links loc (".." :: names) = fs.walk most links loc.dropLast names := by
  rw [walk, hdir, if_neg (by simp), if_neg (by decide), if_pos rfl]

theorem walk_tooLong (hdir : fs.isDirectory loc = true) (hmoves : stays name = false)
    (hup : name ≠ "..") (hlong : (loc ++ [name]).isWithin most = false) :
    fs.walk most links loc (name :: names) = .error .nameTooLong := by
  rw [walk, hdir, if_neg (by simp), hmoves, if_neg (by simp), if_neg hup, if_pos (.inr hlong)]

theorem walk_follow {target : Path} (hname : fs.Names most loc name)
    (hnode : fs.node? (loc ++ [name]) = some (.link target)) :
    fs.walk most (links + 1) loc (name :: names) =
      fs.walk most links (if target.absolute then [] else loc) (target.names ++ names) := by
  have hfits : ¬ (mostNameBytes < name.utf8ByteSize ∨ (loc ++ [name]).isWithin most = false) := by
    simp [hname.short, hname.fits]
  rw [walk, hname.directory, if_neg (by simp), hname.moves, if_neg (by simp), if_neg hname.notUp,
    if_neg hfits, hnode]

theorem walk_enter {node : Node} (hname : fs.Names most loc name)
    (hnode : fs.node? (loc ++ [name]) = some node) (hlink : ∀ target, node ≠ .link target) :
    fs.walk most links loc (name :: names) = fs.walk most links (loc ++ [name]) names := by
  have hfits : ¬ (mostNameBytes < name.utf8ByteSize ∨ (loc ++ [name]).isWithin most = false) := by
    simp [hname.short, hname.fits]
  rw [walk, hname.directory, if_neg (by simp), hname.moves, if_neg (by simp), if_neg hname.notUp,
    if_neg hfits, hnode]
  cases node with
  | link target => exact absurd rfl (hlink target)
  | file | directory => rfl

theorem names_of_walk (hdir : ¬ fs.isDirectory loc = false) (hmoves : ¬ stays name = true)
    (hup : ¬ name = "..")
    (hfits : ¬ (mostNameBytes < name.utf8ByteSize ∨ (loc ++ [name]).isWithin most = false)) :
    fs.Names most loc name := by
  have hshort : ¬ mostNameBytes < name.utf8ByteSize := fun h => hfits (.inl h)
  have hwithin : ¬ (loc ++ [name]).isWithin most = false := fun h => hfits (.inr h)
  exact ⟨by simpa using hdir, by simpa using hmoves, hup, Nat.le_of_not_lt hshort, by simpa using hwithin⟩

/-! ### Walks -/

theorem leads_of_walk (h : fs.walk most links loc names = .ok dest) :
    fs.Leads most links loc names dest := by
  fun_induction walk fs most links loc names with
  | case1 => exact Except.ok.inj h ▸ .arrive
  | case3 links loc name names hdir hstays ih => exact .stay (by simpa using hdir) hstays (ih h)
  | case4 links loc names hdir _ ih => exact .up (by simpa using hdir) (ih h)
  | case8 loc name names hdir hmoves hup hfits target hnode left ih =>
    exact .follow (names_of_walk hdir hmoves hup hfits) hnode (ih h)
  | case9 links loc name names hdir hmoves hup hfits node hlink hnode ih =>
    exact .enter (names_of_walk hdir hmoves hup hfits) hnode hlink (ih h)
  | case2 | case5 | case6 | case7 => cases h

theorem walk_of_leads (h : fs.Leads most links loc names dest) :
    fs.walk most links loc names = .ok dest := by
  induction h with
  | arrive => rw [walk]
  | stay hdir hname _ ih => rw [walk_stay hdir hname, ih]
  | up hdir _ ih => rw [walk_up hdir, ih]
  | follow hname hnode _ ih => rw [walk_follow hname hnode, ih]
  | enter hname hnode hlink _ ih => rw [walk_enter hname hnode hlink, ih]

theorem walk_eq_ok_iff :
    fs.walk most links loc names = .ok dest ↔ fs.Leads most links loc names dest :=
  ⟨leads_of_walk, walk_of_leads⟩

theorem Names.unlimited (h : fs.Names most loc name) : fs.Names none loc name :=
  { h with fits := rfl }

theorem Leads.unlimited (h : fs.Leads most links loc names dest) :
    fs.Leads none links loc names dest := by
  induction h with
  | arrive => exact .arrive
  | stay hdir hname _ ih => exact .stay hdir hname ih
  | up hdir _ ih => exact .up hdir ih
  | follow hname hnode _ ih => exact .follow hname.unlimited hnode ih
  | enter hname hnode hlink _ ih => exact .enter hname.unlimited hnode hlink ih

/-- A limit changes nothing but that a walk may end at a place that is too long for it. -/
theorem Leads.limited (h : fs.Leads none links loc names dest) :
    fs.Leads most links loc names dest ∨ fs.walk most links loc names = .error .nameTooLong := by
  have hnames : ∀ {loc name}, fs.Names none loc name → fs.Names most loc name ∨
      (loc ++ [name]).isWithin most = false := by
    intro loc name hname
    cases hfits : (loc ++ [name]).isWithin most with
    | true => exact .inl { hname with fits := hfits }
    | false => exact .inr rfl
  induction h with
  | arrive => exact .inl .arrive
  | stay hdir hname _ ih =>
    rw [walk_stay hdir hname]
    exact ih.imp_left (.stay hdir hname)
  | up hdir _ ih =>
    rw [walk_up hdir]
    exact ih.imp_left (.up hdir)
  | follow hname hnode _ ih =>
    obtain hname' | hlong := hnames hname
    · rw [walk_follow hname' hnode]
      exact ih.imp_left (.follow hname' hnode)
    · exact .inr (walk_tooLong hname.directory hname.moves hname.notUp hlong)
  | enter hname hnode hlink _ ih =>
    obtain hname' | hlong := hnames hname
    · rw [walk_enter hname' hnode hlink]
      exact ih.imp_left (.enter hname' hnode hlink)
    · exact .inr (walk_tooLong hname.directory hname.moves hname.notUp hlong)

/-- The empty name before the first slash stays at the root. -/
theorem walk_rootFile {bytes : ByteArray} (hnode : fs.node? [name] = some (.file bytes))
    (hstays : stays name = false) (hup : name ≠ "..") (hlong : name.utf8ByteSize ≤ mostNameBytes)
    (hwithin : Location.isWithin most [name] = true) :
    fs.walk most links [] ["", name] = .ok [name] := by
  have hname : fs.Names most [] name := ⟨rfl, hstays, hup, hlong, hwithin⟩
  rw [walk_stay rfl rfl, walk_enter hname hnode nofun, walk]
  rfl

/-! ### Places -/

theorem Stands.dropLast (h : fs.Stands most loc) : fs.Stands most loc.dropLast := by
  cases h with
  | root => exact .root
  | entry h => simpa using h

theorem Leads.stands (h : fs.Leads most links loc names dest) (hloc : fs.Stands most loc) :
    fs.Stands most dest := by
  induction h with
  | arrive => exact hloc
  | stay _ _ _ ih => exact ih hloc
  | up _ _ ih => exact ih hloc.dropLast
  | @follow _ _ _ _ _ target _ _ _ ih =>
    apply ih
    cases target.absolute with
    | true => exact .root
    | false => exact hloc
  | enter hname hnode hlink _ ih => exact ih (.entry hloc hname hnode hlink)

/-- The names of a place lead to it from the root, and what is led to from there goes on from them. -/
theorem Stands.leads_append (h : fs.Stands most loc)
    (hrest : fs.Leads most links loc names dest) : fs.Leads most links [] (loc ++ names) dest := by
  induction h generalizing names with
  | root => exact hrest
  | entry _ hname hnode hlink ih =>
    rw [List.append_assoc]
    exact ih (.enter hname hnode hlink hrest)

theorem Stands.leads (h : fs.Stands most loc) (links : Nat) : fs.Leads most links [] loc loc := by
  simpa using h.leads_append .arrive

/-- Every name can be written in a path. -/
def WellNamed (fs : FileSystem) : Prop := fs.root.WellNamed

theorem Stands.wellNamed (h : fs.Stands most loc) (hfs : fs.WellNamed) :
    ∀ name ∈ loc, IsPlain name := by
  induction h with
  | root => simp
  | entry _ _ hnode _ ih =>
    intro other hother
    rcases List.mem_append.mp hother with hother | hother
    · exact ih other hother
    · obtain rfl := List.mem_singleton.mp hother
      exact hfs _ _ _ hnode

theorem Stands.text_le (h : fs.Stands (some n) loc) (hn : 1 ≤ n) : loc.text.utf8ByteSize ≤ n := by
  cases h with
  | root => exact hn
  | entry _ hname => simpa [Location.isWithin] using hname.fits

end FileSystem

/-! ### Paths of places -/

theorem pieces_of_not_mem {cs : List Char} (h : '/' ∉ cs) : pieces cs = [cs] := by
  induction cs with
  | nil => rfl
  | cons c cs ih =>
    simp only [List.mem_cons, not_or] at h
    rw [pieces, if_neg (Ne.symm h.1), ih h.2]

theorem pieces_append_slash {cs ds : List Char} (h : '/' ∉ cs) :
    pieces (cs ++ '/' :: ds) = cs :: pieces ds := by
  induction cs with
  | nil => rw [List.nil_append, pieces, if_pos rfl]
  | cons c cs ih =>
    simp only [List.mem_cons, not_or] at h
    rw [List.cons_append, pieces, if_neg (Ne.symm h.1), ih h.2]

theorem pieces_intercalate {name : String} {names : List String}
    (h : ∀ other ∈ name :: names, '/' ∉ other.toList) :
    (pieces ("/".intercalate (name :: names)).toList).map String.ofList = name :: names := by
  induction names generalizing name with
  | nil =>
    rw [String.intercalate_singleton, pieces_of_not_mem (h name List.mem_cons_self)]
    simp
  | cons next names ih =>
    obtain ⟨hname, hnames⟩ := List.forall_mem_cons.mp h
    rw [String.intercalate_cons_cons, String.toList_append, String.toList_append, List.append_assoc]
    change (pieces (name.toList ++ '/' :: ("/".intercalate (next :: names)).toList)).map _ = _
    rw [pieces_append_slash hname, List.map_cons, ih hnames, String.ofList_toList]

theorem mem_intercalate {names : List String} {c : Char} (h : c ∈ ("/".intercalate names).toList) :
    c = '/' ∨ ∃ name ∈ names, c ∈ name.toList := by
  induction names with
  | nil => simp at h
  | cons name names ih =>
    cases names with
    | nil => exact .inr ⟨name, List.mem_cons_self, by simpa using h⟩
    | cons next names =>
      rw [String.intercalate_cons_cons, String.toList_append, String.toList_append] at h
      rcases List.mem_append.mp h with h | h
      · rcases List.mem_append.mp h with h | h
        · exact .inr ⟨name, List.mem_cons_self, h⟩
        · exact .inl (by simpa using h)
      · refine (ih h).imp_right ?_
        rintro ⟨other, hother, hc⟩
        exact ⟨other, List.mem_cons_of_mem name hother, hc⟩

/-- The path of a place gives its names back, after an empty one for the root. -/
theorem ofString_text {loc : Location}
    (h : ∀ name ∈ loc, IsPlain name) :
    Path.ofString loc.text = .ok ⟨true, "" :: if loc = [] then [""] else loc⟩ := by
  have htext : loc.text.toList = '/' :: ("/".intercalate loc).toList := by
    rw [Location.text, String.toList_append]
    rfl
  have hnul : Char.ofNat 0 ∉ loc.text.toList := by
    rw [htext]
    intro hmem
    rcases List.mem_cons.mp hmem with hmem | hmem
    · cases hmem
    · rcases mem_intercalate hmem with hmem | ⟨name, hname, hmem⟩
      · cases hmem
      · exact (h name hname).2 hmem
  have hne : loc.text ≠ "" := by
    intro heq
    simp [heq] at htext
  have hpieces : (pieces ("/".intercalate loc).toList).map String.ofList =
      if loc = [] then [""] else loc := by
    cases loc with
    | nil => rfl
    | cons name names => exact pieces_intercalate fun other hother => (h other hother).1
  rw [Path.ofString, if_neg hnul, if_neg hne, htext, pieces, if_pos rfl, List.map_cons, hpieces]
  rfl

namespace FileSystem
variable {fs : FileSystem} {loc : Location}

/-- The path of a place is opened at that place. -/
theorem Stands.locateToOpen_text (h : fs.Stands (some mostPathBytes) loc) (hfs : fs.WellNamed) :
    fs.locateToOpen loc.text = .ok loc := by
  have hshort : ¬ mostPathBytes < loc.text.utf8ByteSize := Nat.not_lt.mpr (h.text_le (by decide))
  have hnames : fs.namesToOpen loc.text = .ok ("" :: if loc = [] then [""] else loc) := by
    rw [namesToOpen, ofString_text (h.wellNamed hfs)]
    simp [hshort, namesOf]
  have hroot : fs.isDirectory [] = true := rfl
  rw [locateToOpen, hnames]
  simp only
  rw [walk_stay hroot rfl]
  split
  case isTrue hnil =>
    rw [hnil, walk_stay hroot rfl, walk]
  case isFalse => exact walk_of_leads (h.leads mostLinks).unlimited

end FileSystem
end CredentialResolution.Files
