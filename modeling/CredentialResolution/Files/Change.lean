import CredentialResolution.Files.Basic

/-! Changes of a file system from outside. Before anything is put at a path, the directories above it
are made where nothing lies. A file goes where links lead, also to where nothing lies yet; a link
takes the place of a file or link; only files and links are taken away. What cannot be done is left
undone. -/

namespace CredentialResolution.Files
set_option autoImplicit false

inductive Content
  | file (bytes : ByteArray)
  | directory
  | link (target : String)

/-- Entries of a directory with a node at a location below it, or with nothing there. -/
def withNode (entries : List (String × Node)) (new : Option Node) :
    Location → List (String × Node)
  | [] => entries
  | name :: loc =>
    let others := entries.filter fun e => e.1 ≠ name
    if loc = [] then (new.map fun node => (name, node)).toList ++ others
    else
      match entries.lookup name with
      | some (.directory below) => (name, .directory (withNode below new loc)) :: others
      | _ => entries

namespace FileSystem

def putNode (fs : FileSystem) (loc : Location) (node : Node) : FileSystem :=
  { fs with entries := withNode fs.entries (some node) loc }

def removeNode (fs : FileSystem) (loc : Location) : FileSystem :=
  { fs with entries := withNode fs.entries none loc }

/-- The place that the last of some names stands for, whatever lies there. Links are followed on the
way to it, but not at it. -/
def entry (fs : FileSystem) (names : List String) : Except FileError Location :=
  match names.getLast? with
  | none => .error .notFound
  | some name =>
    match fs.walk none mostLinks [] names.dropLast with
    | .error e => .error e
    | .ok above =>
      if fs.isDirectory above = false then .error .notDirectory
      else if stays name || name == ".." then .error .isDirectory
      else if mostNameBytes < name.utf8ByteSize then .error .nameTooLong
      else .ok (above ++ [name])

/-- Puts a node at the place that names stand for, if nothing lies there. -/
def addNode (fs : FileSystem) (names : List String) (node : Node) : FileSystem :=
  match fs.entry names with
  | .error _ => fs
  | .ok loc =>
    match fs.node? loc with
    | none => fs.putNode loc node
    | some _ => fs

/-- Makes the directories that names lead through from a location, where nothing lies. The first `fixed`
names are those of a link: nothing is made for them. -/
def makeDirectories (fs : FileSystem) (links fixed : Nat) (loc : Location) :
    List String → FileSystem
  | [] => fs
  | name :: names =>
    if fs.isDirectory loc = false then fs
    else if stays name then makeDirectories fs links (fixed - 1) loc names
    else if name = ".." then makeDirectories fs links (fixed - 1) loc.dropLast names
    else if mostNameBytes < name.utf8ByteSize then fs
    else
      match fs.node? (loc ++ [name]) with
      | none =>
        if 0 < fixed then fs
        else
          makeDirectories (fs.putNode (loc ++ [name]) (.directory [])) links 0 (loc ++ [name]) names
      | some (.link target) =>
        match links with
        | 0 => fs
        | left + 1 =>
          makeDirectories fs left (target.names.length + (fixed - 1))
            (if target.absolute then [] else loc) (target.names ++ names)
      | some _ => makeDirectories fs links (fixed - 1) (loc ++ [name]) names
termination_by names => (links, names.length)

/-- An empty working directory with the directories above it. -/
def fresh (workingDirectory : Location) : FileSystem :=
  makeDirectories ⟨[], workingDirectory⟩ mostLinks 0 [] workingDirectory

/-- The path of the directory above, that is without the last name that leads somewhere. -/
def pathAbove (path : String) : String :=
  let back := (pieces path.toList).reverse.map String.ofList
  "/".intercalate (((back.dropWhile stays).drop 1).dropWhile stays).reverse

def makeDirectoryAt (fs : FileSystem) (path : String) : FileSystem :=
  match fs.namesToOpen path with
  | .error _ => fs
  | .ok names => fs.makeDirectories mostLinks 0 [] names

def landing (fs : FileSystem) (links : Nat) (loc : Location) :
    List String → Except FileError Location
  | [] => .error .isDirectory
  | name :: names =>
    if fs.isDirectory loc = false then .error .notDirectory
    else if stays name then landing fs links loc names
    else if name = ".." then landing fs links loc.dropLast names
    else if mostNameBytes < name.utf8ByteSize then .error .nameTooLong
    else
      match fs.node? (loc ++ [name]) with
      | none => if names = [] then .ok (loc ++ [name]) else .error .notFound
      | some (.link target) =>
        match links with
        | 0 => .error .tooManyLinks
        | left + 1 =>
          landing fs left (if target.absolute then [] else loc) (target.names ++ names)
      | some (.file _) => if names = [] then .ok (loc ++ [name]) else .error .notDirectory
      | some (.directory _) => landing fs links (loc ++ [name]) names
termination_by names => (links, names.length)

def writeFile (fs : FileSystem) (path : String) (bytes : ByteArray) : FileSystem :=
  match fs.namesToOpen path with
  | .error _ => fs
  | .ok names =>
    match fs.landing mostLinks [] names with
    | .error _ => fs
    | .ok loc => fs.putNode loc (.file bytes)

def delete (fs : FileSystem) (path : String) : FileSystem :=
  match fs.namesToOpen path with
  | .error _ => fs
  | .ok names =>
    match fs.entry names with
    | .error _ => fs
    | .ok loc => if fs.isDirectory loc then fs else fs.removeNode loc

/-- Puts a link where nothing lies. Its target must be a path, but may lead nowhere. -/
def addLink (fs : FileSystem) (path target : String) : FileSystem :=
  match fs.namesToOpen path, fs.namesToOpen target, Path.ofString target with
  | .ok names, .ok _, .ok p => fs.addNode names (.link p)
  | _, _, _ => fs

def write (fs : FileSystem) (path : String) (content : Content) : FileSystem :=
  let fs := fs.makeDirectoryAt (pathAbove path)
  match content with
  | .file bytes => fs.writeFile path bytes
  | .directory => fs.makeDirectoryAt path
  | .link target => (fs.delete path).addLink path target

end FileSystem
end CredentialResolution.Files
