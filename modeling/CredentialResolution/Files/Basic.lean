import CredentialResolution.Files.Path

/-! File systems of regular files, directories and symbolic links, and where paths lead in them.
Names are followed one by one from the root or the working directory; at most forty links are
followed on the way. Every check and every read goes through the same walk, but only where the place
itself is asked for does the length of its path matter. -/

namespace CredentialResolution.Files
set_option autoImplicit false

/-- The names that lead to a place from the root, links and dots not among them. -/
abbrev Location := List String

def Location.text (loc : Location) : String := "/" ++ "/".intercalate loc

/-- Whether the path of a location has no more bytes than a limit, if there is one. -/
def Location.isWithin (most : Option Nat) (loc : Location) : Bool :=
  most.all fun n => loc.text.utf8ByteSize ≤ n

inductive Node
  | file (bytes : ByteArray)
  | link (target : Path)
  | directory (entries : List (String × Node))

namespace Node

def child? (node : Node) (name : String) : Option Node :=
  match node with
  | directory entries => entries.lookup name
  | _ => none

def at? (node : Node) : Location → Option Node
  | [] => some node
  | name :: loc =>
    match node.child? name with
    | some child => child.at? loc
    | none => none

end Node

/-- What lies in the root, and where relative paths start. -/
structure FileSystem where
  entries : List (String × Node)
  workingDirectory : Location

namespace FileSystem

def root (fs : FileSystem) : Node := .directory fs.entries

def node? (fs : FileSystem) (loc : Location) : Option Node := fs.root.at? loc

def isDirectory (fs : FileSystem) (loc : Location) : Bool :=
  match fs.node? loc with
  | some (.directory _) => true
  | _ => false

/-- Names longer than this many bytes are refused. -/
def mostNameBytes : Nat := 255

/-- As many links may be followed on the way of one path. -/
def mostLinks : Nat := 40

/-- Where names lead from a location that must be a directory as long as any are left. No location on
the way may be longer than `most`. -/
def walk (fs : FileSystem) (most : Option Nat) (links : Nat) (loc : Location) :
    List String → Except FileError Location
  | [] => .ok loc
  | name :: names =>
    if fs.isDirectory loc = false then .error .notDirectory
    else if stays name then walk fs most links loc names
    else if name = ".." then walk fs most links loc.dropLast names
    else if mostNameBytes < name.utf8ByteSize ∨ (loc ++ [name]).isWithin most = false then
      .error .nameTooLong
    else
      match fs.node? (loc ++ [name]) with
      | none => .error .notFound
      | some (.link target) =>
        match links with
        | 0 => .error .tooManyLinks
        | left + 1 =>
          walk fs most left (if target.absolute then [] else loc) (target.names ++ names)
      | some _ => walk fs most links (loc ++ [name]) names
termination_by names => (links, names.length)

/-- The names of a path from the root. A relative one starts at the working directory. -/
def namesOf (fs : FileSystem) (path : Path) : List String :=
  if path.absolute then path.names else fs.workingDirectory ++ path.names

/-- Longer paths are refused: those to be opened, and those of the places on the way to a location. -/
def mostPathBytes : Nat := 4095

/-- Where the path of a text leads. The text itself may be as long as it likes. -/
def locate (fs : FileSystem) (path : String) : Except FileError Location :=
  match Path.ofString path with
  | .error e => .error e
  | .ok p => fs.walk (some mostPathBytes) mostLinks [] (fs.namesOf p)

def namesToOpen (fs : FileSystem) (path : String) : Except FileError (List String) :=
  match Path.ofString path with
  | .error e => .error e
  | .ok p => if mostPathBytes < path.utf8ByteSize then .error .nameTooLong else .ok (fs.namesOf p)

def locateToOpen (fs : FileSystem) (path : String) : Except FileError Location :=
  match fs.namesToOpen path with
  | .error e => .error e
  | .ok names => fs.walk none mostLinks [] names

def isFile (fs : FileSystem) (loc : Location) : Bool :=
  match fs.node? loc with
  | some (.file _) => true
  | _ => false

def read (fs : FileSystem) (path : String) : Except FileError ByteArray :=
  match fs.locateToOpen path with
  | .error e => .error e
  | .ok loc =>
    match fs.node? loc with
    | some (.file bytes) => .ok bytes
    | some (.directory _) => .error .isDirectory
    | _ => .error .notFound

def readText (fs : FileSystem) (path : String) : Except FileError String :=
  match fs.read path with
  | .error e => .error e
  | .ok bytes =>
    match String.fromUTF8? bytes with
    | some text => .ok text
    | none => .error .notText

def isFileAt (fs : FileSystem) (path : String) : Bool :=
  match fs.locateToOpen path with
  | .error _ => false
  | .ok loc => fs.isFile loc

end FileSystem
end CredentialResolution.Files
