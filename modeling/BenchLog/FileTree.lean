import BenchLog.SystemFault

/-!
# Files in directories

The files that a program sees are those of a tree of directories, with symbolic links, and a path leads
through it from the root or from the directory that the program runs in. Every file has one name, links
apart, and none is a device. The system may refuse to read or to write a file that a path leads to, for
whatever reason; what it does not refuse to write is written whole.
-/

namespace BenchLog

/-- What a directory holds under one name. -/
inductive Node where
  | file (contents : List UInt8)
  | link (target : String)
  | directory (entries : List (String × Node))

/-- What stands under a name, without what stands below it. -/
inductive Item where
  | file (contents : List UInt8)
  | link (target : String)
  | directory
  deriving DecidableEq, Repr

namespace Node

def item : Node → Item
  | .file contents => .file contents
  | .link target => .link target
  | .directory _ => .directory

/-- What stands under names that lead there from a directory with these entries. -/
def item? : List (String × Node) → List String → Option Item
  | _, [] => some .directory
  | entries, name :: rest =>
    match entries.lookup name with
    | some (.directory below) => item? below rest
    | some node => if rest.isEmpty then some node.item else none
    | none => none

/-- Make a node the one under a name. -/
def setEntry (name : String) (node : Node) : List (String × Node) → List (String × Node)
  | [] => [(name, node)]
  | entry :: rest =>
    if entry.1 = name then (name, node) :: rest else entry :: setEntry name node rest

/-- Make these the contents of the file that names lead to, if there is a directory for it. -/
def putFile (contents : List UInt8) :
    List (String × Node) → List String → List (String × Node)
  | entries, [] => entries
  | entries, [name] => setEntry name (.file contents) entries
  | entries, name :: rest =>
    match entries.lookup name with
    | some (.directory below) => setEntry name (.directory (putFile contents below rest)) entries
    | _ => entries

end Node

/-- What a program does with a file. -/
inductive Access where
  | read
  | write
  deriving DecidableEq, Repr

/-- The files of a system, as a program meets them. -/
structure FileTree where
  /-- What the root directory holds. -/
  root : List (String × Node)
  /-- The names that lead to the directory the program runs in. -/
  here : List String := []
  /-- What the system refuses to do with the files that these names lead to. -/
  refusals : List ((Access × List String) × SystemFault) := []

namespace FileTree

/-- Where a path leads. -/
inductive Place where
  | file (names : List String) (contents : List UInt8)
  | directory
  /-- Nothing is there yet, but the directory for it exists. -/
  | vacant (names : List String)
  deriving DecidableEq, Repr

/-- Where a walk ends. -/
inductive Stop where
  | arrived (place : Place)
  /-- A symbolic link stands in this directory, and these names come behind it. -/
  | link (directory : List String) (target : String) (rest : List String)
  deriving DecidableEq, Repr

/-- What stands under names that lead there from the root. -/
def item? (tree : FileTree) (names : List String) : Option Item :=
  Node.item? tree.root names

/-- The greatest number of bytes in a name. -/
def nameLimit : Nat := 255

/-- The greatest number of bytes in a path. -/
def pathLimit : Nat := 4095

/-- The greatest number of symbolic links on a way. -/
def linkLimit : Nat := 40

/-- Whether only slashes come behind a name. -/
def slashed (rest : List String) : Bool :=
  !rest.isEmpty && rest.all (· == "")

/-- Go to a name in a directory, with these names behind it. The walk goes on if a directory stands there,
    and ends otherwise. A last name with a slash behind it asks for a directory, so nothing is written
    there, whatever stands there. -/
def enter (tree : FileTree) (access : Access) (directory : List String) (name : String)
    (rest : List String) : Except SystemFault (Option Stop) :=
  if access = .write ∧ slashed rest then .error .isADirectory
  else if nameLimit < name.utf8ByteSize then .error .nameTooLong
  else
    let names := directory ++ [name]
    match tree.item? names with
    | some .directory => .ok none
    | some (.link target) => .ok (some (.link directory target rest))
    | some (.file contents) =>
      if rest.isEmpty then .ok (some (.arrived (.file names contents))) else .error .notADirectory
    | none => if rest.isEmpty then .ok (some (.arrived (.vacant names))) else .error .notFound

/-- Walk along names from a directory, up to the first symbolic link. Empty names and single dots stay
    where they are, and two dots lead to the directory above, which for the root is the root. -/
def walk (tree : FileTree) (access : Access) (directory : List String) :
    List String → Except SystemFault Stop
  | [] => .ok (.arrived .directory)
  | name :: rest =>
    if name = "" ∨ name = "." then walk tree access directory rest
    else if name = ".." then walk tree access directory.dropLast rest
    else
      match tree.enter access directory name rest with
      | .error fault => .error fault
      | .ok (some stop) => .ok stop
      | .ok none => walk tree access (directory ++ [name]) rest

/-- The names in a path. -/
def namesOf (path : String) : List String :=
  (path.toList.splitOnP (· == '/')).map String.ofList

/-- Why no path looks like this, if none does. -/
def fault? (path : String) : Option SystemFault :=
  if path.toList.contains '\x00' then some .nulInName
  else if pathLimit < path.utf8ByteSize then some .nameTooLong
  else if path = "" then some .notFound
  else none

/-- The directory that a path starts from, if it is met in this one. -/
def start (directory : List String) (path : String) : List String :=
  if path.toList.head? = some '/' then [] else directory

/-- Where names lead from a directory, with so many symbolic links on the way at most. -/
def follow (tree : FileTree) (access : Access) (links : Nat) (directory names : List String) :
    Except SystemFault Place :=
  match tree.walk access directory names with
  | .error fault => .error fault
  | .ok (.arrived place) => .ok place
  | .ok (.link directory target rest) =>
    match links with
    | 0 => .error .tooManyLinks
    | links + 1 =>
      match fault? target with
      | some fault => .error fault
      | none => follow tree access links (start directory target) (namesOf target ++ rest)

/-- Where a path leads. If the directory that the program runs in was removed, only a path from the root
    leads anywhere. -/
def locate (tree : FileTree) (access : Access) (path : String) : Except SystemFault Place :=
  match fault? path with
  | some fault => .error fault
  | none =>
    let directory := start tree.here path
    if tree.item? directory = some .directory then
      tree.follow access linkLimit directory (namesOf path)
    else
      .error .notFound

/-- Why the system does not do this with a file, if it does not. -/
def refusal? (tree : FileTree) (access : Access) (names : List String) : Option SystemFault :=
  tree.refusals.lookup (access, names)

/-- The bytes of the file at a path. -/
def read (tree : FileTree) (path : String) : Except SystemFault (List UInt8) :=
  match tree.locate .read path with
  | .ok (.file names contents) =>
    match tree.refusal? .read names with
    | some fault => .error fault
    | none => .ok contents
  | .ok .directory => .error .isADirectory
  | .ok (.vacant _) => .error .notFound
  | .error fault => .error fault

/-- The tree after the file that names lead to got these contents, if the system does not refuse. -/
def put (tree : FileTree) (names : List String) (contents : List UInt8) :
    Except SystemFault FileTree :=
  match tree.refusal? .write names with
  | some fault => .error fault
  | none => .ok { tree with root := Node.putFile contents tree.root names }

/-- The tree after the file at a path got these contents. -/
def write (tree : FileTree) (path : String) (contents : List UInt8) :
    Except SystemFault FileTree :=
  match tree.locate .write path with
  | .ok (.file names _) => tree.put names contents
  | .ok (.vacant names) => tree.put names contents
  | .ok .directory => .error .isADirectory
  | .error fault => .error fault

end FileTree

end BenchLog
