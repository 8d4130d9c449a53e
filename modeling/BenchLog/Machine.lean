import BenchLog.FileTree

/-!
# The machine around a program

Reading and writing files and printing are offered as operations of three classes, so that a program can
run on a tree of files as well as on a disk, and so that a program that has only the first class to work
with changes nothing. As a file is written whole or not at all, so a text is printed whole or not at all.
-/

namespace BenchLog

/-- Reading whole files. -/
class FileReader (m : Type → Type) where
  /-- The bytes of the file at a path. -/
  read : String → m (Except SystemFault (List UInt8))

/-- Reading and writing whole files. -/
class FileAccess (m : Type → Type) extends FileReader m where
  /-- Make a text the contents of the file at a path. -/
  write : String → String → m (Except SystemFault Unit)

/-- Printing to standard output. -/
class Console (m : Type → Type) where
  print : String → m (Except SystemFault Unit)

/-- Standard output: what was printed so far, and the fault that more of it meets, such as a full disk or
    a pipe that nobody reads. -/
structure Stdout where
  printed : String := ""
  fault? : Option SystemFault := none
  deriving DecidableEq, Repr

namespace Stdout

/-- Standard output with a text behind what was printed. -/
def followedBy (stdout : Stdout) (text : String) : Stdout :=
  { stdout with printed := stdout.printed ++ text }

/-- Standard output after a text was printed. -/
def print (stdout : Stdout) (text : String) : Except SystemFault Stdout :=
  match stdout.fault? with
  | some fault => .error fault
  | none => .ok (stdout.followedBy text)

end Stdout

/-- What a program leaves behind. -/
structure Machine where
  files : FileTree
  stdout : Stdout := {}

instance : FileReader (ReaderM FileTree) where
  read path := return (← readThe FileTree).read path

instance : FileAccess (StateM Machine) where
  read path := return (← get).files.read path
  write path text := do
    let machine ← get
    match machine.files.write path text.toUTF8.toList with
    | .ok files =>
      set { machine with files }
      return .ok ()
    | .error fault => return .error fault

instance : Console (StateM Machine) where
  print text := do
    let machine ← get
    match machine.stdout.print text with
    | .ok stdout =>
      set { machine with stdout }
      return .ok ()
    | .error fault => return .error fault

end BenchLog
