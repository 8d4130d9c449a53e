/-!
# Faults of the file system

What is said when a file cannot be opened, read or written.
-/

namespace BenchLog

/-- A fault with its description, and its number if the operating system raised it. -/
structure SystemFault where
  description : String
  code? : Option Nat
  deriving DecidableEq, Repr

namespace SystemFault

/-- Nothing has this path. -/
def notFound : SystemFault := ⟨"No such file or directory", some 2⟩

/-- The path goes on behind a file. -/
def notADirectory : SystemFault := ⟨"Not a directory", some 20⟩

/-- The path leads to a directory where a file is needed. -/
def isADirectory : SystemFault := ⟨"Is a directory", some 21⟩

/-- The path, or a name in it, is longer than the system takes. -/
def nameTooLong : SystemFault := ⟨"File name too long", some 36⟩

/-- The path leads through more symbolic links than the system follows. -/
def tooManyLinks : SystemFault := ⟨"Too many levels of symbolic links", some 40⟩

/-- The path holds the character that ends a path for the system. -/
def nulInName : SystemFault := ⟨"file name contained an unexpected NUL byte", none⟩

/-- A file that has to be text is not. -/
def notText : SystemFault := ⟨"stream did not contain valid UTF-8", none⟩

/-- The fault as a message has it. -/
def message (fault : SystemFault) : String :=
  match fault.code? with
  | some code => fault.description ++ " (os error " ++ toString code ++ ")"
  | none => fault.description

end SystemFault

end BenchLog
