import BenchLog.Program

/-!
# The command line program

Here the program meets the disk, the environment and the terminal.
-/

namespace BenchLog

/-- The fault behind an error of the file system. -/
def SystemFault.ofError (error : IO.Error) : SystemFault :=
  match error with
  | .noFileOrDirectory .. => .notFound
  | .inappropriateType _ code details =>
    if code = 20 then .notADirectory
    else if code = 21 then .isADirectory
    else ⟨details, some code.toNat⟩
  | .permissionDenied _ code _ => ⟨"Permission denied", some code.toNat⟩
  | error => ⟨toString error, none⟩

instance : FileAccess IO where
  read path := do
    try
      return .ok (← IO.FS.readBinFile path).toList
    catch error =>
      return .error (.ofError error)
  write path text := do
    try
      IO.FS.writeFile path text
      return .ok ()
    catch error =>
      return .error (.ofError error)

instance : Console IO where
  print text := do
    try
      IO.print text
      (← IO.getStdout).flush
      return .ok ()
    catch error =>
      return .error (.ofError error)

end BenchLog

/-- Run the program on the disk and the terminal. -/
def main (arguments : List String) : IO UInt32 := do
  let exit : BenchLog.Exit ←
    BenchLog.Program.execute arguments (← IO.getEnv "TXNSTAT_WORKERS")
  IO.eprint exit.stderr
  return exit.code
