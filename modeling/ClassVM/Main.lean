import ClassVM.CommandLine.Plan

/-! # The program

Reads the one file that a session asks for, and writes what the session leaves behind. -/

namespace ClassVM.CommandLine

/-- More steps than any run can take. -/
def ampleFuel : Nat := 0x4000000000000000

/-- The file error that a failed read comes down to. The system counts a directory that was read as
error 21, a file that was taken for a directory as error 20 and a name that is too long as error 36,
in either sign. -/
def fileErrorOf (e : IO.Error) : Files.FileError :=
  match e with
  | .noFileOrDirectory _ _ _ => .notFound
  | .invalidArgument _ code details =>
      if code = 36 || code + 36 = 0 then .nameTooLong else .other details
  | .inappropriateType _ code details =>
      if code = 21 || code + 21 = 0 then .isDirectory
      else if code = 20 || code + 20 = 0 then .notDirectory
      else .other details
  | other => .other other.toString

/-- The contents of a file. -/
def readContents (path : String) : IO (Except Files.FileError (List UInt8)) := do
  if let some e := Files.pathError? path then
    return .error e
  try
    let bytes ← IO.FS.readBinFile path
    return .ok bytes.data.toList
  catch e =>
    return .error (fileErrorOf e)

/-- Writes a report and gives its exit code. -/
def Report.write (report : Report) : IO UInt32 := do
  let output ← IO.getStdout
  output.write report.output.toByteArray
  output.flush
  for line in report.diagnostics do
    IO.eprintln line
  return report.exitCode

end ClassVM.CommandLine

open ClassVM.CommandLine in
/-- One session of the program. -/
def main (arguments : List String) : IO UInt32 := do
  match start ampleFuel arguments with
  | .done report => report.write
  | .load path next =>
      match next (← readContents path) with
      | some report => report.write
      | none => return 1
