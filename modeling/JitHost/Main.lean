import JitHost.Command.Report

/-!
# The program

Carries out a command line on the files of the machine.
-/

namespace JitHost

/-- The answer to a question about files, `otherwise` if it cannot be answered. -/
def askFiles (question : IO α) (otherwise : α) : IO α :=
  question.catchExceptions fun _ => pure otherwise

/-- The files of the machine. -/
def machineFiles : FileSystem IO where
  isFile path := askFiles (do
    return (← (← IO.FS.realPath path).metadata).type == .file) false
  isDirectory path := askFiles (do (← IO.FS.realPath path).isDir) false
  canonical? path := askFiles (do return some (← IO.FS.realPath path).toString) none
  read? path := askFiles (do return some (← IO.FS.readBinFile path).toList) none

end JitHost

/-- Prints the report of the command line and ends with its status. -/
def main (args : List String) : IO UInt32 := do
  let report ← JitHost.commandLine JitHost.machineFiles args
  IO.print report.output
  report.notes.forM IO.eprintln
  return UInt32.ofNat report.status
