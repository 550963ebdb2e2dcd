import Interprocess.CommandLine.Run

/-!
# The program

Runs a command line on a file of the real host: reads the file, runs the command on its bytes, and
writes the bytes back if they changed.
-/

namespace Interprocess

def isRunning (holder : UInt32) : IO Bool :=
  try
    let _ ← IO.FS.readFile ("/proc/" ++ toString holder.toNat ++ "/stat")
    return true
  catch _ => return false

def ownProcess : IO UInt32 := do
  let stat ← IO.FS.readFile "/proc/self/stat"
  return (readWord (String.ofList (stat.toList.takeWhile Char.isDigit))).getD 1

/-- The holders of guards that a file may name and that run. -/
def runningHolders (file : Option File) : IO (List UInt32) := do
  match file with
  | none => return []
  | some f =>
    let words := f.words.cells.toList.map fun (_, word) => Guard.holderOf word
    (words.eraseDups.filter (· != 0)).filterM isRunning

/-- The part of the host that a path leads to: a file, a folder, or nothing. -/
def readHost (path : String) : IO Host :=
  try
    let bytes ← IO.FS.readBinFile path
    return Host.ofFile path (File.ofBytes RegionSettings.defaultPermissions bytes.toList)
  catch
    | .noFileOrDirectory .. => return Host.ofFolders path
    | .inappropriateType _ 21 _ => return Host.ofFolders (path ++ "/..")
    | e => throw e

/-- Writes the file that a command left, if it is not as it was before. -/
def writeFile (path : String) (before after : Option File) : IO Unit := do
  match after with
  | none => pure ()
  | some f =>
    let bytes := f.toBytes
    if (before.map File.toBytes) = some bytes then pure ()
    else
      IO.FS.writeBinFile path ⟨bytes.toArray⟩
      if before.isNone then
        IO.setAccessRights path { user := { read := true, write := true } }

/-- Writes what a command line wrote, and answers with its exit code. -/
def writeReport : Command.Report → IO UInt32
  | .ran code out err => do
    IO.print out
    IO.eprint err
    return code
  | .stopped .help => do
    IO.println "Commands: init dump create acquire signal reset release abandon free info"
    return 0
  | .stopped .misuse => do
    IO.eprintln "error: the arguments follow no command; try --help"
    return 1
  | .hangs => return 1

end Interprocess

open Interprocess in
def main (arguments : List String) : IO UInt32 := do
  let path := match Command.ofArguments arguments with
    | .ok (some command) => command.file?.getD ""
    | _ => ""
  let host ← if path.isEmpty then pure Host.empty else readHost path
  let before := host.lookup path
  let policy :=
    GuardPolicy.standard (← ownProcess) (Probe.processes (← runningHolders before))
  let (report, host) := Command.runArguments policy arguments host
  writeFile path before (host.lookup path)
  writeReport report
