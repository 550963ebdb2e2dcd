import Interprocess.Host.Files
import Interprocess.Region.Settings

/-!
# Mapped regions

A region is a file seen as memory. Making one opens or makes the file, grows a file that is too
short with zeros, and maps it; all regions of one file share its bytes.
-/

namespace Interprocess

/-- A file seen as memory of a size in bytes. -/
structure Region where
  name : String
  size : Nat
  backing : Backing
  file : FileId
  deriving DecidableEq, Repr, Inhabited

namespace Region

/-- Ends an operation with a fault of the host, met while doing what `context` says. -/
def failWith {σ α : Type} (fault : HostFault) (context : String) : Op σ α :=
  Op.fail (.ofFault fault context)

/-- The greatest length that a file can be given. -/
def greatestLength : Nat := Nat.pow 2 63 - 1

/-- The size of the memory that a process can have. -/
def addressSpace : Nat := Nat.pow 2 47 - 4096

/-- The size of the largest region. It lies below the program, which is loaded where two thirds of
the memory end; what is left above the program is less. -/
def largestRegion : Nat := addressSpace / 3 * 2

/-- The longest name of a file in memory, in bytes. -/
def longestMemoryName : Nat := 249

/-- Opens the file that the settings name and answers with it and the size of the region. A file to
be made is grown to the size; a file that is there must have it. -/
def openBacking (c : RegionSettings) : Op Host (FileId × Nat) := do
  let opened ← Op.exchange fun h =>
    match h.openFile c.filePath c.create c.permissions with
    | .ok (id, h) => (Except.ok id, h)
    | .error fault => (.error fault, h)
  match opened with
  | .error fault => failWith fault ("Failed to open " ++ c.filePath)
  | .ok id =>
    let current ← Op.read fun h => ((h.file? id).map File.length).getD 0
    let size := if c.size = 0 then current else c.size
    if current < size then
      if c.create then
        if greatestLength < size then failWith .lengthOutOfRange "Failed to set file size"
        else Op.update fun h => h.modify id fun f => f.grow size
      else
        Op.fail (.invalidParameter "size"
          ("Existing region is " ++ toString current ++ " bytes, " ++ toString size ++
            " requested"))
    return (id, size)

/-- Makes a file in memory of the size that the settings ask for. -/
def makeBacking (c : RegionSettings) : Op Host (FileId × Nat) := do
  if c.name.contains '\x00' then
    Op.fail (.invalidParameter "name" "Name contains null bytes")
  else if longestMemoryName < c.name.utf8ByteSize then
    Op.fail (.platform ("Failed to create memfd: " ++ Errno.invalidArgument.named))
  else if greatestLength < c.size then
    Op.fail (.platform ("Failed to set memfd size: " ++ Errno.invalidArgument.named))
  else
    let id ← Op.exchange fun h => h.addFile ((File.empty 0o777).grow c.size)
    return (id, c.size)

/-- Makes or opens a region. -/
def map (c : RegionSettings) : Op Host Region := do
  Op.ofExcept c.validate
  let (id, size) ← match c.backing with
    | .file => openBacking c
    | .memory => makeBacking c
  if size = 0 then Op.fail (.invalidParameter "size" ("Region " ++ c.name ++ " is empty"))
  else if largestRegion < size then
    failWith (.os .noMemory) "Failed to create memory mapping"
  else
    Op.note (.regionMapped c.name size c.backing.name)
    return ⟨c.name, size, c.backing, id⟩

def isFileBacked (r : Region) : Bool := r.backing == .file

end Region

end Interprocess
