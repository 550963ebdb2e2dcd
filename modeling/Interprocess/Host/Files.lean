import Interprocess.Memory.Words

/-!
# Files of the host

What operations need of a host: a directory of files, files without a name, and for each file its
length, its permission bits and its bytes. A path names a file of the directory or fails to, for the
reasons that an operating system gives.
-/

namespace Interprocess

/-- A file: its length in bytes, its permission bits, and its bytes as words. Bytes at or past the
length are zero. -/
structure File where
  length : Nat
  mode : UInt32
  words : Words

/-- A number that stands for one file, however it was opened. -/
structure FileId where
  index : Nat
  deriving DecidableEq, Repr, Inhabited

/-- The files of a host, the names that its directory has for some of them, and the folders that a
path may lead through. -/
structure Host where
  files : Array File
  directory : List (String × FileId)
  folders : List String

namespace File

def empty (mode : UInt32) : File := ⟨0, mode, Words.zero⟩

/-- The permission bits that are left when a file grows: not the bit that changes the user, and not
the one that changes the group of a file that the group may execute. -/
def modeAfterGrowth (mode : UInt32) : UInt32 :=
  let mode := mode &&& ~~~0o4000
  if mode &&& 0o10 != 0 then mode &&& ~~~0o2000 else mode

/-- Whether the permission bits let the owner of a file read and write it. -/
def isOpenToOwner (f : File) : Bool := f.mode &&& 0o600 == 0o600

/-- The file with zeros up to a length that is greater than its own. -/
def grow (f : File) (length : Nat) : File :=
  { f with length := length, mode := modeAfterGrowth f.mode }

def byte (f : File) (i : Nat) : Nat :=
  (f.words.get (i / 4)).toNat / Nat.pow 256 (i % 4) % 256

def toBytes (f : File) : List UInt8 :=
  (List.range f.length).map fun i => UInt8.ofNat (f.byte i)

/-- The words that bytes spell, low byte first; zeros fill up the last word. -/
def wordsOfBytes : List UInt8 → List UInt32
  | [] => []
  | [a] => [a.toUInt32]
  | [a, b] => [a.toUInt32 ||| b.toUInt32 <<< 8]
  | [a, b, c] => [a.toUInt32 ||| b.toUInt32 <<< 8 ||| c.toUInt32 <<< 16]
  | a :: b :: c :: d :: rest =>
    (a.toUInt32 ||| b.toUInt32 <<< 8 ||| c.toUInt32 <<< 16 ||| d.toUInt32 <<< 24) ::
      wordsOfBytes rest

def ofBytes (mode : UInt32) (bytes : List UInt8) : File :=
  ⟨bytes.length, mode, Words.zero.store 0 (wordsOfBytes bytes)⟩

end File

/-! ## Paths -/

/-- The longest name that a directory can hold, in bytes. -/
def longestName : Nat := 255

/-- The longest path that the operating system takes, in bytes. -/
def longestPath : Nat := 4095

/-- What a path leads to. -/
inductive Place where
  | directory
  /-- A name in the directory; `mustBeDirectory` if a slash follows it. -/
  | named (name : String) (mustBeDirectory : Bool)
  /-- A name that is too long for a directory; `mustBeDirectory` if a slash follows it. -/
  | overlong (mustBeDirectory : Bool)
  deriving DecidableEq, Repr

namespace Host

def empty : Host := ⟨#[], [], []⟩

def file? (h : Host) (id : FileId) : Option File := h.files[id.index]?

def words (h : Host) (id : FileId) : Words :=
  match h.file? id with
  | some f => f.words
  | none => Words.zero

def find? (h : Host) (name : String) : Option FileId :=
  (h.directory.find? (·.1 == name)).map (·.2)

def modify (h : Host) (id : FileId) (change : File → File) : Host :=
  { h with files := h.files.modify id.index change }

def setWords (h : Host) (id : FileId) (words : Words) : Host :=
  h.modify id fun f => { f with words := words }

def addFile (h : Host) (f : File) : FileId × Host :=
  (⟨h.files.size⟩, { h with files := h.files.push f })

/-- The host with a new file in the directory. -/
def addNamed (h : Host) (name : String) (f : File) : FileId × Host :=
  let (id, h) := h.addFile f
  (id, { h with directory := (name, id) :: h.directory })

/-- An operation on the words of one file. -/
def inFile {α : Type} (id : FileId) (op : Op Words α) : Op Host α :=
  op.within (fun h => h.words id) fun words h => h.setWords id words

/-- Follows the parts of a path. `outer` is the path so far, which is empty or ends in a slash. -/
def follow (h : Host) (outer : String) : List String → Except HostFault Place
  | [] => .ok .directory
  | part :: rest =>
    if part = "" ∨ part = "." then follow h outer rest
    else if part = ".." ∨ h.folders.contains (outer ++ part) then
      follow h (outer ++ part ++ "/") rest
    else if longestName < part.utf8ByteSize then
      if rest.all (· == "") then .ok (.overlong (!rest.isEmpty)) else .error (.os .nameTooLong)
    else if rest.all (· == "") then .ok (.named (outer ++ part) (!rest.isEmpty))
    else if (h.find? (outer ++ part)).isSome then .error (.os .notDirectory)
    else .error (.os .noEntry)

def resolve (h : Host) (path : String) : Except HostFault Place :=
  if path.contains '\x00' then .error .embeddedNul
  else if path = "" then .error (.os .noEntry)
  else if longestPath < path.utf8ByteSize then .error (.os .nameTooLong)
  else
    let outer := if path.startsWith "/" then "/" else ""
    h.follow outer (path.splitOn "/")

/-- The permission bits that the host takes away from new files. -/
def mask : UInt32 := 0o22

/-- The permission bits of a new file that is asked for with `permissions`. -/
def newMode (permissions : UInt32) : UInt32 := permissions &&& 0o7777 &&& ~~~mask

/-- Opens the file that a path leads to for reading and writing, which its permission bits have to
allow. A missing file is made if `create` says so, with the permission bits `permissions` as far as
the host allows; where a slash ends the path nothing is made, however long the name is. -/
def openFile (h : Host) (path : String) (create : Bool) (permissions : UInt32) :
    Except HostFault (FileId × Host) :=
  match h.resolve path with
  | .error fault => .error fault
  | .ok .directory => .error (.os .isDirectory)
  | .ok (.overlong mustBeDirectory) =>
    .error (.os (if create && mustBeDirectory then .isDirectory else .nameTooLong))
  | .ok (.named name mustBeDirectory) =>
    if mustBeDirectory then
      if create then .error (.os .isDirectory)
      else if (h.find? name).isSome then .error (.os .notDirectory)
      else .error (.os .noEntry)
    else match h.find? name with
      | some id =>
        if (h.file? id).all File.isOpenToOwner then .ok (id, h)
        else .error (.os .permissionDenied)
      | none =>
        if create then .ok (h.addNamed name (File.empty (newMode permissions)))
        else .error (.os .noEntry)

/-- The folders that a path leads through, if all of them are there. -/
def foldersOf (path : String) : List String :=
  let outer := if path.startsWith "/" then "/" else ""
  let parts := (path.splitOn "/").filter fun part => part != "" && part != "."
  let steps := parts.dropLast.foldl
    (fun (outer, found) part => (outer ++ part ++ "/", (outer ++ part) :: found)) (outer, [])
  steps.2

/-- The host that has nothing but the folders that a path leads through. -/
def ofFolders (path : String) : Host := { empty with folders := foldersOf path }

/-- The host that has one file, where a path leads to. -/
def ofFile (path : String) (f : File) : Host :=
  let h := ofFolders path
  match h.resolve path with
  | .ok (.named name false) => (h.addNamed name f).2
  | _ => h

def lookup (h : Host) (path : String) : Option File :=
  match h.resolve path with
  | .ok (.named name false) => (h.find? name).bind h.file?
  | _ => none

end Host

end Interprocess
