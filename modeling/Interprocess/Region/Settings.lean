import Interprocess.Error
import Interprocess.Text.Json

/-!
# Region settings

What is asked for when a region is made or opened: its name and size, what backs it, the path of its
file, whether it may be made, and the permissions of a new file.
-/

namespace Interprocess

inductive Backing where
  /-- A file that every process can map by its path. -/
  | file
  /-- A file in memory without a path. -/
  | memory
  deriving DecidableEq, Repr, Inhabited

namespace Backing

def name : Backing → String
  | file => "file-backed"
  | memory => "memfd"

def label : Backing → String
  | file => "FileBacked"
  | memory => "MemFd"

def isSupported : Backing → Bool
  | file => true
  | memory => true

/-- The backing that a JSON value names: its label alone, or an object with nothing behind the
label. -/
def ofJson? (json : Json) : Option Backing :=
  let named (label : Option String) : Option Backing :=
    if label = some file.label then some file
    else if label = some memory.label then some memory
    else none
  match json with
  | .text label => named label
  | .object [(label, .null)] => named label
  | _ => none

end Backing

/-- What is asked for when a region is made or opened. -/
structure RegionSettings where
  name : String
  /-- The size in bytes; zero asks for the size of the file that is opened. -/
  size : Nat
  backing : Backing
  path : Option String
  create : Bool
  permissions : UInt32
  deriving DecidableEq, Repr, Inhabited

namespace RegionSettings

/-! ## Making settings -/

/-- The permissions of a new file unless others are asked for: its owner may read and write. -/
def defaultPermissions : UInt32 := 0o600

def ofSize (name : String) (size : Nat) : RegionSettings :=
  ⟨name, size, .file, none, true, defaultPermissions⟩

def existing (name path : String) : RegionSettings :=
  { ofSize name 0 with path := some path, create := false }

def default : RegionSettings := ofSize "" 0

/-! ## Reading settings -/

def greatestSize : Nat := Nat.pow 2 64 - 1

/-- The path that a JSON value gives: a text, or none if the value is null. -/
def pathOfJson? : Json → Option (Option String)
  | .null => some none
  | json => json.text?.map some

def ofJson? (json : Json) : Option RegionSettings := do
  let fields ←
    json.fields ["name", "size", "backing_type", "file_path", "create", "permissions"]
  match fields with
  | [name, size, backing, path, create, permissions] =>
    let name ← name >>= Json.text?
    let size ← size >>= Json.nat? greatestSize
    let backing ← backing >>= Backing.ofJson?
    let path ← pathOfJson? (path.getD .null)
    let create ← create >>= Json.bool?
    let permissions ← permissions >>= Json.word?
    some ⟨name, size, backing, path, create, permissions⟩
  | _ => none

/-! ## What settings say -/

/-- The path of the file behind the region: the one that is given, or one made of the name. -/
def filePath (c : RegionSettings) : String :=
  c.path.getD ("/tmp/shmsync_" ++ c.name)

/-- Refuses settings that no region can have: no name; nothing to make; a backing that cannot be
had; a file to open without a path; a file in memory to open, which nothing could name. -/
def validate (c : RegionSettings) : Except SyncError Unit :=
  if c.name = "" then .error (.invalidParameter "name" "Region name cannot be empty")
  else if c.size = 0 ∧ c.create then
    .error (.invalidParameter "size" "Region size must be greater than 0")
  else if !c.backing.isSupported then
    .error (.invalidParameter "backing_type"
      ("Backing type " ++ c.backing.name ++ " is not supported on this platform"))
  else if c.backing = .file ∧ !c.create ∧ c.path.isNone then
    .error (.invalidParameter "file_path"
      "File path must be specified for existing file-backed regions")
  else if c.backing = .memory ∧ !c.create then
    .error (.invalidParameter "create" "A memfd region can only be created, not opened by name")
  else .ok ()

def description (c : RegionSettings) : String :=
  "RegionConfig \x7b name: " ++ quoted c.name ++ ", size: " ++ toString c.size ++
    ", backing_type: " ++ c.backing.label ++ ", file_path: " ++
    (match c.path with
      | some path => "Some(" ++ quoted path ++ ")"
      | none => "None") ++
    ", create: " ++ (if c.create then "true" else "false") ++ ", permissions: " ++
    toString c.permissions.toNat ++ " \x7d"

end RegionSettings

end Interprocess
