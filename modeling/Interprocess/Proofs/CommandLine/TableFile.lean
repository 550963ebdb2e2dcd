import Interprocess.CommandLine.Run
import Interprocess.Proofs.Region.Mapping
import Interprocess.Proofs.Table.Erasure

/-!
# Making a table in a file

The command that makes a table reads the number of slots, makes or opens the file and grows it to
the size of the table, and then lays the table out. A number that cannot be read is refused before
the file is looked at. That a table must have slots is checked last; so a file that is missing, or
too short even for a table without slots, is made or grown for a request that is refused
(`refused_init_makes_file`). No other request that is refused changes anything
(`refused_init_leaves_file`).
-/

namespace Interprocess

/-- What a path leads to, byte by byte: nothing, or the bytes of a file. -/
def Host.contents (h : Host) (path : String) : Option (List UInt8) :=
  (h.lookup path).map File.toBytes

theorem File.length_toBytes (f : File) : f.toBytes.length = f.length := by
  rw [toBytes, List.length_map, List.length_range]

theorem Host.contents_ne {h h' : Host} {path : String} {f : File} (found : h'.lookup path = some f)
    (shorter : ∀ g, h.lookup path = some g → g.length < f.length) :
    h'.contents path ≠ h.contents path := by
  unfold contents
  rw [found]
  intro same
  obtain ⟨g, before, bytes⟩ := Option.map_eq_some_iff.mp same.symm
  have lengths := congrArg List.length bytes
  rw [File.length_toBytes, File.length_toBytes] at lengths
  have short := shorter g before
  omega

/-- No file becomes another but the one that a path leads to. That one is then as long as is said,
with its old bytes, if it was there, and zeros behind. -/
def Host.OnlyGrows (h : Host) (path : String) (length : Nat) (h' : Host) : Prop :=
  ∃ id f, h'.LeadsTo path id f ∧ f.length = length ∧ File.GrownFrom (h.lookup path) length f ∧
    ∀ id', id' ≠ id → h'.file? id' = h.file? id'

namespace Command

/-! ## The name of the region -/

theorem intercalate_ne_empty {separator : String} (separates : separator ≠ "")
    {parts : List String} (some : parts ≠ []) (filled : parts ≠ [""]) :
    separator.intercalate parts ≠ "" := by
  cases parts with
  | nil => exact absurd rfl some
  | cons first rest =>
    cases rest with
    | nil =>
      rw [String.intercalate_singleton]
      rintro rfl
      exact filled rfl
    | cons second rest =>
      rw [String.intercalate_cons_cons]
      intro empty
      have first_empty := (String.append_eq_empty_iff.mp empty).1
      exact separates (String.append_eq_empty_iff.mp first_empty).2

theorem stem_ne_empty {name : String} (named : name ≠ "") : stem name ≠ "" := by
  unfold stem
  dsimp only
  generalize (name.splitOn ".").dropLast = parts
  split
  · exact named
  · exact named
  · rename_i some filled
    exact intercalate_ne_empty (by decide) some filled

theorem lastName_ne_empty {path name : String} (last : lastName path = some name) : name ≠ "" := by
  unfold lastName at last
  split at last
  · cases last
  · have mem := List.mem_of_getLast? last
    have kept := (List.mem_filter.mp mem).2
    rintro rfl
    cases kept

theorem regionName_ne_empty (path : String) : regionName path ≠ "" := by
  unfold regionName
  split
  · rename_i name last
    exact stem_ne_empty (lastName_ne_empty last)
  · decide

/-! ## What the command does to the files -/

variable {p : GuardPolicy} {file capacity : String} {n : UInt32} {h h' : Host} {c : Console}
  {e : SyncError}

/-- The settings of the region that a table of so many slots is made in. -/
def tableRegion (file : String) (n : UInt32) : RegionSettings :=
  { RegionSettings.ofSize (regionName file) (Layout.ofCapacity n).totalSize with path := some file }

theorem validate_tableRegion (file : String) (n : UInt32) :
    (tableRegion file n).validate = .ok () := by
  have header := Layout.headerSize_le_totalSize n
  have asked : (tableRegion file n).size ≠ 0 := by
    show (Layout.ofCapacity n).totalSize ≠ 0
    rw [headerSize] at header
    omega
  have named : (tableRegion file n).name ≠ "" := regionName_ne_empty file
  rw [RegionSettings.validate, if_neg named, if_neg fun none => asked none.1]
  rfl

def makeTable (p : GuardPolicy) (file : String) (n : UInt32) : Op Host Table := do
  let region ← Region.map (tableRegion file n)
  Host.inFile region.file (Table.create region ⟨n, p⟩)

def unreadable (capacity : String) : SyncError :=
  .invalidParameter "capacity" ("Invalid value '" ++ capacity ++ "'")

def noSlots : SyncError :=
  .invalidParameter "capacity" "Table capacity must be greater than 0"

theorem makeTable_of_refused {fault : HostFault}
    (refused : h.openFile file true RegionSettings.defaultPermissions = .error fault) :
    (makeTable p file n).result h =
      (.failed (.ofFault fault ("Failed to open " ++ file)), h) := by
  have backing := Region.openBacking_of_error (c := tableRegion file n) refused
  have mapped : (Region.map (tableRegion file n)).result h = _ :=
    (Region.map_of_valid (validate_tableRegion file n)).trans (Op.result_bind_of_failed backing _)
  exact Op.result_bind_of_failed mapped _

/-- A file that can be opened is made or grown, whatever the number of slots is; a table is laid out
in it if it has slots. -/
theorem makeTable_of_opened (valid : p.validate = .ok ()) (sound : h.Sound) {opened : FileId × Host}
    (opens : h.openFile file true RegionSettings.defaultPermissions = .ok opened) (n : UInt32) :
    ∃ id h', (Region.openBacking (tableRegion file n)).result h =
        (.value (id, (Layout.ofCapacity n).totalSize), h') ∧
      (n = 0 → (makeTable p file n).result h = (.failed noSlots, h')) ∧
      (n ≠ 0 → (makeTable p file n).result h =
        (.value ⟨⟨regionName file, (Layout.ofCapacity n).totalSize, .file, id⟩,
          Layout.ofCapacity n, p⟩,
          h'.setWords id (Table.layOut (Layout.ofCapacity n) (h'.words id)))) := by
  have fits : (tableRegion file n).size ≤ Region.largestRegion :=
    Nat.le_trans (Nat.le_of_lt (Layout.totalSize_lt n)) (by decide)
  obtain ⟨id, h', backing, mapped⟩ :=
    Region.map_of_opened sound (validate_tableRegion file n) rfl rfl fits opens
  refine ⟨id, h', backing, fun none => ?_, fun some => ?_⟩
  · subst none
    refine (Op.result_bind_of_value mapped _).trans ?_
    -- the number of slots is looked at only now, when the file has grown
    have refused (region : Region) (m : Words) :
        (Table.create region ⟨0, p⟩).result m = (.failed noSlots, m) := Table.create_ends region _ m
    rw [Host.result_inFile_of_same (by rw [refused]), refused]
  · refine (Op.result_bind_of_value mapped _).trans ?_
    have accepted : (TableSettings.mk n p).validate = .ok () := (if_neg some).trans valid
    rw [Host.inFile, Op.result_within, Table.create_result accepted (Nat.le_refl _)]
    rfl

/-! ## How the command ends -/

/-- The ways in which the command ends, and what is then on the host and on the console. -/
inductive InitEnds (p : GuardPolicy) (file capacity : String) (c : Console) :
    Outcome Unit × Console → Prop where
  | unread (unread : readWord capacity = none) :
      InitEnds p file capacity c (.failed (unreadable capacity), c)
  | unopened {fault : HostFault}
      (refused : c.host.openFile file true RegionSettings.defaultPermissions = .error fault) :
      InitEnds p file capacity c (.failed (.ofFault fault ("Failed to open " ++ file)), c)
  /-- The file was made or grown, and then the table was refused. -/
  | empty {opened : FileId × Host} {id : FileId} {h' : Host} (read : readWord capacity = some 0)
      (opens : c.host.openFile file true RegionSettings.defaultPermissions = .ok opened)
      (backing : (Region.openBacking (tableRegion file 0)).result c.host = (.value (id, 64), h')) :
      InitEnds p file capacity c (.failed noSlots, { c with host := h' })
  | made {n : UInt32} {t : Table} {h' : Host} {line : String} (read : readWord capacity = some n)
      (some : n ≠ 0) (made : (makeTable p file n).result c.host = (.value t, h')) :
      InitEnds p file capacity c (.value (), ⟨h', line :: c.printed⟩)

theorem runInit_of_unread (unread : readWord capacity = none) :
    (runInit p file capacity).result c = (.failed (unreadable capacity), c) := by
  have refused : (number "capacity" capacity).result c = (.failed (unreadable capacity), c) := by
    rw [number, unread]
    rfl
  exact Op.result_bind_of_failed refused _

theorem number_result {name value : String} (read : readWord value = some n) :
    (number name value).result c = (.value n, c) := by
  rw [number, read]
  rfl

theorem runInit_of_failed (read : readWord capacity = some n)
    (failed : (makeTable p file n).result c.host = (.failed e, h')) :
    (runInit p file capacity).result c = (.failed e, { c with host := h' }) := by
  have ended : (Console.onHost (makeTable p file n)).result c =
      (.failed e, { c with host := h' }) := by
    rw [Console.onHost, Op.result_within, failed]
  exact (Op.result_bind_of_value (number_result read) _).trans (Op.result_bind_of_failed ended _)

theorem runInit_of_made {t : Table} (read : readWord capacity = some n)
    (made : (makeTable p file n).result c.host = (.value t, h')) :
    ∃ line, (runInit p file capacity).result c = (.value (), ⟨h', line :: c.printed⟩) := by
  have ended : (Console.onHost (makeTable p file n)).result c =
      (.value t, { c with host := h' }) := by
    rw [Console.onHost, Op.result_within, made]
  exact ⟨_, (Op.result_bind_of_value (number_result read) _).trans
    (Op.result_bind_of_value ended _)⟩

theorem runInit_ends (valid : p.validate = .ok ()) (sound : c.host.Sound)
    (file capacity : String) :
    InitEnds p file capacity c ((runInit p file capacity).result c) := by
  cases read : readWord capacity with
  | none =>
    rw [runInit_of_unread read]
    exact .unread read
  | some n =>
    cases opens : c.host.openFile file true RegionSettings.defaultPermissions with
    | error fault =>
      rw [runInit_of_failed read (makeTable_of_refused opens)]
      exact .unopened opens
    | ok opened =>
      obtain ⟨id, h', backing, refused, made⟩ := makeTable_of_opened valid sound opens n
      by_cases none : n = 0
      · rw [runInit_of_failed read (refused none)]
        subst none
        exact .empty read opens backing
      · obtain ⟨line, result⟩ := runInit_of_made read (made none)
        rw [result]
        exact .made read none (made none)

theorem runArguments_of_failed {command : Command} {arguments : List String}
    (asked : ofArguments arguments = .ok (some command))
    (failed : (command.run p).result ⟨h, []⟩ = (.failed e, ⟨h', []⟩)) :
    runArguments p arguments h = (.ran 1 "" ("Error: " ++ e.description ++ "\n"), h') := by
  have outcome : ((command.run p).run ⟨h, []⟩).outcome = .failed e := congrArg Prod.fst failed
  have state : ((command.run p).run ⟨h, []⟩).state = ⟨h', []⟩ := congrArg Prod.snd failed
  rw [runArguments, asked]
  dsimp only
  rw [outcome, state]
  rfl

/-! ## Requests that are refused -/

/-- A table without slots is asked for, in a file that is missing or too short for one. It would
take sixty-four bytes. -/
def GrowsInVain (file capacity : String) (h : Host) : Prop :=
  readWord capacity = some 0 ∧ ∀ f, h.lookup file = some f → f.length < 64

/-- What is left when a check refuses to make a table, and what is told. -/
structure InitRefused (p : GuardPolicy) (file capacity : String) (h : Host) (e : SyncError)
    (h' : Host) : Prop where
  /-- Only the number of slots is ever refused. -/
  cause : e = unreadable capacity ∧ readWord capacity = none ∨
    e = noSlots ∧ readWord capacity = some 0
  told : ∀ arguments, ofArguments arguments = .ok (some (.init file capacity)) →
    runArguments p arguments h = (.ran 1 "" ("Error: " ++ e.description ++ "\n"), h')
  left : ¬ GrowsInVain file capacity h → h' = h
  grown : GrowsInVain file capacity h → h.OnlyGrows file 64 h'
  same_iff : h'.contents file = h.contents file ↔ ¬ GrowsInVain file capacity h

/-- A file that was opened for a table without slots is as it was if it is long enough for one, and
has grown to the size of one if it is not. -/
theorem opened_for_no_slots {id : FileId} (sound : h.Sound) (read : readWord capacity = some 0)
    (backing : (Region.openBacking (tableRegion file 0)).result h = (.value (id, 64), h')) :
    (¬ GrowsInVain file capacity h → h' = h) ∧
      (GrowsInVain file capacity h → h.OnlyGrows file 64 h') := by
  constructor
  · intro enough
    rw [GrowsInVain, not_and] at enough
    obtain ⟨f, found, long⟩ : ∃ f, h.lookup file = some f ∧ 64 ≤ f.length := by
      have enough := enough read
      push Not at enough
      exact enough
    exact Region.unchanged_of_openBacking (c := tableRegion file 0) long found backing
  · rintro ⟨-, short⟩
    have backed := Region.backed_of_openBacking sound backing
    obtain ⟨f, leads, grown⟩ := backed.file
    have path : (tableRegion file 0).filePath = file := rfl
    rw [path] at leads grown
    refine ⟨id, f, leads, ?_, grown, backed.others⟩
    rw [grown.length]
    cases before : h.lookup file with
    | none => rfl
    | some g => exact Nat.max_eq_right (Nat.le_of_lt (short g before))

theorem runInit_without_slots (valid : p.validate = .ok ()) (sound : c.host.Sound)
    (read : readWord capacity = some 0) {opened : FileId × Host}
    (opens : c.host.openFile file true RegionSettings.defaultPermissions = .ok opened) :
    ∃ id h', (Region.openBacking (tableRegion file 0)).result c.host = (.value (id, 64), h') ∧
      (runInit p file capacity).result c = (.failed noSlots, { c with host := h' }) := by
  obtain ⟨id, h', backing, refused, -⟩ := makeTable_of_opened valid sound opens 0
  exact ⟨id, h', backing, runInit_of_failed read (refused rfl)⟩

theorem runInit_grows_in_vain (valid : p.validate = .ok ()) (sound : h.Sound)
    (vain : GrowsInVain file capacity h) {opened : FileId × Host}
    (opens : h.openFile file true RegionSettings.defaultPermissions = .ok opened) :
    ∃ h', (runInit p file capacity).result ⟨h, []⟩ = (.failed noSlots, ⟨h', []⟩) ∧
      h.OnlyGrows file 64 h' := by
  obtain ⟨id, h', backing, refused⟩ :=
    runInit_without_slots (c := ⟨h, []⟩) valid sound vain.1 opens
  exact ⟨h', refused, (opened_for_no_slots sound vain.1 backing).2 vain⟩

/-- A request for a table is refused by a check, and not by the host, just if the number of slots
cannot be read, or is zero and the file can be opened. It is told with the exit code of a failure,
and leaves all files as they were, unless the number is zero, which is looked at last, and the file
is missing or shorter than a table without slots; then the file is there afterwards with as many
bytes, the old ones and zeros. So the path leads to what it led to just if the request does not make
a file grow in vain. -/
theorem refused_init_leaves_file (valid : p.validate = .ok ()) (sound : h.Sound) :
    ((∃ e c, (runInit p file capacity).result ⟨h, []⟩ = (.failed e, c) ∧ e.source = none) ↔
      readWord capacity = none ∨ readWord capacity = some 0 ∧
        ∃ opened, h.openFile file true RegionSettings.defaultPermissions = .ok opened) ∧
    ∀ e c, (runInit p file capacity).result ⟨h, []⟩ = (.failed e, c) → e.source = none →
      c.printed = [] ∧ InitRefused p file capacity h e c.host := by
  have ends := runInit_ends (c := ⟨h, []⟩) valid sound file capacity
  refine ⟨⟨?_, ?_⟩, fun e c refused own => ?_⟩
  · rintro ⟨e, c, refused, own⟩
    rw [refused] at ends
    cases ends with
    | unread unread => exact .inl unread
    | unopened => cases own
    | empty read opens => exact .inr ⟨read, _, opens⟩
  · rintro (unread | ⟨read, opened, opens⟩)
    · exact ⟨_, _, runInit_of_unread unread, rfl⟩
    · obtain ⟨id, h', -, refused⟩ := runInit_without_slots (c := ⟨h, []⟩) valid sound read opens
      exact ⟨_, _, refused, rfl⟩
  · rw [refused] at ends
    cases ends with
    | unread unread =>
      have enough : ¬ GrowsInVain file capacity h := by
        rintro ⟨read, -⟩
        rw [unread] at read
        cases read
      exact ⟨rfl, {
        cause := .inl ⟨rfl, unread⟩
        told := fun arguments asked => runArguments_of_failed asked refused
        left := fun _ => rfl
        grown := fun vain => absurd vain enough
        same_iff := ⟨fun _ => enough, fun _ => rfl⟩ }⟩
    | unopened => cases own
    | empty read opens backing =>
      obtain ⟨left, grown⟩ := opened_for_no_slots sound read backing
      refine ⟨rfl, .inr ⟨rfl, read⟩, fun arguments asked => runArguments_of_failed asked refused,
        left, grown, fun same vain => ?_, fun enough => ?_⟩
      · obtain ⟨id, f, leads, length, -, -⟩ := grown vain
        exact Host.contents_ne leads.lookup (length ▸ vain.2) same
      · exact congrArg (Host.contents · file) (left enough)

/-! ## Files of three and of sixty-four bytes -/

def ownPolicy : GuardPolicy := .standard 7 (.processes [7])

def sixtyFourBytes : File := File.ofBytes 0o600 (List.replicate 64 7)

/-- A table without slots is refused in a file of sixty-four bytes, and one with too many slots for a
number of 32 bits in a file of three bytes; both files are as they were. -/
theorem refused_init_leaves_long_enough_file :
    (runArguments ownPolicy ["init", "-f", "t", "-c", "0"] (Host.ofFile "t" sixtyFourBytes) =
      (.ran 1 "" ("Error: " ++ noSlots.description ++ "\n"), Host.ofFile "t" sixtyFourBytes)) ∧
    (runInit ownPolicy "t" "4294967296").result ⟨Host.ofFile "t" Region.threeBytes, []⟩ =
      (.failed (unreadable "4294967296"), ⟨Host.ofFile "t" Region.threeBytes, []⟩) ∧
    (runArguments ownPolicy ["init", "--capacity=4294967296", "-ft"]
        (Host.ofFile "t" Region.threeBytes)).2.contents "t" =
      (Host.ofFile "t" Region.threeBytes).contents "t" := by
  have valid : ownPolicy.validate = .ok () := rfl
  refine ⟨?_, ?_⟩
  · have before := Host.ofFile_leadsTo sixtyFourBytes Region.resolve_t
    have sound : (Host.ofFile "t" sixtyFourBytes).Sound :=
      Host.sound_ofFile "t" (File.ends_ofBytes 0o600 _)
    have read : readWord "0" = some 0 := by decide
    obtain ⟨id, h', -, refused⟩ := runInit_without_slots
      (c := ⟨Host.ofFile "t" sixtyFourBytes, []⟩) valid sound read (before.openFile rfl true _)
    obtain ⟨-, after⟩ := (refused_init_leaves_file valid sound).2 _ _ refused rfl
    have enough : ¬ GrowsInVain "t" "0" (Host.ofFile "t" sixtyFourBytes) := by
      rintro ⟨-, short⟩
      exact absurd (short sixtyFourBytes before.lookup) (by decide)
    rw [after.told _ rfl, after.left enough]
  · have sound : (Host.ofFile "t" Region.threeBytes).Sound :=
      Host.sound_ofFile "t" (File.ends_ofBytes 0o600 _)
    have unread : readWord "4294967296" = none := by decide
    have refused : (runInit ownPolicy "t" "4294967296").result
        ⟨Host.ofFile "t" Region.threeBytes, []⟩ = _ := runInit_of_unread unread
    obtain ⟨-, after⟩ := (refused_init_leaves_file valid sound).2 _ _ refused rfl
    exact ⟨refused, by rw [after.told _ rfl]⟩

/-- A table without slots is asked for where there is no file, and in a file of three bytes. Both
requests are refused by the check of the number of slots; but then there is a file of sixty-four
bytes, and the three bytes have zeros behind. -/
theorem refused_init_makes_file :
    ofArguments ["init", "-f", "t", "-c", "0"] = .ok (some (.init "t" "0")) ∧
    noSlots.source = none ∧
    (∃ h', (runInit ownPolicy "t" "0").result ⟨Host.ofFolders "t", []⟩ =
        (.failed noSlots, ⟨h', []⟩) ∧
      (Host.ofFolders "t").lookup "t" = none ∧ ∃ f, h'.lookup "t" = some f ∧ f.length = 64) ∧
    ∃ h', (runInit ownPolicy "t" "0").result ⟨Host.ofFile "t" Region.threeBytes, []⟩ =
        (.failed noSlots, ⟨h', []⟩) ∧
      h'.contents "t" ≠ (Host.ofFile "t" Region.threeBytes).contents "t" ∧
      ∃ f, h'.lookup "t" = some f ∧ f.length = 64 ∧ f.byte 2 = 3 ∧ f.byte 3 = 0 := by
  have valid : ownPolicy.validate = .ok () := rfl
  have read : readWord "0" = some 0 := by decide
  refine ⟨rfl, rfl, ?_, ?_⟩
  · have missing : (Host.ofFolders "t").lookup "t" = none := by
      rw [Host.lookup, Region.resolve_t]
      rfl
    have opens : (Host.ofFolders "t").openFile "t" true RegionSettings.defaultPermissions =
        .ok ((Host.ofFolders "t").addNamed "t" (File.empty (Host.newMode 0o600))) := by
      rw [Host.openFile, Region.resolve_t]
      rfl
    have vain : GrowsInVain "t" "0" (Host.ofFolders "t") := by
      refine ⟨read, fun f found => ?_⟩
      rw [missing] at found
      cases found
    obtain ⟨h', refused, id, f, leads, length, -, -⟩ :=
      runInit_grows_in_vain valid (Host.sound_ofFolders "t") vain opens
    exact ⟨h', refused, missing, f, leads.lookup, length⟩
  · have before := Host.ofFile_leadsTo Region.threeBytes Region.resolve_t
    have sound : (Host.ofFile "t" Region.threeBytes).Sound :=
      Host.sound_ofFile "t" (File.ends_ofBytes 0o600 _)
    have vain : GrowsInVain "t" "0" (Host.ofFile "t" Region.threeBytes) := by
      refine ⟨read, fun f found => ?_⟩
      rw [before.lookup] at found
      cases found
      decide
    obtain ⟨h', refused, id, f, leads, length, grown, -⟩ :=
      runInit_grows_in_vain valid sound vain (before.openFile rfl true _)
    rw [before.lookup] at grown
    refine ⟨h', refused, ?_, f, leads.lookup, length, ?_, grown.zeros 3 (Nat.le_refl 3)⟩
    · exact Host.contents_ne leads.lookup (length ▸ vain.2)
    · rw [grown.kept _ rfl 2 (by decide), Region.threeBytes, File.byte_ofBytes]
      rfl

end Command

end Interprocess
