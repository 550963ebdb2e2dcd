import Interprocess.Proofs.Host.Files
import Interprocess.Proofs.Operation
import Interprocess.Region.Mapping

/-!
# Mapping a region

What becomes of the files of a host when a region is made or opened
(`Region.map_grows_never_damages`). A file that is asked for with the leave to create is there
afterwards, long enough, with its old bytes and zeros behind; without that leave nothing changes,
and it only takes a file that is there and long enough. A file in memory is new.
-/

namespace Interprocess

namespace RegionSettings

/-- The size of the region that is asked for in a file of a length. -/
def sizeIn (c : RegionSettings) (length : Nat) : Nat := if c.size = 0 then length else c.size

theorem sizeIn_of_asked {c : RegionSettings} (asked : c.size ≠ 0) (length : Nat) :
    c.sizeIn length = c.size :=
  if_neg asked

theorem of_validate {c : RegionSettings} (valid : c.validate = .ok ()) :
    (c.create = true → c.size ≠ 0) ∧ (c.create = false → c.backing = .file) := by
  unfold validate at valid
  split at valid
  · cases valid
  split at valid
  · cases valid
  rename_i asked
  split at valid
  · cases valid
  split at valid
  · cases valid
  split at valid
  · cases valid
  rename_i made
  constructor
  · intro create size
    exact asked ⟨size, create⟩
  · intro create
    cases backing : c.backing with
    | file => rfl
    | memory => exact absurd ⟨backing, by rw [create]; rfl⟩ made

end RegionSettings

namespace Region

variable {c : RegionSettings} {h h' : Host} {id : FileId} {f : File} {size : Nat}

/-! ## What backs a region -/

theorem openBacking_of_error {fault : HostFault}
    (refused : h.openFile c.filePath c.create c.permissions = .error fault) :
    (openBacking c).result h = (.failed (.ofFault fault ("Failed to open " ++ c.filePath)), h) := by
  rw [openBacking, Op.result_bind, Op.result_exchange, refused]
  rfl

theorem openBacking_of_ok (opened : h.openFile c.filePath c.create c.permissions = .ok (id, h'))
    (there : h'.file? id = some f) (asked : c.sizeIn f.length = size) :
    (openBacking c).result h =
      if f.length < size then
        if c.create then
          if greatestLength < size then
            (.failed (.ofFault .lengthOutOfRange "Failed to set file size"), h')
          else (.value (id, size), h'.modify id fun f => f.grow size)
        else (.failed (.invalidParameter "size" ("Existing region is " ++ toString f.length ++
          " bytes, " ++ toString size ++ " requested")), h')
      else (.value (id, size), h') := by
  have current : ((h'.file? id).map File.length).getD 0 = f.length := by
    rw [there]
    rfl
  have asked : (if c.size = 0 then f.length else c.size) = size := asked
  rw [openBacking, Op.result_bind, Op.result_exchange, opened]
  dsimp only
  rw [Op.result_bind, Op.result_read]
  dsimp only
  rw [current, asked]
  by_cases short : f.length < size
  · rw [if_pos short, if_pos short]
    cases c.create with
    | false => rfl
    | true =>
      by_cases long : greatestLength < size
      · rw [if_pos rfl, if_pos long, if_pos rfl, if_pos long]
        rfl
      · rw [if_pos rfl, if_neg long, if_pos rfl, if_neg long]
        rfl
  · rw [if_neg short, if_neg short]
    rfl

theorem makeBacking_eq_value (made : (makeBacking c).result h = (.value (id, size), h')) :
    size = c.size ∧ (id, h') = h.addFile ((File.empty 0o777).grow c.size) := by
  unfold makeBacking at made
  split at made
  · cases made
  split at made
  · cases made
  split at made
  · cases made
  cases made
  exact ⟨rfl, rfl⟩

/-- What a file in memory may be named. -/
def Nameable (name : String) : Prop :=
  name.contains '\x00' = false ∧ name.utf8ByteSize ≤ longestMemoryName

theorem nameable_of_makeBacking (made : (makeBacking c).result h = (.value (id, size), h')) :
    Nameable c.name := by
  unfold makeBacking at made
  split at made
  · cases made
  rename_i whole
  split at made
  · cases made
  rename_i short
  exact ⟨eq_false_of_ne_true whole, Nat.le_of_not_lt short⟩

theorem makeBacking_of_nameable (nameable : Nameable c.name) (fits : c.size ≤ greatestLength) :
    ∃ id h', (makeBacking c).result h = (.value (id, c.size), h') := by
  obtain ⟨whole, short⟩ := nameable
  rw [makeBacking, whole, if_neg Bool.false_ne_true, if_neg (Nat.not_lt.mpr short),
    if_neg (Nat.not_lt.mpr fits)]
  exact ⟨_, _, rfl⟩

/-- What backs a region, whether a file or memory. -/
def backed (c : RegionSettings) : Op Host (FileId × Nat) :=
  match c.backing with
  | .file => openBacking c
  | .memory => makeBacking c

def finish (c : RegionSettings) (id : FileId) (size : Nat) : Op Host Region :=
  if size = 0 then Op.fail (.invalidParameter "size" ("Region " ++ c.name ++ " is empty"))
  else if largestRegion < size then
    failWith (.os .noMemory) "Failed to create memory mapping"
  else do
    Op.note (.regionMapped c.name size c.backing.name)
    return ⟨c.name, size, c.backing, id⟩

theorem map_eq (c : RegionSettings) :
    map c = (Op.ofExcept c.validate >>= fun _ =>
      backed c >>= fun opened => finish c opened.1 opened.2) := by
  -- both arms of `map` go on in the same way
  unfold map backed finish
  cases c.backing <;> rfl

theorem map_of_invalid {e : SyncError} (refused : c.validate = .error e) :
    (map c).result h = (.failed e, h) := by
  rw [map, Op.result_bind, Op.result_ofExcept, refused]
  rfl

theorem map_of_valid (valid : c.validate = .ok ()) :
    (map c).result h = (backed c >>= fun opened => finish c opened.1 opened.2).result h := by
  rw [map_eq, Op.result_bind, Op.result_ofExcept, valid]
  rfl

theorem finish_cases (c : RegionSettings) (id : FileId) (size : Nat) (h : Host) :
    (0 < size ∧ size ≤ largestRegion ∧
        (finish c id size).result h = (.value ⟨c.name, size, c.backing, id⟩, h)) ∨
      ((size = 0 ∨ largestRegion < size) ∧ ∃ e, (finish c id size).result h = (.failed e, h)) := by
  unfold finish
  by_cases none : size = 0
  · rw [if_pos none]
    exact .inr ⟨.inl none, _, rfl⟩
  · rw [if_neg none]
    by_cases long : largestRegion < size
    · rw [if_pos long]
      exact .inr ⟨.inr long, _, rfl⟩
    · rw [if_neg long]
      exact .inl ⟨Nat.pos_of_ne_zero none, Nat.le_of_not_lt long, rfl⟩

/-! ## Regions that are mapped -/

theorem map_eq_value {r : Region} (mapped : (map c).result h = (.value r, h')) :
    c.validate = .ok () ∧ (backed c).result h = (.value (r.file, r.size), h') ∧ 0 < r.size ∧
      r.size ≤ largestRegion ∧ r.name = c.name ∧ r.backing = c.backing := by
  cases valid : c.validate with
  | error e =>
    rw [map_of_invalid valid] at mapped
    cases mapped
  | ok _ =>
    rw [map_of_valid valid] at mapped
    obtain ⟨⟨id, size⟩, h₁, opened, finished⟩ := Op.values_of_bind mapped
    obtain ⟨holds, fits, answered⟩ | ⟨-, e, failed⟩ := finish_cases c id size h₁
    · rw [answered] at finished
      cases finished
      exact ⟨rfl, opened, holds, fits, rfl, rfl⟩
    · rw [failed] at finished
      cases finished

/-- What there is after a file was opened for a region of a size: the file is as it was, or empty if
there was none, with zeros behind up to the size, and everything else is as it was. -/
structure Backed (c : RegionSettings) (h : Host) (id : FileId) (size : Nat) (h' : Host) : Prop where
  sound : h'.Sound
  file : ∃ f, h'.LeadsTo c.filePath id f ∧ File.GrownFrom (h.lookup c.filePath) size f
  asked : size = c.sizeIn ((h.lookup c.filePath).elim 0 File.length)
  others : ∀ id', id' ≠ id → h'.file? id' = h.file? id'
  same : c.create = false → h' = h

theorem backed_of_openBacking (sound : h.Sound)
    (backing : (openBacking c).result h = (.value (id, size), h')) : Backed c h id size h' := by
  cases opened : h.openFile c.filePath c.create c.permissions with
  | error fault =>
    rw [openBacking_of_error opened] at backing
    cases backing
  | ok file =>
    obtain ⟨id₁, h₁⟩ := file
    have after := Host.opened_of_openFile sound opened
    obtain ⟨f, leads, same⟩ := after.file
    have length : f.length = (h.lookup c.filePath).elim 0 File.length := by
      have length := same.length
      omega
    rw [openBacking_of_ok opened leads.there rfl] at backing
    split at backing
    · rename_i short
      split at backing
      · rename_i create
        split at backing
        · cases backing
        · cases backing
          exact {
            sound := after.sound.grow leads.there short
            file := ⟨_, leads.modify _, same.grow short⟩
            asked := by rw [length]
            others := by
              intro id' other
              rw [Host.file?_modify, if_neg other]
              exact after.others id' other
            same := by
              intro without
              rw [without] at create
              cases create }
      · cases backing
    · rename_i enough
      cases backing
      exact {
        sound := after.sound
        file := ⟨f, leads, same.of_enough (Nat.le_of_not_lt enough)⟩
        asked := by rw [length]
        others := after.others
        same := after.same }

theorem unchanged_of_openBacking (enough : c.size ≤ f.length) (found : h.lookup c.filePath = some f)
    (backing : (openBacking c).result h = (.value (id, size), h')) : h' = h := by
  cases opened : h.openFile c.filePath c.create c.permissions with
  | error fault =>
    rw [openBacking_of_error opened] at backing
    cases backing
  | ok file =>
    obtain ⟨id₁, h₁⟩ := file
    obtain ⟨name, resolved, named⟩ := Host.openFile_eq_ok opened
    rw [Host.lookup, resolved] at found
    have there : (h.find? name).bind h.file? = some f := found
    obtain ⟨named, rfl⟩ | ⟨missing, -⟩ := named
    · rw [named] at there
      have long : ¬ f.length < c.sizeIn f.length := by
        unfold RegionSettings.sizeIn
        split <;> omega
      rw [openBacking_of_ok opened there rfl, if_neg long] at backing
      cases backing
      rfl
    · rw [missing] at there
      cases there

/-- What a region is, and what its files are, after it was mapped. -/
structure Mapped (c : RegionSettings) (h : Host) (r : Region) (h' : Host) : Prop where
  name : r.name = c.name
  backing : r.backing = c.backing
  holds : 0 < r.size
  inside : ∃ f, h'.file? r.file = some f ∧ r.size ≤ f.length
  others : ∀ id, id ≠ r.file → h'.file? id = h.file? id
  /-- The file is as long as it was or as was asked, whichever is more, and only has zeros more. -/
  made : c.backing = .file → c.create = true →
    r.size = c.size ∧
      ∃ f, h'.LeadsTo c.filePath r.file f ∧ File.GrownFrom (h.lookup c.filePath) c.size f
  existing : c.create = false →
    h' = h ∧ ∃ f, h.LeadsTo c.filePath r.file f ∧ r.size = c.sizeIn f.length
  memory : c.backing = .memory →
    r.size = c.size ∧ h.file? r.file = none ∧ h'.directory = h.directory ∧
      ∃ f, h'.file? r.file = some f ∧ f.length = c.size ∧ ∀ i, f.byte i = 0

theorem Backed.mapped {r : Region} (backed : Backed c h r.file r.size h') (holds : 0 < r.size)
    (valid : c.validate = .ok ()) (file : c.backing = .file) (name : r.name = c.name)
    (backing : r.backing = c.backing) : Mapped c h r h' := by
  obtain ⟨f, leads, grown⟩ := backed.file
  have asked := backed.asked
  exact {
    name, backing, holds
    inside := ⟨f, leads.there, grown.length ▸ Nat.le_max_right _ _⟩
    others := backed.others
    made := by
      intro _ create
      have size : r.size = c.size :=
        asked.trans (RegionSettings.sizeIn_of_asked ((RegionSettings.of_validate valid).1 create) _)
      exact ⟨size, f, leads, size ▸ grown⟩
    existing := by
      intro without
      cases backed.same without
      rw [leads.lookup] at asked
      exact ⟨rfl, f, leads, asked⟩
    memory := by
      intro memory
      rw [file] at memory
      cases memory }

theorem mapped_of_makeBacking {r : Region} (sound : h.Sound)
    (backing : (makeBacking c).result h = (.value (r.file, r.size), h'))
    (valid : c.validate = .ok ()) (memory : c.backing = .memory) (holds : 0 < r.size)
    (name : r.name = c.name) (kind : r.backing = c.backing) : Mapped c h r h' ∧ h'.Sound := by
  obtain ⟨size, made⟩ := makeBacking_eq_value backing
  have file : r.file = (h.addFile ((File.empty 0o777).grow c.size)).1 := congrArg Prod.fst made
  have host : h' = (h.addFile ((File.empty 0o777).grow c.size)).2 := congrArg Prod.snd made
  have there : h'.file? r.file = some ((File.empty 0o777).grow c.size) := by
    rw [host, file, Host.file?_addFile, if_pos rfl]
  have zeros : ∀ i, ((File.empty 0o777).grow c.size).byte i = 0 := File.byte_empty 0o777
  refine ⟨?_, host ▸ sound.addFile fun i _ => zeros i⟩
  exact {
    name, holds
    backing := kind
    inside := ⟨_, there, Nat.le_of_eq size⟩
    others := by
      intro id other
      rw [host, Host.file?_addFile, if_neg (file ▸ other)]
    made := by
      intro file
      rw [memory] at file
      cases file
    existing := by
      intro without
      have file := (RegionSettings.of_validate valid).2 without
      rw [memory] at file
      cases file
    memory := fun _ => ⟨size, file ▸ Host.file?_new h _, host ▸ rfl, _, there, rfl, zeros⟩ }

theorem mapped_of_map {r : Region} (sound : h.Sound)
    (result : (map c).result h = (.value r, h')) : Mapped c h r h' ∧ h'.Sound := by
  obtain ⟨valid, backing, holds, -, name, kind⟩ := map_eq_value result
  unfold backed at backing
  split at backing
  · rename_i file
    have backed := backed_of_openBacking sound backing
    exact ⟨backed.mapped holds valid file name kind, backed.sound⟩
  · rename_i memory
    exact mapped_of_makeBacking sound backing valid memory holds name kind

theorem map_of_backed (valid : c.validate = .ok ()) (create : c.create = true)
    (fits : c.size ≤ largestRegion) (backing : (backed c).result h = (.value (id, c.size), h')) :
    (map c).result h = (.value ⟨c.name, c.size, c.backing, id⟩, h') := by
  have asked := (RegionSettings.of_validate valid).1 create
  rw [map_of_valid valid, Op.result_bind_of_value backing]
  obtain ⟨-, -, answered⟩ | ⟨none | long, -⟩ := finish_cases c id c.size h'
  · exact answered
  · exact absurd none asked
  · exact absurd fits (Nat.not_le.mpr long)

theorem map_of_opened {file : FileId × Host} (sound : h.Sound) (valid : c.validate = .ok ())
    (backing : c.backing = .file) (create : c.create = true) (fits : c.size ≤ largestRegion)
    (opened : h.openFile c.filePath c.create c.permissions = .ok file) :
    ∃ id h', (openBacking c).result h = (.value (id, c.size), h') ∧
      (map c).result h = (.value ⟨c.name, c.size, c.backing, id⟩, h') := by
  have asked := (RegionSettings.of_validate valid).1 create
  have within : largestRegion ≤ greatestLength := by decide
  obtain ⟨id, h₁⟩ := file
  obtain ⟨f, leads, -⟩ := (Host.opened_of_openFile sound opened).file
  obtain ⟨h', grown⟩ : ∃ h', (openBacking c).result h = (.value (id, c.size), h') := by
    rw [openBacking_of_ok opened leads.there (RegionSettings.sizeIn_of_asked asked _), create,
      if_pos rfl, if_neg (Nat.not_lt.mpr (Nat.le_trans fits within))]
    split
    · exact ⟨_, rfl⟩
    · exact ⟨_, rfl⟩
  refine ⟨id, h', grown, map_of_backed valid create fits ?_⟩
  rw [backed, backing]
  exact grown

/-- The host lets the region be made: its file can be opened, or memory can have its name. -/
def Granted (c : RegionSettings) (h : Host) : Prop :=
  match c.backing with
  | .file => ∃ file, h.openFile c.filePath c.create c.permissions = .ok file
  | .memory => Nameable c.name

theorem granted_of_backed (backing : (backed c).result h = (.value (id, size), h')) :
    Granted c h := by
  unfold backed at backing
  unfold Granted
  split at backing
  · cases opened : h.openFile c.filePath c.create c.permissions with
    | error fault =>
      rw [openBacking_of_error opened] at backing
      cases backing
    | ok file => exact ⟨file, rfl⟩
  · exact nameable_of_makeBacking backing

theorem map_made_iff (sound : h.Sound) (create : c.create = true) :
    (∃ r, ((map c).result h).1 = .value r) ↔
      c.validate = .ok () ∧ Granted c h ∧ c.size ≤ largestRegion := by
  constructor
  · rintro ⟨r, answered⟩
    have result : (map c).result h = (.value r, ((map c).result h).2) := Prod.ext answered rfl
    obtain ⟨valid, backing, -, fits, -⟩ := map_eq_value result
    have size : r.size = c.size := by
      have mapped := (mapped_of_map sound result).1
      cases kind : c.backing with
      | file => exact (mapped.made kind create).1
      | memory => exact (mapped.memory kind).1
    exact ⟨valid, granted_of_backed backing, size ▸ fits⟩
  · rintro ⟨valid, granted, fits⟩
    unfold Granted at granted
    split at granted
    · rename_i file
      obtain ⟨_, opened⟩ := granted
      obtain ⟨id, h', -, result⟩ := map_of_opened sound valid file create fits opened
      exact ⟨_, congrArg Prod.fst result⟩
    · rename_i memory
      have within : largestRegion ≤ greatestLength := by decide
      obtain ⟨id, h', made⟩ := makeBacking_of_nameable (h := h) granted (Nat.le_trans fits within)
      have backing : (backed c).result h = (.value (id, c.size), h') := by
        rw [backed, memory]
        exact made
      exact ⟨_, congrArg Prod.fst (map_of_backed valid create fits backing)⟩

/-! ## Regions that are not mapped -/

theorem map_of_refused {fault : HostFault} (valid : c.validate = .ok ()) (file : c.backing = .file)
    (refused : h.openFile c.filePath c.create c.permissions = .error fault) :
    ∃ e, (map c).result h = (.failed e, h) := by
  rw [map_of_valid valid, backed, file]
  exact ⟨_, Op.result_bind_of_failed (openBacking_of_error refused) _⟩

theorem map_existing_cases (valid : c.validate = .ok ()) (without : c.create = false)
    (opened : h.openFile c.filePath c.create c.permissions = .ok (id, h))
    (there : h.file? id = some f) :
    (∃ r, (map c).result h = (.value r, h) ∧ 0 < c.sizeIn f.length ∧
        c.sizeIn f.length ≤ f.length ∧ c.sizeIn f.length ≤ largestRegion) ∨
      ((∃ e, (map c).result h = (.failed e, h)) ∧
        (f.length < c.sizeIn f.length ∨ c.sizeIn f.length = 0 ∨
          c.sizeIn f.length ≤ f.length ∧ largestRegion < c.sizeIn f.length)) := by
  have file := (RegionSettings.of_validate valid).2 without
  have backing := openBacking_of_ok opened there rfl
  rw [map_of_valid valid, backed, file]
  by_cases short : f.length < c.sizeIn f.length
  · rw [if_pos short, without, if_neg Bool.false_ne_true] at backing
    exact .inr ⟨⟨_, Op.result_bind_of_failed backing _⟩, .inl short⟩
  · rw [if_neg short] at backing
    have enough := Nat.le_of_not_lt short
    have goes := Op.result_bind_of_value backing fun opened => finish c opened.1 opened.2
    obtain ⟨holds, fits, answered⟩ | ⟨none | long, e, failed⟩ :=
      finish_cases c id (c.sizeIn f.length) h
    · exact .inl ⟨_, goes.trans answered, holds, enough, fits⟩
    · exact .inr ⟨⟨e, goes.trans failed⟩, .inr (.inl none)⟩
    · exact .inr ⟨⟨e, goes.trans failed⟩, .inr (.inr ⟨enough, long⟩)⟩

theorem map_unchanged (sound : h.Sound) (without : c.create = false) :
    ((map c).result h).2 = h := by
  cases valid : c.validate with
  | error e => rw [map_of_invalid valid]
  | ok _ =>
    cases opened : h.openFile c.filePath c.create c.permissions with
    | error fault =>
      have file := (RegionSettings.of_validate valid).2 without
      obtain ⟨e, failed⟩ := map_of_refused valid file opened
      rw [failed]
    | ok file =>
      obtain ⟨id, h₁⟩ := file
      have after := Host.opened_of_openFile sound opened
      cases after.same without
      obtain ⟨f, leads, -⟩ := after.file
      obtain ⟨r, answered, -⟩ | ⟨⟨e, failed⟩, -⟩ :=
        map_existing_cases valid without opened leads.there
      · rw [answered]
      · rw [failed]

theorem sizeIn_unfit (c : RegionSettings) (length : Nat) :
    length < c.sizeIn length ∨ c.sizeIn length = 0 ↔ length < c.size ∨ c.size = 0 ∧ length = 0 := by
  unfold RegionSettings.sizeIn
  split <;> omega

theorem map_fails_iff (sound : h.Sound) (without : c.create = false)
    (allowed : ∀ f, h.lookup c.filePath = some f → f.isOpenToOwner = true ∧
      (c.sizeIn f.length ≤ f.length → c.sizeIn f.length ≤ largestRegion)) :
    (∃ e, ((map c).result h).1 = .failed e) ↔
      (∃ e, c.validate = .error e) ∨ h.lookup c.filePath = none ∨
        ∃ f, h.lookup c.filePath = some f ∧
          (f.length < c.size ∨ c.size = 0 ∧ f.length = 0) := by
  cases valid : c.validate with
  | error e =>
    rw [map_of_invalid valid]
    exact ⟨fun _ => .inl ⟨e, rfl⟩, fun _ => ⟨e, rfl⟩⟩
  | ok _ =>
    -- from here on only the file decides
    have accepted : ¬ ∃ e, (Except.ok () : Except SyncError Unit) = .error e := by
      rintro ⟨e, ⟨⟩⟩
    rw [or_iff_right accepted]
    cases found : h.lookup c.filePath with
    | none =>
      obtain ⟨fault, refused⟩ := Host.openFile_of_missing sound found c.permissions
      rw [← without] at refused
      obtain ⟨e, failed⟩ :=
        map_of_refused valid ((RegionSettings.of_validate valid).2 without) refused
      rw [failed]
      exact ⟨fun _ => .inl rfl, fun _ => ⟨e, rfl⟩⟩
    | some f =>
      obtain ⟨owner, fits⟩ := allowed f found
      obtain ⟨id, leads⟩ := Host.leadsTo_of_lookup found
      have opened := leads.openFile owner c.create c.permissions
      have unfit := sizeIn_unfit c f.length
      obtain ⟨r, answered, holds, enough, -⟩ | ⟨⟨e, failed⟩, cause⟩ :=
        map_existing_cases valid without opened leads.there
      · rw [answered]
        constructor
        · rintro ⟨e, ⟨⟩⟩
        · rintro (⟨⟨⟩⟩ | ⟨g, ⟨⟩, cause⟩)
          have := unfit.mpr cause
          omega
      · rw [failed]
        refine ⟨fun _ => .inr ⟨f, rfl, unfit.mp ?_⟩, fun _ => ⟨e, rfl⟩⟩
        omega

theorem backed_ends (c : RegionSettings) (sound : h.Sound) :
    ((backed c).result h).1 ≠ .blocked := by
  unfold backed
  split
  · cases opened : h.openFile c.filePath c.create c.permissions with
    | error fault =>
      rw [openBacking_of_error opened]
      rintro ⟨⟩
    | ok file =>
      obtain ⟨f, leads, -⟩ := (Host.opened_of_openFile sound opened).file
      rw [openBacking_of_ok opened leads.there rfl]
      split
      · split
        · split <;> rintro ⟨⟩
        · rintro ⟨⟩
      · rintro ⟨⟩
  · unfold makeBacking
    split
    · rintro ⟨⟩
    · split
      · rintro ⟨⟩
      · split <;> rintro ⟨⟩

theorem map_ends (c : RegionSettings) (sound : h.Sound) : ((map c).result h).1 ≠ .blocked := by
  cases valid : c.validate with
  | error e =>
    rw [map_of_invalid valid]
    rintro ⟨⟩
  | ok _ =>
    have ends := backed_ends c sound
    rw [map_of_valid valid]
    rcases backing : (backed c).result h with ⟨⟨id, size⟩ | e | _, h'⟩
    · rw [Op.result_bind_of_value backing]
      obtain ⟨-, -, answered⟩ | ⟨-, e, failed⟩ := finish_cases c id size h'
      · rw [answered]
        rintro ⟨⟩
      · rw [failed]
        rintro ⟨⟩
    · rw [Op.result_bind_of_failed backing]
      rintro ⟨⟩
    · rw [backing] at ends
      exact absurd rfl ends

/-- Mapping a region grows the file behind it if it is too short, and damages no file. With the
leave to create, the file is there afterwards with its old bytes and zeros behind; a region in
memory has a new file of zeros; and there is a region just if the settings are not refused, the host
lets the region be made and memory has room for it. Without that leave nothing changes, and where
the host lets the owner open the file and has room to map it, the region is refused only if the
settings are, or if there is no file, too little of it, or nothing in it. -/
theorem map_grows_never_damages (c : RegionSettings) (h : Host) (sound : h.Sound) :
    ((map c).result h).1 ≠ .blocked ∧
    (∀ r h', (map c).result h = (.value r, h') → Mapped c h r h' ∧ h'.Sound) ∧
    (c.create = false →
      ((map c).result h).2 = h ∧
      ((∀ f, h.lookup c.filePath = some f → f.isOpenToOwner = true ∧
          (c.sizeIn f.length ≤ f.length → c.sizeIn f.length ≤ largestRegion)) →
        ((∃ e, ((map c).result h).1 = .failed e) ↔
          (∃ e, c.validate = .error e) ∨ h.lookup c.filePath = none ∨
            ∃ f, h.lookup c.filePath = some f ∧
              (f.length < c.size ∨ c.size = 0 ∧ f.length = 0)))) ∧
    (c.create = true →
      ((∃ r, ((map c).result h).1 = .value r) ↔
        c.validate = .ok () ∧ Granted c h ∧ c.size ≤ largestRegion)) :=
  ⟨map_ends c sound, fun _ _ => mapped_of_map sound,
    fun without => ⟨map_unchanged sound without, map_fails_iff sound without⟩,
    map_made_iff sound⟩

/-! ## A file of three bytes -/

theorem splitOn_t : "t".splitOn "/" = ["t"] := by
  rw [String.splitOn, if_neg (by decide), String.splitOnAux, if_neg (by decide),
    if_neg (by decide), String.splitOnAux, if_pos (by decide)]
  decide

theorem resolve_t : (Host.ofFolders "t").resolve "t" = .ok (.named "t" false) := by
  have short : "t".utf8ByteSize = 1 := rfl
  simp [Host.resolve, Host.follow, Host.ofFolders, Host.foldersOf, Host.empty, splitOn_t, short,
    longestPath, longestName]

def threeBytes : File := File.ofBytes 0o600 [1, 2, 3]

def settingsFor (size : Nat) (create : Bool) : RegionSettings :=
  ⟨"region", size, .file, some "t", create, 0o600⟩

def inMemory (size : Nat) : RegionSettings := ⟨"region", size, .memory, none, true, 0⟩

/-- A region of eight bytes makes the file longer, and one of five bytes that may not make it longer
is refused; one of six bytes in memory has a file of zeros of its own. -/
theorem map_threeBytes :
    (∃ r h', (map (settingsFor 8 true)).result (Host.ofFile "t" threeBytes) = (.value r, h') ∧
      r.size = 8 ∧
      ∃ f, h'.lookup "t" = some f ∧ f.length = 8 ∧ f.byte 2 = 3 ∧ f.byte 3 = 0) ∧
    (∃ e, ((map (settingsFor 5 false)).result (Host.ofFile "t" threeBytes)).1 = .failed e) ∧
    ∃ r h', (map (inMemory 6)).result (Host.ofFile "t" threeBytes) = (.value r, h') ∧
      r.size = 6 ∧ (∃ f, h'.file? r.file = some f ∧ f.length = 6 ∧ f.byte 5 = 0) ∧
      h'.file? ⟨0⟩ = some threeBytes := by
  have leads := Host.ofFile_leadsTo threeBytes resolve_t
  have sound : (Host.ofFile "t" threeBytes).Sound :=
    Host.sound_ofFile "t" (File.ends_ofBytes 0o600 [1, 2, 3])
  generalize Host.ofFile "t" threeBytes = h at leads sound ⊢
  refine ⟨?_, ?_, ?_⟩
  · have opened := leads.openFile rfl true 0o600
    have backing : (openBacking (settingsFor 8 true)).result h =
        (.value (⟨0⟩, 8), h.modify ⟨0⟩ fun f => f.grow 8) := by
      rw [openBacking_of_ok opened leads.there rfl]
      rfl
    have result : (map (settingsFor 8 true)).result h =
        (.value ⟨"region", 8, .file, ⟨0⟩⟩, h.modify ⟨0⟩ fun f => f.grow 8) := by
      rw [map_of_valid rfl]
      exact Op.result_bind_of_value backing _
    obtain ⟨mapped, -⟩ := (map_grows_never_damages (settingsFor 8 true) h sound).2.1 _ _ result
    obtain ⟨size, f, leads', grown⟩ := mapped.made rfl rfl
    have before : h.lookup (settingsFor 8 true).filePath = some threeBytes := leads.lookup
    rw [before] at grown
    refine ⟨_, _, result, size, f, leads'.lookup, grown.length, ?_, grown.zeros 3 (Nat.le_refl 3)⟩
    rw [grown.kept _ rfl 2 (by decide), threeBytes, File.byte_ofBytes]
    rfl
  · have allowed : ∀ f, h.lookup "t" = some f → f.isOpenToOwner = true ∧
        ((settingsFor 5 false).sizeIn f.length ≤ f.length →
          (settingsFor 5 false).sizeIn f.length ≤ largestRegion) := by
      intro f found
      rw [leads.lookup] at found
      cases found
      exact ⟨by decide, by decide⟩
    exact (((map_grows_never_damages (settingsFor 5 false) h sound).2.2.1 rfl).2 allowed).mpr
      (.inr (.inr ⟨_, leads.lookup, .inl (by decide)⟩))
  · have nameable : Nameable "region" := ⟨by simp, by decide⟩
    obtain ⟨-, maps, -, made⟩ := map_grows_never_damages (inMemory 6) h sound
    obtain ⟨r, answered⟩ := (made rfl).mpr ⟨rfl, nameable, by decide⟩
    have result : (map (inMemory 6)).result h = (.value r, _) := Prod.ext answered rfl
    obtain ⟨mapped, -⟩ := maps _ _ result
    obtain ⟨size, new, -, f, there, length, zeros⟩ := mapped.memory rfl
    have other : (⟨0⟩ : FileId) ≠ r.file := by
      intro same
      rw [← same, leads.there] at new
      cases new
    exact ⟨r, _, result, size, ⟨f, there, length, zeros 5⟩,
      (mapped.others _ other).trans leads.there⟩

end Region

end Interprocess
