import Interprocess.Proofs.Region.Mapping
import Interprocess.Proofs.Table.Bounds

/-!
# What attaching looks at

Whoever attaches to a table reads the fields of its header one after another, up to the first that
is wrong, and compares the size of the region last. So a region that is smaller than a header may be
read past its end (`Table.attach_decided_by_header` says when); two such regions with the same bytes
may be told apart by what the file has behind them (`Table.attach_tells_bytes_behind_region`).
-/

namespace Interprocess

/-! ## The fields of a header in turn -/

namespace Header

variable {h : Header} {size n : Nat}

/-- The parts of a header that are read, in turn, before it is decided on. -/
def partsRead (h : Header) : List Part :=
  .magic :: if h.magic ≠ tableMagic then [] else
  .field .version :: if h.version ≠ tableVersion then [] else
  .field .recordSize :: if h.recordSize.toNat ≠ Record.size then [] else
  .field .capacity :: .field .bitmapOffset ::
    if (Layout.ofCapacity h.capacity).bitmapOffset ≠ h.bitmapOffset.toNat then [] else
  [.field .slotsOffset]

/-- The offset of the byte behind all that is read of a header. -/
def readTo (h : Header) : Nat :=
  if h.magic ≠ tableMagic then 8
  else if h.version ≠ tableVersion then 12
  else if h.recordSize.toNat ≠ Record.size then 20
  else if (Layout.ofCapacity h.capacity).bitmapOffset ≠ h.bitmapOffset.toNat then 28
  else 32

theorem readTo_le (h : Header) : h.readTo ≤ headerSize := by
  unfold readTo headerSize
  split
  · decide
  split
  · decide
  split
  · decide
  split <;> decide

theorem exists_partsRead (h : Header) (n : Nat) :
    (∃ part ∈ h.partsRead, n < part.stop) ↔ n < h.readTo := by
  unfold partsRead readTo
  split
  · simp [Part.stop, Part.past]
  split
  · simp [Part.stop, Part.past, Header.Field.index]
    omega
  split
  · simp [Part.stop, Part.past, Header.Field.index]
    omega
  split
  · simp [Part.stop, Part.past, Header.Field.index]
    omega
  · simp [Part.stop, Part.past, Header.Field.index]
    omega

theorem invalidLayout_of_validate {e : SyncError} (refused : h.validate size = .error e) :
    ∃ text, e = .invalidLayout text := by
  unfold validate at refused
  split at refused
  · cases refused
    exact ⟨_, rfl⟩
  split at refused
  · cases refused
    exact ⟨_, rfl⟩
  split at refused
  · cases refused
    exact ⟨_, rfl⟩
  dsimp only at refused
  split at refused
  · cases refused
    exact ⟨_, rfl⟩
  split at refused
  · cases refused
    exact ⟨_, rfl⟩
  · cases refused

end Header

namespace Accesses

theorem trace_bind_of_silent {α β : Type} {f : α → Accesses β}
    (silent : ∀ x m, (f x).trace m = []) (a : Accesses α) (m : Words) :
    (a >>= f).trace m = a.trace m := by
  show (a.bind f).trace m = a.trace m
  induction a generalizing m with
  | done o =>
    cases o with
    | value x => exact silent x m
    | _ => rfl
  | load part next ih => exact congrArg (part :: ·) (ih (part.load m) m)
  | store part content next ih => exact congrArg (part :: ·) (ih (part.store content m))
  | note notices next ih => exact ih m

theorem trace_inspect (size : Nat) (m : Words) :
    (inspect size).trace m = (Header.load m).partsRead := by
  -- each check of the tree is one of the list, on the same field
  refine (trace_read_bind .magic _ m).trans (congrArg (Part.magic :: ·) ?_)
  split
  · rename_i magic
    exact (if_pos magic).symm
  rename_i magic
  refine Eq.trans ?_ (if_neg magic).symm
  refine (trace_read_bind (.field .version) _ m).trans (congrArg (Part.field .version :: ·) ?_)
  split
  · rename_i version
    exact (if_pos version).symm
  rename_i version
  refine Eq.trans ?_ (if_neg version).symm
  refine (trace_read_bind (.field .recordSize) _ m).trans
    (congrArg (Part.field .recordSize :: ·) ?_)
  split
  · rename_i recordSize
    exact (if_pos recordSize).symm
  rename_i recordSize
  refine Eq.trans ?_ (if_neg recordSize).symm
  refine (trace_read_bind (.field .capacity) _ m).trans (congrArg (Part.field .capacity :: ·) ?_)
  refine (trace_read_bind (.field .bitmapOffset) _ m).trans
    (congrArg (Part.field .bitmapOffset :: ·) ?_)
  split
  · rename_i offset
    exact (if_pos offset).symm
  rename_i offset
  exact (if_neg offset).symm

theorem trace_attach {p : GuardPolicy} (valid : p.validate = .ok ()) (region : Region) (m : Words) :
    (attach region p).trace m = (Header.load m).partsRead := by
  rw [attach, valid]
  exact (trace_bind_of_silent (fun _ _ => rfl) (inspect region.size) m).trans
    (trace_inspect region.size m)

end Accesses

namespace Table

variable {region : Region} {p : GuardPolicy} {m m' : Words}

theorem attach_of_valid (valid : p.validate = .ok ()) (region : Region) (m : Words) :
    (attach region p).result m =
      match (Header.load m).validate region.size with
      | .ok l => (.value ⟨region, l, p⟩, m)
      | .error e => (.failed e, m) := by
  rw [attach_looks, valid]
  cases (Header.load m).validate region.size <;> rfl

theorem attach_ends (valid : p.validate = .ok ()) (region : Region) (m : Words) :
    (∃ text, (attach region p).result m = (.failed (.invalidLayout text), m)) ∨
      ∃ t, (attach region p).result m = (.value t, m) ∧ t.region = region ∧ t.policy = p ∧
        t.FitsIn region.size := by
  rw [attach_of_valid valid]
  cases checked : (Header.load m).validate region.size with
  | error e =>
    obtain ⟨text, rfl⟩ := Header.invalidLayout_of_validate checked
    exact .inl ⟨text, rfl⟩
  | ok l =>
    obtain ⟨-, room, rfl⟩ := Header.writtenFor_of_validate checked
    exact .inr ⟨_, rfl, rfl, rfl, rfl, room⟩

theorem attach_of_same_parts (valid : p.validate = .ok ())
    (same : Words.SameBelow (Header.load m).readTo m m') :
    ((attach region p).result m').1 = ((attach region p).result m).1 := by
  refine (Accesses.run_of_same_parts fun part mem j _ high => ?_).2
  rw [Accesses.trace_attach valid] at mem
  have inside : part.stop ≤ (Header.load m).readTo := by
    by_contra past
    have read := (Header.exists_partsRead _ _).mp ⟨part, mem, Nat.lt_of_not_le past⟩
    exact Nat.lt_irrefl _ read
  apply same.get
  rw [Part.stop] at inside
  omega

/-- Attaching reads the header of a region as far as it takes to refuse it, and compares the size
only with what the whole header says. It ends with a layout that is refused or with a handle whose
layout fits, and hangs on nothing but what it has read. It reads past the region just if the last
field that it reads ends behind it, which is never so where it ends with a handle or where the
region has room for a header. -/
theorem attach_decided_by_header (region : Region) (p : GuardPolicy) (valid : p.validate = .ok ())
    (m : Words) :
    Accesses.Performs (Accesses.attach region p) (attach region p) ∧
    ((∃ text, (attach region p).result m = (.failed (.invalidLayout text), m)) ∨
      ∃ t, (attach region p).result m = (.value t, m) ∧ t.region = region ∧ t.policy = p ∧
        t.FitsIn region.size ∧ (Header.load m).readTo ≤ region.size) ∧
    ((∃ part ∈ (Accesses.attach region p).trace m, region.size < part.stop) ↔
      region.size < (Header.load m).readTo) ∧
    (Header.load m).readTo ≤ headerSize ∧
    ∀ m', Words.SameBelow (Header.load m).readTo m m' →
      ((attach region p).result m').1 = ((attach region p).result m).1 := by
  refine ⟨fun _ => rfl, ?_, ?_, Header.readTo_le _,
    fun m' => attach_of_same_parts valid⟩
  · refine (attach_ends valid region m).imp id ?_
    rintro ⟨t, attached, onRegion, policy, fits⟩
    have large := Layout.headerSize_le_totalSize t.layout.capacity
    rw [← fits.shape] at large
    exact ⟨t, attached, onRegion, policy, fits,
      Nat.le_trans (Header.readTo_le _) (Nat.le_trans large fits.fits)⟩
  · rw [Accesses.trace_attach valid]
    exact Header.exists_partsRead _ _

/-! ## A region that ends behind the magic number -/

def ofVersion (version : UInt32) : File :=
  ⟨4096, 0o600, (Header.storeMagic tableMagic Words.zero).set 2 version⟩

theorem get_ofVersion (version : UInt32) {j : Nat} (other : 2 ≠ j) :
    (ofVersion version).words.get j = (Header.storeMagic tableMagic Words.zero).get j :=
  (Words.get_set ..).trans (if_neg other)

theorem magic_ofVersion (version : UInt32) :
    (Header.load (ofVersion version).words).magic = tableMagic :=
  (Words.getLong_congr (get_ofVersion version (by decide))
    (get_ofVersion version (by decide))).trans (Words.getLong_setLong_self ..)

theorem version_ofVersion (version : UInt32) :
    (Header.load (ofVersion version).words).version = version :=
  (Words.get_set ..).trans (if_pos rfl)

def eightBytes : Region := ⟨"region", 8, .file, ⟨0⟩⟩

theorem map_eightBytes (version : UInt32) :
    (Region.map (Region.settingsFor 8 false)).result (Host.ofFile "t" (ofVersion version)) =
      (.value eightBytes, Host.ofFile "t" (ofVersion version)) := by
  have leads := Host.ofFile_leadsTo (ofVersion version) Region.resolve_t
  have allowed : (ofVersion version).isOpenToOwner = true := by
    show ((0o600 : UInt32) &&& 0o600 == 0o600) = true
    decide
  have opened := leads.openFile allowed false 0o600
  have backing : (Region.openBacking (Region.settingsFor 8 false)).result _ = _ :=
    Region.openBacking_of_ok opened leads.there rfl
  rw [Region.map_of_valid rfl]
  exact Op.result_bind_of_value backing _

theorem attach_eightBytes {version : UInt32} (other : version ≠ tableVersion) {p : GuardPolicy}
    (valid : p.validate = .ok ()) :
    ((attach eightBytes p).result (ofVersion version).words).1 =
      .failed (.invalidLayout ("Unsupported table version " ++ toString version.toNat)) := by
  have told := version_ofVersion version
  rw [attach_of_valid valid,
    Header.validate_of_version (magic_ofVersion version) (told.symm ▸ other), told]

theorem readTo_ofVersion {version : UInt32} (other : version ≠ tableVersion) :
    (Header.load (ofVersion version).words).readTo = 12 := by
  have told := version_ofVersion version
  unfold Header.readTo
  rw [if_neg (Decidable.not_not.mpr (magic_ofVersion version)), if_pos (told.symm ▸ other)]

/-- Of a region of eight bytes, the first twelve are read. -/
theorem attach_of_eight_bytes_decided_by_twelve :
    (∃ part ∈ (Accesses.attach eightBytes (Guard.hasty 9)).trace (ofVersion 7).words,
      eightBytes.size < part.stop) ∧
    ∀ m', Words.SameBelow 12 (ofVersion 7).words m' →
      ((attach eightBytes (Guard.hasty 9)).result m').1 =
        .failed (.invalidLayout "Unsupported table version 7") := by
  have other : (7 : UInt32) ≠ tableVersion := by decide
  obtain ⟨-, -, reads, -, decided⟩ :=
    attach_decided_by_header eightBytes (Guard.hasty 9) rfl (ofVersion 7).words
  rw [readTo_ofVersion other] at reads decided
  refine ⟨reads.mpr (by decide), fun m' same => ?_⟩
  rw [decided m' same, attach_eightBytes other rfl]
  rfl

/-- The same region of eight bytes can be had in two files, and holds the same bytes in both; but
attaching to it tells apart what the files have behind it. -/
theorem attach_tells_bytes_behind_region :
    ∃ h h' : Host, ∃ c r p,
      (Region.map c).result h = (.value r, h) ∧ (Region.map c).result h' = (.value r, h') ∧
      r.isFileBacked = true ∧ r.size = 8 ∧ p.validate = .ok () ∧
      Words.SameBelow r.size (h.words r.file) (h'.words r.file) ∧
      ((Host.inFile r.file (attach r p)).result h).1 =
        .failed (.invalidLayout "Unsupported table version 7") ∧
      ((Host.inFile r.file (attach r p)).result h').1 =
        .failed (.invalidLayout "Unsupported table version 9") ∧
      ∃ part ∈ (Accesses.attach r p).trace (h.words r.file), r.size < part.stop := by
  have words (version : UInt32) :
      (Host.ofFile "t" (ofVersion version)).words ⟨0⟩ = (ofVersion version).words := by
    rw [Host.words, (Host.ofFile_leadsTo (ofVersion version) Region.resolve_t).there]
  refine ⟨_, _, Region.settingsFor 8 false, eightBytes, Guard.hasty 9, map_eightBytes 7,
    map_eightBytes 9, rfl, rfl, rfl, ?_, ?_, ?_, ?_⟩
  · show Words.SameBelow 8 (Host.words _ ⟨0⟩) (Host.words _ ⟨0⟩)
    rw [words, words]
    refine Words.SameBelow.of_get fun j below => ?_
    have other : 2 ≠ j := by omega
    rw [get_ofVersion 7 other, get_ofVersion 9 other]
  · rw [Host.inFile, Op.result_within]
    show ((attach _ _).result (Host.words _ ⟨0⟩)).1 = _
    rw [words, attach_eightBytes (by decide) rfl]
    rfl
  · rw [Host.inFile, Op.result_within]
    show ((attach _ _).result (Host.words _ ⟨0⟩)).1 = _
    rw [words, attach_eightBytes (by decide) rfl]
    rfl
  · show ∃ part ∈ (Accesses.attach _ _).trace (Host.words _ ⟨0⟩), 8 < part.stop
    rw [words, Accesses.trace_attach rfl, Header.exists_partsRead, readTo_ofVersion (by decide)]
    decide

end Table

end Interprocess
