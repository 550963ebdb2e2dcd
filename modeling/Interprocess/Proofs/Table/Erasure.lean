import Interprocess.Proofs.Table.Bounds

/-!
# A new table shows nothing of what was there before

To make a table either changes nothing, or leaves a table that shows nothing of what the region held
(`Table.create_erases`). Every word of the new table is stored: the magic number and the fields of
the header, and the body, which begins where the header ends. So two regions with a new table agree
up to its end, whatever they held. They stay alike for whoever deals with them (`Client.Alike`):
what is reached through a handle or a reference ends where the regions agree, and leaves the fields
alone that tell the layout; who attaches reads the header and gets a layout that ends there too; and
a table that is made later, larger or smaller, wipes all that it will use.
-/

namespace Interprocess

/-! ## Laying out -/

namespace Words

variable {m m' : Words} {P : Nat → Prop}

/-- Two memories with the same words where `P` says. -/
def AgreeWhere (P : Nat → Prop) (m m' : Words) : Prop := ∀ j, P j → m.get j = m'.get j

theorem AgreeWhere.store (h : AgreeWhere P m m') (p : Part) (c : p.Content) :
    AgreeWhere (fun j => P j ∨ p.first ≤ j ∧ j < p.past) (p.store c m) (p.store c m') := by
  intro j known
  by_cases inside : p.first ≤ j ∧ j < p.past
  · exact Part.get_store_inside c inside.1 inside.2
  · have before : P j := known.resolve_right inside
    have outside : j < p.first ∨ p.past ≤ j := by omega
    rw [Part.get_store_outside c outside, Part.get_store_outside c outside, h j before]

end Words

theorem Layout.totalSize_whole (c : UInt32) : (ofCapacity c).totalSize % 4 = 0 := by
  have whole := (slotsOffset_ofCapacity c).2
  have total : (ofCapacity c).totalSize = (ofCapacity c).slotsOffset + c.toNat * Record.size := rfl
  rw [Record.size] at total
  omega

namespace Table

variable {c : UInt32} {m m' : Words} {j : Nat}

theorem get_layOut_inside (c : UInt32) (m m' : Words)
    (inside : 4 * j < (Layout.ofCapacity c).totalSize) :
    (layOut (Layout.ofCapacity c) m).get j = (layOut (Layout.ofCapacity c) m').get j := by
  have whole := Layout.totalSize_whole c
  have start : (Layout.ofCapacity c).bitmapOffset / 4 = 8 := by
    simp [Layout.ofCapacity, headerSize]
  let l := Layout.ofCapacity c
  let h := (default : Header).prepare l
  have nowhere : Words.AgreeWhere (fun _ => False) m m' := fun _ never => never.elim
  have stored := ((((((((nowhere.store .magic 0).store (.body l) ()).store
    (.field .version) h.version).store (.field .capacity) h.capacity).store
    (.field .recordSize) h.recordSize).store (.field .allocated) h.allocated).store
    (.field .bitmapOffset) h.bitmapOffset).store (.field .slotsOffset) h.slotsOffset).store
    .magic tableMagic
  apply stored
  simp only [Part.first, Part.past, Header.Field.index, Header.allocatedIndex, l, start]
  omega

theorem get_layOut_past (c : UInt32) (m : Words)
    (outside : (Layout.ofCapacity c).totalSize / 4 ≤ j) :
    (layOut (Layout.ofCapacity c) m).get j = m.get j := by
  have large := Layout.headerSize_le_totalSize c
  rw [headerSize] at large
  have untouched : (Accesses.layOut (Layout.ofCapacity c)).All
      (fun part => j < part.first ∨ part.past ≤ j) fun _ => True := by
    refine Accesses.layOut_all (fun part header => ?_) (.inr outside)
    have stop := header.stop_le
    rw [Part.stop, headerSize] at stop
    omega
  exact Accesses.get_run untouched m

theorem sameBelow_layOut (c : UInt32) (m m' : Words) :
    Words.SameBelow (Layout.ofCapacity c).totalSize (layOut (Layout.ofCapacity c) m)
      (layOut (Layout.ofCapacity c) m') :=
  .of_get fun _ inside => get_layOut_inside c m m' inside

theorem byte_layOut_past (c : UInt32) (m : Words) {i : Nat}
    (outside : (Layout.ofCapacity c).totalSize ≤ i) :
    (layOut (Layout.ofCapacity c) m).byte i = m.byte i :=
  Words.byte_congr (get_layOut_past c m (Nat.div_le_div_right outside))

theorem sameBelow_layOut_of {n : Nat} (same : Words.SameBelow n m m') (c : UInt32) :
    Words.SameBelow (max n (Layout.ofCapacity c).totalSize) (layOut (Layout.ofCapacity c) m)
      (layOut (Layout.ofCapacity c) m') := by
  intro i below
  by_cases inside : i < (Layout.ofCapacity c).totalSize
  · exact sameBelow_layOut c m m' i inside
  · have outside := Nat.not_lt.mp inside
    rw [byte_layOut_past c m outside, byte_layOut_past c m' outside]
    exact same i (by omega)

theorem create_ends (region : Region) (settings : TableSettings) (m : Words) :
    (create region settings).result m =
      match settings.validate with
      | .error e => (.failed e, m)
      | .ok _ =>
        if region.size < settings.regionSize then (.failed (tooSmall region settings), m)
        else (.value ⟨region, settings.layout, settings.guard⟩, layOut settings.layout m) := by
  rw [create_eq, Op.result_bind, Op.result_ofExcept]
  cases settings.validate with
  | error e => rfl
  | ok _ =>
    simp only [Outcome.ofExcept]
    split <;> rfl

end Table

theorem TableSettings.validate_fails_iff {settings : TableSettings} :
    (∃ e, settings.validate = .error e) ↔
      settings.capacity = 0 ∨ ∃ e, settings.guard.validate = .error e := by
  unfold validate
  split
  · rename_i none
    exact ⟨fun _ => .inl none, fun _ => ⟨_, rfl⟩⟩
  · rename_i some
    exact ⟨.inr, fun h => h.resolve_left some⟩

/-! ## Two regions with the same table -/

/-- Two memories that no dealing of a client can tell apart: they agree up to where its handles and
references end, and the header tells no table that ends later. -/
structure Client.Alike (n : Nat) (s : Client) (m m' : Words) : Prop where
  fits : s.FitsIn n
  same : Words.SameBelow n m m'
  large : headerSize ≤ n
  header : (Layout.ofCapacity (Header.load m).capacity).totalSize ≤ n

/-- A dealing ends in the same way on two memories, and leaves them alike. -/
def Dealing.TellsNothing (region : Region) (s : Client) (m m' : Words) (d : Dealing) : Prop :=
  ((d.op region s).result m).1 = ((d.op region s).result m').1 ∧
    ∃ n, (s.gain ((d.op region s).result m).1).Alike n ((d.op region s).result m).2
      ((d.op region s).result m').2

namespace Client.Alike

variable {n : Nat} {s : Client} {m m' : Words} {region : Region}

theorem through (h : s.Alike n m m') {d : Dealing} (goes : d.goesThrough = true) :
    d.TellsNothing region s m m' := by
  have lasting : (d.accesses region s).All (Part.Lasting n) (Gain.FitsIn n) := h.fits.lasting goes
  have below : (d.accesses region s).All (fun part => part.stop ≤ n) (Gain.FitsIn n) :=
    lasting.mono (fun _ part => part.1.2) fun _ => id
  obtain ⟨ends, same⟩ := Accesses.run_congr below h.same
  -- the field that tells the capacity is none of the parts that last
  have capacity : (Header.load ((d.accesses region s).run m).2).capacity =
      (Header.load m).capacity :=
    Accesses.get_run (lasting.mono (fun _ part => .inl (Nat.lt_of_lt_of_le (by decide) part.2))
      fun _ _ => trivial) m
  rw [Dealing.TellsNothing, ← d.run_accesses region s m, ← d.run_accesses region s m']
  refine ⟨ends, n, h.fits.gain fun g ended => below.value (Prod.ext ended rfl), same, h.large, ?_⟩
  rw [capacity]
  exact h.header

theorem attach (h : s.Alike n m m') (p : GuardPolicy) :
    (Dealing.attach p).TellsNothing region s m m' := by
  have below : (Accesses.attach region p).All (fun part => part.stop ≤ n) fun _ => True :=
    (Accesses.attach_all region p).mono (fun _ header => Nat.le_trans header.stop_le h.large)
      fun _ _ => trivial
  have ends : ((Table.attach region p).result m).1 = ((Table.attach region p).result m').1 :=
    (Accesses.run_congr below h.same).1
  have leaves (m : Words) : ((Table.attach region p).result m).2 = m :=
    congrArg Prod.snd (Table.attach_looks region p m)
  rw [Dealing.TellsNothing, Dealing.op, Op.result_map, Op.result_map, leaves, leaves, ends]
  refine ⟨rfl, n, h.fits.gain fun g ended => ?_, h.same, h.large, h.header⟩
  rcases attached : ((Table.attach region p).result m).1 with t | e | _
  · rw [← ends, attached] at ended
    cases ended
    obtain ⟨-, l, accepted, rfl⟩ := Table.of_attach region p (Prod.ext attached (leaves m))
    obtain ⟨-, -, rfl⟩ := Header.writtenFor_of_validate accepted
    exact ⟨rfl, h.header⟩
  · rw [← ends, attached] at ended
    cases ended
  · rw [← ends, attached] at ended
    cases ended

theorem create (h : s.Alike n m m') (settings : TableSettings) :
    (Dealing.create settings).TellsNothing region s m m' := by
  rw [Dealing.TellsNothing, Dealing.op, Op.result_map, Op.result_map, Table.create_ends,
    Table.create_ends]
  cases settings.validate with
  | error e => exact ⟨rfl, n, h⟩
  | ok _ =>
    simp only
    split
    · exact ⟨rfl, n, h⟩
    · let l := Layout.ofCapacity settings.capacity
      have more := h.fits.mono (Nat.le_max_left n l.totalSize)
      refine ⟨rfl, max n l.totalSize, more.gain ?_,
        Table.sameBelow_layOut_of h.same settings.capacity,
        Nat.le_trans h.large (Nat.le_max_left _ _), ?_⟩
      · rintro _ ⟨⟩
        exact ⟨rfl, Nat.le_max_right _ _⟩
      · show (Layout.ofCapacity (Header.load (Table.layOut l m)).capacity).totalSize ≤ _
        rw [Table.load_layOut]
        exact Nat.le_max_right _ _

theorem step (h : s.Alike n m m') (d : Dealing) : d.TellsNothing region s m m' := by
  cases d with
  | create settings => exact h.create settings
  | attach p => exact h.attach p
  | call | take | use => exact h.through rfl

theorem run (h : s.Alike n m m') (dealings : List Dealing) :
    (s.run region dealings m).1 = (s.run region dealings m').1 := by
  induction dealings generalizing n s m m' with
  | nil => rfl
  | cons d rest ih =>
    have told : d.TellsNothing region s m m' := h.step d
    obtain ⟨ends, n', next⟩ := told
    have later := ih next
    simp only [Client.run, ← ends, later]

end Client.Alike

/-! ## What making a table leaves -/

/-- A table was made: its handle, its header and the zeros behind it; what lies past it is as
before. -/
structure Table.Fresh (region : Region) (settings : TableSettings) (m : Words) (t : Table)
    (m₁ : Words) : Prop where
  handle : t = ⟨region, settings.layout, settings.guard⟩
  header : Header.load m₁ = ⟨tableMagic, tableVersion, settings.capacity, 20, 0, 32,
    UInt32.ofNat settings.layout.slotsOffset⟩
  zeros : ∀ i, 32 ≤ i → i < settings.regionSize → m₁.byte i = 0
  kept : ∀ i, settings.regionSize ≤ i → m₁.byte i = m.byte i

theorem Table.fresh_of_create {region : Region} {settings : TableSettings} {m m₁ : Words}
    {t : Table} (made : (Table.create region settings).result m = (.value t, m₁)) :
    Table.Fresh region settings m t m₁ := by
  obtain ⟨valid, fits⟩ := Table.of_create made
  rw [Table.create_result valid fits] at made
  cases made
  refine ⟨rfl, Table.load_layOut settings.capacity m, fun i low high => ?_,
    fun i past => Table.byte_layOut_past settings.capacity m past⟩
  apply Words.byte_eq_zero
  have whole : settings.regionSize % 4 = 0 := Layout.totalSize_whole settings.capacity
  have inside : i / 4 < settings.regionSize / 4 := by omega
  exact Table.get_layOut settings.capacity m (by omega) inside

/-- To make a table fails just if it would have no slots, its guards could not be waited for, or the
region is too small, and then leaves the region as it was. Otherwise it ends with a new table: a
complete header, zeros up to the end of the table, and past that what was there before. Up to its
end the table is the same whatever the region held, and nothing that is done with the region from
then on has another result: no call through the handle or one that is attached later, no use of a
reference, and no table that is made over it. -/
theorem Table.create_erases (region : Region) (settings : TableSettings) (m : Words) :
    ((∃ e m', (Table.create region settings).result m = (.failed e, m')) ↔
      settings.capacity = 0 ∨ (∃ e, settings.guard.validate = .error e) ∨
        region.size < settings.regionSize) ∧
    (∀ e m', (Table.create region settings).result m = (.failed e, m') → m' = m) ∧
    (∀ m', (Table.create region settings).result m ≠ (.blocked, m')) ∧
    ∀ t m₁, (Table.create region settings).result m = (.value t, m₁) →
      Table.Fresh region settings m t m₁ ∧
        ∀ m', ∃ m₁', (Table.create region settings).result m' = (.value t, m₁') ∧
          Words.SameBelow settings.regionSize m₁ m₁' ∧
          ∀ dealings : List Dealing,
            (Client.run region dealings ⟨[t], []⟩ m₁).1 =
              (Client.run region dealings ⟨[t], []⟩ m₁').1 := by
  refine ⟨?_, fun e m' failed => ?_, fun m' blocked => ?_, fun t m₁ made => ?_⟩
  · rw [← or_assoc, ← TableSettings.validate_fails_iff, Table.create_ends]
    cases settings.validate with
    | error e => exact ⟨fun _ => .inl ⟨e, rfl⟩, fun _ => ⟨e, m, rfl⟩⟩
    | ok _ =>
      simp only
      split
      · rename_i small
        exact ⟨fun _ => .inr small, fun _ => ⟨_, m, rfl⟩⟩
      · rename_i large
        refine ⟨?_, ?_⟩
        · rintro ⟨e, m', ⟨⟩⟩
        · rintro (⟨e, ⟨⟩⟩ | small)
          exact absurd small large
  · rw [Table.create_ends] at failed
    split at failed
    · cases failed
      rfl
    · split at failed
      · cases failed
        rfl
      · cases failed
  · rw [Table.create_ends] at blocked
    split at blocked
    · cases blocked
    · split at blocked <;> cases blocked
  · refine ⟨Table.fresh_of_create made, fun m' => ?_⟩
    obtain ⟨valid, fits⟩ := Table.of_create made
    rw [Table.create_result valid fits] at made
    cases made
    have same := Table.sameBelow_layOut settings.capacity m m'
    refine ⟨_, Table.create_result valid fits m', same, fun dealings => ?_⟩
    have alike : Client.Alike settings.regionSize
        ⟨[⟨region, settings.layout, settings.guard⟩], []⟩ (Table.layOut settings.layout m)
        (Table.layOut settings.layout m') := by
      refine ⟨⟨fun t mem => ?_, fun v mem => absurd mem List.not_mem_nil⟩, same,
        Layout.headerSize_le_totalSize _, ?_⟩
      · obtain rfl := List.mem_singleton.mp mem
        exact ⟨rfl, Nat.le_refl _⟩
      · rw [TableSettings.layout, Table.load_layOut]
        exact Nat.le_refl _
    exact alike.run dealings

/-- The region held a larger table, with a mutex whose guard somebody has. A table of two slots is
made over it and later one of four, and a request for a thousand slots changes nothing. -/
theorem Table.create_erases_held_guard :
    let region : Region := { (default : Region) with size := 256 }
    ∃ (m m₁ m₁' : Words) (t : Table),
      m.record ((Layout.ofCapacity 6).recordIndex 0) = ⟨9, ⟨1, 5, 1, 0⟩⟩ ∧
      (∃ e, (Table.create region ⟨1000, Guard.hasty 7⟩).result m = (.failed e, m)) ∧
      (Table.create region ⟨2, Guard.hasty 7⟩).result m = (.value t, m₁) ∧
      Table.Fresh region ⟨2, Guard.hasty 7⟩ m t m₁ ∧
      (Table.create region ⟨2, Guard.hasty 7⟩).result Words.zero = (.value t, m₁') ∧
      let dealings : List Dealing :=
        [.call 0 (.request (.createMutex (some ⟨5⟩))), .take 0 0, .attach (Guard.hasty 9),
          .create ⟨4, Guard.hasty 7⟩, .use 0 (Op.exchange fun _ => (.done, ⟨0, 1, 7, 7, 7⟩)),
          .call 1 (.sweep ⟨5⟩), .call 2 (.request .dump)]
      (Client.run region dealings ⟨[t], []⟩ m₁).1 =
        (Client.run region dealings ⟨[t], []⟩ m₁').1 := by
  intro region
  let m := (Table.layOut (.ofCapacity 6) Words.zero).setRecord ((Layout.ofCapacity 6).recordIndex 0)
    ⟨9, ⟨1, 5, 1, 0⟩⟩
  have made : (Table.create region ⟨2, Guard.hasty 7⟩).result m = (.value ⟨_, _, _⟩, _) :=
    Table.create_result rfl (by decide) m
  obtain ⟨refused, unchanged, -, -⟩ := Table.create_erases region ⟨1000, Guard.hasty 7⟩ m
  obtain ⟨e, m', failed⟩ := refused.mpr (.inr (.inr (by decide)))
  obtain rfl := unchanged e m' failed
  obtain ⟨-, -, -, erases⟩ := Table.create_erases region ⟨2, Guard.hasty 7⟩ m
  obtain ⟨fresh, others⟩ := erases _ _ made
  obtain ⟨m₁', made', -, same⟩ := others Words.zero
  exact ⟨m, _, m₁', _, Words.record_setRecord_self .., ⟨e, failed⟩, made, fresh, made', same _⟩

end Interprocess
