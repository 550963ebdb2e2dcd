import Interprocess.Proofs.Table.Operations

/-!
# Making objects and reading all of them

What making an object does to the map, also when it fails and the slot is taken back, and what is
read of all objects at once.
-/

namespace Interprocess

theorem Blueprint.setUp_blank {p : GuardPolicy} (valid : p.canClaim = true) (b : Blueprint) :
    (b.setUp p).result ⟨0, .ofState .unknown⟩ =
      match b.object with
      | .ok state => (.value (), ⟨0, .ofState state⟩)
      | .error e => (.failed e, ⟨0, .ofState .unknown⟩) := by
  rw [Blueprint.setUp_result, b.firstState_eq_object]
  cases b.object with
  | ok state =>
    simp only [Record.guarded_free valid, Record.setUpBody_run]
    rfl
  | error e => rfl

namespace Table

namespace Serves

variable {c : UInt32} {t : Table} {m : Words} {o : ObjectMap c}

/-! ## Making objects -/

/-- A slot is handed out and its record set up; if that fails the map is as before. -/
theorem create_refines (serves : Serves c t) (b : Blueprint) :
    Refines (t.createWith fun p => b.setUp p) fun o : ObjectMap c => o.create b := by
  intro m o h
  obtain ⟨m₁, ran, next⟩ := serves.alloc_refines m o h
  rw [createWith_eq]
  cases found : o.leastFree with
  | none =>
    simp only [ObjectMap.alloc, found] at ran next
    rw [Op.result_bind_of_failed ran]
    simp only [ObjectMap.create, found]
    exact ⟨m₁, rfl, next⟩
  | some slot =>
    obtain ⟨inside, free⟩ := ObjectMap.of_leastFree found
    simp only [ObjectMap.alloc, found] at ran next
    have held : (o.put slot (some .unknown)).holds slot = true := ObjectMap.holds_put_self inside _
    have blank : (o.put slot (some .unknown)).objectAt slot = .unknown :=
      ObjectMap.objectAt_put_self inside _
    have setUp := serves.onRecord_result next inside (b.setUp t.policy)
    rw [blank, Blueprint.setUp_blank serves.canClaim] at setUp
    rw [Op.result_bind_of_value ran]
    cases first : b.object with
    | ok state =>
      simp only [first] at setUp
      rw [Op.result_bind_of_value (Op.result_attempt_of_value setUp)]
      simp only [ObjectMap.create, found, first]
      refine ⟨_, rfl, ?_⟩
      rw [← ObjectMap.put_put o slot (some .unknown)]
      exact next.put held state
    | error e =>
      -- the record is still blank, so that taking the slot back leads to the map from before
      simp only [first] at setUp
      have same := next.put held .unknown
      rw [ObjectMap.put_put] at same
      obtain ⟨m₂, freed, after⟩ := serves.free_refines slot _ _ same
      simp only [ObjectMap.free, held, if_true] at freed after
      rw [Op.result_bind_of_value (Op.result_attempt_of_failed setUp)]
      simp only [ObjectMap.create, found, first]
      refine ⟨m₂, Op.result_bind_of_value freed _, ?_⟩
      rwa [ObjectMap.put_put, ObjectMap.put_none free] at after

/-! ## Reading all objects -/

theorem snapshot_result (serves : Serves c t) (h : Represents m o) {slot : UInt32}
    (inside : slot < c) :
    (t.onRecord slot (Record.snapshot t.policy)).result m =
      (.value (o.objectAt slot),
        m.setRecord ((Layout.ofCapacity c).recordIndex slot) ⟨0, .ofState (o.objectAt slot)⟩) := by
  rw [serves.onRecord_result h inside, Record.snapshot, Record.guarded_free serves.canClaim]
  simp only [Body.run_bind, Body.run_pure, Record.snapshotBody_run, Contents.state_ofState]
  rfl

theorem snapshots_result (serves : Serves c t) (h : Represents m o) (slots : List UInt32)
    (inside : ∀ slot ∈ slots, slot < c) :
    ∃ m', (t.snapshots slots).result m =
        (.value (slots.map fun slot => (slot, o.objectAt slot)), m') ∧ Represents m' o := by
  induction slots generalizing m with
  | nil => exact ⟨m, rfl, h⟩
  | cons slot rest ih =>
    have first := serves.snapshot_result h (inside slot List.mem_cons_self)
    obtain ⟨m', others, next⟩ :=
      ih (h.keep slot) fun other mem => inside other (List.mem_cons_of_mem _ mem)
    refine ⟨m', ?_, next⟩
    rw [snapshots_cons, Op.result_bind_of_value first, Op.result_bind_of_value others]
    rfl

theorem dump_refines (serves : Serves c t) :
    Refines t.dump fun o : ObjectMap c => (.ok o.dump, o) := by
  intro m o h
  have listed : t.allocatedSlots.result m = (.value o.slots, m) := by
    rw [allocatedSlots_eq, Op.result_read, serves.slots_eq h]
  rw [dump_eq, Op.result_bind_of_value listed]
  exact serves.snapshots_result h o.slots fun slot mem =>
    ObjectMap.lt_of_holds (ObjectMap.mem_slots.mp mem)

end Serves

end Table

/-! ## Occupancy -/

theorem Occupancy.foldl_record (kinds : List Kind) (s : Occupancy) :
    kinds.foldl Occupancy.record s =
      { capacity := s.capacity
        allocated := s.allocated + UInt32.ofNat kinds.length
        mutexes := s.mutexes + UInt32.ofNat (kinds.count .mutex)
        events := s.events + UInt32.ofNat (kinds.count .event)
        semaphores := s.semaphores + UInt32.ofNat (kinds.count .semaphore)
        uninitialized := s.uninitialized + UInt32.ofNat (kinds.count .unknown) } := by
  have later (x : UInt32) (n : Nat) : x + 1 + UInt32.ofNat n = x + UInt32.ofNat (n + 1) := by
    rw [UInt32.ofNat_add, UInt32.add_assoc, UInt32.add_comm 1]
    rfl
  induction kinds generalizing s with
  | nil => simp
  | cons k rest ih =>
    rw [List.foldl_cons, ih]
    cases k <;> simp [record, later]

namespace Table

def kinds (t : Table) (m : Words) : List Kind :=
  (t.slots m).map fun slot => (m.record (t.layout.recordIndex slot)).contents.kind

theorem occupancy_eq_foldl (t : Table) (m : Words) :
    t.occupancy m = (t.kinds m).foldl Occupancy.record (Occupancy.empty t.layout.capacity) := by
  rw [kinds, List.foldl_map]
  rfl

theorem Serves.occupancy_eq {c : UInt32} {t : Table} {m : Words} {o : ObjectMap c}
    (serves : Serves c t) (h : Represents m o) : t.occupancy m = o.occupancy := by
  have kinds : t.kinds m = o.kinds := by
    rw [Table.kinds, serves.slots_eq h]
    refine List.map_congr_left fun slot mem => ?_
    rw [serves.record_eq h (ObjectMap.lt_of_holds (ObjectMap.mem_slots.mp mem))]
    exact Contents.kind_ofState _
  have capacity : t.layout.capacity = c := by
    rw [serves.layout]
    rfl
  rw [occupancy_eq_foldl, kinds, capacity, Occupancy.foldl_record]
  simp [Occupancy.empty, ObjectMap.occupancy, ObjectMap.kinds]

end Table

end Interprocess
