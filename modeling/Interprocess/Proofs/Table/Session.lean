import Interprocess.Proofs.Guard.Contention
import Interprocess.Proofs.Table.Objects

/-!
# Tables are maps

A session with one table: whoever made it and whoever attached to it later use it in any order, each
through a handle with a policy of its own, or through views of single objects that they opened
before. Requests that nobody disturbs are answered as the same requests to a map, and the memory
stands for that map all along (`table_is_object_map`).
-/

namespace Interprocess

/-! ## Requests -/

/-- What a view of an object offers. -/
inductive ViewCall where
  | mutex (c : MutexCall)
  | event (c : EventCall)
  | semaphore (c : SemaphoreCall)

/-- What a handle on a table offers. -/
inductive HandleCall where
  | alloc
  | free (slot : UInt32)
  | createMutex (owner : Option ThreadId)
  | createEvent (manualReset signaled : Bool)
  | createSemaphore (initial maximum : UInt32)
  | isAllocated (slot : UInt32)
  | allocatedSlots
  | get (slot : UInt32)
  | snapshot (slot : UInt32)
  | dump
  | stats
  | tryWait (slot : UInt32) (requester : ThreadId)
  /-- Looks whether a slot holds an object of a kind, so that a view of it may be opened. -/
  | check (slot : UInt32) (k : Kind)

/-- What a request to a table is answered with. -/
inductive Reply where
  | done
  | slot (slot : UInt32)
  | flag (b : Bool)
  | slots (slots : List UInt32)
  | record (r : Record)
  | states (states : List (UInt32 × ObjectState))
  | occupancy (o : Occupancy)
  | answer (a : Answer)

/-- A request in a session. Handles and views are numbered from zero as they come up. -/
inductive Request where
  | attach (p : GuardPolicy)
  | call (handle : Nat) (c : HandleCall)
  | openView (handle : Nat) (slot : UInt32) (k : Kind)
  | useView (view : Nat) (c : ViewCall)

def ViewCall.call : ViewCall → Call
  | mutex c => .mutex c
  | event c => .event c
  | semaphore c => .semaphore c

/-! ## Sessions with a table -/

def HandleCall.op (t : Table) : HandleCall → Op Words Reply
  | alloc => .slot <$> t.alloc
  | free slot => (fun _ => .done) <$> t.free slot
  | createMutex owner => .slot <$> t.createMutex owner
  | createEvent manualReset signaled => .slot <$> t.createEvent manualReset signaled
  | createSemaphore initial maximum => .slot <$> t.createSemaphore initial maximum
  | isAllocated slot => .flag <$> t.isAllocated slot
  | allocatedSlots => .slots <$> t.allocatedSlots
  | get slot => .record <$> t.withObject slot fun _ => Op.get
  | snapshot slot => .answer <$> (.state <$> t.snapshot slot)
  | dump => .states <$> t.dump
  | stats => .occupancy <$> t.stats
  | tryWait slot requester => .answer <$> (.acquisition <$> t.tryWait slot requester)
  | check slot k => (fun _ => .done) <$> t.withObject slot fun _ => Record.requireKind k

/-- A view of the object in a slot, opened through a handle. -/
structure View where
  table : Table
  slot : UInt32

def View.op (v : View) (c : ViewCall) : Op Words Reply :=
  .answer <$> v.table.onRecord v.slot (c.call.op v.table.policy)

/-- The memory of a region, and the handles on its table and views of its objects. -/
structure Session where
  memory : Words
  handles : List Table
  views : List View

namespace Session

/-- What a request is answered with, if there is such a handle or view, and the session after it. -/
def answer (region : Region) (s : Session) : Request → Option (Outcome Reply) × Session
  | .attach p =>
    match (Table.attach region p).result s.memory with
    | (.value t, m) => (some (.value .done), { s with memory := m, handles := s.handles ++ [t] })
    | (.failed e, m) => (some (.failed e), { s with memory := m })
    | (.blocked, m) => (some .blocked, { s with memory := m })
  | .call handle c =>
    match s.handles[handle]? with
    | none => (none, s)
    | some t =>
      let (outcome, m) := (c.op t).result s.memory
      (some outcome, { s with memory := m })
  | .openView handle slot k =>
    match s.handles[handle]? with
    | none => (none, s)
    | some t =>
      match ((HandleCall.check slot k).op t).result s.memory with
      | (.value reply, m) =>
        (some (.value reply), { s with memory := m, views := s.views ++ [⟨t, slot⟩] })
      | (outcome, m) => (some outcome, { s with memory := m })
  | .useView view c =>
    match s.views[view]? with
    | none => (none, s)
    | some v =>
      let (outcome, m) := (v.op c).result s.memory
      (some outcome, { s with memory := m })

def run (region : Region) (s : Session) : List Request → List (Option (Outcome Reply)) × Session
  | [] => ([], s)
  | request :: rest =>
    let (reply, s) := s.answer region request
    let (replies, s) := s.run region rest
    (reply :: replies, s)

end Session

/-! ## Sessions with a map -/

/-- What a call through a handle does to the map. -/
def HandleCall.spec {c : UInt32} : HandleCall → ObjectMap c → Except SyncError Reply × ObjectMap c
  | alloc, o => (o.alloc.1.map .slot, o.alloc.2)
  | free slot, o => ((o.free slot).1.map fun _ => .done, (o.free slot).2)
  | createMutex owner, o =>
    ((o.create (.mutex owner)).1.map .slot, (o.create (.mutex owner)).2)
  | createEvent manualReset signaled, o =>
    ((o.create (.event manualReset signaled)).1.map .slot,
      (o.create (.event manualReset signaled)).2)
  | createSemaphore initial maximum, o =>
    ((o.create (.semaphore initial maximum)).1.map .slot,
      (o.create (.semaphore initial maximum)).2)
  | isAllocated slot, o => (.ok (.flag (o.holds slot)), o)
  | allocatedSlots, o => (.ok (.slots o.slots), o)
  | get slot, o =>
    (if o.holds slot then .ok (.record ⟨0, .ofState (o.objectAt slot)⟩)
      else .error (.invalidSlot slot), o)
  | snapshot slot, o => ((o.callHeld slot .snapshot).1.map .answer, o)
  | dump, o => (.ok (.states o.dump), o)
  | stats, o => (.ok (.occupancy o.occupancy), o)
  | tryWait slot requester, o =>
    ((o.callHeld slot (.tryWait requester)).1.map .answer, (o.callHeld slot (.tryWait requester)).2)
  | check slot k, o => ((o.check slot k).map fun _ => .done, o)

/-- A map, the number of handles, and the slots of the views. -/
structure Ledger (c : UInt32) where
  objects : ObjectMap c
  handles : Nat
  views : List UInt32

namespace Ledger

variable {c : UInt32}

def start : Ledger c := ⟨.empty, 1, []⟩

def answer (l : Ledger c) : Request → Option (Except SyncError Reply) × Ledger c
  | .attach p =>
    match p.validate with
    | .ok () => (some (.ok .done), { l with handles := l.handles + 1 })
    | .error e => (some (.error e), l)
  | .call handle call =>
    if handle < l.handles then
      (some (call.spec l.objects).1, { l with objects := (call.spec l.objects).2 })
    else (none, l)
  | .openView handle slot k =>
    if handle < l.handles then
      match l.objects.check slot k with
      | .ok () => (some (.ok .done), { l with views := l.views ++ [slot] })
      | .error e => (some (.error e), l)
    else (none, l)
  | .useView view call =>
    match l.views[view]? with
    | none => (none, l)
    | some slot =>
      (some ((l.objects.call slot call.call).1.map .answer),
        { l with objects := (l.objects.call slot call.call).2 })

def run (l : Ledger c) : List Request → List (Option (Except SyncError Reply)) × Ledger c
  | [] => ([], l)
  | request :: rest =>
    let (reply, l) := l.answer request
    let (replies, l) := l.run rest
    (reply :: replies, l)

end Ledger

/-! ## Calls through handles and views -/

theorem Refines.map {c : UInt32} {α β : Type} {op : Op Words α}
    {spec : ObjectMap c → Except SyncError α × ObjectMap c} (h : Refines op spec) (f : α → β) :
    Refines (f <$> op) fun o => ((spec o).1.map f, (spec o).2) := by
  intro m o rep
  obtain ⟨m', ran, next⟩ := h m o rep
  refine ⟨m', ?_, next⟩
  rw [Op.result_map, ran, Outcome.map_ofExcept]

theorem Refines.read {c : UInt32} {α : Type} {f : Words → α} {spec : ObjectMap c → α}
    (same : ∀ m o, Represents m o → f m = spec o) :
    Refines (Op.read f) fun o : ObjectMap c => (.ok (spec o), o) := by
  intro m o rep
  refine ⟨m, ?_, rep⟩
  rw [Op.result_read, same m o rep]
  rfl

section Calls

variable {c : UInt32} {t : Table}

theorem Table.Serves.isAllocated_refines (serves : Serves c t) (slot : UInt32) :
    Refines (t.isAllocated slot) fun o : ObjectMap c => (.ok (o.holds slot), o) := by
  rw [isAllocated_eq]
  exact .read fun m o h => serves.holds_eq h slot

theorem Table.Serves.allocatedSlots_refines (serves : Serves c t) :
    Refines t.allocatedSlots fun o : ObjectMap c => (.ok o.slots, o) := by
  rw [allocatedSlots_eq]
  exact .read fun m o h => serves.slots_eq h

theorem Table.Serves.stats_refines (serves : Serves c t) :
    Refines t.stats fun o : ObjectMap c => (.ok o.occupancy, o) := by
  rw [stats_eq]
  exact .read fun m o h => serves.occupancy_eq h

theorem Table.Serves.get_refines (serves : Serves c t) (slot : UInt32) :
    Refines ((HandleCall.get slot).op t) (HandleCall.spec (c := c) (.get slot)) := by
  intro m o h
  simp only [HandleCall.op, HandleCall.spec, Op.result_map, withObject_eq]
  cases held : o.holds slot with
  | true =>
    rw [Op.result_bind_of_value (serves.require_of_holds h held),
      serves.onRecord_result h (ObjectMap.lt_of_holds held)]
    exact ⟨_, rfl, h.keep slot⟩
  | false =>
    rw [Op.result_bind_of_failed (serves.require_of_not_holds h held)]
    exact ⟨m, rfl, h⟩

theorem Table.Serves.check_refines (serves : Serves c t) (slot : UInt32) (k : Kind) :
    Refines ((HandleCall.check slot k).op t) (HandleCall.spec (c := c) (.check slot k)) := by
  intro m o h
  simp only [HandleCall.op, HandleCall.spec, Op.result_map, withObject_eq, ObjectMap.check]
  cases held : o.holds slot with
  | true =>
    rw [Op.result_bind_of_value (serves.require_of_holds h held),
      serves.onRecord_result h (ObjectMap.lt_of_holds held), Record.requireKind_result,
      Contents.kind_ofState]
    refine ⟨_, ?_, h.keep slot⟩
    by_cases right : (o.objectAt slot).kind = k
    · simp only [right, if_true]
      rfl
    · simp only [right, if_true, if_false]
      rfl
  | false =>
    rw [Op.result_bind_of_failed (serves.require_of_not_holds h held)]
    exact ⟨m, rfl, h⟩

theorem HandleCall.refines (serves : Table.Serves c t) (call : HandleCall) :
    Refines (call.op t) (call.spec (c := c)) := by
  cases call with
  | alloc => exact serves.alloc_refines.map _
  | free slot => exact (serves.free_refines slot).map _
  | createMutex owner => exact (serves.create_refines (.mutex owner)).map _
  | createEvent manualReset signaled =>
    exact (serves.create_refines (.event manualReset signaled)).map _
  | createSemaphore initial maximum =>
    exact (serves.create_refines (.semaphore initial maximum)).map _
  | isAllocated slot => exact (serves.isAllocated_refines slot).map _
  | allocatedSlots => exact serves.allocatedSlots_refines.map _
  | get slot => exact serves.get_refines slot
  | snapshot slot =>
    intro m o h
    obtain ⟨m', ran, next⟩ :=
      (serves.withObject_refines slot .snapshot .state Record.snapshot rfl).map Reply.answer m o h
    rw [ObjectMap.callHeld_snapshot] at next
    exact ⟨m', ran, next⟩
  | dump => exact serves.dump_refines.map _
  | stats => exact serves.stats_refines.map _
  | tryWait slot requester =>
    exact (serves.withObject_refines slot (.tryWait requester) .acquisition
      (fun p => Record.tryWait p requester) rfl).map Reply.answer
  | check slot k => exact serves.check_refines slot k

/-- A call through a view that was opened before leaves a slot alone that was taken back since. -/
theorem View.refines {v : View} (serves : Table.Serves c v.table) (inside : v.slot < c)
    (call : ViewCall) {m : Words} {o : ObjectMap c} (h : Represents m o) :
    ∃ m', (v.op call).result m = (.ofExcept ((o.call v.slot call.call).1.map .answer), m') ∧
      Represents m' (o.call v.slot call.call).2 := by
  obtain ⟨m', ran, next⟩ := serves.call_refines h inside call.call fun _ => by cases call <;> rfl
  refine ⟨m', ?_, next⟩
  rw [View.op, Op.result_map, ran, Outcome.map_ofExcept]

end Calls

/-! ## Whole sessions -/

/-- A session that stands for a ledger. -/
structure Stands {c : UInt32} (s : Session) (l : Ledger c) : Prop where
  objects : Represents s.memory l.objects
  handles : s.handles.length = l.handles
  views : s.views.map View.slot = l.views
  serve : ∀ t ∈ s.handles, Table.Serves c t
  look : ∀ v ∈ s.views, Table.Serves c v.table ∧ v.slot < c

section Sessions

variable {c : UInt32} {region : Region} {m : Words} {o : ObjectMap c} {s : Session} {l : Ledger c}

theorem Table.attach_result {n : UInt32} (header : Header.load m = Header.ofTable c n)
    (fits : (Layout.ofCapacity c).totalSize ≤ region.size) (p : GuardPolicy) :
    (Table.attach region p).result m =
      (match p.validate with
        | .ok () => .value ⟨region, Layout.ofCapacity c, p⟩
        | .error e => .failed e, m) := by
  rw [Table.attach_looks, header, Header.validate_ofTable fits]
  cases p.validate <;> rfl

theorem Stands.handle_lt (h : Stands s l) {handle : Nat} {t : Table}
    (found : s.handles[handle]? = some t) : handle < l.handles :=
  h.handles ▸ (List.getElem?_eq_some_iff.mp found).1

theorem Stands.handle_not_lt (h : Stands s l) {handle : Nat} (none : s.handles[handle]? = none) :
    ¬ handle < l.handles := by
  rw [← h.handles]
  exact Nat.not_lt.mpr (List.getElem?_eq_none_iff.mp none)

theorem Stands.answer (h : Stands s l) (fits : (Layout.ofCapacity c).totalSize ≤ region.size)
    (request : Request) :
    (s.answer region request).1 = (l.answer request).1.map Outcome.ofExcept ∧
      Stands (s.answer region request).2 (l.answer request).2 := by
  cases request with
  | attach p =>
    simp only [Session.answer, Ledger.answer, Table.attach_result h.objects.header fits]
    cases policy : p.validate with
    | error e => exact ⟨rfl, h⟩
    | ok _ =>
      refine ⟨rfl, h.objects, ?_, h.views, fun t mem => ?_, h.look⟩
      · simp [h.handles]
      · rcases List.mem_append.mp mem with mem | mem
        · exact h.serve t mem
        · obtain rfl := List.mem_singleton.mp mem
          exact ⟨rfl, policy⟩
  | call handle call =>
    cases found : s.handles[handle]? with
    | none =>
      simp only [Session.answer, Ledger.answer, found, h.handle_not_lt found, if_false]
      exact ⟨rfl, h⟩
    | some t =>
      obtain ⟨m', ran, next⟩ :=
        call.refines (h.serve t (List.mem_of_getElem? found)) s.memory l.objects h.objects
      simp only [Session.answer, Ledger.answer, found, h.handle_lt found, ran, if_true]
      exact ⟨rfl, next, h.handles, h.views, h.serve, h.look⟩
  | openView handle slot k =>
    cases found : s.handles[handle]? with
    | none =>
      simp only [Session.answer, Ledger.answer, found, h.handle_not_lt found, if_false]
      exact ⟨rfl, h⟩
    | some t =>
      have serves := h.serve t (List.mem_of_getElem? found)
      obtain ⟨m', ran, next⟩ := serves.check_refines slot k s.memory l.objects h.objects
      simp only [Session.answer, Ledger.answer, found, h.handle_lt found, ran, if_true,
        HandleCall.spec]
      cases checked : l.objects.check slot k with
      | error e => exact ⟨rfl, next, h.handles, h.views, h.serve, h.look⟩
      | ok _ =>
        refine ⟨rfl, next, h.handles, ?_, h.serve, fun v mem => ?_⟩
        · show (s.views ++ [View.mk t slot]).map View.slot = l.views ++ [slot]
          rw [List.map_append, h.views]
          rfl
        · rcases List.mem_append.mp mem with mem | mem
          · exact h.look v mem
          · obtain rfl := List.mem_singleton.mp mem
            exact ⟨serves, ObjectMap.lt_of_check checked⟩
  | useView view call =>
    -- the slot may have been taken back since the view was opened, and handed out again
    have same : l.views[view]? = s.views[view]?.map View.slot := by
      rw [← h.views, List.getElem?_map]
    cases found : s.views[view]? with
    | none =>
      rw [found] at same
      simp only [Session.answer, Ledger.answer, found, same]
      exact ⟨rfl, h⟩
    | some v =>
      rw [found] at same
      obtain ⟨serves, inside⟩ := h.look v (List.mem_of_getElem? found)
      obtain ⟨m', ran, next⟩ := View.refines serves inside call h.objects
      simp only [Session.answer, Ledger.answer, found, same, ran]
      exact ⟨rfl, next, h.handles, h.views, h.serve, h.look⟩

theorem Stands.run (h : Stands s l) (fits : (Layout.ofCapacity c).totalSize ≤ region.size)
    (requests : List Request) :
    (s.run region requests).1 = (l.run requests).1.map (Option.map Outcome.ofExcept) ∧
      Stands (s.run region requests).2 (l.run requests).2 := by
  induction requests generalizing s l with
  | nil => exact ⟨rfl, h⟩
  | cons request rest ih =>
    obtain ⟨reply, next⟩ := h.answer fits request
    obtain ⟨replies, last⟩ := ih next
    refine ⟨?_, last⟩
    simp only [Session.run, Ledger.run, reply, replies, List.map_cons]

theorem Table.create_result {settings : TableSettings} (valid : settings.validate = .ok ())
    (fits : settings.regionSize ≤ region.size) (m : Words) :
    (Table.create region settings).result m =
      (.value ⟨region, settings.layout, settings.guard⟩, Table.layOut settings.layout m) := by
  have checked : (Op.ofExcept (σ := Words) settings.validate).result m = (.value (), m) := by
    rw [Op.result_ofExcept, valid]
    rfl
  have room : ¬ region.size < settings.regionSize := Nat.not_lt.mpr fits
  rw [Table.create_eq, Op.result_bind_of_value checked, if_neg room]
  rfl

theorem Stands.start (region : Region) {settings : TableSettings}
    (valid : settings.validate = .ok ()) (m : Words) :
    Stands ⟨Table.layOut settings.layout m, [⟨region, settings.layout, settings.guard⟩], []⟩
      (.start : Ledger settings.capacity) where
  objects := Table.represents_layOut settings.capacity m
  handles := rfl
  views := rfl
  serve t mem := by
    obtain rfl := List.mem_singleton.mp mem
    refine ⟨rfl, ?_⟩
    unfold TableSettings.validate at valid
    split at valid
    · cases valid
    · exact valid
  look _ mem := absurd mem List.not_mem_nil

end Sessions

/-- A table that is made in a region, whatever the region held, and then used through any handles
and views in any order answers every request as a map from its slots to objects does, and its memory
stands for that map. -/
theorem table_is_object_map (region : Region) (settings : TableSettings)
    (valid : settings.validate = .ok ()) (fits : settings.regionSize ≤ region.size) (m : Words)
    (requests : List Request) :
    ∃ t m₀, (Table.create region settings).result m = (.value t, m₀) ∧
      (Session.run region ⟨m₀, [t], []⟩ requests).1 =
        ((Ledger.start : Ledger settings.capacity).run requests).1.map
          (Option.map Outcome.ofExcept) ∧
      Represents (Session.run region ⟨m₀, [t], []⟩ requests).2.memory
        ((Ledger.start : Ledger settings.capacity).run requests).2.objects := by
  obtain ⟨replies, stands⟩ := (Stands.start region valid m).run fits requests
  exact ⟨_, _, Table.create_result valid fits m, replies, stands.objects⟩

/-- A view is opened through a second handle, and used once more when the event is gone; a semaphore
that makes no sense and a mutex for nobody take no slot, and a mutex that is made for somebody is
theirs, whichever handle it is seen through. -/
theorem view_outlives_event :
    ∃ (region : Region) (settings : TableSettings) (t : Table) (m₀ : Words),
      (settings.validate = .ok () ∧ settings.regionSize ≤ region.size) ∧
      (Table.create region settings).result Words.zero = (.value t, m₀) ∧
      (Session.run region ⟨m₀, [t], []⟩
        [.call 0 (.createEvent false true), .attach (Guard.impatient 9), .openView 1 0 .event,
          .useView 0 (.event .poll), .call 0 (.free 0), .useView 0 (.event .poll),
          .call 1 (.createSemaphore 1 0), .call 1 .allocatedSlots,
          .call 0 (.createMutex (some .none)), .call 0 (.createMutex (some ⟨5⟩)),
          .call 1 (.snapshot 0), .call 1 (.tryWait 0 ⟨6⟩), .call 1 .allocatedSlots]).1 =
        [some (.value (.slot 0)), some (.value .done), some (.value .done),
          some (.value (.answer (.flag true))), some (.value .done),
          some (.failed (.typeMismatch (some .event) .unknown)),
          some (.failed
            (.invalidParameter "maximum" "Semaphore maximum must be greater than 0")),
          some (.value (.slots [])),
          some (.failed
            (.invalidParameter "requester" "Requester must not be the unheld sentinel")),
          some (.value (.slot 0)), some (.value (.answer (.state (.mutex ⟨⟨5⟩, 1, 0⟩)))),
          some (.value (.answer (.acquisition .notAvailable))), some (.value (.slots [0]))] := by
  obtain ⟨t, m₀, made, replies, -⟩ := table_is_object_map { (default : Region) with size := 128 }
    ⟨2, Guard.impatient 7⟩ rfl (by decide) Words.zero
    [.call 0 (.createEvent false true), .attach (Guard.impatient 9), .openView 1 0 .event,
      .useView 0 (.event .poll), .call 0 (.free 0), .useView 0 (.event .poll),
      .call 1 (.createSemaphore 1 0), .call 1 .allocatedSlots,
      .call 0 (.createMutex (some .none)), .call 0 (.createMutex (some ⟨5⟩)),
      .call 1 (.snapshot 0), .call 1 (.tryWait 0 ⟨6⟩), .call 1 .allocatedSlots]
  exact ⟨_, _, t, m₀, ⟨rfl, by decide⟩, made, replies.trans rfl⟩

end Interprocess
