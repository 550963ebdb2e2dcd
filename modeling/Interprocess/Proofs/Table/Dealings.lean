import Interprocess.Proofs.Table.Session
import Interprocess.Proofs.Table.TableAccesses

/-!
# Dealings with a region

What a process does with the tables of one region, one thing after another: it makes tables and
attaches to them, calls what their handles offer, takes references to records and uses those, also
when the slot is no longer handed out. A whole list of dealings has one tree of accesses
(`Client.run_accesses`).
-/

namespace Interprocess

/-- What a handle offers: requests, a sweep, and a description. -/
inductive TableCall where
  | request (c : HandleCall)
  | sweep (owner : ThreadId)
  | describe

/-- What a process does. Handles and references are numbered from zero as they come up. -/
inductive Dealing where
  | create (settings : TableSettings)
  | attach (p : GuardPolicy)
  | call (handle : Nat) (c : TableCall)
  /-- Takes a reference to the record of a slot, if the slot is handed out. -/
  | take (handle : Nat) (slot : UInt32)
  /-- Does something to the record that a reference leads to. -/
  | use (reference : Nat) (op : Op Record Answer)

/-- What a dealing brings. -/
inductive Gain where
  | handle (t : Table)
  | reference (v : View)
  | reply (r : Reply)
  | count (n : Nat)
  | text (text : String)
  /-- There is no such handle or reference. -/
  | nothing

/-- The handles and references of a process. -/
structure Client where
  handles : List Table
  references : List View

def Client.gain (s : Client) : Outcome Gain → Client
  | .value (.handle t) => { s with handles := s.handles ++ [t] }
  | .value (.reference v) => { s with references := s.references ++ [v] }
  | _ => s

/-! ## Operations -/

def TableCall.op (t : Table) : TableCall → Op Words Gain
  | request c => .reply <$> c.op t
  | sweep owner => .count <$> t.abandonMutexes owner
  | describe => .text <$> t.description

def Dealing.op (region : Region) (s : Client) : Dealing → Op Words Gain
  | create settings => .handle <$> Table.create region settings
  | attach p => .handle <$> Table.attach region p
  | call handle c =>
    match s.handles[handle]? with
    | some t => c.op t
    | none => pure .nothing
  | take handle slot =>
    match s.handles[handle]? with
    | some t => (fun _ => .reference ⟨t, slot⟩) <$> t.require slot
    | none => pure .nothing
  | use reference op =>
    match s.references[reference]? with
    | some v => (fun a => .reply (.answer a)) <$> v.table.onRecord v.slot op
    | none => pure .nothing

/-- How a list of dealings ends, one after another, with the client and the memory after it. -/
def Client.run (region : Region) :
    List Dealing → Client → Words → (List (Outcome Gain) × Client) × Words
  | [], s, m => (([], s), m)
  | d :: rest, s, m =>
    let (o, m) := (d.op region s).result m
    let ((outcomes, s), m) := run region rest (s.gain o) m
    ((o :: outcomes, s), m)

/-! ## Accesses -/

def HandleCall.accesses (t : Table) : HandleCall → Accesses Reply
  | alloc => .slot <$> Accesses.alloc t
  | free slot => (fun _ => .done) <$> Accesses.free t slot
  | createMutex owner => .slot <$> Accesses.createWith t fun p => Mutex.create p owner
  | createEvent manualReset signaled =>
    .slot <$> Accesses.createWith t fun p => Event.create p manualReset signaled
  | createSemaphore initial maximum =>
    .slot <$> Accesses.createWith t fun p => Semaphore.create p initial maximum
  | isAllocated slot => .flag <$> Accesses.isAllocated t slot
  | allocatedSlots => .slots <$> Accesses.allocatedSlots t
  | get slot => .record <$> Accesses.withObject t slot fun _ => Op.get
  | snapshot slot => .answer <$> (.state <$> Accesses.withObject t slot Record.snapshot)
  | dump => .states <$> Accesses.dump t
  | stats => .occupancy <$> Accesses.stats t
  | tryWait slot requester =>
    .answer <$> (.acquisition <$> Accesses.withObject t slot fun p => Record.tryWait p requester)
  | check slot k => (fun _ => .done) <$> Accesses.withObject t slot fun _ => Record.requireKind k

def TableCall.accesses (t : Table) : TableCall → Accesses Gain
  | request c => .reply <$> c.accesses t
  | sweep owner => .count <$> Accesses.abandonMutexes t owner
  | describe => .text <$> Accesses.description t

def Dealing.accesses (region : Region) (s : Client) : Dealing → Accesses Gain
  | create settings => .handle <$> Accesses.create region settings
  | attach p => .handle <$> Accesses.attach region p
  | call handle c =>
    match s.handles[handle]? with
    | some t => c.accesses t
    | none => pure .nothing
  | take handle slot =>
    match s.handles[handle]? with
    | some t => (fun _ => .reference ⟨t, slot⟩) <$> Accesses.require t slot
    | none => pure .nothing
  | use reference op =>
    match s.references[reference]? with
    | some v => (fun a => .reply (.answer a)) <$> Accesses.onRecord v.table.layout v.slot op
    | none => pure .nothing

def Client.accesses (region : Region) :
    List Dealing → Client → Accesses (List (Outcome Gain) × Client)
  | [], s => return ([], s)
  | d :: rest, s => do
    let o ← (d.accesses region s).settle
    let (outcomes, s) ← Client.accesses region rest (s.gain o)
    return (o :: outcomes, s)

/-! ## What the trees perform -/

theorem HandleCall.perform_accesses (t : Table) (c : HandleCall) :
    (c.accesses t).perform = c.op t := by
  cases c with
  | snapshot | tryWait =>
    exact (Accesses.perform_map ..).trans (congrArg _ (Accesses.perform_map ..))
  | _ => exact Accesses.perform_map ..

theorem TableCall.perform_accesses (t : Table) (c : TableCall) :
    (c.accesses t).perform = c.op t := by
  cases c with
  | request c =>
    rw [accesses, op, ← c.perform_accesses]
    exact Accesses.perform_map ..
  | sweep | describe => exact Accesses.perform_map ..

theorem Dealing.perform_accesses (region : Region) (s : Client) (d : Dealing) :
    (d.accesses region s).perform = d.op region s := by
  cases d with
  | create | attach => exact Accesses.perform_map ..
  | call handle c =>
    simp only [accesses, op]
    split
    · exact c.perform_accesses _
    · rfl
  | take handle slot =>
    simp only [accesses, op]
    split
    · exact Accesses.perform_map ..
    · rfl
  | use reference op' =>
    simp only [accesses, op]
    split
    · exact Accesses.perform_map ..
    · rfl

theorem Dealing.run_accesses (region : Region) (s : Client) (d : Dealing) (m : Words) :
    (d.accesses region s).run m = (d.op region s).result m :=
  congrArg (Op.result · m) (d.perform_accesses region s)

/-- The tree of a list of dealings ends as the dealings do. -/
theorem Client.run_accesses (region : Region) (dealings : List Dealing) (s : Client) (m : Words) :
    (s.accesses region dealings).run m =
      (.value (s.run region dealings m).1, (s.run region dealings m).2) := by
  induction dealings generalizing s m with
  | nil => rfl
  | cons d rest ih =>
    rw [Client.accesses, Accesses.run_bind, Accesses.run_settle, d.run_accesses]
    simp only
    rw [Accesses.run_bind, ih]
    rfl

end Interprocess
