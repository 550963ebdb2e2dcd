import Interprocess.Proofs.Object.History
import Interprocess.Proofs.Table.Accounts
import Interprocess.Proofs.Table.Sweep

/-!
# Operations keep the accounts

No guard needs to be free for a table to keep its accounts: every operation of a handle leaves them
in order, whether it succeeds, is refused, or gives up on a guard that somebody else holds. What
keeps them one after another keeps them in sequence (`Keeps.bind`), so an operation is followed
along its own steps. Only taking a slot back is out of order on its way: the slot is counted off
after its bit is cleared.
-/

namespace Interprocess

/-- An operation leaves the accounts in order, however it ends. -/
def Keeps (c : UInt32) {α : Type} (op : Op Words α) : Prop :=
  ∀ m, Accounts c m → Accounts c (op.result m).2

namespace Keeps

variable {c : UInt32} {α β : Type} {op : Op Words α}

theorem of_look (same : ∀ m, (op.result m).2 = m) : Keeps c op := by
  intro m h
  rw [same m]
  exact h

theorem pure (a : α) : Keeps c (Pure.pure a) := of_look fun _ => rfl

theorem fail (e : SyncError) : Keeps c (Op.fail e : Op Words α) := of_look fun _ => rfl

theorem bind_from {m : Words} (first : Accounts c (op.result m).2) {next : α → Op Words β}
    (rest : ∀ a, Keeps c (next a)) : Accounts c ((op >>= next).result m).2 := by
  rw [Op.result_bind]
  generalize op.result m = ran at first
  obtain ⟨a | e | _, m'⟩ := ran
  · exact rest a m' first
  · exact first
  · exact first

theorem bind (first : Keeps c op) {next : α → Op Words β} (rest : ∀ a, Keeps c (next a)) :
    Keeps c (op >>= next) :=
  fun m h => bind_from (first m h) rest

theorem map (h : Keeps c op) (f : α → β) : Keeps c (f <$> op) := by
  intro m acc
  rw [Op.result_map]
  exact h m acc

theorem attempt (h : Keeps c op) : Keeps c op.attempt := by
  intro m acc
  rw [Op.result_attempt]
  exact h m acc

theorem drive {φ : Type} {step : φ → Op Words (Op.Progress φ α)}
    (steps : ∀ phase, Keeps c (step phase)) (n : Nat) (phase : φ) :
    Keeps c (Op.drive step n phase) := by
  induction n generalizing phase with
  | zero => exact of_look fun _ => rfl
  | succ n ih =>
    refine (steps phase).bind fun progress => ?_
    cases progress with
    | next phase => exact ih phase
    | answer a => exact pure a

end Keeps

/-! ## Records -/

def Call.makesObject : Call → Bool
  | setUp _ => true
  | _ => false

/-- A call that makes no object leaves a blank record blank, whoever holds its guard. -/
theorem Call.op_blank {call : Call} (makesNone : call.makesObject = false) (p : GuardPolicy)
    (guard : UInt32) : ((call.op p).result ⟨guard, .blank⟩).2.contents = .blank := by
  have step : (call.step .blank).2 = .blank := by
    cases call with
    | setUp b => cases makesNone
    | _ => rfl
  show ((Turn.mk guard p call).take .blank).2 = .blank
  rcases Turn.take_cases ⟨guard, p, call⟩ .blank with ran | ⟨-, same⟩
  · rw [ran]
    exact step
  · exact same

theorem Record.op_blank {α : Type} (call : Call) {p : GuardPolicy} {op : Op Record α}
    {f : α → Answer} (same : call.op p = f <$> op) (makesNone : call.makesObject = false)
    (guard : UInt32) : (op.result ⟨guard, .blank⟩).2.contents = .blank := by
  have left := Call.op_blank makesNone p guard
  rwa [same, Op.result_map] at left

theorem Record.retire_cases (p : GuardPolicy) (r : Record) :
    (∃ kind, (retire p).result r = (.value kind, .blank)) ∨
      (∃ e guard, (retire p).result r = (.failed e, { r with guard := guard })) ∨
        ∃ guard, (retire p).result r = (.blocked, { r with guard := guard }) := by
  rw [retire, guarded_result]
  rcases Guard.settle p r.guard with ⟨ending, word⟩
  cases ending with
  | held dead => exact .inl ⟨_, rfl⟩
  | timedOut holder waited => exact .inr (.inl ⟨_, _, rfl⟩)
  | refused => exact .inr (.inl ⟨_, _, rfl⟩)
  | parked => exact .inr (.inr ⟨_, rfl⟩)

namespace Table.Serves

variable {c : UInt32} {t : Table} {m : Words} {α : Type}

theorem onRecord_keeps (serves : Serves c t) (slot : UInt32) {op : Op Record α}
    (blank : ∀ guard, (op.result ⟨guard, .blank⟩).2.contents = .blank) :
    Keeps c (t.onRecord slot op) := by
  intro m h
  rw [serves.onRecord_eq]
  refine h.setRecord slot fun inside clear => ?_
  have before := h.blank slot inside clear
  generalize m.record _ = r at before ⊢
  obtain ⟨guard, contents⟩ := r
  obtain rfl : contents = .blank := before
  exact blank guard

theorem onRecord_of_set (serves : Serves c t) (h : Accounts c m) {slot : UInt32}
    (set : slotBit c m slot.toNat = true) (op : Op Record α) :
    Accounts c ((t.onRecord slot op).result m).2 := by
  rw [serves.onRecord_eq]
  exact h.setRecord_of_set set _

theorem call_keeps (serves : Serves c t) (slot : UInt32) (p : GuardPolicy) {call : Call}
    (makesNone : call.makesObject = false) : Keeps c (t.onRecord slot (call.op p)) :=
  serves.onRecord_keeps slot fun guard => Call.op_blank makesNone p guard

theorem require_keeps (t : Table) (slot : UInt32) : Keeps c (t.require slot) :=
  Keeps.of_look fun m => by rw [require_result]

theorem withObject_keeps (serves : Serves c t) (slot : UInt32) {op : GuardPolicy → Op Record α}
    (blank : ∀ guard, ((op t.policy).result ⟨guard, .blank⟩).2.contents = .blank) :
    Keeps c (t.withObject slot op) := by
  rw [withObject_eq]
  exact (require_keeps t slot).bind fun _ => serves.onRecord_keeps slot blank

/-! ## Slots -/

theorem holds_iff (serves : Serves c t) {slot : UInt32} :
    t.holds slot m = true ↔ slot < c ∧ slotBit c m slot.toNat = true := by
  rw [holds, bitmapWord, serves.layout, Bool.and_eq_true, decide_eq_true_iff]
  exact Iff.rfl

theorem freeStep_retire_cases (serves : Serves c t) (slot : UInt32) (m : Words) :
    (∃ kind, (t.freeStep slot .retire).result m = (.value (.next (.clear kind)),
        m.setRecord ((Layout.ofCapacity c).recordIndex slot) .blank)) ∨
      (∃ e r, (t.freeStep slot .retire).result m =
        (.failed e, m.setRecord ((Layout.ofCapacity c).recordIndex slot) r)) ∨
        ∃ r, (t.freeStep slot .retire).result m =
          (.blocked, m.setRecord ((Layout.ofCapacity c).recordIndex slot) r) := by
  have retires := serves.onRecord_eq slot (Record.retire t.policy) m
  rcases Record.retire_cases t.policy (m.record ((Layout.ofCapacity c).recordIndex slot)) with
    ⟨kind, ran⟩ | ⟨e, guard, ran⟩ | ⟨guard, ran⟩
  · rw [ran] at retires
    exact .inl ⟨kind, t.freeStep_retire_of retires⟩
  · rw [ran] at retires
    exact .inr (.inl ⟨e, _, t.freeStep_retire_of retires⟩)
  · rw [ran] at retires
    exact .inr (.inr ⟨_, t.freeStep_retire_of retires⟩)

theorem alloc_cases (serves : Serves c t) (h : Accounts c m) :
    t.alloc.result m = (.failed (.tableFull t.layout.capacity), m) ∨
      ∃ slot m', t.alloc.result m = (.value slot, m') ∧ Accounts c m' ∧
        slotBit c m' slot.toNat = true := by
  have ends := alloc_ends serves.enough m
  generalize t.alloc.result m = ran at ends
  cases ends with
  | full all => exact .inl rfl
  | slot slot inside clear before =>
    rw [serves.capacity] at inside
    have number : (UInt32.ofNat slot).toNat = slot :=
      UInt32.toNat_ofNat_of_lt' (Nat.lt_trans inside c.toNat_lt)
    have small : UInt32.ofNat slot < c := by rwa [UInt32.lt_iff_toNat_lt, number]
    rw [serves.marked_eq_slotBit, ← number] at clear
    have next := h.mark small clear
    rw [← serves.mark_eq, number] at next
    exact .inr ⟨_, _, rfl, next.1, number.symm ▸ next.2⟩

theorem alloc_keeps (serves : Serves c t) : Keeps c t.alloc := by
  intro m h
  rcases serves.alloc_cases h with full | ⟨slot, m', ran, next, -⟩
  · rw [full]
    exact h
  · rw [ran]
    exact next

theorem clear_keeps (serves : Serves c t) (h : Accounts c m) {slot : UInt32} (inside : slot < c)
    (set : slotBit c m slot.toNat = true)
    (blank : (m.record ((Layout.ofCapacity c).recordIndex slot)).contents = .blank) (kind : Kind) :
    Accounts c ((Op.drive (t.freeStep slot) 2 (.clear kind)).result m).2 := by
  -- the bit goes before the slot is counted off: in between, the accounts are out of order
  rw [Op.result_drive_of_next (serves.freeStep_clear kind set),
    Op.result_drive_of_answer (freeStep_count t slot kind _), get_allocated_setLong]
  exact h.unmark inside set blank

/-- The slot stays handed out if its record cannot be retired, and is taken back otherwise. -/
theorem free_keeps (serves : Serves c t) (slot : UInt32) : Keeps c (t.free slot) := by
  intro m h
  rw [free_eq]
  cases held : t.holds slot m with
  | false =>
    rw [Op.result_drive_of_failed (freeStep_check_of_not_holds held)]
    exact h
  | true =>
    obtain ⟨inside, set⟩ := serves.holds_iff.mp held
    have stored := h.setRecord_of_set set
    rw [Op.result_drive_of_next (freeStep_check_of_holds held)]
    rcases serves.freeStep_retire_cases slot m with ⟨kind, retired⟩ | ⟨e, r, failed⟩ | ⟨r, waits⟩
    · rw [Op.result_drive_of_next retired]
      refine serves.clear_keeps (stored .blank) inside ?_ ?_ kind
      · rw [slotBit_setRecord slot .blank (Layout.wordOf_lt inside), set]
      · rw [Words.record_setRecord_self]
        rfl
    · rw [Op.result_drive_of_failed failed]
      exact stored r
    · rw [Op.result_drive_of_blocked waits]
      exact stored r

theorem createWith_keeps (serves : Serves c t) (setUp : GuardPolicy → Op Record Unit) :
    Keeps c (t.createWith setUp) := by
  intro m h
  rw [createWith_eq]
  rcases serves.alloc_cases h with full | ⟨slot, m', ran, next, set⟩
  · rw [Op.result_bind_of_failed full]
    exact h
  · -- whatever becomes of the record, its slot is handed out
    rw [Op.result_bind_of_value ran]
    refine Keeps.bind_from ?_ fun made => ?_
    · rw [Op.result_attempt]
      exact serves.onRecord_of_set next set _
    · -- taking the slot back may fail in its turn, and then it stays handed out and blank
      cases made with
      | ok _ => exact Keeps.pure slot
      | error e => exact (serves.free_keeps slot).bind fun _ => Keeps.fail e

/-! ## Objects -/

theorem snapshots_keeps (serves : Serves c t) (slots : List UInt32) :
    Keeps c (t.snapshots slots) := by
  induction slots with
  | nil => exact Keeps.pure []
  | cons slot rest ih =>
    have first : Keeps c (t.onRecord slot (Record.snapshot t.policy)) :=
      serves.onRecord_keeps slot (Record.op_blank .snapshot rfl rfl)
    rw [snapshots_cons]
    exact first.bind fun state => ih.bind fun others => Keeps.pure _

theorem allocatedSlots_keeps (t : Table) : Keeps c t.allocatedSlots := by
  rw [allocatedSlots_eq]
  exact Keeps.of_look fun _ => rfl

theorem dump_keeps (serves : Serves c t) : Keeps c t.dump := by
  rw [dump_eq]
  exact (allocatedSlots_keeps t).bind fun slots => serves.snapshots_keeps slots

theorem kindAt_keeps (serves : Serves c t) (slot : UInt32) : Keeps c (t.kindAt slot) :=
  serves.onRecord_keeps slot fun _ => rfl

theorem recordVisit_keeps (owner : ThreadId) (slot : UInt32) (tally : SweepTally)
    (visit : Except SyncError Bool) : Keeps c (Accesses.recordVisit owner slot tally visit).perform := by
  refine Keeps.of_look fun m => ?_
  unfold Accesses.recordVisit
  split <;> rfl

theorem sweepStep_keeps (serves : Serves c t) (owner : ThreadId) (phase : SweepPhase) :
    Keeps c (t.sweepStep owner phase) := by
  cases phase with
  | collect index slots =>
    refine Keeps.of_look fun m => ?_
    by_cases inside : index < t.layout.bitmapWords
    · rw [sweepStep_collect inside]
    · rw [sweepStep_collect_past inside]
  | look slots tally =>
    cases slots with
    | nil =>
      refine Keeps.of_look fun m => ?_
      rw [sweepStep_look_nil_eq, Op.result_map, report_result]
    | cons slot rest =>
      rw [sweepStep_look_eq]
      refine (serves.kindAt_keeps slot).bind fun kind => ?_
      split <;> exact Keeps.pure _
  | opening slot rest tally =>
    rw [sweepStep_opening_eq]
    refine (serves.kindAt_keeps slot).bind fun kind => ?_
    split <;> exact Keeps.pure _
  | abandon slot rest tally =>
    have visits : Keeps c (t.onRecord slot (Mutex.abandonIfOwnedBy t.policy owner)) :=
      serves.onRecord_keeps slot (Record.op_blank (.mutex (.abandonIfOwnedBy owner)) rfl rfl)
    rw [sweepStep_abandon_eq]
    exact visits.attempt.bind fun visit =>
      (recordVisit_keeps owner slot tally visit).bind fun _ => Keeps.pure _

theorem abandonMutexes_keeps (serves : Serves c t) (owner : ThreadId) :
    Keeps c (t.abandonMutexes owner) := by
  rw [abandonMutexes_eq]
  exact Keeps.drive (serves.sweepStep_keeps owner) _ _

end Table.Serves

end Interprocess
