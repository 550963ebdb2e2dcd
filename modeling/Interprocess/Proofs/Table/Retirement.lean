import Interprocess.Proofs.Table.Creation
import Interprocess.Proofs.Table.SoleSweep

/-!
# Slots that are taken back

A call that takes a slot back goes through three places that are stored apart: the record under its
guard, the bit of the slot and the counter. When nobody else acts on the table it does all of it or
nothing, whatever the memory holds (`Table.Given.free_all_or_nothing`): it refuses a slot that is
not handed out and touches no word; it gives up on a guard that a live holder keeps and touches no
word but that guard; or it blanks the record, clears the bit and counts the slot off.
-/

namespace Interprocess

theorem Words.get_setRecord_guard (m : Words) (i : Nat) (guard : UInt32) (j : Nat) :
    (m.setRecord i ⟨guard, (m.record i).contents⟩).get j = if j = i then guard else m.get j := by
  by_cases outside : j < i ∨ i + 5 ≤ j
  · have other : ¬ j = i := by omega
    rw [if_neg other, get_setRecord_of_outside _ outside]
  · have stored : (m.setRecord i ⟨guard, (m.record i).contents⟩).record i =
        (m.set i guard).record i := by
      rw [record_setRecord_self]
      simp [record, get_set]
    rw [get_congr_of_record stored (by omega) (by omega), get_set]
    simp only [eq_comm]

namespace Table

/-! ## What is left of the memory -/

/-- A word of the memory that is neither the counter nor in the word of the bitmap for a slot. -/
def BesideBit (t : Table) (slot : UInt32) (j : Nat) : Prop :=
  j ≠ Header.allocatedIndex ∧
    (j < t.layout.bitmapIndex (wordOf slot) ∨ t.layout.bitmapIndex (wordOf slot) + 2 ≤ j)

/-- The second memory is the first with a slot taken back. -/
structure TakenBack (t : Table) (slot : UInt32) (m m' : Words) : Prop where
  blank : ∀ k, k < 5 → m'.get (t.layout.recordIndex slot + k) = 0
  bit : t.bitmapWord m' (wordOf slot) =
    t.bitmapWord m (wordOf slot) &&& ~~~ Bitmap.bit (bitOf slot)
  counter : m'.get Header.allocatedIndex = m.get Header.allocatedIndex - 1
  otherWords : ∀ index, index < t.layout.bitmapWords → index ≠ wordOf slot →
    t.bitmapWord m' index = t.bitmapWord m index
  otherRecords : ∀ other, other ≠ slot → t.recordAt m' other = t.recordAt m other
  elsewhere : ∀ j, t.BesideBit slot j → t.Outside slot j → m'.get j = m.get j

/-- The second memory is the first after the guard of a slot was waited for in vain: its waiters bit
may be set. -/
structure WaitedFor (t : Table) (slot : UInt32) (m m' : Words) : Prop where
  guard : (t.recordAt m' slot).guard = (t.recordAt m slot).guard ∨
    (t.recordAt m' slot).guard = Guard.flagged (t.recordAt m slot).guard
  holder : Guard.holderOf (t.recordAt m' slot).guard = Guard.holderOf (t.recordAt m slot).guard
  contents : ∀ other, (t.recordAt m' other).contents = (t.recordAt m other).contents
  bitmap : ∀ index, index < t.layout.bitmapWords → t.bitmapWord m' index = t.bitmapWord m index
  counter : m'.get Header.allocatedIndex = m.get Header.allocatedIndex
  elsewhere : ∀ j, j ≠ t.layout.recordIndex slot → m'.get j = m.get j

/-- A live holder keeps the guard of the slot. -/
def Kept (t : Table) (m : Words) (slot : UInt32) : Prop :=
  (t.recordAt m slot).guard ≠ 0 ∧
    t.policy.probe.isAlive (Guard.holderOf (t.recordAt m slot).guard) = true

/-- Whether a slot is none of the table's, or its bit is clear. -/
def NotHandedOut (t : Table) (m : Words) (slot : UInt32) : Prop :=
  t.capacity ≤ slot.toNat ∨ Bitmap.isSet (t.bitmapWord m (wordOf slot)) (bitOf slot) = false

/-- How a call that takes a slot back ends, and what it leaves of the memory. -/
structure AllOrNothing (t : Table) (slot : UInt32) (m : Words) (ran : Outcome Unit × Words) :
    Prop where
  invalid_iff : ran.1 = .failed (.invalidSlot slot) ↔ t.NotHandedOut m slot
  untouched : ran.1 = .failed (.invalidSlot slot) → ran.2 = m
  timeout_iff : (∃ holder waited, ran.1 = .failed (.guardTimeout holder waited)) ↔
    ¬ t.NotHandedOut m slot ∧ t.Kept m slot ∧ t.policy.timeout ≠ none
  /-- Without a limit on the wait the call waits for ever. -/
  blocked_iff : ran.1 = .blocked ↔
    ¬ t.NotHandedOut m slot ∧ t.Kept m slot ∧ t.policy.timeout = none
  /-- The holder that is named is the one that lives, and was waited for as long as the limit. -/
  names : ∀ holder waited, ran.1 = .failed (.guardTimeout holder waited) →
    holder = Guard.holderOf (t.recordAt m slot).guard ∧
      ∃ limit, t.policy.timeout = some limit ∧ limit.nanos ≤ waited.nanos
  waitedFor : ¬ t.NotHandedOut m slot → t.Kept m slot → t.WaitedFor slot m ran.2
  done_iff : ran.1 = .value () ↔ ¬ t.NotHandedOut m slot ∧ ¬ t.Kept m slot
  takenBack : ran.1 = .value () → t.TakenBack slot m ran.2

variable {c : UInt32} {t : Table} {m : Words} {slot : UInt32}

theorem notHandedOut_iff (t : Table) (m : Words) (slot : UInt32) :
    t.NotHandedOut m slot ↔ t.holds slot m = false := by
  unfold NotHandedOut holds
  rw [Bool.and_eq_false_iff, decide_eq_false_iff_not, UInt32.lt_iff_toNat_lt, Nat.not_lt]
  rfl

theorem not_notHandedOut (held : t.holds slot m = true) : ¬ t.NotHandedOut m slot := by
  rw [notHandedOut_iff, held]
  exact Bool.noConfusion

/-! ## How the call ends -/

/-- How a call can end that takes a slot back and that nobody disturbs, and the memory that it
leaves. -/
inductive FreeEnds (c : UInt32) (t : Table) (slot : UInt32) (m : Words) :
    Outcome Unit × Words → Prop where
  | refused (free : t.holds slot m = false) : FreeEnds c t slot m (.failed (.invalidSlot slot), m)
  /-- The guard was free, or taken over from a holder that is gone. -/
  | freed (held : t.holds slot m = true) (gets : ¬ t.Kept m slot) :
      FreeEnds c t slot m
        (.value (), withoutMark c (m.setRecord (t.layout.recordIndex slot) .blank) slot)
  | timedOut (held : t.holds slot m = true) (kept : t.Kept m slot) {limit waited : Duration}
      (bounded : t.policy.timeout = some limit) (reached : limit.nanos ≤ waited.nanos)
      {guard : UInt32} (flagged : guard = (t.recordAt m slot).guard ∨
        guard = Guard.flagged (t.recordAt m slot).guard) :
      FreeEnds c t slot m
        (.failed (.guardTimeout (Guard.holderOf (t.recordAt m slot).guard) waited),
          m.setRecord (t.layout.recordIndex slot) ⟨guard, (t.recordAt m slot).contents⟩)
  | parked (held : t.holds slot m = true) (kept : t.Kept m slot)
      (unbounded : t.policy.timeout = none) :
      FreeEnds c t slot m
        (.blocked, m.setRecord (t.layout.recordIndex slot)
          ⟨Guard.flagged (t.recordAt m slot).guard, (t.recordAt m slot).contents⟩)

theorem Serves.free_ends (serves : Serves c t) (slot : UInt32) (m : Words) :
    FreeEnds c t slot m ((t.free slot).result m) := by
  cases held : t.holds slot m with
  | false =>
    rw [Serves.free_of_not_holds t held]
    exact .refused held
  | true =>
    have own : m.record (t.layout.recordIndex slot) = t.recordAt m slot := rfl
    have ran := serves.free_of_holds held
    rw [← serves.layout, own, Record.retire, Record.guarded_result] at ran
    have settles := Guard.settles t.policy (t.recordAt m slot).guard
    generalize Guard.settle t.policy (t.recordAt m slot).guard = settled at ran settles
    rw [ran]
    cases settles with
    | refused invalid =>
      rw [serves.canClaim] at invalid
      cases invalid
    | free valid free =>
      apply FreeEnds.freed held
      rintro ⟨taken, -⟩
      exact taken free
    | takenOver valid taken dead =>
      apply FreeEnds.freed held
      rintro ⟨-, alive⟩
      rw [dead] at alive
      cases alive
    | @timedOut valid taken alive limit waited bounded reached =>
      refine .timedOut held ⟨taken, alive⟩ bounded reached ?_
      split
      · exact .inl rfl
      · exact .inr rfl
    | parked valid taken alive unbounded => exact .parked held ⟨taken, alive⟩ unbounded

/-! ## All or nothing -/

theorem Serves.takenBack (serves : Serves c t) (held : t.holds slot m = true) :
    t.TakenBack slot m
      (withoutMark c (m.setRecord (t.layout.recordIndex slot) .blank) slot) := by
  obtain ⟨inside, -⟩ := serves.holds_iff.mp held
  have small := Layout.wordOf_lt inside
  refine ⟨?_, ?_, ?_, ?_, ?_, ?_⟩
  · intro k few
    have blank : (withoutMark c (m.setRecord (t.layout.recordIndex slot) .blank) slot).record
        (t.layout.recordIndex slot) = Words.zero.record (t.layout.recordIndex slot) := by
      rw [withoutMark, serves.layout, Table.record_putWord inside, Words.record_setRecord_self]
      simp [Words.record, Record.blank, Contents.blank]
    rw [Words.get_congr_of_record blank (Nat.le_add_right _ k) (by omega), Words.get_zero]
  · rw [bitmapWord, bitmapWord, withoutMark, serves.layout, bitmapWord_putWord, if_pos rfl, wordFor,
      bitmapWord_setRecord small]
  · rw [withoutMark, get_allocated_putWord, serves.layout, get_allocated_setRecord,
      UInt32.sub_eq_add_neg]
  · intro index has other
    rw [serves.layout] at has
    rw [bitmapWord, bitmapWord, withoutMark, serves.layout, bitmapWord_putWord, if_neg other,
      bitmapWord_setRecord has]
  · intro other apart
    rw [recordAt, recordAt, withoutMark, serves.layout, Table.record_putWord inside,
      record_setRecord_of_ne _ apart]
  · rintro j ⟨counter, beside⟩ outside
    rw [serves.layout] at beside
    rw [withoutMark, get_putWord_of_outside counter beside,
      Words.get_setRecord_of_outside _ outside]

theorem Serves.takenBack_of_value (serves : Serves c t) {m' : Words}
    (done : (t.free slot).result m = (.value (), m')) : t.TakenBack slot m m' := by
  have ends := serves.free_ends slot m
  generalize (t.free slot).result m = ran at ends done
  cases ends with
  | freed held =>
    rw [← (Prod.mk.inj done).2]
    exact serves.takenBack held
  | refused | timedOut | parked => exact absurd (Prod.mk.inj done).1 nofun

theorem Serves.waitedFor (serves : Serves c t) {guard : UInt32}
    (flagged : guard = (t.recordAt m slot).guard ∨
      guard = Guard.flagged (t.recordAt m slot).guard) :
    t.WaitedFor slot m
      (m.setRecord (t.layout.recordIndex slot) ⟨guard, (t.recordAt m slot).contents⟩) := by
  have own := Words.record_setRecord_self m (t.layout.recordIndex slot)
    ⟨guard, (t.recordAt m slot).contents⟩
  refine ⟨?_, ?_, ?_, ?_, ?_, ?_⟩
  · rw [recordAt, own]
    exact flagged
  · rw [recordAt, own]
    rcases flagged with rfl | rfl
    · rfl
    · exact Guard.holderOf_flagged _
  · intro other
    by_cases same : other = slot
    · rw [same, recordAt, own]
    · rw [recordAt, serves.layout, record_setRecord_of_ne _ same, recordAt, serves.layout]
  · intro index has
    rw [serves.layout] at has
    rw [bitmapWord, bitmapWord, serves.layout, bitmapWord_setRecord has]
  · rw [serves.layout, get_allocated_setRecord]
  · intro j other
    exact (Words.get_setRecord_guard m _ guard j).trans (if_neg other)

/-- A call that takes a slot back, for any number of a slot and any words in the memory, when nobody
else acts: it refuses just the slots that are not handed out, and touches no word; it gives up just
on guards that live holders keep, and touches no word but that guard, where it sets the waiters bit
at most; in all other cases it blanks the record, clears that one bit, counts the slot off and
touches nothing else. -/
theorem Given.free_all_or_nothing {t : Table} (given : t.Given) (slot : UInt32) (m : Words) :
    t.AllOrNothing slot m ((t.free slot).result m) := by
  have ends := given.serves.free_ends slot m
  generalize (t.free slot).result m = ran at ends
  cases ends with
  | refused free =>
    have none := (notHandedOut_iff t m slot).mpr free
    exact {
      invalid_iff := iff_of_true rfl none
      untouched := fun _ => rfl
      timeout_iff := iff_of_false nofun fun some => some.1 none
      blocked_iff := iff_of_false nofun fun some => some.1 none
      names := nofun
      waitedFor := fun some => absurd none some
      done_iff := iff_of_false nofun fun some => some.1 none
      takenBack := nofun }
  | freed held gets =>
    have some := not_notHandedOut held
    exact {
      invalid_iff := iff_of_false nofun some
      untouched := nofun
      timeout_iff := iff_of_false nofun fun waits => gets waits.2.1
      blocked_iff := iff_of_false nofun fun waits => gets waits.2.1
      names := nofun
      waitedFor := fun _ kept => absurd kept gets
      done_iff := iff_of_true rfl ⟨some, gets⟩
      takenBack := fun _ => given.serves.takenBack held }
  | @timedOut held kept limit waited bounded reached guard flagged =>
    have some := not_notHandedOut held
    have limited : t.policy.timeout ≠ none := by
      rw [bounded]
      exact Option.some_ne_none limit
    refine {
      invalid_iff := iff_of_false nofun some
      untouched := nofun
      timeout_iff := iff_of_true ⟨_, _, rfl⟩ ⟨some, kept, limited⟩
      blocked_iff := iff_of_false nofun fun waits => limited waits.2.2
      names := ?_
      waitedFor := fun _ _ => given.serves.waitedFor flagged
      done_iff := iff_of_false nofun fun done => done.2 kept
      takenBack := nofun }
    intro holder waited' failed
    cases failed
    exact ⟨rfl, limit, bounded, reached⟩
  | parked held kept unbounded =>
    have some := not_notHandedOut held
    exact {
      invalid_iff := iff_of_false nofun some
      untouched := nofun
      timeout_iff := iff_of_false nofun fun waits => waits.2.2 unbounded
      blocked_iff := iff_of_true rfl ⟨some, kept, unbounded⟩
      names := nofun
      waitedFor := fun _ _ => given.serves.waitedFor (.inr rfl)
      done_iff := iff_of_false nofun fun done => done.2 kept
      takenBack := nofun }

/-- Of two mutexes one has a free guard, and somebody who lives keeps the guard of the other. -/
theorem frees_mutex_and_waits_for_other :
    ∃ m, pair.Given ∧ pair.taken m = [0, 1] ∧ ((pair.free 0).result m).1 = .value () ∧
      pair.TakenBack 0 m ((pair.free 0).result m).2 ∧
      (∃ waited, ((pair.free 1).result m).1 = .failed (.guardTimeout 9 waited)) ∧
      pair.WaitedFor 1 m ((pair.free 1).result m).2 ∧
      (pair.free 2).result m = (.failed (.invalidSlot 2), m) := by
  obtain ⟨m, taken, first, second⟩ := exists_pair_held
  have whole (slot : UInt32) := given_pair.free_all_or_nothing slot m
  have has (slot : UInt32) (mem : slot ∈ pair.taken m) : ¬ pair.NotHandedOut m slot :=
    not_notHandedOut (List.mem_filter.mp mem).2
  have zero : ¬ pair.NotHandedOut m 0 := has 0 (by simp [taken])
  have one : ¬ pair.NotHandedOut m 1 := has 1 (by simp [taken])
  have gets : ¬ pair.Kept m 0 := by
    rw [Kept, first]
    exact fun kept => kept.1 rfl
  have kept : pair.Kept m 1 := by
    rw [Kept, second]
    exact ⟨by decide, rfl⟩
  have freed := (whole 0).done_iff.mpr ⟨zero, gets⟩
  obtain ⟨holder, waited, failed⟩ := (whole 1).timeout_iff.mpr ⟨one, kept, by decide⟩
  have named := ((whole 1).names holder waited failed).1
  rw [second] at named
  have refused := (whole 2).invalid_iff.mpr (.inl (by decide))
  refine ⟨m, given_pair, taken, freed, (whole 0).takenBack freed, ⟨waited, ?_⟩,
    (whole 1).waitedFor one kept, Prod.ext refused ((whole 2).untouched refused)⟩
  rw [failed, named]
  rfl

end Table

end Interprocess
