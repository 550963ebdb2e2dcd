import Interprocess.Proofs.Object.History
import Interprocess.Proofs.Table.ObjectMap

/-!
# Logs of a bitmap

What calls that hand out slots and take them back do to the bitmap and to the counter of a table is
one event each, and a log of events in the order in which they happened can be replayed. A log is
lawful if every event found the bit that it is about as the events before it left it. In a lawful
log somebody cleared the bit for a slot between any two claims of the slot, and the claims outnumber
the clears by the bits that are set at the end.
-/

namespace Interprocess

/-- What a call does to the bitmap or to the counter of a table. -/
inductive SlotEvent where
  /-- The call set the bit for a slot. -/
  | claimed (call : Nat) (slot : UInt32)
  /-- The call cleared the bit for a slot. -/
  | cleared (call : Nat) (slot : UInt32)
  /-- The call went to clear the bit for a slot and found it clear. -/
  | missed (call : Nat) (slot : UInt32)
  /-- The call counted the slot that it had claimed. -/
  | added (call : Nat)
  /-- The call counted off the slot whose bit it had cleared. -/
  | subtracted (call : Nat)
  deriving DecidableEq, Repr

namespace SlotEvent

def call : SlotEvent → Nat
  | claimed n _ | cleared n _ | missed n _ | added n | subtracted n => n

def isClaim : SlotEvent → Bool
  | claimed _ _ => true
  | _ => false

def isClear : SlotEvent → Bool
  | cleared _ _ => true
  | _ => false

def isAddition : SlotEvent → Bool
  | added _ => true
  | _ => false

def isSubtraction : SlotEvent → Bool
  | subtracted _ => true
  | _ => false

/-! ## Replay -/

/-- The bit for a slot after an event. -/
def bitAfter (slot : Nat) (before : Bool) : SlotEvent → Bool
  | claimed _ s => if slot = s.toNat then true else before
  | cleared _ s => if slot = s.toNat then false else before
  | _ => before

/-- The bit for a slot after the events of a log, which begins with no bit set. -/
def replay (log : List SlotEvent) (slot : Nat) : Bool := log.foldl (bitAfter slot) false

/-- An event finds the bit that it is about, which stands for a slot of the table. -/
def Finds (c : UInt32) (bit : Nat → Bool) : SlotEvent → Prop
  | claimed _ slot => slot < c ∧ bit slot.toNat = false
  | cleared _ slot => slot < c ∧ bit slot.toNat = true
  | missed _ slot => slot < c ∧ bit slot.toNat = false
  | added _ | subtracted _ => True

/-- Every event of the log found its bit as the events before it left it. -/
inductive Lawful (c : UInt32) : List SlotEvent → Prop where
  | nil : Lawful c []
  | concat {log : List SlotEvent} {e : SlotEvent} (before : Lawful c log)
      (finds : e.Finds c (replay log)) : Lawful c (log ++ [e])

variable {c : UInt32} {log : List SlotEvent}

theorem replay_concat (log : List SlotEvent) (e : SlotEvent) (slot : Nat) :
    replay (log ++ [e]) slot = bitAfter slot (replay log slot) e := by
  rw [replay, List.foldl_append]
  rfl

theorem Finds.congr {bit bit' : Nat → Bool} {e : SlotEvent} (h : e.Finds c bit)
    (same : ∀ slot, slot < c.toNat → bit' slot = bit slot) : e.Finds c bit' := by
  cases e with
  | claimed n slot | cleared n slot | missed n slot =>
    exact ⟨h.1, (same _ (UInt32.lt_iff_toNat_lt.mp h.1)).trans h.2⟩
  | added n | subtracted n => exact h

/-! ## Claims and clears -/

theorem Lawful.finds (h : Lawful c log) {past since : List SlotEvent} {e : SlotEvent}
    (split : log = past ++ e :: since) : e.Finds c (replay past) := by
  induction h generalizing past since with
  | nil =>
    rw [eq_comm, List.append_eq_nil_iff] at split
    cases split.2
  | concat before finds ih =>
    rcases concat_eq_append_cons split with ⟨rfl, rfl, -⟩ | ⟨older, rfl, -⟩
    · exact finds
    · exact ih rfl

theorem foldl_bitAfter_of_set {slot : UInt32} {events : List SlotEvent}
    (kept : ∀ k, cleared k slot ∉ events) :
    events.foldl (bitAfter slot.toNat) true = true := by
  induction events with
  | nil => rfl
  | cons e rest ih =>
    have after : bitAfter slot.toNat true e = true := by
      cases e with
      | claimed n s => exact ite_self true
      | cleared n s =>
        have other : slot.toNat ≠ s.toNat := by
          intro same
          rw [UInt32.toNat_inj.mp same] at kept
          exact kept n List.mem_cons_self
        exact if_neg other
      | missed n s | added n | subtracted n => rfl
    rw [List.foldl_cons, after]
    exact ih fun k mem => kept k (List.mem_cons_of_mem _ mem)

theorem Lawful.cleared_between (h : Lawful c log) {a b : Nat} {slot : UInt32}
    {past between since : List SlotEvent}
    (split : log = past ++ claimed a slot :: (between ++ claimed b slot :: since)) :
    ∃ k, cleared k slot ∈ between := by
  by_contra none
  have clear : replay (past ++ claimed a slot :: between) slot.toNat = false := by
    have second : log = (past ++ claimed a slot :: between) ++ claimed b slot :: since := by
      rw [split, List.append_assoc, List.cons_append]
    exact (h.finds second).2
  have own : bitAfter slot.toNat (replay past slot.toNat) (claimed a slot) = true := if_pos rfl
  rw [replay, List.foldl_append, List.foldl_cons, ← replay, own,
    foldl_bitAfter_of_set (not_exists.mp none)] at clear
  cases clear

theorem Lawful.count_claims (h : Lawful c log) {slots : Nat} (enough : c.toNat ≤ slots) :
    log.countP isClaim =
      log.countP isClear + ((List.range slots).filter (replay log)).length := by
  -- on the log; each event moves both sides alike
  induction h with
  | nil =>
    have none : (List.range slots).filter (replay []) = [] :=
      List.filter_eq_nil_iff.mpr fun slot _ => Bool.false_ne_true
    rw [none]
    rfl
  | @concat log e before finds ih =>
    have small {slot : UInt32} (inside : slot < c) : slot.toNat ∈ List.range slots :=
      List.mem_range.mpr (Nat.lt_of_lt_of_le (UInt32.lt_iff_toNat_lt.mp inside) enough)
    have kept (none : ∀ slot bit, bitAfter slot bit e = bit) :
        replay (log ++ [e]) = replay log := by
      funext slot
      rw [replay_concat, none]
    rw [List.countP_append, List.countP_append, ih]
    cases e with
    | claimed n slot =>
      have after (s : Nat) := replay_concat log (claimed n slot) s
      have more := length_filter_succ List.nodup_range (small finds.1) finds.2
        ((after _).trans (if_pos rfl)) fun s other => (after s).trans (if_neg other)
      simp [more, isClaim, isClear, Nat.add_assoc]
    | cleared n slot =>
      have after (s : Nat) := replay_concat log (cleared n slot) s
      have fewer := length_filter_succ List.nodup_range (small finds.1)
        ((after _).trans (if_pos rfl)) finds.2 fun s other => ((after s).trans (if_neg other)).symm
      simp [fewer, isClaim, isClear, Nat.add_assoc, Nat.add_comm]
    | missed n slot | added n | subtracted n =>
      rw [kept fun _ _ => rfl]
      simp [isClaim, isClear]

/-! ## The events of one call -/

/-- The events of a call, in the order in which they happened. -/
def doneBy (n : Nat) (log : List SlotEvent) : List SlotEvent := log.filter fun e => e.call = n

theorem doneBy_append_own {n : Nat} {events : List SlotEvent} (own : ∀ e ∈ events, e.call = n)
    (log : List SlotEvent) : doneBy n (log ++ events) = doneBy n log ++ events := by
  rw [doneBy, List.filter_append, List.filter_eq_self.mpr fun e mem => decide_eq_true (own e mem),
    doneBy]

theorem doneBy_append_other {n k : Nat} {events : List SlotEvent} (own : ∀ e ∈ events, e.call = n)
    (other : k ≠ n) (log : List SlotEvent) : doneBy k (log ++ events) = doneBy k log := by
  have none : events.filter (fun e => e.call = k) = [] := by
    refine List.filter_eq_nil_iff.mpr fun e mem same => ?_
    rw [own e mem, decide_eq_true_iff] at same
    exact other same.symm
  rw [doneBy, List.filter_append, none, List.append_nil, doneBy]

theorem mem_doneBy {n : Nat} {e : SlotEvent} : e ∈ doneBy n log ↔ e ∈ log ∧ e.call = n := by
  rw [doneBy, List.mem_filter, decide_eq_true_iff]

/-- Two sorts of events that every call has equally many of are equally many. -/
theorem countP_eq_of_doneBy {p q : SlotEvent → Bool}
    (each : ∀ n, (doneBy n log).countP p = (doneBy n log).countP q) :
    log.countP p = log.countP q := by
  -- on the events of the other calls, once those of the first call are set apart
  induction hlen : log.length using Nat.strong_induction_on generalizing log with
  | _ len ih =>
    cases log with
    | nil => rfl
    | cons e rest =>
      let others := (e :: rest).filter fun x => !decide (x.call = e.call)
      have shorter : others.length < len := by
        rw [← hlen]
        refine List.length_filter_lt_length_iff_exists.mpr ⟨e, List.mem_cons_self, ?_⟩
        simp
      have later : others.countP p = others.countP q := by
        refine ih _ shorter (fun n => ?_) rfl
        by_cases own : n = e.call
        · have none : doneBy n others = [] := by
            rw [doneBy, List.filter_filter, own]
            simp
          rw [none]
          rfl
        · have same : doneBy n others = doneBy n (e :: rest) := by
            rw [doneBy, List.filter_filter]
            refine List.filter_congr fun x _ => ?_
            by_cases hx : x.call = n
            · simp [hx, own]
            · simp [hx]
          rw [same]
          exact each n
      rw [List.countP_eq_countP_filter_add _ p fun x => decide (x.call = e.call),
        List.countP_eq_countP_filter_add _ q fun x => decide (x.call = e.call), later]
      exact congrArg (· + _) (each e.call)

end SlotEvent

end Interprocess
