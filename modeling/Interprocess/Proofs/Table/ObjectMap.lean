import Interprocess.Proofs.Object.Transitions
import Interprocess.Table.Occupancy
import Mathlib.Data.List.Nodup

/-!
# Tables as maps

What a table is to those who use it: a map from slots to objects. The operations on it are those of
a table, without words, bits, guards or policies.
-/

namespace Interprocess

/-! ## Calls on objects -/

/-- What a call for one kind answers on an object, and the object after it. -/
def ObjectState.expect (o : ObjectState) (k : Kind) : Except SyncError Answer × ObjectState :=
  (.error (.typeMismatch (some k) o.kind), o)

/-- What a call answers on an object, and the object after it. -/
def Call.onState : Call → ObjectState → Except SyncError Answer × ObjectState
  | setUp b, o =>
    match b.object, o with
    | .error e, o => (.error e, o)
    | .ok state, .unknown => (.ok .done, state)
    | .ok _, o => (.error (.alreadyInitialized o.kind), o)
  | mutex call, .mutex m => ((call.step m).1, .mutex (call.step m).2)
  | mutex _, o => o.expect .mutex
  | event call, .event e => ((call.step e).1, .event (call.step e).2)
  | event _, o => o.expect .event
  | semaphore call, .semaphore s => ((call.step s).1, .semaphore (call.step s).2)
  | semaphore _, o => o.expect .semaphore
  | snapshot, o => (.ok (.state o), o)
  | tryWait requester, .mutex m =>
    (((MutexCall.tryAcquire requester).step m).1,
      .mutex ((MutexCall.tryAcquire requester).step m).2)
  | tryWait _, .event e =>
    (.ok (.acquisition (if e.isSignaled then .acquired else .notAvailable)),
      .event (EventCall.poll.step e).2)
  | tryWait _, .semaphore s =>
    (((SemaphoreCall.tryAcquire 1).step s).1, .semaphore ((SemaphoreCall.tryAcquire 1).step s).2)
  | tryWait _, .unknown => (.error .untyped, .unknown)
  | retire, o => (.ok (.kind o.kind), .unknown)

@[simp]
theorem Contents.kind_ofState (o : ObjectState) : (Contents.ofState o).kind = o.kind := by
  cases o <;> rfl

@[simp]
theorem Contents.state_ofState (o : ObjectState) : (Contents.ofState o).state = o := by
  cases o <;> rfl

/-- On contents that hold an object, a call does what it does to the object. -/
theorem Call.step_ofState (call : Call) (o : ObjectState) :
    call.step (.ofState o) = ((call.onState o).1, .ofState (call.onState o).2) := by
  cases call with
  | setUp b =>
    simp only [step, onState, b.firstState_eq_object]
    cases b.object <;> cases o <;> rfl
  | mutex call => cases o <;> rfl
  | event call => cases o <;> rfl
  | semaphore call => cases o <;> rfl
  | snapshot => cases o <;> rfl
  | tryWait requester => cases o <;> rfl
  | retire => cases o <;> rfl

/-! ## Maps -/

theorem length_filter_succ {α : Type} [DecidableEq α] {l : List α} {a : α} {p q : α → Bool}
    (nodup : l.Nodup) (mem : a ∈ l) (without : p a = false) (has : q a = true)
    (others : ∀ b, b ≠ a → q b = p b) : (l.filter q).length = (l.filter p).length + 1 := by
  induction l with
  | nil => exact absurd mem List.not_mem_nil
  | cons first rest ih =>
    obtain ⟨fresh, nodup⟩ := List.nodup_cons.mp nodup
    by_cases same : first = a
    · subst same
      have rest : rest.filter q = rest.filter p :=
        List.filter_congr fun b mem => others b fun e => fresh (e ▸ mem)
      simp [without, has, rest]
    · have later := ih nodup ((List.mem_cons.mp mem).resolve_left (Ne.symm same))
      simp only [List.filter_cons, others first same]
      split
      · simp only [List.length_cons, later]
      · exact later

/-- Objects in some of the slots below a capacity. -/
def ObjectMap (c : UInt32) : Type := Fin c.toNat → Option ObjectState

namespace ObjectMap

variable {c : UInt32}

def empty : ObjectMap c := fun _ => none

def lookup (o : ObjectMap c) (slot : UInt32) : Option ObjectState :=
  if h : slot.toNat < c.toNat then o ⟨slot.toNat, h⟩ else none

def put (o : ObjectMap c) (slot : UInt32) (object : Option ObjectState) : ObjectMap c :=
  fun index => if index.val = slot.toNat then object else o index

def all (c : UInt32) : List UInt32 := (List.range c.toNat).map UInt32.ofNat

def holds (o : ObjectMap c) (slot : UInt32) : Bool := (o.lookup slot).isSome

def slots (o : ObjectMap c) : List UInt32 := (all c).filter o.holds

def leastFree (o : ObjectMap c) : Option UInt32 := (all c).find? fun slot => !o.holds slot

/-- The object in a slot, and a blank one if the slot is not handed out. -/
def objectAt (o : ObjectMap c) (slot : UInt32) : ObjectState := (o.lookup slot).getD .unknown

theorem lookup_put (o : ObjectMap c) (slot : UInt32) (object : Option ObjectState)
    (other : UInt32) :
    (o.put slot object).lookup other =
      if other = slot ∧ slot < c then object else o.lookup other := by
  simp only [lookup, put, ← UInt32.toNat_inj, UInt32.lt_iff_toNat_lt]
  by_cases inside : other.toNat < c.toNat
  · simp only [inside, dif_pos]
    by_cases same : other.toNat = slot.toNat
    · rw [if_pos same, if_pos ⟨same, same ▸ inside⟩]
    · rw [if_neg same, if_neg fun both => same both.1]
  · have outside : ¬ (other.toNat = slot.toNat ∧ slot.toNat < c.toNat) := by omega
    rw [dif_neg inside, dif_neg inside, if_neg outside]

theorem lookup_put_self {o : ObjectMap c} {slot : UInt32} (h : slot < c)
    (object : Option ObjectState) : (o.put slot object).lookup slot = object := by
  rw [lookup_put, if_pos ⟨rfl, h⟩]

theorem lookup_put_of_ne {o : ObjectMap c} {slot other : UInt32} (h : other ≠ slot)
    (object : Option ObjectState) : (o.put slot object).lookup other = o.lookup other := by
  rw [lookup_put, if_neg fun both => h both.1]

theorem ext {o o' : ObjectMap c} (h : ∀ slot, o.lookup slot = o'.lookup slot) : o = o' := by
  funext i
  have small : i.val < 2 ^ 32 := Nat.lt_trans i.isLt c.toNat_lt
  have index : (UInt32.ofNat i.val).toNat = i.val := UInt32.toNat_ofNat_of_lt' small
  have same := h (UInt32.ofNat i.val)
  simpa only [lookup, index, i.isLt, dif_pos] using same

theorem holds_put_self {o : ObjectMap c} {slot : UInt32} (h : slot < c)
    (object : Option ObjectState) : (o.put slot object).holds slot = object.isSome := by
  rw [holds, lookup_put_self h]

theorem holds_put_of_ne {o : ObjectMap c} {slot other : UInt32} (h : other ≠ slot)
    (object : Option ObjectState) : (o.put slot object).holds other = o.holds other := by
  rw [holds, lookup_put_of_ne h, holds]

theorem objectAt_put_self {o : ObjectMap c} {slot : UInt32} (h : slot < c)
    (object : Option ObjectState) :
    (o.put slot object).objectAt slot = object.getD .unknown := by
  rw [objectAt, lookup_put_self h]

theorem objectAt_put_of_ne {o : ObjectMap c} {slot other : UInt32} (h : other ≠ slot)
    (object : Option ObjectState) : (o.put slot object).objectAt other = o.objectAt other := by
  rw [objectAt, lookup_put_of_ne h, objectAt]

theorem lookup_of_not_holds {o : ObjectMap c} {slot : UInt32} (h : o.holds slot = false) :
    o.lookup slot = none := by
  rwa [holds, Option.isSome_eq_false_iff, Option.isNone_iff_eq_none] at h

theorem objectAt_of_not_holds {o : ObjectMap c} {slot : UInt32} (h : o.holds slot = false) :
    o.objectAt slot = .unknown := by
  rw [objectAt, lookup_of_not_holds h, Option.getD_none]

theorem lt_of_holds {o : ObjectMap c} {slot : UInt32} (h : o.holds slot = true) : slot < c := by
  rw [UInt32.lt_iff_toNat_lt]
  apply Decidable.byContradiction
  intro outside
  simp [holds, lookup, outside] at h

theorem put_put (o : ObjectMap c) (slot : UInt32) (before after : Option ObjectState) :
    (o.put slot before).put slot after = o.put slot after := by
  refine ext fun other => ?_
  simp only [lookup_put]
  split <;> rfl

theorem put_none {o : ObjectMap c} {slot : UInt32} (h : o.holds slot = false) :
    o.put slot none = o := by
  refine ext fun other => ?_
  rw [lookup_put]
  split
  · rename_i both
    rw [both.1, lookup_of_not_holds h]
  · rfl

theorem put_objectAt {o : ObjectMap c} {slot : UInt32} (h : o.holds slot = true) :
    o.put slot (some (o.objectAt slot)) = o := by
  obtain ⟨object, found⟩ := Option.isSome_iff_exists.mp h
  refine ext fun other => ?_
  rw [lookup_put]
  split
  · rename_i both
    rw [both.1, objectAt, found, Option.getD_some]
  · rfl

/-! ## Slots -/

theorem mem_all {slot : UInt32} : slot ∈ all c ↔ slot < c := by
  rw [all, List.mem_map, UInt32.lt_iff_toNat_lt]
  constructor
  · rintro ⟨index, mem, rfl⟩
    have inside := List.mem_range.mp mem
    have small := c.toNat_lt
    rwa [UInt32.toNat_ofNat_of_lt' (Nat.lt_trans inside small)]
  · intro h
    exact ⟨slot.toNat, List.mem_range.mpr h, UInt32.ofNat_toNat⟩

theorem mem_slots {o : ObjectMap c} {slot : UInt32} : slot ∈ o.slots ↔ o.holds slot = true := by
  rw [slots, List.mem_filter, mem_all]
  exact ⟨fun h => h.2, fun h => ⟨lt_of_holds h, h⟩⟩

theorem pairwise_all (c : UInt32) : (all c).Pairwise (· < ·) := by
  have small := c.toNat_lt
  apply List.pairwise_map.mpr
  apply List.Pairwise.imp_of_mem _ List.pairwise_lt_range
  intro i j hi hj lower
  have hi := Nat.lt_trans (List.mem_range.mp hi) small
  have hj := Nat.lt_trans (List.mem_range.mp hj) small
  rwa [UInt32.lt_iff_toNat_lt, UInt32.toNat_ofNat_of_lt' hi, UInt32.toNat_ofNat_of_lt' hj]

theorem nodup_all (c : UInt32) : (all c).Nodup := by
  refine List.Nodup.map_on (fun i hi j hj same => ?_) List.nodup_range
  have small := c.toNat_lt
  have hi := Nat.lt_trans (List.mem_range.mp hi) small
  have hj := Nat.lt_trans (List.mem_range.mp hj) small
  rw [← UInt32.toNat_ofNat_of_lt' hi, ← UInt32.toNat_ofNat_of_lt' hj, same]

theorem leastFree_eq_some {o : ObjectMap c} {slot : Nat} (inside : slot < c.toNat)
    (free : o.holds (UInt32.ofNat slot) = false)
    (before : ∀ other, other < slot → o.holds (UInt32.ofNat other) = true) :
    o.leastFree = some (UInt32.ofNat slot) := by
  have first : (List.range c.toNat).find? ((fun slot => !o.holds slot) ∘ UInt32.ofNat) =
      some slot := by
    rw [List.find?_range_eq_some]
    refine ⟨?_, List.mem_range.mpr inside, fun other lower => ?_⟩
    · simp [free]
    · simp [before other lower]
  rw [leastFree, all, List.find?_map, first, Option.map_some]

theorem leastFree_eq_none {o : ObjectMap c}
    (held : ∀ slot, slot < c.toNat → o.holds (UInt32.ofNat slot) = true) :
    o.leastFree = none := by
  have none : (List.range c.toNat).find? ((fun slot => !o.holds slot) ∘ UInt32.ofNat) = none := by
    rw [List.find?_range_eq_none]
    intro slot inside
    simp [held slot inside]
  rw [leastFree, all, List.find?_map, none, Option.map_none]

theorem of_leastFree {o : ObjectMap c} {slot : UInt32} (h : o.leastFree = some slot) :
    slot < c ∧ o.holds slot = false := by
  have free := List.find?_some h
  exact ⟨mem_all.mp (List.mem_of_find?_eq_some h), by simpa using free⟩

theorem length_slots_succ {o o' : ObjectMap c} {slot : UInt32} (inside : slot < c)
    (without : o.holds slot = false) (has : o'.holds slot = true)
    (others : ∀ other, other ≠ slot → o'.holds other = o.holds other) :
    o'.slots.length = o.slots.length + 1 :=
  length_filter_succ (nodup_all c) (mem_all.mpr inside) without has others

/-! ## Operations -/

def alloc (o : ObjectMap c) : Except SyncError UInt32 × ObjectMap c :=
  match o.leastFree with
  | none => (.error (.tableFull c), o)
  | some slot => (.ok slot, o.put slot (some .unknown))

def free (o : ObjectMap c) (slot : UInt32) : Except SyncError Unit × ObjectMap c :=
  if o.holds slot then (.ok (), o.put slot none) else (.error (.invalidSlot slot), o)

def create (o : ObjectMap c) (b : Blueprint) : Except SyncError UInt32 × ObjectMap c :=
  match o.leastFree with
  | none => (.error (.tableFull c), o)
  | some slot =>
    match b.object with
    | .error e => (.error e, o)
    | .ok state => (.ok slot, o.put slot (some state))

/-- A call on the object in a slot. Who calls keeps the slot from before: it may have been taken
back, and then nothing is put there. -/
def call (o : ObjectMap c) (slot : UInt32) (call : Call) : Except SyncError Answer × ObjectMap c :=
  let (answer, object) := call.onState (o.objectAt slot)
  (answer, if o.holds slot then o.put slot (some object) else o)

/-- A call on the object in a slot that must be handed out. -/
def callHeld (o : ObjectMap c) (slot : UInt32) (call : Call) :
    Except SyncError Answer × ObjectMap c :=
  if o.holds slot then o.call slot call else (.error (.invalidSlot slot), o)

/-- Whether a slot holds an object of a kind. -/
def check (o : ObjectMap c) (slot : UInt32) (k : Kind) : Except SyncError Unit :=
  if o.holds slot then
    if (o.objectAt slot).kind = k then .ok ()
    else .error (.typeMismatch (some k) (o.objectAt slot).kind)
  else .error (.invalidSlot slot)

def dump (o : ObjectMap c) : List (UInt32 × ObjectState) :=
  o.slots.map fun slot => (slot, o.objectAt slot)

def kinds (o : ObjectMap c) : List Kind := o.slots.map fun slot => (o.objectAt slot).kind

def occupancy (o : ObjectMap c) : Occupancy where
  capacity := c
  allocated := UInt32.ofNat o.slots.length
  mutexes := UInt32.ofNat (o.kinds.count .mutex)
  events := UInt32.ofNat (o.kinds.count .event)
  semaphores := UInt32.ofNat (o.kinds.count .semaphore)
  uninitialized := UInt32.ofNat (o.kinds.count .unknown)

theorem lt_of_check {o : ObjectMap c} {slot : UInt32} {k : Kind} (h : o.check slot k = .ok ()) :
    slot < c := by
  cases held : o.holds slot with
  | true => exact lt_of_holds held
  | false =>
    simp only [check, held] at h
    cases h

theorem callHeld_snapshot (o : ObjectMap c) (slot : UInt32) :
    (o.callHeld slot .snapshot).2 = o := by
  unfold callHeld
  split
  · rename_i held
    simp only [call, held, if_true]
    exact put_objectAt held
  · rfl

end ObjectMap

end Interprocess
