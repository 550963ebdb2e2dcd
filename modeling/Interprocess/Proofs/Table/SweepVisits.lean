import Interprocess.Proofs.Table.Strides

/-!
# Sweeps slot by slot

A sweep that nobody disturbs comes to every slot that is handed out, in ascending order. It looks at
the kind twice, and takes the guard if it saw a mutex both times. Each visit is told by what it
makes of one record (`Record.Visited`), and what a whole sweep makes of a memory by induction on the
slots that are left to visit (`Table.Walked`); what the sweep has to tell is the sum of what there
is to tell of each slot (`Table.tallyOf`).
-/

namespace Interprocess

/-! ## Records that a sweep comes to -/

/-- What a sweep for `owner` makes of the contents of a record whose guard it gets. -/
def Contents.sweptFor (c : Contents) (owner : ThreadId) : Contents :=
  if c.HeldBy owner then c.withMutex .abandonedFree else c

section Visits

variable {p : GuardPolicy} {r r' : Record} {c : Contents} {owner : ThreadId}

theorem Contents.sweptFor_of_heldBy (held : c.HeldBy owner) :
    c.sweptFor owner = c.withMutex .abandonedFree :=
  if_pos held

theorem Contents.sweptFor_of_not_heldBy (other : ¬ c.HeldBy owner) : c.sweptFor owner = c :=
  if_neg other

theorem Answer.flag_of_map {x : Except SyncError Bool} {b : Bool}
    (same : x.map Answer.flag = .ok (.flag b)) : x = .ok b := by
  cases x with
  | error e => cases same
  | ok b' =>
    cases same
    rfl

theorem Mutex.abandonIfOwnedBody_run (mutex : c.kind = .mutex) :
    (abandonIfOwnedBody owner).run c = (.ok (decide (c.HeldBy owner)), c.sweptFor owner) := by
  have told := (MutexCall.abandonIfOwnedBy owner).body_run c
  rw [MutexCall.body, Body.run_map, MutexCall.step] at told
  by_cases held : c.HeldBy owner
  · rw [Contents.sweptFor_of_heldBy held, decide_eq_true held]
    rw [if_neg ((Contents.heldBy_iff mutex).mp held), Prod.mk.injEq] at told
    exact Prod.ext (Answer.flag_of_map told.1) told.2
  · rw [Contents.sweptFor_of_not_heldBy held, decide_eq_false held]
    rw [Contents.heldBy_iff mutex, not_not] at held
    rw [if_pos held, Prod.mk.injEq] at told
    exact Prod.ext (Answer.flag_of_map told.1) told.2

/-- A record before and after a sweep for `owner` came to it. -/
inductive Record.Visited (p : GuardPolicy) (owner : ThreadId) (r : Record) : Record → Prop where
  | passed (other : r.contents.kind ≠ .mutex) : r.Visited p owner r
  | swept (mutex : r.contents.kind = .mutex) (gets : p.Gets r.guard) :
      r.Visited p owner ⟨0, r.contents.sweptFor owner⟩
  | stuck (mutex : r.contents.kind = .mutex) (without : ¬ p.Gets r.guard) {guard : UInt32}
      (flagged : guard = r.guard ∨ guard = Guard.flagged r.guard) :
      r.Visited p owner ⟨guard, r.contents⟩

namespace Record.Visited

theorem contents_of_lost (visited : r.Visited p owner r') (held : r.contents.HeldBy owner)
    (gets : p.Gets r.guard) : r'.contents = ⟨r.contents.tag, ThreadId.none.raw, 0, 1⟩ := by
  cases visited with
  | passed other => exact absurd held.kind other
  | swept => exact Contents.sweptFor_of_heldBy held
  | stuck _ without => exact absurd gets without

theorem contents_of_not_lost (visited : r.Visited p owner r')
    (other : ¬ (r.contents.HeldBy owner ∧ p.Gets r.guard)) : r'.contents = r.contents := by
  cases visited with
  | passed | stuck => rfl
  | swept _ gets =>
    apply Contents.sweptFor_of_not_heldBy
    intro held
    exact other ⟨held, gets⟩

theorem guard (visited : r.Visited p owner r') (mutex : r.contents.kind = .mutex) :
    if p.Gets r.guard then r'.guard = 0
    else Guard.holderOf r'.guard = Guard.holderOf r.guard := by
  cases visited with
  | passed other => exact absurd mutex other
  | swept _ gets =>
    rw [if_pos gets]
  | stuck _ without flagged =>
    rw [if_neg without]
    rcases flagged with rfl | rfl
    · rfl
    · exact Guard.holderOf_flagged r.guard

end Record.Visited

theorem Mutex.abandonIfOwnedBy_of_gets (mutex : r.contents.kind = .mutex)
    (gets : p.Gets r.guard) :
    (abandonIfOwnedBy p owner).result r =
      (.value (decide (r.contents.HeldBy owner)), ⟨0, r.contents.sweptFor owner⟩) := by
  rw [abandonIfOwnedBy_result, Record.guarded_of_gets gets, Record.expecting_run, if_pos mutex,
    abandonIfOwnedBody_run mutex]
  rfl

theorem Mutex.abandonIfOwnedBy_of_not_gets (owner : ThreadId) (bounded : p.timeout ≠ none)
    (valid : p.canClaim = true) (without : ¬ p.Gets r.guard) :
    ∃ holder waited guard, (guard = r.guard ∨ guard = Guard.flagged r.guard) ∧
      (abandonIfOwnedBy p owner).result r =
        (.failed (.guardTimeout holder waited), ⟨guard, r.contents⟩) := by
  rw [abandonIfOwnedBy_result]
  have barred := Record.guarded_of_not_gets valid without
    (Record.expecting .mutex (abandonIfOwnedBody owner))
  generalize (Record.guarded p (Record.expecting .mutex (abandonIfOwnedBody owner))).result r = ran
    at barred ⊢
  obtain ⟨outcome, guard, contents⟩ := ran
  obtain rfl : contents = r.contents := barred.contents
  rcases barred.ends with ⟨waited, rfl⟩ | ⟨unbounded, -⟩
  · exact ⟨_, waited, guard, barred.guard, rfl⟩
  · exact absurd unbounded bounded

end Visits

namespace Table

/-! ## Slots that a sweep comes to -/

def recordAt (t : Table) (m : Words) (slot : UInt32) : Record :=
  m.record (t.layout.recordIndex slot)

def mutexes (t : Table) (m : Words) (slots : List UInt32) : List UInt32 :=
  slots.filter fun slot => (t.recordAt m slot).contents.kind = .mutex

/-- The mutexes among these slots whose guards are not to be had. -/
def stuck (t : Table) (m : Words) (slots : List UInt32) : List UInt32 :=
  (t.mutexes m slots).filter fun slot => ¬ t.policy.Gets (t.recordAt m slot).guard

def heldBy (t : Table) (owner : ThreadId) (m : Words) (slots : List UInt32) : List UInt32 :=
  (t.mutexes m slots).filter fun slot => (t.recordAt m slot).contents.HeldBy owner

/-- The mutexes among these slots that `owner` holds and whose guards can be had. -/
def lost (t : Table) (owner : ThreadId) (m : Words) (slots : List UInt32) : List UInt32 :=
  (t.heldBy owner m slots).filter fun slot => t.policy.Gets (t.recordAt m slot).guard

/-- What a sweep has to tell of these slots. -/
def tallyOf (t : Table) (owner : ThreadId) (m : Words) (slots : List UInt32) : SweepTally :=
  ⟨(t.lost owner m slots).length, t.stuck m slots⟩

/-- What two parts of a sweep have done. -/
def SweepTally.plus (first second : SweepTally) : SweepTally :=
  ⟨first.abandoned + second.abandoned, first.stuck ++ second.stuck⟩

/-- No guard of these slots is waited for without a limit. -/
def Passable (t : Table) (m : Words) (slots : List UInt32) : Prop :=
  t.policy.timeout = none → ∀ slot ∈ slots, t.policy.Gets (t.recordAt m slot).guard

/-- A word lies outside the record of a slot. -/
def Outside (t : Table) (slot : UInt32) (j : Nat) : Prop :=
  j < t.layout.recordIndex slot ∨ t.layout.recordIndex slot + 5 ≤ j

/-- A memory before and after a sweep for `owner` came to these slots. -/
structure Walked (t : Table) (owner : ThreadId) (slots : List UInt32) (m m' : Words) : Prop where
  visited : ∀ slot ∈ slots,
    (t.recordAt m slot).Visited t.policy owner (t.recordAt m' slot)
  elsewhere : ∀ j, (∀ slot ∈ t.mutexes m slots, t.Outside slot j) → m'.get j = m.get j

section Walks

variable {c : UInt32} {t : Table} {owner : ThreadId} {m m' m'' : Words} {slot : UInt32}
  {slots rest : List UInt32}

/-! ## Parts of a sweep -/

theorem SweepTally.plus_assoc (a b c : SweepTally) : (a.plus b).plus c = a.plus (b.plus c) := by
  simp only [plus, Nat.add_assoc, List.append_assoc]

theorem recordAt_congr (same : ∀ j, ¬ t.Outside slot j → m'.get j = m.get j) :
    t.recordAt m' slot = t.recordAt m slot := by
  apply Words.record_congr
  intro j low high
  apply same
  unfold Outside
  omega

theorem outside_of_ne {j : Nat} {other : UInt32} (laidOut : t.layout = .ofCapacity c)
    (inside : ¬ t.Outside slot j) (apart : slot ≠ other) : t.Outside other j := by
  have records := Layout.records_apart c apart
  rw [← laidOut] at records
  unfold Outside at inside ⊢
  omega

theorem mutexes_congr (same : ∀ slot ∈ slots, t.recordAt m' slot = t.recordAt m slot) :
    t.mutexes m' slots = t.mutexes m slots := by
  apply List.filter_congr
  intro slot mem
  rw [same slot mem]

theorem tallyOf_congr (same : ∀ slot ∈ slots, t.recordAt m' slot = t.recordAt m slot) :
    t.tallyOf owner m' slots = t.tallyOf owner m slots := by
  have within (slot : UInt32) (mem : slot ∈ t.mutexes m slots) :
      t.recordAt m' slot = t.recordAt m slot := same slot (List.mem_filter.mp mem).1
  have held : t.heldBy owner m' slots = t.heldBy owner m slots := by
    rw [heldBy, mutexes_congr same]
    apply List.filter_congr
    intro slot mem
    rw [within slot mem]
  unfold tallyOf
  congr 1
  · rw [lost, held]
    congr 1
    apply List.filter_congr
    intro slot mem
    rw [within slot (List.mem_filter.mp mem).1]
  · rw [stuck, mutexes_congr same]
    apply List.filter_congr
    intro slot mem
    rw [within slot mem]

theorem Passable.cons_iff :
    t.Passable m (slot :: rest) ↔ t.Passable m [slot] ∧ t.Passable m rest := by
  unfold Passable
  simp only [List.forall_mem_singleton, List.forall_mem_cons, forall_and]

theorem mutexes_cons (t : Table) (m : Words) (slot : UInt32) (rest : List UInt32) :
    t.mutexes m (slot :: rest) = t.mutexes m [slot] ++ t.mutexes m rest := by
  rw [mutexes, ← List.singleton_append, List.filter_append]
  rfl

theorem tallyOf_cons (t : Table) (owner : ThreadId) (m : Words) (slot : UInt32)
    (rest : List UInt32) :
    t.tallyOf owner m (slot :: rest) =
      (t.tallyOf owner m [slot]).plus (t.tallyOf owner m rest) := by
  simp only [tallyOf, SweepTally.plus, lost, heldBy, stuck, mutexes_cons t m slot rest,
    List.filter_append, List.length_append]

theorem Walked.nil (t : Table) (owner : ThreadId) (m : Words) : t.Walked owner [] m m where
  visited _ mem := absurd mem List.not_mem_nil
  elsewhere _ _ := rfl

theorem Walked.recordAt_of_not_mem (laidOut : t.layout = .ofCapacity c)
    (walked : t.Walked owner slots m m') (without : slot ∉ slots) :
    t.recordAt m' slot = t.recordAt m slot := by
  apply recordAt_congr
  intro j inside
  apply walked.elsewhere
  intro other mem
  apply outside_of_ne laidOut inside
  rintro rfl
  exact without (List.mem_filter.mp mem).1

theorem Walked.cons (laidOut : t.layout = .ofCapacity c) (without : slot ∉ rest)
    (first : t.Walked owner [slot] m m') (others : t.Walked owner rest m' m'') :
    t.Walked owner (slot :: rest) m m'' := by
  have same (other : UInt32) (mem : other ∈ rest) : t.recordAt m' other = t.recordAt m other := by
    apply first.recordAt_of_not_mem laidOut
    intro own
    rw [List.mem_singleton.mp own] at mem
    exact without mem
  refine ⟨?_, ?_⟩
  · intro other mem
    rcases List.mem_cons.mp mem with rfl | mem
    · rw [others.recordAt_of_not_mem laidOut without]
      exact first.visited other (List.mem_singleton_self other)
    · rw [← same other mem]
      exact others.visited other mem
  · intro j outside
    rw [mutexes_cons, List.forall_mem_append] at outside
    rw [others.elsewhere j, first.elsewhere j outside.1]
    rw [mutexes_congr same]
    exact outside.2

theorem Walked.of_setRecord (same : ∀ j, m'.get j = m.get j)
    (mutex : (t.recordAt m slot).contents.kind = .mutex) {r : Record}
    (visited : (t.recordAt m slot).Visited t.policy owner r) :
    t.Walked owner [slot] m (m'.setRecord (t.layout.recordIndex slot) r) where
  visited other mem := by
    rw [List.mem_singleton.mp mem]
    unfold recordAt
    rw [Words.record_setRecord_self]
    exact visited
  elsewhere j outside := by
    have found : slot ∈ t.mutexes m [slot] :=
      List.mem_filter.mpr ⟨List.mem_singleton_self slot, decide_eq_true mutex⟩
    rw [Words.get_setRecord_of_outside _ (outside slot found), same]

theorem recordAt_of_same (same : ∀ j, m'.get j = m.get j) (slot : UInt32) :
    t.recordAt m' slot = t.recordAt m slot :=
  recordAt_congr fun j _ => same j

theorem kindAt_result (t : Table) (slot : UInt32) (m : Words) :
    (t.kindAt slot).result m =
      (.value (t.recordAt m slot).contents.kind, ((t.kindAt slot).result m).2) := rfl

theorem sweep_passes (t : Table) (owner : ThreadId) (rest : List UInt32) (tally : SweepTally)
    (other : (t.recordAt m slot).contents.kind ≠ .mutex) :
    ∃ m', Op.Leads (t.sweepStep owner) 1 (.look (slot :: rest) tally) m
        (.look rest (tally.plus (t.tallyOf owner m [slot]))) m' ∧
      t.Walked owner [slot] m m' := by
  have none : t.mutexes m [slot] = [] := by
    simp [mutexes, other]
  have nothing : tally.plus (t.tallyOf owner m [slot]) = tally := by
    simp [SweepTally.plus, tallyOf, lost, heldBy, stuck, none]
  have same := get_kindAt t slot m
  refine ⟨((t.kindAt slot).result m).2, ?_, ?_, ?_⟩
  · apply Op.Leads.next
    rw [nothing, sweepStep_look_eq, Op.result_bind_of_value (kindAt_result t slot m), if_neg other]
    rfl
  · intro slot' mem
    rw [List.mem_singleton.mp mem, recordAt_of_same same]
    exact .passed other
  · intro j _
    exact same j

theorem sweep_looks (t : Table) (owner : ThreadId) (rest : List UInt32) (tally : SweepTally)
    (mutex : (t.recordAt m slot).contents.kind = .mutex) :
    ∃ m', Op.Leads (t.sweepStep owner) 2 (.look (slot :: rest) tally) m
        (.abandon slot rest tally) m' ∧ ∀ j, m'.get j = m.get j := by
  let m₁ := ((t.kindAt slot).result m).2
  have same := get_kindAt t slot m
  have again : (t.recordAt m₁ slot).contents.kind = .mutex := by
    rw [recordAt_of_same same, mutex]
  have sees : Op.Leads (t.sweepStep owner) 1 (.look (slot :: rest) tally) m
      (.opening slot rest tally) m₁ := by
    apply Op.Leads.next
    rw [sweepStep_look_eq, Op.result_bind_of_value (kindAt_result t slot m), if_pos mutex]
    rfl
  have opens : Op.Leads (t.sweepStep owner) 1 (.opening slot rest tally) m₁
      (.abandon slot rest tally) ((t.kindAt slot).result m₁).2 := by
    apply Op.Leads.next
    rw [sweepStep_opening_eq, Op.result_bind_of_value (kindAt_result t slot m₁), if_pos again]
    rfl
  refine ⟨_, sees.trans opens, ?_⟩
  intro j
  exact (get_kindAt t slot m₁ j).trans (same j)

theorem tallyOf_singleton (mutex : (t.recordAt m slot).contents.kind = .mutex) :
    t.tallyOf owner m [slot] =
      if t.policy.Gets (t.recordAt m slot).guard then
        ⟨if (t.recordAt m slot).contents.HeldBy owner then 1 else 0, []⟩
      else ⟨0, [slot]⟩ := by
  have found : t.mutexes m [slot] = [slot] := by
    simp [mutexes, mutex]
  by_cases gets : t.policy.Gets (t.recordAt m slot).guard
  · by_cases held : (t.recordAt m slot).contents.HeldBy owner
    · simp [tallyOf, lost, heldBy, stuck, found, held, gets]
    · simp [tallyOf, lost, heldBy, stuck, found, held, gets]
  · by_cases held : (t.recordAt m slot).contents.HeldBy owner
    · simp [tallyOf, lost, heldBy, stuck, found, held, gets]
    · simp [tallyOf, lost, heldBy, stuck, found, held, gets]

theorem Serves.sweep_visits (serves : Serves c t) (passable : t.Passable m [slot])
    (owner : ThreadId) (rest : List UInt32) (tally : SweepTally)
    (mutex : (t.recordAt m slot).contents.kind = .mutex) (same : ∀ j, m'.get j = m.get j) :
    ∃ m'', Op.Leads (t.sweepStep owner) 1 (.abandon slot rest tally) m'
        (.look rest (tally.plus (t.tallyOf owner m [slot]))) m'' ∧
      t.Walked owner [slot] m m'' := by
  have record : m'.record (t.layout.recordIndex slot) = t.recordAt m slot :=
    recordAt_of_same same slot
  have visit := serves.onRecord_eq slot (Mutex.abandonIfOwnedBy t.policy owner) m'
  rw [← serves.layout, record] at visit
  rw [tallyOf_singleton mutex]
  by_cases gets : t.policy.Gets (t.recordAt m slot).guard
  · rw [Mutex.abandonIfOwnedBy_of_gets mutex gets] at visit
    refine ⟨_, ?_, .of_setRecord same mutex (.swept mutex gets)⟩
    apply Op.Leads.next
    apply sweepStep_of_visit (Op.result_attempt_of_value visit)
    rw [if_pos gets]
    by_cases held : (t.recordAt m slot).contents.HeldBy owner
    · rw [if_pos held, decide_eq_true held, SweepTally.plus, List.append_nil]
      rfl
    · rw [if_neg held, decide_eq_false held, SweepTally.plus, List.append_nil]
      rfl
  · have bounded : t.policy.timeout ≠ none := by
      intro unbounded
      exact gets (passable unbounded slot (List.mem_singleton_self slot))
    obtain ⟨holder, waited, guard, flagged, ends⟩ :=
      Mutex.abandonIfOwnedBy_of_not_gets owner bounded serves.canClaim gets
    rw [ends] at visit
    refine ⟨_, ?_, .of_setRecord same mutex (.stuck mutex gets flagged)⟩
    apply Op.Leads.next
    apply sweepStep_of_visit (Op.result_attempt_of_failed visit)
    rw [if_neg gets]
    rfl

theorem Serves.sweep_visit (serves : Serves c t) (passable : t.Passable m [slot])
    (owner : ThreadId) (rest : List UInt32) (tally : SweepTally) :
    ∃ count m', count ≤ 3 ∧ Op.Leads (t.sweepStep owner) count (.look (slot :: rest) tally) m
        (.look rest (tally.plus (t.tallyOf owner m [slot]))) m' ∧
      t.Walked owner [slot] m m' := by
  by_cases mutex : (t.recordAt m slot).contents.kind = .mutex
  · obtain ⟨m₁, looks, same⟩ := sweep_looks t owner rest tally mutex
    obtain ⟨m₂, visits, walked⟩ := serves.sweep_visits passable owner rest tally mutex same
    exact ⟨_, m₂, Nat.le_refl 3, looks.trans visits, walked⟩
  · obtain ⟨m', passes, walked⟩ := sweep_passes t owner rest tally mutex
    exact ⟨_, m', by decide, passes, walked⟩

theorem Serves.sweep_walks (serves : Serves c t) (owner : ThreadId) (apart : slots.Nodup)
    (passable : t.Passable m slots) (tally : SweepTally) :
    ∃ count m', count ≤ 3 * slots.length ∧
      Op.Leads (t.sweepStep owner) count (.look slots tally) m
        (.look [] (tally.plus (t.tallyOf owner m slots))) m' ∧
      t.Walked owner slots m m' := by
  induction slots generalizing m tally with
  | nil =>
    refine ⟨0, m, Nat.zero_le _, ?_, .nil t owner m⟩
    have nothing : tally.plus (t.tallyOf owner m []) = tally := by
      simp [SweepTally.plus, tallyOf, lost, heldBy, stuck, mutexes]
    rw [nothing]
    exact .refl _ _ m
  | cons slot rest ih =>
    obtain ⟨without, apart⟩ := List.nodup_cons.mp apart
    obtain ⟨here, there⟩ := Passable.cons_iff.mp passable
    obtain ⟨one, m₁, few, visit, first⟩ := serves.sweep_visit here owner rest tally
    -- the records that are left to visit are as they were
    have same (other : UInt32) (mem : other ∈ rest) : t.recordAt m₁ other = t.recordAt m other := by
      apply first.recordAt_of_not_mem serves.layout
      intro own
      rw [List.mem_singleton.mp own] at mem
      exact without mem
    have later : t.Passable m₁ rest := by
      intro unbounded other mem
      rw [same other mem]
      exact there unbounded other mem
    obtain ⟨count, m₂, enough, walk, others⟩ :=
      ih apart later (tally.plus (t.tallyOf owner m [slot]))
    rw [tallyOf_congr same, SweepTally.plus_assoc, ← tallyOf_cons] at walk
    refine ⟨_, m₂, ?_, visit.trans walk, first.cons serves.layout without others⟩
    rw [List.length_cons]
    omega

theorem sweep_collects (t : Table) (owner : ThreadId) (m : Words) :
    Op.Leads (t.sweepStep owner) (t.layout.bitmapWords + 1) (.collect 0 []) m
      (.look (t.slots m) ⟨0, []⟩) m := by
  have words (index : Nat) (inside : index ≤ t.layout.bitmapWords) :
      Op.Leads (t.sweepStep owner) index (.collect 0 []) m
        (.collect index ((List.range index).flatMap fun index =>
          t.slotsOfWord index (t.bitmapWord m index))) m := by
    induction index with
    | zero => exact .refl _ _ m
    | succ index ih =>
      apply (ih (Nat.le_of_succ_le inside)).trans
      apply Op.Leads.next
      rw [sweepStep_collect (Nat.lt_of_succ_le inside), List.range_succ, List.flatMap_append,
        List.flatMap_singleton]
  apply (words t.layout.bitmapWords (Nat.le_refl _)).trans
  apply Op.Leads.next
  exact sweepStep_collect_past (Nat.lt_irrefl _) _

theorem sweep_reports (t : Table) (owner : ThreadId) (tally : SweepTally) (m : Words)
    (steps : Nat) :
    (Op.drive (t.sweepStep owner) (steps + 1) (.look [] tally)).result m =
      (.ofExcept tally.answer, m) := by
  have reports := Serves.sweepStep_report (t := t) owner tally m
  cases ends : tally.answer with
  | ok n =>
    rw [ends] at reports
    exact Op.result_drive_of_answer reports steps
  | error e =>
    rw [ends] at reports
    exact Op.result_drive_of_failed reports steps

theorem Serves.abandonMutexes_walks (serves : Serves c t) (owner : ThreadId)
    (passable : t.Passable m (t.slots m)) :
    ∃ m', (t.abandonMutexes owner).result m =
        (.ofExcept (t.tallyOf owner m (t.slots m)).answer, m') ∧
      t.Walked owner (t.slots m) m m' := by
  have apart : (t.slots m).Nodup := by
    rw [serves.slots_eq_filter]
    exact (ObjectMap.nodup_all c).filter _
  have few : (t.slots m).length ≤ t.layout.bitmapWords * 64 := by
    have all : (ObjectMap.all c).length = c.toNat := by
      rw [ObjectMap.all, List.length_map, List.length_range]
    have enough := serves.enough
    rw [serves.capacity] at enough
    rw [serves.slots_eq_filter]
    have found := List.length_filter_le (fun slot => t.holds slot m) (ObjectMap.all c)
    omega
  obtain ⟨count, m', bound, walk, walked⟩ := serves.sweep_walks owner apart passable ⟨0, []⟩
  obtain ⟨spare, total⟩ : ∃ spare, t.sweepBound =
      spare + 1 + (t.layout.bitmapWords + 1 + count) := by
    refine ⟨t.sweepBound - (1 + (t.layout.bitmapWords + 1 + count)), ?_⟩
    rw [sweepBound]
    omega
  refine ⟨m', ?_, walked⟩
  rw [abandonMutexes_eq, total, (sweep_collects t owner m).trans walk, sweep_reports]
  simp only [SweepTally.plus, Nat.zero_add, List.nil_append]

end Walks

end Table

end Interprocess
