import Interprocess.Proofs.Table.SweepVisits
import Interprocess.Proofs.Table.Usage
import Interprocess.Proofs.Table.Validation

/-!
# Sweeps that nobody disturbs

A sweep that nobody disturbs abandons the mutexes that its owner holds, if it gets their guards, and
changes no other contents. Guards that live holders keep do not stop it: it goes on to the end and
names the mutexes behind them (`Table.SweptAlone`). Once these guards can be had, a second sweep
finds the rest, and a third finds nothing (`Table.Finished`).
-/

namespace Interprocess

namespace Table

section Outcomes

variable {c : UInt32} {t : Table} {owner : ThreadId} {m m' m'' : Words} {slot : UInt32}
  {slots : List UInt32} {limit : Duration}

/-! ## What a sweep makes of a table -/

theorem mem_mutexes :
    slot ∈ t.mutexes m slots ↔ slot ∈ slots ∧ (t.recordAt m slot).contents.kind = .mutex := by
  simp only [mutexes, List.mem_filter, decide_eq_true_iff]

theorem mem_stuck :
    slot ∈ t.stuck m slots ↔ slot ∈ slots ∧ (t.recordAt m slot).contents.kind = .mutex ∧
      ¬ t.policy.Gets (t.recordAt m slot).guard := by
  simp only [stuck, List.mem_filter, mem_mutexes, decide_eq_true_iff, and_assoc]

theorem mem_heldBy :
    slot ∈ t.heldBy owner m slots ↔
      slot ∈ slots ∧ (t.recordAt m slot).contents.HeldBy owner := by
  simp only [heldBy, List.mem_filter, mem_mutexes, decide_eq_true_iff, and_assoc]
  constructor
  · rintro ⟨mem, -, held⟩
    exact ⟨mem, held⟩
  · rintro ⟨mem, held⟩
    exact ⟨mem, held.kind, held⟩

theorem mem_lost :
    slot ∈ t.lost owner m slots ↔ slot ∈ slots ∧ (t.recordAt m slot).contents.HeldBy owner ∧
      t.policy.Gets (t.recordAt m slot).guard := by
  simp only [lost, List.mem_filter, mem_heldBy, decide_eq_true_iff, and_assoc]

theorem gets_of_not_stuck (mem : slot ∈ t.mutexes m slots) (others : slot ∉ t.stuck m slots) :
    t.policy.Gets (t.recordAt m slot).guard := by
  rw [mem_mutexes] at mem
  by_contra without
  exact others (mem_stuck.mpr ⟨mem.1, mem.2, without⟩)

def taken (t : Table) (m : Words) : List UInt32 :=
  (ObjectMap.all t.layout.capacity).filter fun slot => t.holds slot m

/-- The contents of all records after a sweep for `owner`, whatever their guards. -/
structure Relieved (t : Table) (owner : ThreadId) (m m' : Words) : Prop where
  abandons : ∀ slot ∈ t.lost owner m (t.taken m), (t.recordAt m' slot).contents =
    ⟨(t.recordAt m slot).contents.tag, ThreadId.none.raw, 0, 1⟩
  keeps : ∀ slot, slot ∉ t.lost owner m (t.taken m) →
    (t.recordAt m' slot).contents = (t.recordAt m slot).contents

/-- How a sweep for `owner` that nobody disturbs ends, and the memory that it leaves. -/
structure SweptAlone (t : Table) (owner : ThreadId) (m : Words) (ran : Outcome Nat × Words) :
    Prop where
  ends : ran.1 =
    if t.stuck m (t.taken m) = [] then .value (t.lost owner m (t.taken m)).length
    else .failed (.sweepIncomplete (t.lost owner m (t.taken m)).length (t.stuck m (t.taken m)))
  ascending : (t.stuck m (t.taken m)).Pairwise (· < ·)
  relieved : t.Relieved owner m ran.2
  /-- A sweep for nobody changes no contents. -/
  nobody : owner = .none → ∀ slot,
    (t.recordAt ran.2 slot).contents = (t.recordAt m slot).contents
  /-- Guards that the sweep got are free, and the others have the holders that they had. -/
  guards : ∀ slot ∈ t.mutexes m (t.taken m), if t.policy.Gets (t.recordAt m slot).guard then
      (t.recordAt ran.2 slot).guard = 0
    else Guard.holderOf (t.recordAt ran.2 slot).guard = Guard.holderOf (t.recordAt m slot).guard
  /-- Nothing but the records of mutexes is written to. -/
  elsewhere : ∀ j, (∀ slot ∈ t.mutexes m (t.taken m), t.Outside slot j) → ran.2.get j = m.get j

theorem Serves.slots_eq_taken (serves : Serves c t) (m : Words) : t.slots m = t.taken m := by
  rw [serves.slots_eq_filter, taken, serves.layout]
  rfl

theorem Serves.sweptAlone (serves : Serves c t) (bounded : t.policy.timeout = some limit)
    (owner : ThreadId) (m : Words) :
    t.SweptAlone owner m ((t.abandonMutexes owner).result m) := by
  have passable : t.Passable m (t.slots m) := by
    intro unbounded
    rw [bounded] at unbounded
    cases unbounded
  obtain ⟨m', ran, walked⟩ := serves.abandonMutexes_walks owner passable
  rw [serves.slots_eq_taken] at ran walked
  rw [ran]
  have keeps (slot : UInt32) (other : slot ∉ t.lost owner m (t.taken m)) :
      (t.recordAt m' slot).contents = (t.recordAt m slot).contents := by
    by_cases mem : slot ∈ t.taken m
    · apply (walked.visited slot mem).contents_of_not_lost
      intro lost
      exact other (mem_lost.mpr ⟨mem, lost⟩)
    · rw [walked.recordAt_of_not_mem serves.layout mem]
  refine ⟨?_, ?_, ⟨?_, keeps⟩, ?_, ?_, walked.elsewhere⟩
  · unfold tallyOf SweepTally.answer
    by_cases all : t.stuck m (t.taken m) = []
    · rw [if_pos all, if_pos (List.isEmpty_iff.mpr all)]
      rfl
    · rw [if_neg all, if_neg fun empty => all (List.isEmpty_iff.mp empty)]
      rfl
  · exact (((ObjectMap.pairwise_all _).filter _).filter _).filter _
  · intro slot mem
    obtain ⟨mem, held, gets⟩ := mem_lost.mp mem
    exact (walked.visited slot mem).contents_of_lost held gets
  · intro nobody slot
    apply keeps slot
    intro mem
    exact (mem_lost.mp mem).2.1.named nobody
  · intro slot mem
    obtain ⟨mem, mutex⟩ := mem_mutexes.mp mem
    exact (walked.visited slot mem).guard mutex

/-! ## Sweeping until nothing is left -/

/-- Live holders keep the guards of these slots no longer, and nothing else has changed. -/
structure LetGo (t : Table) (slots : List UInt32) (m m' : Words) : Prop where
  gets : ∀ slot ∈ slots, t.policy.Gets (t.recordAt m' slot).guard
  elsewhere : ∀ j, (∀ slot ∈ slots, j ≠ t.layout.recordIndex slot) → m'.get j = m.get j

theorem Serves.taken_congr (serves : Serves c t)
    (same : ∀ j, (∀ slot, j < t.layout.recordIndex slot) → m'.get j = m.get j) :
    t.taken m' = t.taken m := by
  apply List.filter_congr
  intro slot mem
  have inside := ObjectMap.mem_all.mp mem
  have word : wordOf slot < (Layout.ofCapacity c).bitmapWords := by
    apply Layout.wordOf_lt
    rw [serves.layout] at inside
    exact inside
  have before (other : UInt32) :
      t.layout.bitmapIndex (slot.toNat / 64) + 2 ≤ t.layout.recordIndex other := by
    rw [serves.layout]
    exact Layout.bitmap_before_records word other
  rw [holds_of_lt inside, holds_of_lt inside, marked, marked]
  congr 1
  apply Words.getLong_congr
  · apply same
    intro other
    have below := before other
    omega
  · apply same
    intro other
    have below := before other
    omega

theorem LetGo.contents (laidOut : t.layout = .ofCapacity c) (letGo : t.LetGo slots m m')
    (slot : UInt32) : (t.recordAt m' slot).contents = (t.recordAt m slot).contents := by
  have same (k : Nat) (payload : 0 < k ∧ k < 5) :
      m'.get (t.layout.recordIndex slot + k) = m.get (t.layout.recordIndex slot + k) := by
    apply letGo.elsewhere
    intro other _
    by_cases own : slot = other
    · rw [own]
      omega
    · have apart := Layout.records_apart c own
      rw [← laidOut] at apart
      omega
  simp only [recordAt, Words.record, same 1 (by decide), same 2 (by decide), same 3 (by decide),
    same 4 (by decide)]

theorem LetGo.recordAt_of_not_mem (laidOut : t.layout = .ofCapacity c)
    (letGo : t.LetGo slots m m') (without : slot ∉ slots) :
    t.recordAt m' slot = t.recordAt m slot := by
  apply recordAt_congr
  intro j inside
  apply letGo.elsewhere
  intro other mem own
  have apart : slot ≠ other := by
    rintro rfl
    exact without mem
  have outside := outside_of_ne laidOut inside apart
  unfold Outside at outside
  omega

theorem LetGo.taken (serves : Serves c t) (letGo : t.LetGo slots m m') :
    t.taken m' = t.taken m := by
  apply serves.taken_congr
  intro j before
  apply letGo.elsewhere
  intro slot _
  exact Nat.ne_of_lt (before slot)

namespace Relieved

theorem kind (relieved : t.Relieved owner m m') (slot : UInt32) :
    (t.recordAt m' slot).contents.kind = (t.recordAt m slot).contents.kind := by
  by_cases mem : slot ∈ t.lost owner m (t.taken m)
  · rw [relieved.abandons slot mem]
    rfl
  · rw [relieved.keeps slot mem]

theorem mutexes (relieved : t.Relieved owner m m') (taken : t.taken m' = t.taken m) :
    t.mutexes m' (t.taken m') = t.mutexes m (t.taken m) := by
  rw [taken]
  apply List.filter_congr
  intro slot _
  rw [relieved.kind slot]

theorem heldBy_iff (relieved : t.Relieved owner m m') (mem : slot ∈ t.taken m) :
    (t.recordAt m' slot).contents.HeldBy owner ↔
      (t.recordAt m slot).contents.HeldBy owner ∧ ¬ t.policy.Gets (t.recordAt m slot).guard := by
  by_cases lost : slot ∈ t.lost owner m (t.taken m)
  · rw [relieved.abandons slot lost]
    have gets := (mem_lost.mp lost).2.2
    constructor
    · intro held
      exact absurd rfl held.held
    · rintro ⟨-, without⟩
      exact absurd gets without
  · rw [relieved.keeps slot lost]
    rw [mem_lost, not_and, not_and] at lost
    constructor
    · intro held
      exact ⟨held, lost mem held⟩
    · exact And.left

theorem letGo (laidOut : t.layout = .ofCapacity c) (relieved : t.Relieved owner m m')
    (letGo : t.LetGo slots m' m'') : t.Relieved owner m m'' where
  abandons slot mem := by rw [letGo.contents laidOut, relieved.abandons slot mem]
  keeps slot mem := by rw [letGo.contents laidOut, relieved.keeps slot mem]

end Relieved

/-- A second sweep that gets every guard finds what the first did not get. -/
theorem lost_of_relieved (relieved : t.Relieved owner m m') (taken : t.taken m' = t.taken m)
    (gets : ∀ slot ∈ t.mutexes m (t.taken m), t.policy.Gets (t.recordAt m' slot).guard) :
    t.lost owner m' (t.taken m') = (t.heldBy owner m (t.taken m)).filter
      fun slot => ¬ t.policy.Gets (t.recordAt m slot).guard := by
  rw [lost, heldBy, relieved.mutexes taken, heldBy, List.filter_filter, List.filter_filter]
  apply List.filter_congr
  intro slot mem
  have held := relieved.heldBy_iff (mem_mutexes.mp mem).1
  simp only [gets slot mem, decide_true, Bool.true_and, held, Bool.decide_and, Bool.and_comm]

theorem length_lost_add (t : Table) (owner : ThreadId) (m : Words) (slots : List UInt32) :
    (t.lost owner m slots).length + ((t.heldBy owner m slots).filter
        fun slot => ¬ t.policy.Gets (t.recordAt m slot).guard).length =
      (t.heldBy owner m slots).length := by
  have parts := List.length_eq_length_filter_add (l := t.heldBy owner m slots)
    fun slot => t.policy.Gets (t.recordAt m slot).guard
  rw [lost, parts]
  simp only [decide_not]

namespace SweptAlone

variable {ran : Outcome Nat × Words}

theorem taken (serves : Serves c t) (swept : t.SweptAlone owner m ran) :
    t.taken ran.2 = t.taken m := by
  apply serves.taken_congr
  intro j before
  apply swept.elsewhere
  intro slot _
  exact .inl (before slot)

/-- Once live holders have let go of the guards that a sweep did not get, all guards can be had. -/
theorem gets_of_letGo (serves : Serves c t) (swept : t.SweptAlone owner m ran)
    (letGo : t.LetGo (t.stuck m (t.taken m)) ran.2 m') (mem : slot ∈ t.mutexes m (t.taken m)) :
    t.policy.Gets (t.recordAt m' slot).guard := by
  by_cases stuck : slot ∈ t.stuck m (t.taken m)
  · exact letGo.gets slot stuck
  · have guard := swept.guards slot mem
    rw [if_pos (gets_of_not_stuck mem stuck)] at guard
    rw [letGo.recordAt_of_not_mem serves.layout stuck]
    exact ⟨serves.canClaim, .inl guard⟩

theorem nothing_left (serves : Serves c t) (swept : t.SweptAlone owner m ran)
    (all : t.stuck m (t.taken m) = []) :
    (∀ slot ∈ t.mutexes m (t.taken m), (t.recordAt ran.2 slot).guard = 0) ∧
      t.stuck ran.2 (t.taken ran.2) = [] ∧ t.lost owner ran.2 (t.taken ran.2) = [] := by
  have gets (slot : UInt32) (mem : slot ∈ t.mutexes m (t.taken m)) :
      t.policy.Gets (t.recordAt m slot).guard := by
    apply gets_of_not_stuck mem
    rw [all]
    exact List.not_mem_nil
  have free (slot : UInt32) (mem : slot ∈ t.mutexes m (t.taken m)) :
      (t.recordAt ran.2 slot).guard = 0 := by
    have left := swept.guards slot mem
    rwa [if_pos (gets slot mem)] at left
  refine ⟨free, ?_, ?_⟩
  · apply List.eq_nil_iff_forall_not_mem.mpr
    intro slot mem
    obtain ⟨mem, mutex, without⟩ := mem_stuck.mp mem
    have found : slot ∈ t.mutexes m (t.taken m) := by
      rw [← swept.relieved.mutexes (swept.taken serves)]
      exact mem_mutexes.mpr ⟨mem, mutex⟩
    apply without
    rw [free slot found]
    exact ⟨serves.canClaim, .inl rfl⟩
  · apply List.eq_nil_iff_forall_not_mem.mpr
    intro slot mem
    obtain ⟨mem, held, -⟩ := mem_lost.mp mem
    rw [swept.taken serves] at mem
    have before := (swept.relieved.heldBy_iff mem).mp held
    exact before.2 (gets slot (mem_mutexes.mpr ⟨mem, before.1.kind⟩))

theorem same (swept : t.SweptAlone owner m ran)
    (free : ∀ slot ∈ t.mutexes m (t.taken m), (t.recordAt m slot).guard = 0)
    (valid : t.policy.canClaim = true) (none : t.lost owner m (t.taken m) = []) (j : Nat) :
    ran.2.get j = m.get j := by
  by_cases outside : ∀ slot ∈ t.mutexes m (t.taken m), t.Outside slot j
  · exact swept.elsewhere j outside
  · simp only [not_forall] at outside
    obtain ⟨slot, mem, inside⟩ := outside
    have record : t.recordAt ran.2 slot = t.recordAt m slot := by
      have guard := swept.guards slot mem
      rw [if_pos ⟨valid, .inl (free slot mem)⟩] at guard
      have contents := swept.relieved.keeps slot (by rw [none]; exact List.not_mem_nil)
      rw [Record.mk.injEq]
      exact ⟨guard.trans (free slot mem).symm, contents⟩
    unfold Outside at inside
    apply Words.get_congr_of_record record
    · omega
    · omega

end SweptAlone

/-- How a second and a third sweep end, where the first began with the memory `m`, and live holders
had let go of all guards before the second, which began with `m₂`. -/
structure Finished (t : Table) (owner : ThreadId) (m m₂ : Words)
    (second third : Outcome Nat × Words) : Prop where
  /-- The second sweep abandons the mutexes whose guards the first did not get. -/
  rest : t.lost owner m₂ (t.taken m₂) = (t.heldBy owner m (t.taken m)).filter
    fun slot => ¬ t.policy.Gets (t.recordAt m slot).guard
  ends : second.1 = .value (t.lost owner m₂ (t.taken m₂)).length
  sum : (t.lost owner m (t.taken m)).length + (t.lost owner m₂ (t.taken m₂)).length =
    (t.heldBy owner m (t.taken m)).length
  abandoned : ∀ slot ∈ t.heldBy owner m (t.taken m), (t.recordAt second.2 slot).contents =
    ⟨(t.recordAt m slot).contents.tag, ThreadId.none.raw, 0, 1⟩
  kept : ∀ slot, slot ∉ t.heldBy owner m (t.taken m) →
    (t.recordAt second.2 slot).contents = (t.recordAt m slot).contents
  /-- The third finds nothing and writes nothing. -/
  nothing : third.1 = .value 0
  same : ∀ j, third.2.get j = second.2.get j

theorem Relieved.twice (first : t.Relieved owner m m') (second : t.Relieved owner m' m'')
    (rest : ∀ slot, slot ∈ t.lost owner m' (t.taken m') ↔
      slot ∈ t.heldBy owner m (t.taken m) ∧ ¬ t.policy.Gets (t.recordAt m slot).guard) :
    (∀ slot ∈ t.heldBy owner m (t.taken m), (t.recordAt m'' slot).contents =
        ⟨(t.recordAt m slot).contents.tag, ThreadId.none.raw, 0, 1⟩) ∧
      ∀ slot, slot ∉ t.heldBy owner m (t.taken m) →
        (t.recordAt m'' slot).contents = (t.recordAt m slot).contents := by
  refine ⟨?_, ?_⟩
  · intro slot mem
    obtain ⟨found, held⟩ := mem_heldBy.mp mem
    by_cases gets : t.policy.Gets (t.recordAt m slot).guard
    · have spared : slot ∉ t.lost owner m' (t.taken m') := by
        rw [rest]
        rintro ⟨-, without⟩
        exact without gets
      rw [second.keeps slot spared, first.abandons slot (mem_lost.mpr ⟨found, held, gets⟩)]
    · have spared : slot ∉ t.lost owner m (t.taken m) := by
        intro lost
        exact gets (mem_lost.mp lost).2.2
      rw [second.abandons slot ((rest slot).mpr ⟨mem, gets⟩), first.keeps slot spared]
  · intro slot other
    have before : slot ∉ t.lost owner m (t.taken m) := by
      intro lost
      exact other (List.mem_filter.mp lost).1
    have after : slot ∉ t.lost owner m' (t.taken m') := by
      rw [rest]
      intro lost
      exact other lost.1
    rw [second.keeps slot after, first.keeps slot before]

/-- Once live holders have let go of the guards that a sweep did not get, a second sweep abandons
what the first did not, and a third finds nothing. -/
theorem Serves.finished (serves : Serves c t) (bounded : t.policy.timeout = some limit)
    (letGo : t.LetGo (t.stuck m (t.taken m)) ((t.abandonMutexes owner).result m).2 m') :
    t.Finished owner m m' ((t.abandonMutexes owner).result m')
      ((t.abandonMutexes owner).result ((t.abandonMutexes owner).result m').2) := by
  have first := serves.sweptAlone bounded owner m
  have second := serves.sweptAlone bounded owner m'
  have third := serves.sweptAlone bounded owner ((t.abandonMutexes owner).result m').2
  generalize (t.abandonMutexes owner).result m = ran₁ at first letGo
  generalize (t.abandonMutexes owner).result m' = ran₂ at second third ⊢
  generalize (t.abandonMutexes owner).result ran₂.2 = ran₃ at third
  have relieved := first.relieved.letGo serves.layout letGo
  have taken : t.taken m' = t.taken m := (letGo.taken serves).trans (first.taken serves)
  have gets (slot : UInt32) (mem : slot ∈ t.mutexes m (t.taken m)) :=
    first.gets_of_letGo serves letGo mem
  have all : t.stuck m' (t.taken m') = [] := by
    apply List.eq_nil_iff_forall_not_mem.mpr
    intro slot mem
    obtain ⟨found, mutex, without⟩ := mem_stuck.mp mem
    apply without
    apply gets
    rw [← relieved.mutexes taken]
    exact mem_mutexes.mpr ⟨found, mutex⟩
  have rest := lost_of_relieved relieved taken gets
  have swept := relieved.twice second.relieved fun slot => by
    rw [rest, List.mem_filter, decide_eq_true_iff]
  obtain ⟨free, none, nobody⟩ := second.nothing_left serves all
  refine ⟨rest, ?_, ?_, swept.1, swept.2, ?_, ?_⟩
  · rw [second.ends, if_pos all]
  · rw [rest, length_lost_add]
  · rw [third.ends, if_pos none, nobody]
    rfl
  · apply third.same _ serves.canClaim nobody
    intro slot mem
    rw [second.relieved.mutexes (second.taken serves)] at mem
    exact free slot mem

end Outcomes

/-! ## Handles -/

/-- The handles that making a table or attaching to one gives. -/
inductive Given (t : Table) : Prop where
  | made {region : Region} {settings : TableSettings} {m m' : Words}
      (made : (Table.create region settings).result m = (.value t, m')) : t.Given
  | attached {region : Region} {p : GuardPolicy} {m m' : Words}
      (attached : (Table.attach region p).result m = (.value t, m')) : t.Given

theorem Given.serves {t : Table} (given : t.Given) : t.Serves t.layout.capacity := by
  cases given with
  | made made =>
    obtain ⟨valid, fits⟩ := Table.of_create made
    rw [Table.create_result valid fits] at made
    cases made
    exact (Stands.start _ valid Words.zero).serve _ (List.mem_singleton_self _)
  | attached attached =>
    obtain ⟨valid, l, accepted, rfl⟩ := Table.of_attach _ _ attached
    obtain ⟨c, -, -, rfl⟩ := Header.validate_eq_ok_iff.mp accepted
    exact ⟨rfl, valid⟩

/-- A sweep of a table whatever its records hold, that nobody disturbs, through any handle that
waits for guards no longer than a limit: it ends with the number of mutexes of `owner` that it got,
and with the mutexes whose guards live holders keep if there are any, and abandons the mutexes that
it got and nothing else. Once the guards are let go of, the next sweep abandons those that are left,
and the one after that finds nothing. -/
theorem Given.sweeps_alone {t : Table} (given : t.Given) {limit : Duration}
    (bounded : t.policy.timeout = some limit) (owner : ThreadId) (m : Words) :
    t.SweptAlone owner m ((t.abandonMutexes owner).result m) ∧
      ∀ m₂, t.LetGo (t.stuck m (t.taken m)) ((t.abandonMutexes owner).result m).2 m₂ →
        t.Finished owner m m₂ ((t.abandonMutexes owner).result m₂)
          ((t.abandonMutexes owner).result ((t.abandonMutexes owner).result m₂).2) := by
  refine ⟨given.serves.sweptAlone bounded owner m, ?_⟩
  intro m₂ letGo
  exact given.serves.finished bounded letGo

/-- A handle on a table with two slots that gives up at once on guards that others hold. -/
def pair : Table := ⟨{ (default : Region) with size := 128 }, .ofCapacity 2, Guard.hasty 7⟩

theorem given_pair : pair.Given := by
  have made : (Table.create pair.region ⟨2, Guard.hasty 7⟩).result Words.zero = (.value pair, _) :=
    Table.create_result rfl (by decide) Words.zero
  exact .made made

theorem exists_pair_held :
    ∃ m, pair.taken m = [0, 1] ∧ pair.recordAt m 0 = ⟨0, .ofState (.mutex (.heldBy ⟨5⟩))⟩ ∧
      pair.recordAt m 1 = ⟨9, .ofState (.mutex (.heldBy ⟨5⟩))⟩ := by
  have serves : Serves 2 pair := given_pair.serves
  obtain ⟨m₁, -, h₁⟩ := serves.create_refines (.mutex (some ⟨5⟩)) _ .empty
    (represents_layOut 2 Words.zero)
  obtain ⟨m₂, -, h₂⟩ := serves.create_refines (.mutex (some ⟨5⟩)) m₁ _ h₁
  refine
    ⟨m₂.setRecord (pair.layout.recordIndex 1) ⟨9, .ofState (.mutex (.heldBy ⟨5⟩))⟩, ?_, ?_, ?_⟩
  · have same := serves.taken_congr (m := m₂) fun j before =>
      Words.get_setRecord_of_outside (i := pair.layout.recordIndex 1)
        ⟨9, .ofState (.mutex (.heldBy ⟨5⟩))⟩ (.inl (before 1))
    rw [same, ← serves.slots_eq_taken, serves.slots_eq h₂]
    rfl
  · exact (record_setRecord_of_ne _ (by decide)).trans (h₂.records 0 (by decide))
  · exact Words.record_setRecord_self ..

/-- A thread that is gone held two mutexes, and somebody who lives keeps the guard of the second
until the first sweep is over. -/
theorem sweeps_alone_past_held_guard :
    ∃ m m₁ m₂ m₃ m₄ : Words, pair.Given ∧ pair.policy.timeout = some ⟨0⟩ ∧
      pair.heldBy ⟨5⟩ m (pair.taken m) = [0, 1] ∧
      (pair.abandonMutexes ⟨5⟩).result m = (.failed (.sweepIncomplete 1 [1]), m₁) ∧
      pair.LetGo (pair.stuck m (pair.taken m)) m₁ m₂ ∧
      (pair.abandonMutexes ⟨5⟩).result m₂ = (.value 1, m₃) ∧
      (pair.abandonMutexes ⟨5⟩).result m₃ = (.value 0, m₄) := by
  obtain ⟨m, taken, first, second⟩ := exists_pair_held
  have mutexes : pair.mutexes m (pair.taken m) = [0, 1] := by
    simp only [Table.mutexes, taken, List.filter, first, second]
    rfl
  have held : pair.heldBy ⟨5⟩ m (pair.taken m) = [0, 1] := by
    simp only [heldBy, mutexes, List.filter, first, second]
    rfl
  have stuck : pair.stuck m (pair.taken m) = [1] := by
    simp only [Table.stuck, mutexes, List.filter, first, second]
    rfl
  have lost : pair.lost ⟨5⟩ m (pair.taken m) = [0] := by
    simp only [Table.lost, held, List.filter, first, second]
    rfl
  obtain ⟨swept, finished⟩ := given_pair.sweeps_alone rfl ⟨5⟩ m
  let m₁ := ((pair.abandonMutexes ⟨5⟩).result m).2
  let m₂ := m₁.set (pair.layout.recordIndex 1) 0
  let m₃ := ((pair.abandonMutexes ⟨5⟩).result m₂).2
  let m₄ := ((pair.abandonMutexes ⟨5⟩).result m₃).2
  have letGo : pair.LetGo (pair.stuck m (pair.taken m)) m₁ m₂ := by
    rw [stuck]
    refine ⟨?_, ?_⟩
    · intro slot mem
      rw [List.mem_singleton.mp mem]
      exact ⟨rfl, .inl ((Words.get_set ..).trans (if_pos rfl))⟩
    · intro j other
      exact (Words.get_set ..).trans (if_neg (other 1 (List.mem_singleton_self 1)).symm)
  have ends := swept.ends
  rw [stuck, lost] at ends
  have last := finished m₂ letGo
  have sum := last.sum
  rw [lost, held] at sum
  have one : (pair.lost ⟨5⟩ m₂ (pair.taken m₂)).length = 1 := Nat.add_left_cancel sum
  refine ⟨m, m₁, m₂, m₃, m₄, given_pair, rfl, held, Prod.ext ends rfl, letGo, ?_, ?_⟩
  · exact Prod.ext (by rw [last.ends, one]) rfl
  · exact Prod.ext last.nothing rfl

end Table

end Interprocess
