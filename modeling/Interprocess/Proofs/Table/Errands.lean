import Interprocess.Proofs.Object.Lifecycle
import Interprocess.Proofs.Table.Sharing
import Interprocess.Proofs.Table.SlotViews
import Interprocess.Proofs.Table.Sweep

/-!
# What the calls of a table do, step by step

The calls that hand slots out and take them back, make objects in them, and sweep for the mutexes of
a thread that is gone, as errands that go on a step at a time. What one step of an errand makes of
the slots is said by the relation `Errand.Strides`, with one rule for each thing that can happen.
-/

namespace Interprocess

/-! ## Calls on the record of a slot -/

structure Contents.HeldBy (c : Contents) (holder : ThreadId) : Prop where
  kind : c.kind = .mutex
  held : c.mutexState.count ≠ 0
  owner : c.mutexState.owner = holder
  named : holder ≠ .none

instance (c : Contents) (holder : ThreadId) : Decidable (c.HeldBy holder) :=
  decidable_of_iff (c.kind = .mutex ∧ c.mutexState.count ≠ 0 ∧ c.mutexState.owner = holder ∧
      holder ≠ .none)
    ⟨fun ⟨kind, held, owner, named⟩ => ⟨kind, held, owner, named⟩,
      fun held => ⟨held.kind, held.held, held.owner, held.named⟩⟩

theorem Contents.not_heldBy_blank (holder : ThreadId) : ¬ Contents.blank.HeldBy holder :=
  fun held => held.held rfl

theorem Contents.HeldBy.changes {c : Contents} {holder : ThreadId} (held : c.HeldBy holder) :
    c.withMutex .abandonedFree ≠ c := by
  intro same
  have count : c.mutexState.count = 0 :=
    (congrArg (fun c : Contents => c.mutexState.count) same).symm
  exact held.held count

theorem Contents.heldBy_iff {c : Contents} {holder : ThreadId} (mutex : c.kind = .mutex) :
    c.HeldBy holder ↔
      ¬ (holder.isNone = true ∨ c.mutexState.count = 0 ∨ c.mutexState.owner ≠ holder) := by
  simp only [not_or, not_not]
  constructor
  · intro held
    exact ⟨ThreadId.not_isNone_iff.mpr held.named, held.held, held.owner⟩
  · rintro ⟨named, held, owner⟩
    exact ⟨mutex, held, owner, ThreadId.not_isNone_iff.mp named⟩

theorem Call.step_of_heldBy {c : Contents} {holder : ThreadId} (held : c.HeldBy holder) :
    (mutex (.abandonIfOwnedBy holder)).step c = (.ok (.flag true), c.withMutex .abandonedFree) := by
  rw [step_onMutex held.kind rfl, MutexCall.step, if_neg ((Contents.heldBy_iff held.kind).mp held)]

theorem Call.step_of_not_heldBy {c : Contents} {holder : ThreadId} (other : ¬ c.HeldBy holder) :
    (mutex (.abandonIfOwnedBy holder)).step c = (.ok (.flag false), c) ∨
      (mutex (.abandonIfOwnedBy holder)).step c =
        (.error (.typeMismatch (some .mutex) c.kind), c) := by
  by_cases kind : c.kind = .mutex
  · rw [Contents.heldBy_iff kind, not_not] at other
    rw [step_onMutex kind rfl, MutexCall.step, if_pos other]
    exact .inl rfl
  · rw [step, Contents.expect_of_ne kind]
    exact .inr rfl

theorem Call.step_setUp_of_ok {b : Blueprint} {c : Contents} {a : Answer}
    (answers : ((setUp b).step c).1 = .ok a) :
    c.tag = 0 ∧ ∃ state, b.firstState = .ok state ∧ ((setUp b).step c).2 = .ofState state := by
  have acts := (setUp b).acts c
  generalize (setUp b).step c = after at acts answers ⊢
  cases acts with
  | fails => cases answers
  | makes asks first blank =>
    cases asks
    exact ⟨blank, _, first, rfl⟩
  | looks asks | retires asks | mutex _ asks | event _ asks | semaphore _ asks => cases asks

/-- What an operation that a call stands for answers on a record under a policy that can be
followed, and the contents after it. -/
inductive Call.Yields {α : Type} (call : Call) (f : α → Answer) (c : Contents) :
    Outcome α → Contents → Prop where
  | ran {a : α} (answers : (call.step c).1 = .ok (f a)) :
      call.Yields f c (.value a) (call.step c).2
  | failed {e : SyncError} (fails : (call.step c).1 = .error e) : call.Yields f c (.failed e) c
  | timedOut (holder : UInt32) (waited : Duration) :
      call.Yields f c (.failed (.guardTimeout holder waited)) c
  | parked : call.Yields f c .blocked c

theorem Call.yields {α : Type} {op : Op Record α} {f : α → Answer} {p : GuardPolicy} (call : Call)
    (same : call.op p = f <$> op) (valid : p.canClaim = true) (r : Record) :
    call.Yields f r.contents (op.result r).1 (op.result r).2.contents := by
  have ends := call.ends p r
  rw [same, Op.result_map] at ends
  generalize op.result r = ran at ends ⊢
  obtain ⟨outcome, r'⟩ := ran
  generalize left : (outcome.map f, r') = after at ends
  cases ends with
  | rejected bad =>
    cases outcome <;> cases left
    exact .failed (congrArg Prod.fst (Call.step_of_refused bad r.contents))
  | ran =>
    obtain ⟨answered, rfl⟩ : outcome.map f = .ofExcept (call.step r.contents).1 ∧ r' = _ :=
      Prod.ext_iff.mp left
    cases outcome with
    | value a => exact .ran (Outcome.ofExcept_eq_value answered.symm)
    | failed e =>
      have fails := Outcome.ofExcept_eq_failed answered.symm
      have kept := Call.step_refused (.inl ⟨e, fails⟩)
      simp only [kept]
      exact .failed fails
    | blocked =>
      generalize (call.step r.contents).1 = x at answered
      cases x <;> cases answered
  | refused accepts invalid =>
    rw [valid] at invalid
    cases invalid
  | timedOut =>
    cases outcome <;> cases left
    exact .timedOut ..
  | parked =>
    cases outcome <;> cases left
    exact .parked

/-! ## Errands -/

/-- Where a call of a table stands. -/
inductive Errand where
  /-- Handing out a slot, and then making an object in it if one is asked for. -/
  | handsOut (object : Option Blueprint) (phase : Table.AllocPhase)
  /-- Making an object in a slot: in one that the call has handed out itself (`own`), or in one that
  its caller has. -/
  | sets (b : Blueprint) (slot : UInt32) (own : Bool)
  /-- Taking a slot back, for a caller or because no object could be made in it. -/
  | takesBack (slot : UInt32) (failure : Option SyncError) (phase : Table.FreePhase)
  | sweeps (owner : ThreadId) (phase : Table.SweepPhase)

/-- What such a call returns. -/
inductive Yield where
  | slot (answer : Except SyncError UInt32)
  | filled (slot : UInt32) (answer : Except SyncError Unit)
  | freed (slot : UInt32) (answer : Except SyncError Unit)
  | swept (owner : ThreadId) (answer : Except SyncError Nat)

/-- What a call returns that has taken a slot back, or has failed to. -/
def Yield.ofFree (slot : UInt32) : Option SyncError → Except SyncError Unit → Yield
  | none, answer => freed slot answer
  | some e, answer => .slot (answer.bind fun () => .error e)

/-- What a call leads to that goes on with another when it has its answer. -/
def Op.Progress.andThen {φ ψ α β : Type} (f : φ → ψ) (g : α → Op.Progress ψ β) :
    Op.Progress φ α → Op.Progress ψ β
  | .next phase => .next (f phase)
  | .answer a => g a

theorem Op.Progress.map_eq_andThen {φ ψ α β : Type} (f : φ → ψ) (g : α → β)
    (p : Op.Progress φ α) : p.map f g = p.andThen f fun a => .answer (g a) := by
  cases p <;> rfl

namespace Errand

/-- A call before its first step. -/
inductive Starts (c : UInt32) : Errand → Prop where
  | alloc : Starts c (handsOut none (.look 0))
  | create (b : Blueprint) : Starts c (handsOut (some b) (.look 0))
  | fill (b : Blueprint) {slot : UInt32} (inside : slot < c) : Starts c (sets b slot false)
  | free (slot : UInt32) : Starts c (takesBack slot none .check)
  | sweep (owner : ThreadId) : Starts c (sweeps owner (.collect 0 []))

/-- How a call goes on that has handed out a slot, or has found none. -/
def afterSlot : Option Blueprint → Except SyncError UInt32 → Op.Progress Errand Yield
  | some b, .ok slot => .next (sets b slot true)
  | _, answer => .answer (.slot answer)

/-- How a call goes on that has tried to make an object. -/
def afterSetUp (b : Blueprint) (slot : UInt32) (own : Bool) :
    Outcome Unit → Op.Progress Errand Yield
  | .value () => .answer (if own then .slot (.ok slot) else .filled slot (.ok ()))
  | .failed e =>
    if own then .next (takesBack slot (some e) .check) else .answer (.filled slot (.error e))
  | .blocked => .next (sets b slot own)

def step (t : Table) (fails : Bool) (m : Words) : Errand → Op.Progress Errand Yield × Words
  | handsOut object phase =>
    let (outcome, m) := (t.allocStep fails phase).result m
    ((Op.Progress.among phase outcome).andThen (handsOut object) (afterSlot object), m)
  | sets b slot own =>
    let (outcome, m) := (t.onRecord slot (b.setUp t.policy)).result m
    (afterSetUp b slot own outcome, m)
  | takesBack slot failure phase =>
    let (outcome, m) := (t.freeStep slot phase).result m
    ((Op.Progress.among phase outcome).map (takesBack slot failure) (.ofFree slot failure), m)
  | sweeps owner phase =>
    let (outcome, m) := (t.sweepStep owner phase).result m
    ((Op.Progress.among phase outcome).map (sweeps owner) (.swept owner), m)

/-- The slots that a sweep has seen and not yet visited. -/
def ahead : Table.SweepPhase → List UInt32
  | .collect _ slots => slots
  | .look slots _ => slots
  | .opening slot rest _ => slot :: rest
  | .abandon slot rest _ => slot :: rest

/-- What a call has made sure of where it stands. -/
def Fits (c : UInt32) : Errand → Prop
  | handsOut _ phase => (Work.handsOut phase).Fits c ∧ ∀ slot, phase = .count slot → slot < c
  | sets _ slot _ => slot < c
  | takesBack slot _ phase => (Work.takesBack slot phase).Fits c
  | sweeps _ phase => ∀ slot ∈ ahead phase, slot < c

theorem Starts.fits {c : UInt32} {w : Errand} (starts : w.Starts c) : w.Fits c := by
  cases starts with
  | alloc | create => exact ⟨trivial, nofun⟩
  | fill b inside => exact inside
  | free => trivial
  | sweep => exact nofun

end Errand

/-! ## Calls that nobody disturbs -/

/-- A call goes on alone for a number of steps. -/
inductive Errand.Alone (t : Table) :
    Op.Progress Errand Yield × Words → Op.Progress Errand Yield × Words → Prop where
  | refl {x : Op.Progress Errand Yield × Words} : Alone t x x
  | next {w : Errand} {m : Words} {x : Op.Progress Errand Yield × Words}
      (rest : Alone t (w.step t false m) x) : Alone t (.next w, m) x

section Alone

variable {t : Table} {m m' : Words} {ending : Op.Progress Errand Yield × Words}

/-- A call whose steps are the steps of an operation ends as the operation does. -/
theorem Errand.alone_of_drive {φ α : Type} {step : φ → Op Words (Op.Progress φ α)}
    {f : φ → Errand} {g : Except SyncError α → Op.Progress Errand Yield}
    (steps : ∀ phase m, (f phase).step t false m =
      ((Op.Progress.among phase ((step phase).result m).1).andThen f g, ((step phase).result m).2))
    {a : Except SyncError α} (rest : Alone t (g a, m') ending) (n : Nat) {phase : φ}
    (ran : (Op.drive step n phase).result m = (.ofExcept a, m')) :
    Alone t (.next (f phase), m) ending := by
  induction n generalizing phase m with
  | zero =>
    have blocked := congrArg Prod.fst ran
    cases a <;> cases blocked
  | succ n ih =>
    refine .next ?_
    rw [steps]
    rcases first : (step phase).result m with ⟨(_ | _) | e | _, m₁⟩
    · rw [Op.result_drive_of_next first] at ran
      exact ih ran
    · rw [Op.result_drive_of_answer first] at ran
      cases a <;> cases ran
      exact rest
    · rw [Op.result_drive_of_failed first] at ran
      cases a <;> cases ran
      exact rest
    · rw [Op.result_drive_of_blocked first] at ran
      cases a <;> cases ran

theorem Errand.alloc_alone {object : Option Blueprint} {a : Except SyncError UInt32}
    (rest : Alone t (afterSlot object a, m') ending) (ran : t.alloc.result m = (.ofExcept a, m')) :
    Alone t (.next (handsOut object (.look 0)), m) ending := by
  rw [Table.alloc_eq] at ran
  exact alone_of_drive (fun _ _ => rfl) rest _ ran

theorem Errand.takesBack_alone {slot : UInt32} {a : Except SyncError Unit}
    (failure : Option SyncError) {n : Nat} {phase : Table.FreePhase}
    (ran : (Op.drive (t.freeStep slot) n phase).result m = (.ofExcept a, m')) :
    Alone t (.next (takesBack slot failure phase), m) (.answer (.ofFree slot failure a), m') :=
  alone_of_drive (g := fun a => .answer (.ofFree slot failure a))
    (fun _ _ => congrArg (·, _) (Op.Progress.map_eq_andThen ..)) .refl _ ran

theorem Errand.free_alone {slot : UInt32} {a : Except SyncError Unit} (failure : Option SyncError)
    (ran : (t.free slot).result m = (.ofExcept a, m')) :
    Alone t (.next (takesBack slot failure .check), m) (.answer (.ofFree slot failure a), m') := by
  rw [Table.free_eq] at ran
  exact takesBack_alone failure ran

theorem Errand.sweep_alone {owner : ThreadId} {a : Except SyncError Nat}
    (ran : (t.abandonMutexes owner).result m = (.ofExcept a, m')) :
    Alone t (.next (sweeps owner (.collect 0 [])), m) (.answer (.swept owner a), m') := by
  rw [Table.abandonMutexes_eq] at ran
  exact alone_of_drive (g := fun a => .answer (.swept owner a))
    (fun _ _ => congrArg (·, _) (Op.Progress.map_eq_andThen ..)) .refl _ ran

/-- A creation is made of a call that hands out a slot, one that sets up its record and, if that
fails, one that takes the slot back. -/
theorem Errand.create_alone {b : Blueprint} {a : Except SyncError UInt32}
    (ran : (t.createWith fun p => b.setUp p).result m = (.ofExcept a, m')) :
    Alone t (.next (handsOut (some b) (.look 0)), m) (.answer (.slot a), m') := by
  rcases first : t.alloc.result m with ⟨slot | e | _, m₁⟩
  · rw [Table.createWith_eq, Op.result_bind_of_value first] at ran
    refine alloc_alone (a := .ok slot) (.next ?_) first
    rcases made : (t.onRecord slot (b.setUp t.policy)).result m₁ with ⟨_ | e | _, m₂⟩
    · rw [Op.result_bind_of_value (Op.result_attempt_of_value made)] at ran
      rw [step, made]
      cases a <;> cases ran
      exact .refl
    · rw [Op.result_bind_of_value (Op.result_attempt_of_failed made)] at ran
      rw [step, made]
      rcases freed : (t.free slot).result m₂ with ⟨_ | e' | _, m₃⟩
      · rw [Op.result_bind_of_value freed] at ran
        cases a <;> cases ran
        exact free_alone (a := .ok ()) (some e) freed
      · rw [Op.result_bind_of_failed freed] at ran
        cases a <;> cases ran
        exact free_alone (a := .error e') (some e) freed
      · rw [Op.result_bind_of_blocked freed] at ran
        cases a <;> cases ran
    · rw [Op.result_bind_of_blocked (Op.result_attempt_of_blocked made)] at ran
      cases a <;> cases ran
  · rw [Table.createWith_eq, Op.result_bind_of_failed first] at ran
    cases a <;> cases ran
    exact alloc_alone (a := .error e) .refl first
  · rw [Table.createWith_eq, Op.result_bind_of_blocked first] at ran
    cases a <;> cases ran

end Alone

/-! ## Strides -/

/-- A step of a sweep for `owner` on a table with so many slots: where it stands before, how it goes
on, and the slots after the step. -/
inductive SweepStrides (c : UInt32) (owner : ThreadId) (v : UInt32 → SlotView) :
    Table.SweepPhase → Op.Progress Table.SweepPhase (Except SyncError Nat) →
      (UInt32 → SlotView) → Prop where
  | collects {index : Nat} {slots found : List UInt32} (inside : ∀ s ∈ found, s < c)
      (sees : ∀ s, Table.wordOf s = index → (v s).taken = true → s ∈ found) :
      SweepStrides c owner v (.collect index slots) (.next (.collect (index + 1) (slots ++ found)))
        v
  | collected {index : Nat} {slots : List UInt32} (past : ∀ s, s < c → Table.wordOf s < index) :
      SweepStrides c owner v (.collect index slots) (.next (.look slots ⟨0, []⟩)) v
  | sees {slot : UInt32} {rest : List UInt32} {tally : Table.SweepTally} :
      SweepStrides c owner v (.look (slot :: rest) tally) (.next (.opening slot rest tally)) v
  | opens {slot : UInt32} {rest : List UInt32} {tally : Table.SweepTally} :
      SweepStrides c owner v (.opening slot rest tally) (.next (.abandon slot rest tally)) v
  /-- The slot is passed over, when the sweep looks at it or when it opens it. -/
  | passes {slot : UInt32} {rest : List UInt32} {tally : Table.SweepTally}
      {phase : Table.SweepPhase}
      (stands : phase = .look (slot :: rest) tally ∨ phase = .opening slot rest tally)
      (kind : (v slot).contents.kind ≠ .mutex) :
      SweepStrides c owner v phase (.next (.look rest tally)) v
  | abandons {slot : UInt32} {rest : List UInt32} {tally : Table.SweepTally}
      (held : (v slot).contents.HeldBy owner) :
      SweepStrides c owner v (.abandon slot rest tally)
        (.next (.look rest { tally with abandoned := tally.abandoned + 1 }))
        (Function.update v slot
          ⟨(v slot).taken, (v slot).contents.withMutex .abandonedFree⟩)
  | spares {slot : UInt32} {rest : List UInt32} {tally : Table.SweepTally}
      (other : ¬ (v slot).contents.HeldBy owner) :
      SweepStrides c owner v (.abandon slot rest tally) (.next (.look rest tally)) v
  | stalls {slot : UInt32} {rest : List UInt32} {tally : Table.SweepTally} :
      SweepStrides c owner v (.abandon slot rest tally)
        (.next (.look rest { tally with stuck := tally.stuck ++ [slot] })) v
  | waits {slot : UInt32} {rest : List UInt32} {tally : Table.SweepTally} :
      SweepStrides c owner v (.abandon slot rest tally) (.next (.abandon slot rest tally)) v
  | reports {tally : Table.SweepTally} :
      SweepStrides c owner v (.look [] tally) (.answer tally.answer) v

/-- A step of a call on a table with so many slots: where it stands before, how it goes on, and the
slots after the step. -/
inductive Errand.Strides (c : UInt32) (v : UInt32 → SlotView) :
    Errand → Op.Progress Errand Yield → (UInt32 → SlotView) → Prop where
  /-- The guard is held, and the call waits for it. -/
  | waits {w : Errand} : Strides c v w (.next w) v
  | seeks {object : Option Blueprint} {phase phase' : Table.AllocPhase}
      (before : ∀ slot, phase ≠ .count slot) (after : ∀ slot, phase' ≠ .count slot)
      (fits : (Work.handsOut phase').Fits c) :
      Strides c v (handsOut object phase) (.next (handsOut object phase')) v
  | full {object : Option Blueprint} {phase : Table.AllocPhase} {e : SyncError}
      (before : ∀ slot, phase ≠ .count slot) :
      Strides c v (handsOut object phase) (afterSlot object (.error e)) v
  | claims {object : Option Blueprint} {index bit : Nat} {current : UInt64} {slot : UInt32}
      (inside : slot < c) (clear : (v slot).taken = false) :
      Strides c v (handsOut object (.claim index current bit))
        (.next (handsOut object (.count slot)))
        (Function.update v slot ⟨true, (v slot).contents⟩)
  | counts {object : Option Blueprint} {slot : UInt32} :
      Strides c v (handsOut object (.count slot)) (afterSlot object (.ok slot)) v
  | makes {b : Blueprint} {slot : UInt32} {own : Bool} {state : ObjectState}
      (blank : (v slot).contents.tag = 0) (first : b.firstState = .ok state) :
      Strides c v (sets b slot own) (afterSetUp b slot own (.value ()))
        (Function.update v slot ⟨(v slot).taken, .ofState state⟩)
  | fails {b : Blueprint} {slot : UInt32} {own : Bool} {e : SyncError} :
      Strides c v (sets b slot own) (afterSetUp b slot own (.failed e)) v
  | finds {slot : UInt32} {failure : Option SyncError} (inside : slot < c)
      (set : (v slot).taken = true) :
      Strides c v (takesBack slot failure .check) (.next (takesBack slot failure .retire)) v
  /-- The slot is not handed out, when the call checks it or when it clears its bit. -/
  | misses {slot : UInt32} {failure : Option SyncError} {phase : Table.FreePhase}
      (stands : phase = .check ∨ ∃ kind, phase = .clear kind) (clear : (v slot).taken = false) :
      Strides c v (takesBack slot failure phase)
        (.answer (.ofFree slot failure (.error (.invalidSlot slot)))) v
  | retires {slot : UInt32} {failure : Option SyncError} {kind : Kind} :
      Strides c v (takesBack slot failure .retire) (.next (takesBack slot failure (.clear kind)))
        (Function.update v slot ⟨(v slot).taken, .blank⟩)
  | refused {slot : UInt32} {failure : Option SyncError} {holder : UInt32} {waited : Duration} :
      Strides c v (takesBack slot failure .retire)
        (.answer (.ofFree slot failure (.error (.guardTimeout holder waited)))) v
  | clears {slot : UInt32} {failure : Option SyncError} {kind : Kind}
      (set : (v slot).taken = true) :
      Strides c v (takesBack slot failure (.clear kind))
        (.next (takesBack slot failure (.count kind)))
        (Function.update v slot ⟨false, (v slot).contents⟩)
  | freed {slot : UInt32} {failure : Option SyncError} {kind : Kind} :
      Strides c v (takesBack slot failure (.count kind))
        (.answer (.ofFree slot failure (.ok ()))) v
  | sweeps {owner : ThreadId} {phase : Table.SweepPhase}
      {next : Op.Progress Table.SweepPhase (Except SyncError Nat)} {v' : UInt32 → SlotView}
      (strides : SweepStrides c owner v phase next v') :
      Strides c v (sweeps owner phase) (next.map (.sweeps owner) (.swept owner)) v'

theorem Errand.Strides.fits {c : UInt32} {v v' : UInt32 → SlotView} {w w' : Errand}
    {next : Op.Progress Errand Yield} (h : w.Strides c v next v') (fits : w.Fits c)
    (goesOn : next = .next w') : w'.Fits c := by
  cases h with
  | waits =>
    cases goesOn
    exact fits
  | seeks _ after fits' =>
    cases goesOn
    exact ⟨fits', fun slot counts => absurd counts (after slot)⟩
  | claims inside =>
    cases goesOn
    refine ⟨trivial, ?_⟩
    rintro slot ⟨⟩
    exact inside
  | @counts object slot =>
    cases object <;> cases goesOn
    exact fits.2 slot rfl
  | @full object =>
    cases object <;> cases goesOn
  | makes | misses | refused | freed => cases goesOn
  | @fails b slot own =>
    cases own <;> cases goesOn
    trivial
  | finds inside =>
    cases goesOn
    exact inside
  | retires | clears =>
    cases goesOn
    exact fits
  | sweeps strides =>
    cases strides with
    | collects inside =>
      cases goesOn
      exact fun slot mem => (List.mem_append.mp mem).elim (fits slot) (inside slot)
    | collected | sees | opens | waits =>
      cases goesOn
      exact fits
    | passes stands =>
      cases goesOn
      rcases stands with rfl | rfl
      all_goals exact fun slot mem => fits slot (List.mem_cons_of_mem _ mem)
    | abandons | spares | stalls =>
      cases goesOn
      exact fun slot mem => fits slot (List.mem_cons_of_mem _ mem)
    | reports => cases goesOn

end Interprocess
