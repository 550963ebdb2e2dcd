import Interprocess.Proofs.Object.Ownership
import Interprocess.Proofs.Object.Units

/-!
# How calls on a record end

Everything that a call on a record can do when nobody else acts on it, for any words in the record
and any policy (`Call.ends`): it rejects its arguments, runs under the guard, or does not get the
guard. A call that fails has changed nothing but, perhaps, the waiters bit of a guard that somebody
holds; a call that had the guard leaves it free, and what it worked out did not wrap around.
-/

namespace Interprocess

/-! ## Who gets the guard -/

/-- A contender with the policy that is alone with the word gets it. -/
def GuardPolicy.Gets (p : GuardPolicy) (word : UInt32) : Prop :=
  p.canClaim = true ∧ (word = 0 ∨ p.probe.isAlive (Guard.holderOf word) = false)

/-- The arguments of a call make sense, so that it tries to claim the guard. -/
def Call.Accepts (call : Call) : Prop := ∃ body, call.body = .ok body

theorem GuardPolicy.not_gets_of_alive {p : GuardPolicy} {word : UInt32} (held : word ≠ 0)
    (alive : p.probe.isAlive (Guard.holderOf word) = true) : ¬ p.Gets word := by
  rintro ⟨-, free | dead⟩
  · exact held free
  · rw [alive] at dead
    cases dead

theorem GuardPolicy.not_gets_of_invalid {p : GuardPolicy} {word : UInt32}
    (invalid : p.canClaim = false) : ¬ p.Gets word := by
  rintro ⟨valid, -⟩
  rw [invalid] at valid
  cases valid

theorem Turn.enters_iff (t : Turn) : t.Enters ↔ t.policy.Gets t.guard := by
  show (Guard.settle t.policy t.guard).1.isHeld = true ↔ _
  have settles := Guard.settles t.policy t.guard
  generalize Guard.settle t.policy t.guard = settled at settles
  cases settles with
  | refused invalid => exact iff_of_false nofun (GuardPolicy.not_gets_of_invalid invalid)
  | free valid free => exact iff_of_true rfl ⟨valid, .inl free⟩
  | takenOver valid held dead => exact iff_of_true rfl ⟨valid, .inr dead⟩
  | timedOut valid held alive => exact iff_of_false nofun (GuardPolicy.not_gets_of_alive held alive)
  | parked valid held alive => exact iff_of_false nofun (GuardPolicy.not_gets_of_alive held alive)

instance (p : GuardPolicy) (word : UInt32) : Decidable (p.Gets word) :=
  inferInstanceAs (Decidable (_ ∧ _))

theorem GuardPolicy.gets_flagged {p : GuardPolicy} {word : UInt32} (held : word ≠ 0) :
    p.Gets (Guard.flagged word) ↔ p.Gets word := by
  simp only [Gets, Guard.holderOf_flagged, Guard.flagged_ne_zero, held]

section Guarded

variable {α : Type} {p : GuardPolicy} {r : Record}

theorem Record.guarded_of_gets (gets : p.Gets r.guard) (body : Body (Except SyncError α)) :
    (guarded p body).result r =
      (.ofExcept (body.run r.contents).1, ⟨0, (body.run r.contents).2⟩) := by
  rw [guarded_result]
  have settles := Guard.settles p r.guard
  generalize Guard.settle p r.guard = settled at settles
  cases settles with
  | refused invalid => exact absurd gets (GuardPolicy.not_gets_of_invalid invalid)
  | free | takenOver => rfl
  | timedOut valid held alive => exact absurd gets (GuardPolicy.not_gets_of_alive held alive)
  | parked valid held alive => exact absurd gets (GuardPolicy.not_gets_of_alive held alive)

/-- How an operation ends that does not get the guard, which a live holder keeps. -/
structure Record.Barred (p : GuardPolicy) (r : Record) (ran : Outcome α × Record) : Prop where
  contents : ran.2.contents = r.contents
  guard : ran.2.guard = r.guard ∨ ran.2.guard = Guard.flagged r.guard
  held : r.guard ≠ 0
  ends : (∃ waited, ran.1 = .failed (.guardTimeout (Guard.holderOf r.guard) waited)) ∨
    p.timeout = none ∧ ran.1 = .blocked

theorem Record.guarded_of_not_gets (valid : p.canClaim = true) (without : ¬ p.Gets r.guard)
    (body : Body (Except SyncError α)) : r.Barred p ((guarded p body).result r) := by
  rw [guarded_result]
  have settles := Guard.settles p r.guard
  generalize Guard.settle p r.guard = settled at settles
  cases settles with
  | refused invalid =>
    rw [valid] at invalid
    cases invalid
  | free valid free => exact absurd ⟨valid, .inl free⟩ without
  | takenOver valid held dead => exact absurd ⟨valid, .inr dead⟩ without
  | timedOut valid held =>
    refine ⟨rfl, ?_, held, .inl ⟨_, rfl⟩⟩
    dsimp only
    split
    · exact .inl rfl
    · exact .inr rfl
  | parked valid held alive unbounded => exact ⟨rfl, .inr rfl, held, .inr ⟨unbounded, rfl⟩⟩

theorem Record.Barred.guard_iff {ran : Outcome α × Record} (barred : r.Barred p ran) :
    (p.Gets ran.2.guard ↔ p.Gets r.guard) ∧
      Guard.holderOf ran.2.guard = Guard.holderOf r.guard := by
  rcases barred.guard with same | flagged
  · rw [same]
    exact ⟨Iff.rfl, rfl⟩
  · rw [flagged]
    exact ⟨GuardPolicy.gets_flagged barred.held, Guard.holderOf_flagged r.guard⟩

end Guarded

/-! ## Endings -/

/-- How a call can end on a record that nobody else touches, and the record that it leaves. -/
inductive Call.Ends (call : Call) (p : GuardPolicy) (r : Record) : Outcome Answer × Record → Prop
  where
  /-- The arguments make no sense. -/
  | rejected {e : SyncError} (bad : call.body = .error e) : call.Ends p r (.failed e, r)
  /-- The call ran under the guard, and released it. -/
  | ran (accepts : call.Accepts) (gets : p.Gets r.guard) :
      call.Ends p r (.ofExcept (call.step r.contents).1, ⟨0, (call.step r.contents).2⟩)
  /-- The policy names no holder that the guard word can carry. -/
  | refused (accepts : call.Accepts) (invalid : p.canClaim = false) :
      call.Ends p r (.failed GuardPolicy.holderIdError, r)
  /-- The holder of the guard lives, and the time is up. -/
  | timedOut (accepts : call.Accepts) (held : r.guard ≠ 0)
      (alive : p.probe.isAlive (Guard.holderOf r.guard) = true) {limit waited : Duration}
      (bounded : p.timeout = some limit) (reached : limit.nanos ≤ waited.nanos) :
      call.Ends p r
        (.failed (.guardTimeout (Guard.holderOf r.guard) waited),
          ⟨if limit.nanos = 0 then r.guard else Guard.flagged r.guard, r.contents⟩)
  /-- The holder of the guard lives, and is waited for without a limit. -/
  | parked (accepts : call.Accepts) (held : r.guard ≠ 0)
      (alive : p.probe.isAlive (Guard.holderOf r.guard) = true) (unbounded : p.timeout = none) :
      call.Ends p r (.blocked, ⟨Guard.flagged r.guard, r.contents⟩)

theorem Call.ends (call : Call) (p : GuardPolicy) (r : Record) :
    call.Ends p r ((call.op p).result r) := by
  rw [Call.op_result]
  cases hb : call.body with
  | error e => exact .rejected hb
  | ok body =>
    have accepts : call.Accepts := ⟨body, hb⟩
    simp only [Record.guarded_result, Call.body_run hb]
    have settles := Guard.settles p r.guard
    generalize Guard.settle p r.guard = settled at settles
    cases settles with
    | refused invalid => exact .refused accepts invalid
    | free valid free => exact .ran accepts ⟨valid, .inl free⟩
    | takenOver valid held dead => exact .ran accepts ⟨valid, .inr dead⟩
    | timedOut valid held alive bounded reached =>
      exact .timedOut accepts held alive bounded reached
    | parked valid held alive unbounded => exact .parked accepts held alive unbounded

theorem Call.ends_of_bounded {p : GuardPolicy} (bounded : p.timeout ≠ none) (call : Call)
    (r : Record) : ((call.op p).result r).1 ≠ .blocked := by
  intro waits
  have ends := call.ends p r
  generalize (call.op p).result r = ran at ends waits
  cases ends with
  | parked _ _ _ unbounded => exact bounded unbounded
  | ran => cases answer : (call.step r.contents).1 <;> rw [answer] at waits <;> cases waits
  | rejected | refused | timedOut => cases waits

/-! ## Words that are worked out -/

theorem MutexCall.acquire_deeper {r : ThreadId} {m : MutexState} {d : UInt32}
    (answer : ((tryAcquire r).step m).1 = .ok (.acquisition (.recursive d))) :
    d.toNat = m.count.toNat + 1 ∧ ((tryAcquire r).step m).2.count = d := by
  simp only [step] at answer ⊢
  split_ifs at answer ⊢ with nobody free marked other deep
  all_goals cases answer
  exact ⟨toNat_add_one_of_lt (UInt32.not_le.mp deep), rfl⟩

theorem MutexCall.release_shallower {r : ThreadId} {m : MutexState} {n : UInt32}
    (answer : ((release r).step m).1 = .ok (.level n)) :
    ((release r).step m).2.count.toNat + 1 = m.count.toNat := by
  simp only [step] at answer ⊢
  split_ifs at answer ⊢ with refused last
  · show (0 : UInt32).toNat + 1 = m.count.toNat
    rw [last]
    rfl
  · have taken : m.count.toNat ≠ 0 := fun zero => refused (.inl (UInt32.toNat.inj zero))
    have one : (1 : UInt32) ≤ m.count := by
      rw [UInt32.le_iff_toNat_le]
      exact Nat.one_le_iff_ne_zero.mpr taken
    show (m.count - 1).toNat + 1 = m.count.toNat
    rw [UInt32.toNat_sub_of_le _ _ one, UInt32.toNat_one]
    omega

/-- The words that a call works out are the sums and differences of the numbers. -/
structure WorksOut (call : Call) (c : Contents) (a : Answer) (c' : Contents) : Prop where
  deeper : ∀ requester d, call.onMutex? = some (.tryAcquire requester) → c.kind = .mutex →
    a = .acquisition (.recursive d) → d.toNat = c.second.toNat + 1 ∧ c'.second = d
  shallower : ∀ requester n, call = .mutex (.release requester) → a = .level n →
    c'.second.toNat + 1 = c.second.toNat
  fewer : ∀ units, call.onSemaphore? = some (.tryAcquire units) → c.kind = .semaphore →
    a = .acquisition .acquired → c'.first.toNat + units.toNat = c.first.toNat
  more : ∀ units n, call = .semaphore (.release units) → a = .level n →
    c'.first.toNat = c.first.toNat + units.toNat

theorem Contents.kind_of_expect {c : Contents} {k : Kind}
    {step : Except SyncError Answer × Contents} {a : Answer}
    (answer : (c.expect k step).1 = .ok a) : c.kind = k := by
  by_contra other
  rw [expect_of_ne other] at answer
  cases answer

theorem Call.worksOut {call : Call} {c : Contents} {a : Answer} (answer : (call.step c).1 = .ok a) :
    WorksOut call c a (call.step c).2 where
  deeper requester d asks kind again := by
    subst again
    rw [Call.step_onMutex kind asks] at answer ⊢
    exact MutexCall.acquire_deeper answer
  shallower requester n gives level := by
    subst gives level
    have kind : c.kind = .mutex := Contents.kind_of_expect answer
    rw [Call.step_onMutex kind rfl] at answer ⊢
    exact MutexCall.release_shallower answer
  fewer units asks kind took := by
    subst took
    rw [Call.step_onSemaphore kind asks] at answer ⊢
    have moved := (SemaphoreCall.tryAcquire units).step_balance c.semaphoreState
    rw [answer] at moved
    exact moved
  more units n gives level := by
    subst gives level
    have kind : c.kind = .semaphore := Contents.kind_of_expect answer
    rw [Call.step_onSemaphore kind rfl] at answer ⊢
    have moved := (SemaphoreCall.release units).step_balance c.semaphoreState
    rw [answer] at moved
    exact moved

/-! ## What is left after a call -/

/-- What a call does to a record by how it ends. -/
structure Settled (call : Call) (p : GuardPolicy) (r : Record) (outcome : Outcome Answer)
    (r' : Record) : Prop where
  /-- A call that fails, or does not get the object, leaves the contents alone. -/
  unchanged : (Entry.mk call outcome).Refused → r'.contents = r.contents
  /-- Whoever had the guard has released it, whether they failed or not. -/
  released : call.Accepts → p.Gets r.guard → r'.guard = 0
  /-- Whoever did not have it has no answer, and has set the waiters bit at most. -/
  outside : ¬ (call.Accepts ∧ p.Gets r.guard) →
    (∀ a, outcome ≠ .value a) ∧ (r' = r ∨ r' = { r with guard := Guard.flagged r.guard })
  /-- Whoever gave up has waited for a live holder, and has set the waiters bit at most. -/
  gave_up : ∀ holder waited, outcome = .failed (.guardTimeout holder waited) →
    r' = r ∨ r' = { r with guard := Guard.flagged r.guard }
  /-- A holder number that no guard word can carry touches none. -/
  nobody : outcome = .failed GuardPolicy.holderIdError → r' = r
  works_out : ∀ a, outcome = .value a → WorksOut call r.contents a r'.contents

theorem Call.settled (call : Call) (p : GuardPolicy) (r : Record) :
    Settled call p r ((call.op p).result r).1 ((call.op p).result r).2 := by
  have ends := call.ends p r
  have unchanged : (Entry.mk call ((call.op p).result r).1).Refused →
      ((call.op p).result r).2.contents = r.contents :=
    Turn.take_of_refused (t := ⟨r.guard, p, call⟩)
  generalize (call.op p).result r = ran at ends unchanged
  cases ends with
  | rejected bad =>
    have silent : ¬ call.Accepts := by
      rintro ⟨body, accepted⟩
      rw [bad] at accepted
      cases accepted
    exact ⟨unchanged, fun accepts => absurd accepts silent, fun _ => ⟨nofun, .inl rfl⟩,
      fun _ _ _ => .inl rfl, fun _ => rfl, nofun⟩
  | ran accepts gets =>
    refine ⟨unchanged, fun _ _ => rfl, fun outside => absurd ⟨accepts, gets⟩ outside, ?_, ?_, ?_⟩
    · intro holder waited failed
      cases Call.error_not_isOfClaim (Outcome.ofExcept_eq_failed failed)
    · intro failed
      cases Call.error_not_isOfClaim (Outcome.ofExcept_eq_failed failed)
    · intro a answered
      exact Call.worksOut (Outcome.ofExcept_eq_value answered)
  | refused accepts invalid =>
    exact ⟨unchanged, fun _ gets => absurd gets (GuardPolicy.not_gets_of_invalid invalid),
      fun _ => ⟨nofun, .inl rfl⟩, fun _ _ _ => .inl rfl, fun _ => rfl, nofun⟩
  | @timedOut accepts held alive limit waited bounded reached =>
    have left : (⟨if limit.nanos = 0 then r.guard else Guard.flagged r.guard, r.contents⟩ : Record)
        = r ∨ (⟨if limit.nanos = 0 then r.guard else Guard.flagged r.guard, r.contents⟩ : Record)
          = { r with guard := Guard.flagged r.guard } := by
      split
      · exact .inl rfl
      · exact .inr rfl
    exact ⟨unchanged, fun _ gets => absurd gets (GuardPolicy.not_gets_of_alive held alive),
      fun _ => ⟨nofun, left⟩, fun _ _ _ => left, nofun, nofun⟩
  | parked accepts held alive unbounded =>
    exact ⟨unchanged, fun _ gets => absurd gets (GuardPolicy.not_gets_of_alive held alive),
      fun _ => ⟨nofun, .inr rfl⟩, nofun, nofun, nofun⟩

/-- A call on a record that nobody else touches changes nothing when it fails, whatever the record
holds and whoever has its guard: the contents stay as they are, and the guard is free after a call
that had it and otherwise as it was, up to the waiters bit. What a call works out does not wrap
around, nor does the count of its spins; and looking at the kind changes nothing. -/
theorem failed_call_changes_nothing (call : Call) (p : GuardPolicy) (r : Record) :
    Settled call p r ((call.op p).result r).1 ((call.op p).result r).2 ∧
      (∀ kind, ((Record.requireKind kind).result r).2 = r) ∧
      ∀ began spins current began' spins',
        Guard.seen p began spins current = .look began' spins' →
          spins'.toNat = spins.toNat + 1 := by
  refine ⟨call.settled p r, fun kind => ?_, ?_⟩
  · rw [Record.requireKind_result]
  · intro began spins current began' spins' looks
    unfold Guard.seen at looks
    split at looks
    · cases looks
    · split at looks
      · cases looks
        exact toNat_add_one_of_lt ‹_›
      · cases looks

end Interprocess
