import Interprocess.Proofs.Object.Guarded
import Mathlib.Tactic.SplitIfs

/-!
# What calls do to objects

Each call as a function of the state of an object: what it answers and the state that it leaves. The
bodies compute these functions word by word (`body_run`); an object of another kind, or none, is
left alone.
-/

namespace Interprocess

/-! ## New objects -/

/-- What is made from a blueprint, or why nothing is. A mutex is free or held once by its owner, and
nobody was lost with it; an event has a truth value in each word; a semaphore has its units. -/
def Blueprint.object : Blueprint → Except SyncError ObjectState
  | mutex none => .ok (.mutex ⟨⟨0⟩, 0, 0⟩)
  | mutex (some owner) =>
    if owner = ⟨0⟩ then
      .error (.invalidParameter "requester" "Requester must not be the unheld sentinel")
    else .ok (.mutex ⟨owner, 1, 0⟩)
  | event manualReset signaled =>
    .ok (.event ⟨if manualReset then 1 else 0, if signaled then 1 else 0⟩)
  | semaphore initial maximum =>
    if maximum = 0 then
      .error (.invalidParameter "maximum" "Semaphore maximum must be greater than 0")
    else if maximum < initial then
      .error (.invalidParameter "initial" ("Initial count " ++ toString initial.toNat ++
        " exceeds maximum " ++ toString maximum.toNat))
    else .ok (.semaphore ⟨initial, maximum⟩)

theorem Blueprint.firstState_eq_object (b : Blueprint) : b.firstState = b.object := by
  cases b with
  | mutex owner =>
    cases owner with
    | none => rfl
    | some owner =>
      obtain ⟨raw⟩ := owner
      by_cases nobody : raw = 0
      · simp [firstState, object, Mutex.firstState, ThreadId.isNone, nobody, Mutex.sentinelError,
          Except.map]
      · simp [firstState, object, Mutex.firstState, ThreadId.isNone, nobody, MutexState.heldBy,
          Except.map]
  | event manualReset signaled => rfl
  | semaphore initial maximum =>
    simp only [firstState, object, Semaphore.firstState]
    split
    · rfl
    · split <;> rfl

/-! ## Mutexes, events and semaphores -/

def MutexState.abandonedFree : MutexState := ⟨ThreadId.none, 0, 1⟩

/-- What a call answers on a mutex, and the mutex after it. -/
def MutexCall.step : MutexCall → MutexState → Except SyncError Answer × MutexState
  | tryAcquire requester, m =>
    if requester.isNone then
      (.error (.invalidParameter "requester" "Requester must not be the unheld sentinel"), m)
    else if m.count = 0 then
      (.ok (.acquisition (if m.isAbandoned then .abandoned else .acquired)), .heldBy requester)
    else if m.owner ≠ requester then (.ok (.acquisition .notAvailable), m)
    else if 0x7fffffff ≤ m.count then (.error (.overflow .mutex 0x7fffffff), m)
    else (.ok (.acquisition (.recursive (m.count + 1))), { m with count := m.count + 1 })
  | release requester, m =>
    if m.count = 0 ∨ m.owner ≠ requester then (.error (.notOwner m.owner requester), m)
    else if m.count = 1 then (.ok (.level 1), { m with owner := .none, count := 0 })
    else (.ok (.level m.count), { m with count := m.count - 1 })
  | markAbandoned, _ => (.ok .done, .abandonedFree)
  | abandonIfOwnedBy owner, m =>
    if owner.isNone ∨ m.count = 0 ∨ m.owner ≠ owner then (.ok (.flag false), m)
    else (.ok (.flag true), .abandonedFree)
  | state, m => (.ok (.state (.mutex m)), m)

def EventCall.step : EventCall → EventState → Except SyncError Answer × EventState
  | signal, e => (.ok (.flag e.isSignaled), { e with signaled := 1 })
  | reset, e => (.ok (.flag e.isSignaled), { e with signaled := 0 })
  | poll, e =>
    (.ok (.flag e.isSignaled), if e.isManualReset then e else { e with signaled := 0 })
  | state, e => (.ok (.state (.event e)), e)

def SemaphoreCall.step : SemaphoreCall → SemaphoreState → Except SyncError Answer × SemaphoreState
  | tryAcquire units, s =>
    if units = 0 then
      (.error (.invalidParameter "units" "Unit count must be greater than 0"), s)
    else if s.count < units then (.ok (.acquisition .notAvailable), s)
    else (.ok (.acquisition .acquired), { s with count := s.count - units })
  | release units, s =>
    if units = 0 then
      (.error (.invalidParameter "units" "Unit count must be greater than 0"), s)
    else if s.maximum.toNat < s.count.toNat + units.toNat then
      (.error (.overflow .semaphore s.maximum), s)
    else (.ok (.level s.count), { s with count := s.count + units })
  | state, s => (.ok (.state (.semaphore s)), s)

namespace Contents

def withMutex (c : Contents) (m : MutexState) : Contents :=
  ⟨c.tag, m.owner.raw, m.count, m.abandoned⟩

/-- The contents that hold an object and nothing else. -/
def ofState : ObjectState → Contents
  | .unknown => ⟨0, 0, 0, 0⟩
  | .mutex m => ⟨1, m.owner.raw, m.count, m.abandoned⟩
  | .event e => ⟨2, e.manualReset, e.signaled, 0⟩
  | .semaphore s => ⟨3, s.count, s.maximum, 0⟩

def withEvent (c : Contents) (e : EventState) : Contents :=
  ⟨c.tag, e.manualReset, e.signaled, c.third⟩

def withSemaphore (c : Contents) (s : SemaphoreState) : Contents :=
  ⟨c.tag, s.count, s.maximum, c.third⟩

@[simp]
theorem withMutex_mutexState (c : Contents) : c.withMutex c.mutexState = c := rfl

@[simp]
theorem withEvent_eventState (c : Contents) : c.withEvent c.eventState = c := rfl

@[simp]
theorem withSemaphore_semaphoreState (c : Contents) : c.withSemaphore c.semaphoreState = c := rfl

end Contents

/-! ## Any object -/

/-- What a call for one kind answers on contents, and the contents after it. -/
def Contents.expect (c : Contents) (k : Kind)
    (step : Except SyncError Answer × Contents) : Except SyncError Answer × Contents :=
  if c.kind = k then step else (.error (.typeMismatch (some k) c.kind), c)

/-- What a call that takes the object answers on contents, and the contents after it. -/
def Contents.wait (c : Contents) (requester : ThreadId) : Except SyncError Answer × Contents :=
  match c.kind with
  | .unknown => (.error .untyped, c)
  | .mutex =>
    let (answer, m) := (MutexCall.tryAcquire requester).step c.mutexState
    (answer, c.withMutex m)
  | .event =>
    let e := c.eventState
    (.ok (.acquisition (if e.isSignaled then .acquired else .notAvailable)),
      c.withEvent (EventCall.poll.step e).2)
  | .semaphore =>
    let (answer, s) := (SemaphoreCall.tryAcquire 1).step c.semaphoreState
    (answer, c.withSemaphore s)

/-- What a call answers on contents, and the contents after it. -/
def Call.step : Call → Contents → Except SyncError Answer × Contents
  | setUp b, c =>
    match b.firstState with
    | .error e => (.error e, c)
    | .ok state =>
      if c.tag = 0 then (.ok .done, .ofState state) else (.error (.alreadyInitialized c.kind), c)
  | mutex call, c =>
    c.expect .mutex ((call.step c.mutexState).1, c.withMutex (call.step c.mutexState).2)
  | event call, c =>
    c.expect .event ((call.step c.eventState).1, c.withEvent (call.step c.eventState).2)
  | semaphore call, c =>
    c.expect .semaphore
      ((call.step c.semaphoreState).1, c.withSemaphore (call.step c.semaphoreState).2)
  | snapshot, c => (.ok (.state c.state), c)
  | tryWait requester, c => c.wait requester
  | retire, c => (.ok (.kind c.kind), .blank)

/-! ## What the bodies compute -/

theorem MutexCall.body_run (call : MutexCall) (c : Contents) :
    call.body.run c = ((call.step c.mutexState).1, c.withMutex (call.step c.mutexState).2) := by
  obtain ⟨tag, owner, count, abandoned⟩ := c
  cases call with
  | tryAcquire requester =>
    obtain ⟨requester⟩ := requester
    by_cases nobody : requester = 0
    · simp [body, step, Mutex.acquireBody, Mutex.sentinelError, ThreadId.isNone, nobody, Except.map]
    by_cases free : count = 0
    · by_cases clean : abandoned = 0 <;>
        simp [body, step, Mutex.acquireBody, ThreadId.isNone, nobody, free, clean, Except.map,
          Contents.get, Contents.set, Contents.mutexState, Contents.withMutex, MutexState.heldBy,
          MutexState.isAbandoned]
    by_cases mine : owner = requester
    · by_cases deep : 0x7fffffff ≤ count <;>
        simp [body, step, Mutex.acquireBody, Mutex.maxRecursion, ThreadId.isNone, nobody, free,
          mine, deep, Except.map, Contents.get, Contents.set, Contents.mutexState,
          Contents.withMutex]
    · simp [body, step, Mutex.acquireBody, ThreadId.isNone, nobody, free, mine, Except.map,
        Contents.get, Contents.mutexState, Contents.withMutex]
  | release requester =>
    obtain ⟨requester⟩ := requester
    by_cases free : count = 0
    · simp [body, step, Mutex.releaseBody, free, Except.map, Contents.get, Contents.mutexState,
        Contents.withMutex]
    by_cases mine : owner = requester
    · by_cases last : count = 1
      · simp [body, step, Mutex.releaseBody, mine, last, Except.map, Contents.get, Contents.set,
          Contents.mutexState, Contents.withMutex, ThreadId.none]
      · have more : count - 1 ≠ 0 := by
          grind
        simp [body, step, Mutex.releaseBody, free, mine, last, more, Except.map, Contents.get,
          Contents.set, Contents.mutexState, Contents.withMutex]
    · simp [body, step, Mutex.releaseBody, mine, Except.map, Contents.get, Contents.mutexState,
        Contents.withMutex]
  | markAbandoned => rfl
  | abandonIfOwnedBy candidate =>
    obtain ⟨candidate⟩ := candidate
    by_cases nobody : candidate = 0
    · simp [body, step, Mutex.abandonIfOwnedBody, ThreadId.isNone, nobody, Except.map]
    by_cases free : count = 0
    · simp [body, step, Mutex.abandonIfOwnedBody, ThreadId.isNone, nobody, free, Except.map,
        Contents.get, Contents.mutexState, Contents.withMutex]
    by_cases theirs : owner = candidate
    · simp [body, step, Mutex.abandonIfOwnedBody, Mutex.abandonBody, ThreadId.isNone, nobody, free,
        theirs, Except.map, Contents.get, Contents.set, Contents.mutexState, Contents.withMutex,
        MutexState.abandonedFree, ThreadId.none]
    · simp [body, step, Mutex.abandonIfOwnedBody, ThreadId.isNone, nobody, free, theirs, Except.map,
        Contents.get, Contents.mutexState, Contents.withMutex]
  | state => rfl

theorem Event.pollBody_run (c : Contents) :
    Event.pollBody.run c =
      (c.eventState.isSignaled, c.withEvent (EventCall.poll.step c.eventState).2) := by
  obtain ⟨tag, manual, signaled, third⟩ := c
  by_cases clear : signaled = 0
  · by_cases auto : manual = 0 <;>
      simp [Event.pollBody, clear, auto, EventCall.step, EventState.isSignaled,
        EventState.isManualReset, Contents.get, Contents.eventState, Contents.withEvent]
  · by_cases auto : manual = 0 <;>
      simp [Event.pollBody, clear, auto, EventCall.step, EventState.isSignaled,
        EventState.isManualReset, Contents.get, Contents.set, Contents.eventState,
        Contents.withEvent]

theorem EventCall.body_run (call : EventCall) (c : Contents) :
    call.body.run c = ((call.step c.eventState).1, c.withEvent (call.step c.eventState).2) := by
  cases call with
  | poll =>
    rw [body, Body.run_map, Event.pollBody_run]
    rfl
  | signal => rfl
  | reset => rfl
  | state => rfl

/-! A sum of words that fits and stays below a maximum is a sum of numbers that does. -/

namespace Semaphore

variable {a b maximum : UInt32}

theorem checkedSum_of_le (room : a.toNat + b.toNat ≤ maximum.toNat) :
    checkedSum a b = some (a + b) ∧ a + b ≤ maximum := by
  have fits : a.toNat + b.toNat < UInt32.size := Nat.lt_of_le_of_lt room maximum.toNat_lt
  refine ⟨if_pos fits, ?_⟩
  rwa [UInt32.le_iff_toNat_le, UInt32.toNat_add, Nat.mod_eq_of_lt fits]

theorem not_le_of_checkedSum (full : maximum.toNat < a.toNat + b.toNat) {sum : UInt32}
    (fits : checkedSum a b = some sum) : ¬ sum ≤ maximum := by
  unfold checkedSum at fits
  split at fits
  · rename_i small
    cases fits
    rw [UInt32.le_iff_toNat_le, UInt32.toNat_add, Nat.mod_eq_of_lt small]
    exact Nat.not_le.mpr full
  · cases fits

end Semaphore

theorem SemaphoreCall.body_run (call : SemaphoreCall) (c : Contents) :
    call.body.run c =
      ((call.step c.semaphoreState).1, c.withSemaphore (call.step c.semaphoreState).2) := by
  obtain ⟨tag, count, maximum, third⟩ := c
  cases call with
  | tryAcquire units =>
    by_cases nothing : units = 0
    · simp [body, step, Semaphore.acquireBody, Semaphore.noUnitsError, nothing, Except.map]
    by_cases short : count < units <;>
      simp [body, step, Semaphore.acquireBody, nothing, short, Except.map, Contents.get,
        Contents.set, Contents.semaphoreState, Contents.withSemaphore]
  | release units =>
    by_cases nothing : units = 0
    · simp [body, step, Semaphore.releaseBody, Semaphore.noUnitsError, nothing, Except.map]
    by_cases full : maximum.toNat < count.toNat + units.toNat
    · cases sum : Semaphore.checkedSum count units with
      | none =>
        simp [body, step, Semaphore.releaseBody, nothing, full, sum, Except.map, Contents.get,
          Contents.semaphoreState, Contents.withSemaphore]
      | some after =>
        have tooMany : ¬ after ≤ maximum := Semaphore.not_le_of_checkedSum full sum
        simp [body, step, Semaphore.releaseBody, nothing, full, sum, tooMany, Except.map,
          Contents.get, Contents.semaphoreState, Contents.withSemaphore]
    · obtain ⟨sum, under⟩ := Semaphore.checkedSum_of_le (Nat.not_lt.mp full)
      simp [body, step, Semaphore.releaseBody, nothing, full, sum, under, Except.map, Contents.get,
        Contents.set, Contents.semaphoreState, Contents.withSemaphore]
  | state => rfl

theorem Record.setUpBody_run (state : ObjectState) (c : Contents) :
    (Record.setUpBody state).run c =
      if c.tag = 0 then (.ok (), .ofState state)
      else (.error (.alreadyInitialized c.kind), c) := by
  by_cases blank : c.tag = 0
  · cases state <;>
      simp [Record.setUpBody, Record.writePayload, Record.payload, ObjectState.kind, Kind.tag,
        Contents.ofState, blank, Contents.get, Contents.set]
  · simp [Record.setUpBody, blank, Contents.get, Contents.kind]

theorem Record.snapshotBody_run (c : Contents) : Record.snapshotBody.run c = (c.state, c) := by
  rcases hk : Kind.ofTag c.tag <;>
    · simp only [Record.snapshotBody, Body.run_bind, Body.run_read, Contents.get, Contents.state,
        Contents.kind, hk]
      rfl

theorem Record.waitBody_run (requester : ThreadId) (c : Contents) :
    (Except.map Answer.acquisition <$> Record.waitBody requester).run c = c.wait requester := by
  rcases hk : Kind.ofTag c.tag with _ | _ | _ | _
  · simp [Record.waitBody, Contents.wait, Contents.get, Contents.kind, hk, Except.map]
  · have same := (MutexCall.tryAcquire requester).body_run c
    simp only [MutexCall.body, Body.run_map] at same
    simp only [Record.waitBody, Body.run_map, Body.run_bind, Body.run_read, Contents.wait,
      Contents.get, Contents.kind, hk]
    exact same
  · simp only [Record.waitBody, Body.run_map, Body.run_bind, Body.run_read, Contents.wait,
      Contents.get, Contents.kind, hk, Event.pollBody_run]
    cases c.eventState.isSignaled <;> rfl
  · have same := (SemaphoreCall.tryAcquire 1).body_run c
    simp only [SemaphoreCall.body, Body.run_map] at same
    simp only [Record.waitBody, Body.run_map, Body.run_bind, Body.run_read, Contents.wait,
      Contents.get, Contents.kind, hk]
    exact same

/-- The body of a call does what the call does. -/
theorem Call.body_run {call : Call} {body : Body (Except SyncError Answer)}
    (accepted : call.body = .ok body) (c : Contents) : body.run c = call.step c := by
  cases call with
  | setUp b =>
    simp only [Call.body, step] at accepted ⊢
    cases hs : b.firstState with
    | error e =>
      rw [hs] at accepted
      cases accepted
    | ok state =>
      rw [hs] at accepted
      cases accepted
      rw [Body.run_map, Record.setUpBody_run]
      split <;> rfl
  | mutex call =>
    cases accepted
    rw [Record.expecting_run, call.body_run]
    rfl
  | event call =>
    cases accepted
    rw [Record.expecting_run, call.body_run]
    rfl
  | semaphore call =>
    cases accepted
    rw [Record.expecting_run, call.body_run]
    rfl
  | snapshot =>
    cases accepted
    rw [Body.run_map, Record.snapshotBody_run]
    rfl
  | tryWait requester =>
    cases accepted
    exact Record.waitBody_run requester c
  | retire =>
    cases accepted
    rfl

theorem Call.step_of_refused {call : Call} {e : SyncError} (refused : call.body = .error e)
    (c : Contents) : call.step c = (.error e, c) := by
  cases call with
  | setUp b =>
    simp only [Call.body, step] at refused ⊢
    cases hs : b.firstState with
    | error e' =>
      rw [hs] at refused
      cases refused
      rfl
    | ok state =>
      rw [hs] at refused
      cases refused
  | _ => cases refused

theorem Call.op_result_free {p : GuardPolicy} (valid : p.canClaim = true) (call : Call)
    (c : Contents) :
    (call.op p).result ⟨0, c⟩ = (.ofExcept (call.step c).1, ⟨0, (call.step c).2⟩) := by
  rw [Call.op_result]
  cases hb : call.body with
  | error e =>
    rw [Call.step_of_refused hb]
    rfl
  | ok body =>
    simp only [Record.guarded_free valid, Call.body_run hb]

/-! ## Errors -/

/-- Whether an error tells of a wait that was given up. -/
def SyncError.isTimeout : SyncError → Bool
  | guardTimeout .. => true
  | _ => false

/-- Whether an error tells that the guard was not claimed. -/
def SyncError.isOfClaim : SyncError → Bool
  | guardTimeout .. => true
  | invalidParameter parameter _ => parameter == "holder_id"
  | _ => false

theorem SyncError.isTimeout_of_not_isOfClaim {e : SyncError} (h : e.isOfClaim = false) :
    e.isTimeout = false := by
  cases e with
  | guardTimeout => cases h
  | _ => rfl

theorem MutexCall.error_not_isOfClaim {call : MutexCall} {m : MutexState} {e : SyncError}
    (h : (call.step m).1 = .error e) : e.isOfClaim = false := by
  cases call with
  | tryAcquire | release | abandonIfOwnedBy =>
    simp only [step] at h
    split_ifs at h <;> cases h <;> rfl
  | markAbandoned | state => cases h

theorem EventCall.error_not_isOfClaim {call : EventCall} {s : EventState} {e : SyncError}
    (h : (call.step s).1 = .error e) : e.isOfClaim = false := by
  cases call <;> cases h

theorem SemaphoreCall.error_not_isOfClaim {call : SemaphoreCall} {s : SemaphoreState}
    {e : SyncError} (h : (call.step s).1 = .error e) : e.isOfClaim = false := by
  cases call with
  | tryAcquire | release =>
    simp only [step] at h
    split_ifs at h <;> cases h <;> rfl
  | state => cases h

theorem Contents.expect_not_isOfClaim {c : Contents} {k : Kind}
    {step : Except SyncError Answer × Contents} {e : SyncError}
    (inner : step.1 = .error e → e.isOfClaim = false) (h : (c.expect k step).1 = .error e) :
    e.isOfClaim = false := by
  unfold expect at h
  split at h
  · exact inner h
  · cases h
    rfl

theorem Blueprint.error_not_isOfClaim {b : Blueprint} {e : SyncError}
    (h : b.firstState = .error e) : e.isOfClaim = false := by
  cases b with
  | mutex owner =>
    simp only [firstState, Mutex.firstState] at h
    split at h
    · split at h <;> cases h
      rfl
    · cases h
  | event => cases h
  | semaphore initial maximum =>
    simp only [firstState, Semaphore.firstState] at h
    split_ifs at h <;> cases h <;> rfl

theorem Call.error_not_isOfClaim {call : Call} {c : Contents} {e : SyncError}
    (h : (call.step c).1 = .error e) : e.isOfClaim = false := by
  cases call with
  | setUp b =>
    simp only [step] at h
    split at h
    · cases h
      exact Blueprint.error_not_isOfClaim ‹_›
    · split at h <;> cases h
      rfl
  | mutex call => exact Contents.expect_not_isOfClaim MutexCall.error_not_isOfClaim h
  | event call => exact Contents.expect_not_isOfClaim EventCall.error_not_isOfClaim h
  | semaphore call => exact Contents.expect_not_isOfClaim SemaphoreCall.error_not_isOfClaim h
  | snapshot => cases h
  | tryWait requester =>
    simp only [step, Contents.wait] at h
    split at h
    · cases h
      rfl
    · exact MutexCall.error_not_isOfClaim h
    · cases h
    · exact SemaphoreCall.error_not_isOfClaim h
  | retire => cases h

theorem Call.step_prompt {call : Call} {c : Contents} {e : SyncError}
    (h : (call.step c).1 = .error e) : e.isTimeout = false :=
  SyncError.isTimeout_of_not_isOfClaim (Call.error_not_isOfClaim h)

end Interprocess
