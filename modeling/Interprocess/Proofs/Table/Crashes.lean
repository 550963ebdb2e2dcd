import Interprocess.Proofs.Object.Endings
import Interprocess.Proofs.Table.Sweep

/-!
# Callers that die under the guard

A caller may die at any store of its body. The guard word is then left with the number of a dead
holder, and the next caller takes it over and finds the contents half written. A mutex can be got
back from there as long as it is free or its owner is named: whoever asks for it gets it, or a sweep
for the owner frees it (`Contents.recoverable_iff`). The bodies keep this at every store, with one
exception: an abandonment names nobody as the owner before it clears the count, and a caller that
dies in between leaves a mutex that nobody can take and no sweep finds
(`Incident.recoverable_after_iff`).
-/

namespace Interprocess

/-! ## Bodies that are cut -/

namespace Body

variable {α β : Type} {P : Contents → Prop} {body : Body α} {c : Contents}

/-- The predicate holds of what the body leaves, wherever it is cut. -/
def Throughout (P : Contents → Prop) (body : Body α) (c : Contents) : Prop :=
  ∀ n, P (body.cut n c)

@[simp]
theorem cut_pure (a : α) (n : Nat) (c : Contents) : (pure a : Body α).cut n c = c := by
  cases n <;> rfl

@[simp]
theorem cut_read_bind (field : Field) (next : UInt32 → Body α) (n : Nat) (c : Contents) :
    (read field >>= next).cut n c = (next (c.get field)).cut n c := by
  cases n <;> rfl

@[simp]
theorem throughout_pure (a : α) : (pure a : Body α).Throughout P c ↔ P c := by
  simp only [Throughout, cut_pure, forall_const]

@[simp]
theorem throughout_read_bind (field : Field) (next : UInt32 → Body α) :
    (read field >>= next).Throughout P c ↔ (next (c.get field)).Throughout P c := by
  simp only [Throughout, cut_read_bind]

@[simp]
theorem throughout_write_bind (field : Field) (word : UInt32) (next : Unit → Body α) :
    (write field word >>= next).Throughout P c ↔
      P c ∧ (next ()).Throughout P (c.set field word) := by
  constructor
  · intro all
    exact ⟨all 0, fun n => all (n + 1)⟩
  · rintro ⟨now, later⟩ (_ | n)
    · exact now
    · exact later n

@[simp]
theorem pure_bind (a : α) (next : α → Body β) : (pure a >>= next) = next a := rfl

@[simp]
theorem bind_assoc {γ : Type} (body : Body α) (next : α → Body β) (last : β → Body γ) :
    ((body >>= next) >>= last) = (body >>= fun a => next a >>= last) := by
  show (Body.bind (Body.bind body next) last) = Body.bind body fun a => Body.bind (next a) last
  induction body with
  | done a => rfl
  | load field rest ih => exact congrArg (load field) (funext fun word => ih word)
  | store field word rest ih => exact congrArg (store field word) ih

theorem cut_map (f : α → β) (body : Body α) (n : Nat) (c : Contents) :
    (f <$> body).cut n c = body.cut n c := by
  show (Body.bind body fun a => done (f a)).cut n c = body.cut n c
  induction body generalizing n c with
  | done a => cases n <;> rfl
  | load field rest ih => cases n <;> exact ih (c.get field) _ c
  | store field word rest ih =>
    cases n with
    | zero => rfl
    | succ n => exact ih n (c.set field word)

@[simp]
theorem throughout_map (f : α → β) : (f <$> body).Throughout P c ↔ body.Throughout P c := by
  simp only [Throughout, cut_map]

theorem cut_expecting (k : Kind) (body : Body (Except SyncError α)) (n : Nat) (c : Contents) :
    (Record.expecting k body).cut n c = if c.kind = k then body.cut n c else c := by
  rw [Record.expecting, cut_read_bind]
  show (if c.kind = k then body else pure _).cut n c = _
  split
  · rfl
  · exact cut_pure _ n c

theorem cut_of_large (body : Body α) (c : Contents) :
    ∃ n, ∀ k, n ≤ k → body.cut k c = (body.run c).2 := by
  induction body generalizing c with
  | done a => exact ⟨0, fun k _ => cut_pure a k c⟩
  | load field rest ih =>
    obtain ⟨n, whole⟩ := ih (c.get field) c
    exact ⟨n, fun k late => (cut_read_bind field rest k c).trans (whole k late)⟩
  | store field word rest ih =>
    obtain ⟨n, whole⟩ := ih (c.set field word)
    refine ⟨n + 1, fun k late => ?_⟩
    obtain ⟨k, rfl⟩ := Nat.exists_eq_add_of_le' late
    exact whole (k + n) (Nat.le_add_left n k)

theorem Throughout.mono {Q : Contents → Prop} (all : body.Throughout P c)
    (weaker : ∀ c, P c → Q c) : body.Throughout Q c :=
  fun n => weaker _ (all n)

end Body

/-! ## Mutexes that can be got back -/

/-- The mutex is free, or it is known who holds it. -/
def MutexState.Recoverable (m : MutexState) : Prop := m.count = 0 ∨ m.owner ≠ .none

/-- If the contents are a mutex, it can be got back. -/
def Contents.Recoverable (c : Contents) : Prop := c.kind = .mutex → c.mutexState.Recoverable

namespace Contents

variable {c : Contents}

theorem recoverable_of_kind (other : c.kind ≠ .mutex) : c.Recoverable :=
  fun mutex => absurd mutex other

theorem recoverable_of_tag {c' : Contents} (other : c.kind ≠ .mutex) (same : c'.tag = c.tag) :
    c'.Recoverable :=
  recoverable_of_kind (by rwa [kind, same])

theorem recoverable_of_free (free : c.second = 0) : c.Recoverable := fun _ => .inl free

theorem recoverable_of_owner (named : c.first ≠ 0) : c.Recoverable :=
  fun _ => .inr fun nobody => named (congrArg ThreadId.raw nobody)

end Contents

/-! ## Bodies on mutexes -/

section Bodies

variable {c : Contents}

theorem Contents.Recoverable.owner (h : c.Recoverable) (kind : c.kind = .mutex)
    (taken : c.second ≠ 0) : c.first ≠ 0 := by
  rcases h kind with free | named
  · exact absurd free taken
  · exact fun nobody => named (congrArg ThreadId.mk nobody)

theorem Mutex.acquireBody_recoverable (h : c.Recoverable) (r : ThreadId) :
    (Mutex.acquireBody r).Throughout Contents.Recoverable c := by
  obtain ⟨tag, owner, count, abandoned⟩ := c
  obtain ⟨r⟩ := r
  by_cases nobody : r = 0
  · simpa [acquireBody, ThreadId.isNone, nobody] using h
  by_cases free : count = 0
  -- the requester is named before the count is set
  · have named : ∀ tag count abandoned, (Contents.mk tag r count abandoned).Recoverable :=
      fun _ _ _ => Contents.recoverable_of_owner nobody
    by_cases clean : abandoned = 0 <;>
      simp [acquireBody, ThreadId.isNone, nobody, free, clean, Contents.get, Contents.set, named,
        Contents.recoverable_of_free]
  by_cases mine : owner = r
  · have named : ∀ count, (Contents.mk tag r count abandoned).Recoverable :=
      fun _ => Contents.recoverable_of_owner nobody
    by_cases deep : maxRecursion ≤ count <;>
      simp [acquireBody, ThreadId.isNone, nobody, free, mine, deep, Contents.get, Contents.set,
        named]
  · simpa [acquireBody, ThreadId.isNone, nobody, free, mine, Contents.get] using h

theorem Mutex.releaseBody_recoverable (h : c.Recoverable) (kind : c.kind = .mutex) (r : ThreadId) :
    (Mutex.releaseBody r).Throughout Contents.Recoverable c := by
  have named := h.owner kind
  obtain ⟨tag, owner, count, abandoned⟩ := c
  obtain ⟨r⟩ := r
  by_cases free : count = 0
  · simpa [releaseBody, free, Contents.get] using h
  by_cases mine : owner = r
  · subst mine
    have shallower : (Contents.mk tag owner (count - 1) abandoned).Recoverable :=
      Contents.recoverable_of_owner (named free)
    by_cases last : count - 1 = 0
    -- the count is cleared before the owner is forgotten
    · rw [last] at shallower
      simp [releaseBody, free, last, Contents.get, Contents.set, h, shallower,
        Contents.recoverable_of_free]
    · simp [releaseBody, free, last, Contents.get, Contents.set, h, shallower]
  · simpa [releaseBody, free, mine, Contents.get] using h

theorem Mutex.cut_abandonBody (h : c.Recoverable) (kind : c.kind = .mutex) (n : Nat) :
    (Mutex.abandonBody.cut n c).Recoverable ↔ ¬ (n = 1 ∧ c.second ≠ 0) := by
  match n with
  | 0 => exact iff_of_true h fun both => absurd both.1 Nat.zero_ne_one
  | 1 =>
    have left : (Mutex.abandonBody.cut 1 c).Recoverable ↔ c.second = 0 := by
      constructor
      · intro recoverable
        by_contra taken
        exact recoverable.owner kind taken rfl
      · exact fun free => Contents.recoverable_of_free (c := c.set .first 0) free
    rw [left]
    simp
  | 2 => exact iff_of_true (Contents.recoverable_of_free rfl) fun both => nomatch both.1
  | n + 3 =>
    have whole : Mutex.abandonBody.cut (n + 3) c = ⟨c.tag, 0, 0, 1⟩ := by cases n <;> rfl
    rw [whole]
    exact iff_of_true (Contents.recoverable_of_free rfl) fun both => nomatch both.1

theorem Mutex.cut_markAbandonedBody (c : Contents) (n : Nat) :
    Mutex.markAbandonedBody.cut n c = Mutex.abandonBody.cut n c := by
  have looked : Mutex.markAbandonedBody.cut n c =
      ((fun _ => (.ok c.mutexState : Except SyncError MutexState)) <$>
        Mutex.abandonBody).cut n c := by
    cases n <;> rfl
  rw [looked, Body.cut_map]

theorem Mutex.cut_abandonIfOwnedBody (owner : ThreadId) (c : Contents) (n : Nat) :
    (Mutex.abandonIfOwnedBody owner).cut n c =
      if owner.isNone = false ∧ c.second ≠ 0 ∧ c.first = owner.raw then Mutex.abandonBody.cut n c
      else c := by
  by_cases nobody : owner.isNone = true
  · simp [abandonIfOwnedBody, nobody]
  by_cases free : c.second = 0
  · simp [abandonIfOwnedBody, nobody, free, Contents.get]
  by_cases theirs : c.first = owner.raw
  · have abandons : (Mutex.abandonIfOwnedBody owner).cut n c =
        ((fun _ => (.ok true : Except SyncError Bool)) <$> Mutex.abandonBody).cut n c := by
      simp [abandonIfOwnedBody, nobody, free, theirs, Contents.get]
      rfl
    rw [abandons, Body.cut_map, if_pos ⟨Bool.eq_false_iff.mpr nobody, free, theirs⟩]
  · simp [abandonIfOwnedBody, nobody, free, theirs, Contents.get]

theorem EventCall.body_keeps_tag (call : EventCall) (c : Contents) :
    call.body.Throughout (fun c' => c'.tag = c.tag) c := by
  cases call with
  | poll =>
    by_cases clear : c.second = 0
    · simp [body, Event.pollBody, clear, Contents.get]
    by_cases auto : c.first = 0 <;>
      simp [body, Event.pollBody, clear, auto, Contents.get, Contents.set]
  | signal | reset | state => simp [body, Event.putBody, Event.stateBody, Contents.set]

theorem SemaphoreCall.body_keeps_tag (call : SemaphoreCall) (c : Contents) :
    call.body.Throughout (fun c' => c'.tag = c.tag) c := by
  cases call with
  | tryAcquire units =>
    by_cases nothing : units = 0
    · simp [body, Semaphore.acquireBody, nothing]
    by_cases short : c.first < units <;>
      simp [body, Semaphore.acquireBody, nothing, short, Contents.get, Contents.set]
  | release units =>
    by_cases nothing : units = 0
    · simp [body, Semaphore.releaseBody, nothing]
    cases sum : Semaphore.checkedSum c.first units with
    | none => simp [body, Semaphore.releaseBody, nothing, sum, Contents.get]
    | some after =>
      by_cases room : after ≤ c.second <;>
        simp [body, Semaphore.releaseBody, nothing, sum, room, Contents.get, Contents.set]
  | state => simp [body, Semaphore.stateBody]

end Bodies

/-! ## Calls -/

/-- The call is an abandonment, and it finds a mutex to abandon. -/
def Call.Abandons (call : Call) (c : Contents) : Prop :=
  c.kind = .mutex ∧ c.second ≠ 0 ∧
    (call = .mutex .markAbandoned ∨ call = .mutex (.abandonIfOwnedBy c.mutexState.owner))

section Calls

variable {c : Contents} {call : Call} {body : Body (Except SyncError Answer)}

theorem MutexCall.cut_recoverable_iff (call : MutexCall) (h : c.Recoverable)
    (kind : c.kind = .mutex) (n : Nat) :
    (call.body.cut n c).Recoverable ↔ ¬ (n = 1 ∧ (Call.mutex call).Abandons c) := by
  have harmless : (∀ owner, call ≠ .abandonIfOwnedBy owner) → call ≠ .markAbandoned →
      call.body.Throughout Contents.Recoverable c →
      ((call.body.cut n c).Recoverable ↔ ¬ (n = 1 ∧ (Call.mutex call).Abandons c)) := by
    intro conditional unconditional all
    refine iff_of_true (all n) ?_
    rintro ⟨-, -, -, same | same⟩
    · exact unconditional (Call.mutex.inj same)
    · exact conditional _ (Call.mutex.inj same)
  cases call with
  | tryAcquire r =>
    refine harmless (by rintro _ ⟨⟩) (by rintro ⟨⟩) ?_
    simpa [body] using Mutex.acquireBody_recoverable h r
  | release r =>
    refine harmless (by rintro _ ⟨⟩) (by rintro ⟨⟩) ?_
    simpa [body] using Mutex.releaseBody_recoverable h kind r
  | state =>
    refine harmless (by rintro _ ⟨⟩) (by rintro ⟨⟩) ?_
    simpa [body, Mutex.stateBody] using h
  | markAbandoned =>
    have cut : MutexCall.markAbandoned.body.cut n c = Mutex.abandonBody.cut n c := by
      rw [body, Body.cut_map]
      exact Mutex.cut_markAbandonedBody c n
    rw [cut, Mutex.cut_abandonBody h kind]
    refine not_congr (and_congr_right fun _ => ⟨fun taken => ?_, fun a => a.2.1⟩)
    exact ⟨kind, taken, .inl rfl⟩
  | abandonIfOwnedBy owner =>
    rw [body, Body.cut_map, Mutex.cut_abandonIfOwnedBody]
    by_cases held : owner.isNone = false ∧ c.second ≠ 0 ∧ c.first = owner.raw
    · obtain ⟨-, taken, holder⟩ := id held
      have mine : c.mutexState.owner = owner := congrArg ThreadId.mk holder
      rw [if_pos held, Mutex.cut_abandonBody h kind]
      refine not_congr (and_congr_right fun _ => ⟨fun _ => ⟨kind, taken, .inr ?_⟩, fun a => a.2.1⟩)
      rw [mine]
    · rw [if_neg held]
      refine iff_of_true h ?_
      rintro ⟨-, -, taken, same | same⟩
      · cases same
      · have asked := MutexCall.abandonIfOwnedBy.inj (Call.mutex.inj same)
        have named : owner.isNone = false := by
          rw [asked]
          exact beq_eq_false_iff_ne.mpr (h.owner kind taken)
        exact held ⟨named, taken, congrArg ThreadId.raw asked.symm⟩

theorem Blueprint.recoverable_firstState {b : Blueprint} {state : ObjectState}
    (first : b.firstState = .ok state) : (Contents.ofState state).Recoverable := by
  cases b with
  | mutex owner =>
    cases owner with
    | none =>
      cases first
      exact Contents.recoverable_of_free rfl
    | some owner =>
      by_cases nobody : owner.isNone = true
      · simp only [firstState, Mutex.firstState, if_pos nobody] at first
        cases first
      · simp only [firstState, Mutex.firstState, if_neg nobody] at first
        cases first
        refine Contents.recoverable_of_owner ?_
        exact fun zero => ThreadId.not_isNone_iff.mp nobody (congrArg ThreadId.mk zero)
  | event manualReset signaled =>
    cases first
    exact Contents.recoverable_of_kind (by rintro ⟨⟩)
  | semaphore initial maximum =>
    simp only [firstState] at first
    cases made : Semaphore.firstState initial maximum with
    | error e =>
      rw [made] at first
      cases first
    | ok units =>
      rw [made] at first
      cases first
      exact Contents.recoverable_of_kind (by rintro ⟨⟩)

theorem Record.setUpBody_recoverable {state : ObjectState} (h : c.Recoverable)
    (made : (Contents.ofState state).Recoverable) :
    (Record.setUpBody state).Throughout Contents.Recoverable c := by
  by_cases blank : c.tag = 0
  · have untyped : ∀ first second third, (Contents.mk 0 first second third).Recoverable :=
      fun _ _ _ => Contents.recoverable_of_kind nofun
    have same : Contents.ofState state = ⟨state.kind.tag, (Record.payload state).1,
        (Record.payload state).2.1, (Record.payload state).2.2⟩ := by
      cases state <;> rfl
    rcases payload : Record.payload state with ⟨first, second, third⟩
    have last : (Contents.mk state.kind.tag first second third).Recoverable := by
      rwa [same, payload] at made
    simp [setUpBody, writePayload, blank, payload, Contents.get, Contents.set, h, untyped, last]
  · simp [setUpBody, blank, Contents.get, h]

theorem Record.retireBody_recoverable (h : c.Recoverable) :
    Record.retireBody.Throughout Contents.Recoverable c := by
  have untyped : ∀ first second third, (Contents.mk 0 first second third).Recoverable :=
    fun _ _ _ => Contents.recoverable_of_kind nofun
  simp [retireBody, writePayload, payload, Contents.get, Contents.set, h, untyped]

theorem Record.waitBody_recoverable (h : c.Recoverable) (r : ThreadId) :
    (Record.waitBody r).Throughout Contents.Recoverable c := by
  simp only [waitBody, Body.throughout_read_bind, Contents.get]
  rcases kind : Kind.ofTag c.tag with _ | _ | _ | _
  · simpa using h
  · exact Mutex.acquireBody_recoverable h r
  · have other : c.kind ≠ .mutex := fun mutex => by cases kind.symm.trans mutex
    refine (Body.throughout_map _).mpr (Body.Throughout.mono ?_ fun _ =>
      Contents.recoverable_of_tag other)
    exact (Body.throughout_map _).mp (EventCall.poll.body_keeps_tag c)
  · have other : c.kind ≠ .mutex := fun mutex => by cases kind.symm.trans mutex
    refine Body.Throughout.mono ?_ fun _ => Contents.recoverable_of_tag other
    exact (Body.throughout_map _).mp ((SemaphoreCall.tryAcquire 1).body_keeps_tag c)

theorem Record.snapshotBody_recoverable (h : c.Recoverable) :
    Record.snapshotBody.Throughout Contents.Recoverable c := by
  simp only [snapshotBody, Body.throughout_read_bind, Contents.get]
  rcases Kind.ofTag c.tag with _ | _ | _ | _ <;>
    simpa [Mutex.stateBody, Event.stateBody, Semaphore.stateBody] using h

theorem Record.expecting_recoverable {k : Kind} {body : Body (Except SyncError Answer)}
    (other : k ≠ .mutex) (keeps : body.Throughout (fun c' => c'.tag = c.tag) c)
    (h : c.Recoverable) : (Record.expecting k body).Throughout Contents.Recoverable c := by
  intro n
  rw [Body.cut_expecting]
  split
  · exact Contents.recoverable_of_tag (by rwa [‹c.kind = k›]) (keeps n)
  · exact h

theorem Call.cut_recoverable_iff (accepted : call.body = .ok body) (h : c.Recoverable) (n : Nat) :
    (body.cut n c).Recoverable ↔ ¬ (n = 1 ∧ call.Abandons c) := by
  have harmless : (∀ mc, call ≠ .mutex mc) → body.Throughout Contents.Recoverable c →
      ((body.cut n c).Recoverable ↔ ¬ (n = 1 ∧ call.Abandons c)) := by
    intro other all
    refine iff_of_true (all n) ?_
    rintro ⟨-, -, -, same | same⟩
    · exact other _ same
    · exact other _ same
  cases call with
  | setUp b =>
    simp only [Call.body] at accepted
    cases first : b.firstState with
    | error e =>
      rw [first] at accepted
      cases accepted
    | ok state =>
      rw [first] at accepted
      cases accepted
      refine harmless (by rintro _ ⟨⟩) ?_
      rw [Body.throughout_map]
      exact Record.setUpBody_recoverable h (Blueprint.recoverable_firstState first)
  | mutex mc =>
    cases accepted
    rw [Body.cut_expecting]
    by_cases kind : c.kind = .mutex
    · rw [if_pos kind]
      exact mc.cut_recoverable_iff h kind n
    · rw [if_neg kind]
      exact iff_of_true h fun both => kind both.2.1
  | event ec =>
    cases accepted
    exact harmless (by rintro _ ⟨⟩)
      (Record.expecting_recoverable (by rintro ⟨⟩) (ec.body_keeps_tag c) h)
  | semaphore sc =>
    cases accepted
    exact harmless (by rintro _ ⟨⟩)
      (Record.expecting_recoverable (by rintro ⟨⟩) (sc.body_keeps_tag c) h)
  | snapshot =>
    cases accepted
    refine harmless (by rintro _ ⟨⟩) ?_
    rw [Body.throughout_map]
    exact Record.snapshotBody_recoverable h
  | tryWait requester =>
    cases accepted
    refine harmless (by rintro _ ⟨⟩) ?_
    rw [Body.throughout_map]
    exact Record.waitBody_recoverable h requester
  | retire =>
    cases accepted
    refine harmless (by rintro _ ⟨⟩) ?_
    rw [Body.throughout_map]
    exact Record.retireBody_recoverable h

end Calls

/-! ## Runs with crashes -/

/-- What happens to a record: somebody takes a turn, or dies while they take it. -/
inductive Incident where
  | turn (t : Turn)
  /-- The caller dies after so many stores. Whoever comes next finds the guard word as it is by
  then, and takes it over if they see that its holder is dead. -/
  | crash (t : Turn) (stores : Nat)

instance (t : Turn) : Decidable t.Enters := inferInstanceAs (Decidable (_ = true))

/-- What a turn leaves that ends after so many stores. Nothing is stored without the guard. -/
def Turn.cut (t : Turn) (stores : Nat) (c : Contents) : Contents :=
  match t.call.body with
  | .ok body => if t.Enters then body.cut stores c else c
  | .error _ => c

namespace Incident

def after (c : Contents) : Incident → Contents
  | turn t => (t.take c).2
  | crash t stores => t.cut stores c

def run (c : Contents) (incidents : List Incident) : Contents := incidents.foldl after c

/-- The caller dies between the first two stores of an abandonment. -/
def Splits (c : Contents) : Incident → Prop
  | turn _ => False
  | crash t stores => t.Enters ∧ stores = 1 ∧ t.call.Abandons c

variable {c : Contents}

theorem run_concat (past : List Incident) (i : Incident) :
    run c (past ++ [i]) = i.after (run c past) := by
  simp [run]

/-- A turn that is cut leaves a mutex that can be got back, unless it is an abandonment that is cut
behind its first store. -/
theorem recoverable_cut_iff (h : c.Recoverable) (t : Turn) (stores : Nat) :
    (t.cut stores c).Recoverable ↔ ¬ (t.Enters ∧ stores = 1 ∧ t.call.Abandons c) := by
  unfold Turn.cut
  cases accepted : t.call.body with
  | error e =>
    refine iff_of_true h ?_
    rintro ⟨-, -, -, -, same | same⟩ <;>
      · rw [same] at accepted
        cases accepted
  | ok body =>
    by_cases enters : t.Enters
    · simp only [if_pos enters]
      rw [Call.cut_recoverable_iff accepted h, and_iff_right enters]
    · simp only [if_neg enters]
      exact iff_of_true h fun split => enters split.1

/-- A turn that runs to its end is one that is cut behind its last store. -/
theorem exists_take_eq_cut (t : Turn) (c : Contents) :
    ∃ stores, 1 < stores ∧ (t.take c).2 = t.cut stores c := by
  unfold Turn.cut
  by_cases enters : t.Enters
  · rw [Turn.take_of_enters enters]
    cases accepted : t.call.body with
    | error e => exact ⟨2, Nat.one_lt_two, by rw [Call.step_of_refused accepted]⟩
    | ok body =>
      obtain ⟨n, whole⟩ := Body.cut_of_large body c
      refine ⟨n + 2, by omega, ?_⟩
      simp only [if_pos enters, whole (n + 2) (by omega), Call.body_run accepted]
  · refine ⟨2, Nat.one_lt_two, ?_⟩
    rw [(Turn.take_of_not_enters enters c).2]
    cases t.call.body with
    | error e => rfl
    | ok body => exact (if_neg enters).symm

theorem recoverable_after_iff (h : c.Recoverable) (i : Incident) :
    (i.after c).Recoverable ↔ ¬ i.Splits c := by
  cases i with
  | turn t =>
    obtain ⟨stores, late, whole⟩ := exists_take_eq_cut t c
    rw [after, whole, recoverable_cut_iff h]
    exact iff_of_true (fun split => absurd split.2.1 (Nat.ne_of_gt late)) id
  | crash t stores => exact recoverable_cut_iff h t stores

theorem recoverable_run_iff (h : c.Recoverable) (incidents : List Incident) :
    (∀ past rest, incidents = past ++ rest → (run c past).Recoverable) ↔
      ∀ past i rest, incidents = past ++ i :: rest → ¬ i.Splits (run c past) := by
  constructor
  · rintro always past i rest rfl
    have before := always past (i :: rest) rfl
    have next := always (past ++ [i]) rest (by simp)
    rw [run_concat] at next
    exact (recoverable_after_iff before i).mp next
  · intro whole past
    -- from the end: what the incidents before left can be got back, and the last splits nothing
    induction past using List.reverseRecOn with
    | nil => exact fun _ _ => h
    | append_singleton past i ih =>
      rintro rest rfl
      rw [run_concat]
      exact (recoverable_after_iff (ih (i :: rest) (by simp)) i).mpr (whole past i rest (by simp))

end Incident

/-! ## How mutexes are got back -/

/-- Whoever asks for the mutex gets it. -/
def Contents.Obtainable (c : Contents) : Prop :=
  ∀ (t : Turn) (r : ThreadId), t.policy.Gets t.guard → t.call.onMutex? = some (.tryAcquire r) →
    r ≠ .none →
    (t.take c).1.outcome =
        .value (.acquisition (if c.mutexState.isAbandoned then .abandoned else .acquired)) ∧
      (t.take c).2 = c.withMutex (.heldBy r)

/-- A sweep for `owner` that visits the mutex frees it. -/
def Contents.FreedFor (c : Contents) (owner : ThreadId) : Prop :=
  ∀ (t : Table) (guard : UInt32), t.policy.Gets guard →
    (t.sweepTurn owner guard).take c =
      (⟨.mutex (.abandonIfOwnedBy owner), .value (.flag true)⟩, c.withMutex .abandonedFree)

/-- Nobody who asks for the mutex gets it, and no sweep frees it. -/
structure Contents.Lost (c : Contents) : Prop where
  acquire : ∀ (t : Turn) (r : ThreadId), t.policy.Gets t.guard →
    t.call.onMutex? = some (.tryAcquire r) → r ≠ .none →
    t.take c = (⟨t.call, .value (.acquisition .notAvailable)⟩, c)
  sweep : ∀ (t : Table) (owner : ThreadId) (guard : UInt32), t.policy.Gets guard →
    (t.sweepTurn owner guard).take c =
      (⟨.mutex (.abandonIfOwnedBy owner), .value (.flag false)⟩, c)

section Recovery

variable {c : Contents}

theorem Contents.obtainable_of_free (kind : c.kind = .mutex) (free : c.mutexState.count = 0) :
    c.Obtainable := by
  intro t r gets asks named
  have enters := t.enters_iff.mpr gets
  have some := ThreadId.not_isNone_iff.mpr named
  rw [Turn.take_of_enters enters, Call.step_onMutex kind asks, MutexCall.step, if_neg some,
    if_pos free]
  exact ⟨rfl, rfl⟩

theorem Contents.freedFor_owner (kind : c.kind = .mutex) (held : c.mutexState.count ≠ 0)
    (named : c.mutexState.owner ≠ .none) : c.FreedFor c.mutexState.owner := by
  intro t guard gets
  have enters : (t.sweepTurn c.mutexState.owner guard).Enters := (Turn.enters_iff _).mpr gets
  have holds : ¬ (c.mutexState.owner.isNone = true ∨ c.mutexState.count = 0 ∨
      c.mutexState.owner ≠ c.mutexState.owner) := by
    rintro (nobody | free | other)
    · exact ThreadId.not_isNone_iff.mpr named nobody
    · exact held free
    · exact other rfl
  have step : (MutexCall.abandonIfOwnedBy c.mutexState.owner).step c.mutexState =
      (.ok (.flag true), .abandonedFree) := if_neg holds
  rw [Turn.take_of_enters enters, Call.step_onMutex kind rfl, step]
  rfl

theorem Contents.lost (kind : c.kind = .mutex) (lost : ¬ c.Recoverable) : c.Lost := by
  obtain ⟨held, nobody⟩ := not_or.mp fun recoverable => lost fun _ => recoverable
  have nobody : c.mutexState.owner = .none := not_not.mp nobody
  refine ⟨fun t r gets asks named => ?_, fun t owner guard gets => ?_⟩
  · have other : c.mutexState.owner ≠ r := by
      rw [nobody]
      exact named.symm
    rw [Turn.take_of_enters (t.enters_iff.mpr gets), Call.step_onMutex kind asks, MutexCall.step,
      if_neg (ThreadId.not_isNone_iff.mpr named), if_neg held, if_pos other]
    rfl
  · have passes : owner.isNone = true ∨ c.mutexState.count = 0 ∨ c.mutexState.owner ≠ owner := by
      by_cases named : owner.isNone = true
      · exact .inl named
      · refine .inr (.inr ?_)
        rw [nobody]
        exact (ThreadId.not_isNone_iff.mp named).symm
    have step : (MutexCall.abandonIfOwnedBy owner).step c.mutexState =
        (.ok (.flag false), c.mutexState) := if_pos passes
    rw [Turn.take_of_enters ((Turn.enters_iff _).mpr gets), Call.step_onMutex kind rfl, step]
    rfl

/-- A mutex can be got back just if whoever asks for it gets it, or a sweep for its owner frees
it. -/
theorem Contents.recoverable_iff (kind : c.kind = .mutex) :
    c.Recoverable ↔ c.Obtainable ∨ ∃ owner, owner ≠ .none ∧ c.FreedFor owner := by
  constructor
  · intro recoverable
    by_cases free : c.mutexState.count = 0
    · exact .inl (obtainable_of_free kind free)
    · have named := (recoverable kind).resolve_left free
      exact .inr ⟨c.mutexState.owner, named, freedFor_owner kind free named⟩
  · intro back
    by_contra lost
    obtain ⟨acquire, sweep⟩ := Contents.lost kind lost
    rcases back with obtainable | ⟨owner, -, freed⟩
    · have gets : (Guard.hasty 9).Gets 0 := ⟨rfl, .inl rfl⟩
      have asked := acquire ⟨0, Guard.hasty 9, .mutex (.tryAcquire ⟨5⟩)⟩ ⟨5⟩ gets rfl nofun
      have got := (obtainable ⟨0, Guard.hasty 9, .mutex (.tryAcquire ⟨5⟩)⟩ ⟨5⟩ gets rfl nofun).1
      rw [asked] at got
      split at got <;> cases got
    · have gets : (Guard.hasty 9).Gets 0 := ⟨rfl, .inl rfl⟩
      have visited := sweep ⟨default, default, Guard.hasty 9⟩ owner 0 gets
      rw [freed ⟨default, default, Guard.hasty 9⟩ 0 gets] at visited
      cases visited

end Recovery

/-- Callers may die at any store, one after another, and every guard they leave may be taken over:
after each turn and each death a mutex that could be got back before can be got back, unless the
caller died between the first two stores of an abandonment of a mutex that was held. That mutex is
lost: nobody gets it, and no sweep frees it. -/
theorem only_split_abandonment_loses_mutex {c : Contents} (h : c.Recoverable)
    (incidents : List Incident) :
    ((∀ past rest, incidents = past ++ rest → (Incident.run c past).Recoverable) ↔
      ∀ past i rest, incidents = past ++ i :: rest → ¬ i.Splits (Incident.run c past)) ∧
    ∀ past rest, incidents = past ++ rest → (Incident.run c past).kind = .mutex →
      ((Incident.run c past).Recoverable →
        (Incident.run c past).Obtainable ∨
          ∃ owner, owner ≠ .none ∧ (Incident.run c past).FreedFor owner) ∧
      (¬ (Incident.run c past).Recoverable → (Incident.run c past).Lost) :=
  ⟨Incident.recoverable_run_iff h incidents, fun _ _ _ kind =>
    ⟨(Contents.recoverable_iff kind).mp, Contents.lost kind⟩⟩

/-- The holder dies between the two stores of its last release, and whoever sees that takes the
guard over; an abandonment that is cut behind its second store does no harm either. -/
theorem mutex_outlives_cut_release :
    let watchful (holder : UInt32) : GuardPolicy :=
      { Guard.hasty holder with probe := .deadList [8, 9] }
    let incidents : List Incident :=
      [.crash ⟨0, Guard.hasty 9, .mutex (.release ⟨5⟩)⟩ 1,
        .turn ⟨9, watchful 7, .mutex (.tryAcquire ⟨6⟩)⟩,
        .crash ⟨0, Guard.hasty 8, .mutex (.abandonIfOwnedBy ⟨6⟩)⟩ 2]
    let held := Contents.ofState (.mutex (.heldBy ⟨5⟩))
    held.Recoverable ∧ (Incident.run held incidents).mutexState = ⟨.none, 0, 0⟩ ∧
      ((Incident.run held incidents).Obtainable ∨
        ∃ owner, owner ≠ .none ∧ (Incident.run held incidents).FreedFor owner) := by
  intro watchful incidents held
  have recoverable : held.Recoverable := Contents.recoverable_of_owner (by decide)
  have last := (only_split_abandonment_loses_mutex recoverable incidents).2 incidents [] rfl
    (by decide)
  exact ⟨recoverable, by decide, last.1 (Contents.recoverable_of_free (by decide))⟩

/-- A process that dies behind the first store of an abandonment, of either kind, loses a mutex that
was held. -/
theorem split_abandonment_loses_mutex :
    let made : Turn := ⟨0, Guard.hasty 7, .setUp (.mutex (some ⟨5⟩))⟩
    let held := (runTurns .blank [made]).2
    let split (call : MutexCall) := Incident.run held [.crash ⟨0, Guard.hasty 9, .mutex call⟩ 1]
    held.mutexState = .heldBy ⟨5⟩ ∧
      (split .markAbandoned).mutexState = ⟨.none, 1, 0⟩ ∧ (split .markAbandoned).Lost ∧
      (split (.abandonIfOwnedBy ⟨5⟩)).mutexState = ⟨.none, 1, 0⟩ ∧
      (split (.abandonIfOwnedBy ⟨5⟩)).Lost := by
  intro made held split
  have lost : ∀ call, (split call).mutexState = ⟨.none, 1, 0⟩ → (split call).kind = .mutex →
      (split call).Lost := by
    intro call left kind
    refine Contents.lost kind fun recoverable => ?_
    have back := recoverable kind
    rw [left] at back
    exact absurd back (by simp [MutexState.Recoverable])
  have marked : (split .markAbandoned).mutexState = ⟨.none, 1, 0⟩ := by decide
  have conditional : (split (.abandonIfOwnedBy ⟨5⟩)).mutexState = ⟨.none, 1, 0⟩ := by decide
  exact ⟨by decide, marked, lost _ marked (by decide), conditional, lost _ conditional (by decide)⟩

end Interprocess
