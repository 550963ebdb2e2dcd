import Interprocess.Proofs.Guard.Alone
import Interprocess.Proofs.Object.Calls

/-!
# Calls under the guard

How an operation on a record runs that nobody disturbs: the guard is claimed, the body runs on the
contents, and the guard is free again whatever the body answers. `Call.op_result` ties the calls to
their bodies.
-/

namespace Interprocess

namespace Body

variable {α β : Type}

@[simp]
theorem run_map (f : α → β) (body : Body α) (c : Contents) :
    (f <$> body).run c = (f (body.run c).1, (body.run c).2) :=
  run_bind body (fun a => pure (f a)) c

end Body

namespace Record

variable {α β : Type}

namespace Script

variable {rest : Body (Except SyncError α)} {field : Field}

theorem of_finish_eq_load {next : UInt32 → Script α} (h : finish rest = .load field next) :
    ∃ later, rest = .load field later ∧ next = fun word => finish (later word) := by
  cases rest <;> cases h
  exact ⟨_, rfl, rfl⟩

theorem of_finish_eq_store {word : UInt32} {next : Script α}
    (h : finish rest = .store field word next) :
    ∃ later, rest = .store field word later ∧ next = finish later := by
  cases rest <;> cases h
  exact ⟨_, rfl, rfl⟩

theorem of_finish_eq_release {next : Script α} (h : finish rest = .release next) :
    ∃ result, rest = .done result ∧ next = .answer result := by
  cases rest <;> cases h
  exact ⟨_, rfl, rfl⟩

/-- Whoever has the guard runs the rest of a body in one go and gives the guard back. -/
theorem finish_result (p : GuardPolicy) (rest : Body (Except SyncError α)) (r : Record) :
    ((finish rest).alone p).result r =
      (.ofExcept (rest.run r.contents).1, ⟨0, (rest.run r.contents).2⟩) := by
  induction rest generalizing r with
  | done result => exact Op.result_ofExcept result _
  | load field next ih => exact ih (r.contents.get field) r
  | store field word next ih => exact ih { r with contents := r.contents.set field word }

end Script

theorem guarded_result (p : GuardPolicy) (body : Body (Except SyncError α)) (r : Record) :
    (guarded p body).result r =
      match Guard.settle p r.guard with
      | (.held _, _) => (.ofExcept (body.run r.contents).1, ⟨0, (body.run r.contents).2⟩)
      | (.timedOut holder waited, word) =>
        (.failed (.guardTimeout holder waited), { r with guard := word })
      | (.refused, word) => (.failed GuardPolicy.holderIdError, { r with guard := word })
      | (.parked, word) => (.blocked, { r with guard := word }) := by
  have opens : (guarded p body).result r =
      (claim p >>= fun _ => (Script.finish body).alone p).result r := rfl
  rcases hs : Guard.settle p r.guard with ⟨ending, word⟩
  rw [opens]
  cases ending with
  | held d =>
    have has : (claim p).result r = (.value (), { r with guard := word }) := by
      cases d <;> simp [claim, claimed, Op.result_bind, hs]
    exact (Op.result_bind_of_value has _).trans (Script.finish_result p body _)
  | parked =>
    simp [claim, claimed, Op.result_bind, hs]
    rfl
  | _ => simp [claim, claimed, Op.result_bind, hs]

theorem guarded_free {p : GuardPolicy} (valid : p.canClaim = true)
    (body : Body (Except SyncError α)) (c : Contents) :
    (guarded p body).result ⟨0, c⟩ = (.ofExcept (body.run c).1, ⟨0, (body.run c).2⟩) := by
  rw [guarded_result, Guard.settle_free valid]

theorem guarded_congr (p : GuardPolicy) {body body' : Body (Except SyncError α)}
    (h : ∀ c, body.run c = body'.run c) (r : Record) :
    (guarded p body).result r = (guarded p body').result r := by
  simp only [guarded_result, h]

theorem guarded_map (p : GuardPolicy) (f : α → β) (body : Body (Except SyncError α)) (r : Record) :
    (f <$> guarded p body).result r = (guarded p (Except.map f <$> body)).result r := by
  rw [Op.result_map, guarded_result, guarded_result]
  rcases Guard.settle p r.guard with ⟨ending, word⟩
  cases ending with
  | held d => simp
  | _ => rfl

theorem expecting_run (k : Kind) (body : Body (Except SyncError α)) (c : Contents) :
    (expecting k body).run c =
      if c.kind = k then body.run c else (.error (.typeMismatch (some k) c.kind), c) := by
  simp only [expecting, Body.run_bind, Body.run_read, Contents.get]
  by_cases h : Kind.ofTag c.tag = k
  · simp [h, Contents.kind]
  · simp [h, Contents.kind]

theorem guarded_expecting_map (p : GuardPolicy) (k : Kind) (f : α → β)
    {body : Body (Except SyncError α)} {body' : Body (Except SyncError β)}
    (h : ∀ c, body'.run c = ((body.run c).1.map f, (body.run c).2)) (r : Record) :
    (f <$> guarded p (expecting k body)).result r = (guarded p (expecting k body')).result r := by
  rw [guarded_map]
  refine guarded_congr p (fun c => ?_) r
  rw [Body.run_map, expecting_run, expecting_run, h]
  split <;> rfl

theorem requireKind_result (k : Kind) (r : Record) :
    (requireKind k).result r =
      (if r.contents.kind = k then .value ()
        else .failed (.typeMismatch (some k) r.contents.kind), r) := by
  have found : kind.result r = (.value r.contents.kind, r) := rfl
  rw [requireKind, Op.result_bind_of_value found]
  split <;> rfl

end Record

/-! ## Calls -/

theorem Op.result_map_note {σ α β : Type} (b : β) (op : Op σ α) (n : α → Notice) (s : σ) :
    ((fun _ => b) <$> (op >>= fun a => Op.note (n a))).result s =
      ((fun _ => b) <$> op).result s := by
  rw [Op.result_map, Op.result_map, Op.result_bind]
  rcases op.result s with ⟨_ | _ | _, s'⟩ <;> rfl

theorem Mutex.abandonIfOwnedBy_result (p : GuardPolicy) (owner : ThreadId) (r : Record) :
    (abandonIfOwnedBy p owner).result r =
      (Record.guarded p (Record.expecting .mutex (abandonIfOwnedBody owner))).result r := by
  rw [abandonIfOwnedBy, Op.result_bind]
  rcases (Record.guarded p (Record.expecting .mutex (abandonIfOwnedBody owner))).result r with
    ⟨(_ | _) | _ | _, r'⟩ <;> rfl

theorem MutexCall.op_result (p : GuardPolicy) (c : MutexCall) (r : Record) :
    (c.op p).result r = (Record.guarded p (Record.expecting .mutex c.body)).result r := by
  cases c with
  | tryAcquire | release =>
    exact Record.guarded_expecting_map p .mutex _ (fun _ => Body.run_map ..) r
  | state =>
    refine Record.guarded_expecting_map p .mutex _ (fun c => ?_) r
    simp only [body, Body.run_map, Body.run_bind, Body.run_pure]
    rfl
  | markAbandoned =>
    simp only [op, Mutex.markAbandoned]
    rw [Op.result_map_note]
    exact Record.guarded_expecting_map p .mutex _ (fun _ => Body.run_map ..) r
  | abandonIfOwnedBy owner =>
    rw [op, Op.result_map, Mutex.abandonIfOwnedBy_result, ← Op.result_map]
    exact Record.guarded_expecting_map p .mutex _ (fun _ => Body.run_map ..) r

theorem EventCall.op_result (p : GuardPolicy) (c : EventCall) (r : Record) :
    (c.op p).result r = (Record.guarded p (Record.expecting .event c.body)).result r := by
  cases c <;>
    · refine Record.guarded_expecting_map p .event _ (fun c => ?_) r
      simp only [body, Body.run_map, Body.run_bind, Body.run_pure]
      rfl

theorem SemaphoreCall.op_result (p : GuardPolicy) (c : SemaphoreCall) (r : Record) :
    (c.op p).result r = (Record.guarded p (Record.expecting .semaphore c.body)).result r := by
  cases c with
  | tryAcquire | release =>
    exact Record.guarded_expecting_map p .semaphore _ (fun _ => Body.run_map ..) r
  | state =>
    refine Record.guarded_expecting_map p .semaphore _ (fun c => ?_) r
    simp only [body, Body.run_map, Body.run_bind, Body.run_pure]
    rfl

theorem Blueprint.setUp_result (p : GuardPolicy) (b : Blueprint) (r : Record) :
    (b.setUp p).result r =
      match b.firstState with
      | .ok state => (Record.guarded p (Record.setUpBody state)).result r
      | .error e => (.failed e, r) := by
  have quiet : ∀ (state : ObjectState) (n : Notice),
      (Record.setUp p state >>= fun _ => Op.note n).result r =
        (Record.guarded p (Record.setUpBody state)).result r := fun state n => by
    rw [Record.setUp, Op.result_bind, Op.result_bind]
    rcases (Record.guarded p (Record.setUpBody state)).result r with ⟨_ | _ | _, r'⟩ <;> rfl
  cases b with
  | mutex owner =>
    simp only [setUp, firstState, Mutex.create]
    rw [Op.result_bind, Op.result_ofExcept]
    cases Mutex.firstState owner with
    | error e => rfl
    | ok state => exact quiet (.mutex state) _
  | event manualReset signaled => exact quiet _ _
  | semaphore initial maximum =>
    simp only [setUp, firstState, Semaphore.create]
    rw [Op.result_bind, Op.result_ofExcept]
    cases Semaphore.firstState initial maximum with
    | error e => rfl
    | ok state => exact quiet (.semaphore state) _

theorem Call.op_result (p : GuardPolicy) (c : Call) (r : Record) :
    (c.op p).result r =
      match c.body with
      | .ok body => (Record.guarded p body).result r
      | .error e => (.failed e, r) := by
  cases c with
  | setUp b =>
    rw [op, Op.result_map, Blueprint.setUp_result]
    simp only [body]
    cases b.firstState with
    | error e => rfl
    | ok state => exact (Op.result_map ..).symm.trans (Record.guarded_map p _ _ r)
  | mutex c => exact c.op_result p r
  | event c => exact c.op_result p r
  | semaphore c => exact c.op_result p r
  | snapshot =>
    refine (Record.guarded_map p _ _ r).trans (Record.guarded_congr p (fun c => ?_) r)
    simp only [Body.run_map, Body.run_bind, Body.run_pure]
    rfl
  | tryWait requester => exact Record.guarded_map p _ _ r
  | retire => exact Record.guarded_map p _ _ r

end Interprocess
