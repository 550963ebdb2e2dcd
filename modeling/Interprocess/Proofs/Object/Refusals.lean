import Interprocess.Proofs.Object.Transitions

/-!
# Calls that leave an object alone

A call that is refused changes nothing, whatever the contents are: neither one that ends with an
error nor one that finds the object taken (`Call.step_refused`). An object of a kind is changed by
the calls for its kind alone, and by those that are for all kinds (`Call.step_of_not_touches`).
-/

namespace Interprocess

/-! ## Refusals -/

/-- An answer that the call was refused: an error, or that the object cannot be taken. -/
def Refuses (a : Except SyncError Answer) : Prop :=
  (∃ e, a = .error e) ∨ a = .ok (.acquisition .notAvailable)

theorem MutexCall.step_refused {call : MutexCall} {m : MutexState}
    (h : Refuses (call.step m).1) : (call.step m).2 = m := by
  cases call with
  | tryAcquire requester | release requester | abandonIfOwnedBy requester =>
    simp only [step] at h ⊢
    split_ifs at h ⊢ <;> simp_all [Refuses]
  | markAbandoned | state => simp [step, Refuses] at h

theorem EventCall.step_refused {call : EventCall} {e : EventState}
    (h : Refuses (call.step e).1) : (call.step e).2 = e := by
  cases call <;> simp [step, Refuses] at h

theorem SemaphoreCall.step_refused {call : SemaphoreCall} {s : SemaphoreState}
    (h : Refuses (call.step s).1) : (call.step s).2 = s := by
  cases call with
  | tryAcquire units | release units =>
    simp only [step] at h ⊢
    split_ifs at h ⊢ <;> simp_all [Refuses]
  | state => simp [step, Refuses] at h

theorem EventCall.step_poll_of_clear {e : EventState} (clear : e.isSignaled = false) :
    (EventCall.poll.step e).2 = e := by
  obtain ⟨manual, signaled⟩ := e
  have zero : signaled = 0 := by simpa [EventState.isSignaled] using clear
  subst zero
  simp only [step]
  split <;> rfl

theorem Contents.expect_of_ne {c : Contents} {k : Kind} (other : c.kind ≠ k)
    (step : Except SyncError Answer × Contents) :
    c.expect k step = (.error (.typeMismatch (some k) c.kind), c) :=
  if_neg other

theorem Contents.expect_refused {c : Contents} {k : Kind}
    {step : Except SyncError Answer × Contents} (inner : Refuses step.1 → step.2 = c)
    (h : Refuses (c.expect k step).1) : (c.expect k step).2 = c := by
  unfold expect at h ⊢
  split
  · rename_i right
    rw [if_pos right] at h
    exact inner h
  · rfl

theorem Call.step_refused {call : Call} {c : Contents} (h : Refuses (call.step c).1) :
    (call.step c).2 = c := by
  cases call with
  | setUp b =>
    simp only [step] at h ⊢
    cases hb : b.firstState with
    | error e => rfl
    | ok state =>
      simp only [hb] at h ⊢
      split
      · rename_i blank
        rw [if_pos blank] at h
        simp [Refuses] at h
      · rfl
  | mutex call =>
    exact Contents.expect_refused (fun h => congrArg c.withMutex (MutexCall.step_refused h)) h
  | event call =>
    exact Contents.expect_refused (fun h => congrArg c.withEvent (EventCall.step_refused h)) h
  | semaphore call =>
    exact Contents.expect_refused
      (fun h => congrArg c.withSemaphore (SemaphoreCall.step_refused h)) h
  | snapshot => rfl
  | tryWait requester =>
    simp only [step, Contents.wait] at h ⊢
    split
    · rfl
    · rename_i kind
      rw [kind] at h
      rw [MutexCall.step_refused h, Contents.withMutex_mutexState]
    · rename_i kind
      rw [kind] at h
      have clear : c.eventState.isSignaled = false := by
        cases signaled : c.eventState.isSignaled with
        | false => rfl
        | true => simp [Refuses, signaled] at h
      rw [EventCall.step_poll_of_clear clear, Contents.withEvent_eventState]
    · rename_i kind
      rw [kind] at h
      rw [SemaphoreCall.step_refused h, Contents.withSemaphore_semaphoreState]
  | retire => simp [step, Refuses] at h

/-! ## Calls for other kinds -/

/-- Whether a call may change an object of a kind. -/
def Call.touches (k : Kind) : Call → Bool
  | setUp _ => false
  | mutex _ => k = .mutex
  | event _ => k = .event
  | semaphore _ => k = .semaphore
  | snapshot => false
  | tryWait _ => true
  | retire => true

theorem Contents.tag_ne_zero {c : Contents} (typed : c.kind ≠ .unknown) : c.tag ≠ 0 := by
  intro zero
  rw [kind, zero] at typed
  exact typed rfl

theorem Call.step_of_not_touches {call : Call} {c : Contents} {k : Kind} (kind : c.kind = k)
    (typed : k ≠ .unknown) (h : call.touches k = false) : (call.step c).2 = c := by
  subst kind
  cases call with
  | setUp b =>
    simp only [step, if_neg (Contents.tag_ne_zero typed)]
    cases b.firstState <;> rfl
  | mutex call | event call | semaphore call =>
    rw [step, Contents.expect_of_ne (of_decide_eq_false h)]
  | snapshot => rfl
  | tryWait | retire => cases h

end Interprocess
