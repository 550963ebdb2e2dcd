import Interprocess.Operation

/-!
# Results of operations

How an operation ends and the state that it leaves, without the notices that it issues. A sequence
is taken apart by the result of its first part.
-/

namespace Interprocess

namespace Outcome

variable {α β : Type}

def map (f : α → β) : Outcome α → Outcome β
  | value a => value (f a)
  | failed e => failed e
  | blocked => blocked

@[simp]
theorem map_ofExcept (f : α → β) (x : Except SyncError α) :
    (ofExcept x).map f = ofExcept (x.map f) := by
  cases x <;> rfl

theorem ofExcept_eq_value {x : Except SyncError α} {a : α} (h : ofExcept x = .value a) :
    x = .ok a := by
  cases x with
  | error e => cases h
  | ok b =>
    cases h
    rfl

theorem ofExcept_eq_failed {x : Except SyncError α} {e : SyncError} (h : ofExcept x = .failed e) :
    x = .error e := by
  cases x with
  | error e' =>
    cases h
    rfl
  | ok a => cases h

end Outcome

namespace Op

variable {σ τ α β : Type}

def result (op : Op σ α) (s : σ) : Outcome α × σ := ((op.run s).outcome, (op.run s).state)

@[simp]
theorem result_pure (a : α) (s : σ) : result (pure a : Op σ α) s = (.value a, s) := rfl

@[simp]
theorem result_fail (e : SyncError) (s : σ) : result (fail e : Op σ α) s = (.failed e, s) := rfl

@[simp]
theorem result_note (n : Notice) (s : σ) : result (note n : Op σ Unit) s = (.value (), s) := rfl

@[simp]
theorem result_get (s : σ) : result (get : Op σ σ) s = (.value s, s) := rfl

@[simp]
theorem result_read (f : σ → α) (s : σ) : result (read f) s = (.value (f s), s) := rfl

@[simp]
theorem result_update (f : σ → σ) (s : σ) : result (update f) s = (.value (), f s) := rfl

@[simp]
theorem result_exchange (f : σ → α × σ) (s : σ) :
    result (exchange f) s = (.value (f s).1, (f s).2) := rfl

@[simp]
theorem result_ofExcept (x : Except SyncError α) (s : σ) :
    result (ofExcept x) s = (.ofExcept x, s) := by
  cases x <;> rfl

@[simp]
theorem result_within (part : τ → σ) (replace : σ → τ → τ) (op : Op σ α) (t : τ) :
    (op.within part replace).result t =
      ((op.result (part t)).1, replace (op.result (part t)).2 t) := rfl

/-! ## Sequences -/

theorem result_bind (op : Op σ α) (next : α → Op σ β) (s : σ) :
    (op >>= next).result s =
      match op.result s with
      | (.value a, s') => (next a).result s'
      | (.failed e, s') => (.failed e, s')
      | (.blocked, s') => (.blocked, s') := by
  show (Op.bind op next).result s = _
  simp only [result, run, Op.bind]
  rcases op s with ⟨_ | _ | _, s', notices⟩ <;> rfl

theorem result_bind_of_value {op : Op σ α} {s s' : σ} {a : α} (h : op.result s = (.value a, s'))
    (next : α → Op σ β) : (op >>= next).result s = (next a).result s' := by
  rw [result_bind, h]

theorem result_bind_of_failed {op : Op σ α} {s s' : σ} {e : SyncError}
    (h : op.result s = (.failed e, s')) (next : α → Op σ β) :
    (op >>= next).result s = (.failed e, s') := by
  rw [result_bind, h]

theorem result_bind_of_blocked {op : Op σ α} {s s' : σ} (h : op.result s = (.blocked, s'))
    (next : α → Op σ β) : (op >>= next).result s = (.blocked, s') := by
  rw [result_bind, h]

theorem values_of_bind {op : Op σ α} {next : α → Op σ β} {s s'' : σ} {b : β}
    (h : (op >>= next).result s = (.value b, s'')) :
    ∃ a s', op.result s = (.value a, s') ∧ (next a).result s' = (.value b, s'') := by
  rw [result_bind] at h
  rcases first : op.result s with ⟨a | e | _, s'⟩
  · rw [first] at h
    exact ⟨a, s', rfl, h⟩
  · rw [first] at h
    cases h
  · rw [first] at h
    cases h

theorem result_map (f : α → β) (op : Op σ α) (s : σ) :
    (f <$> op).result s = ((op.result s).1.map f, (op.result s).2) := by
  show (op >>= fun a => pure (f a)).result s = _
  rw [result_bind]
  rcases op.result s with ⟨_ | _ | _, s'⟩ <;> rfl

theorem result_attempt_of_value {op : Op σ α} {s s' : σ} {a : α}
    (h : op.result s = (.value a, s')) : op.attempt.result s = (.value (.ok a), s') := by
  simp only [result, run, attempt] at h ⊢
  rcases hr : op s with ⟨_ | _ | _, s'', notices⟩ <;> simp_all

theorem result_attempt_of_failed {op : Op σ α} {s s' : σ} {e : SyncError}
    (h : op.result s = (.failed e, s')) : op.attempt.result s = (.value (.error e), s') := by
  simp only [result, run, attempt] at h ⊢
  rcases hr : op s with ⟨_ | _ | _, s'', notices⟩ <;> simp_all

theorem result_attempt_of_blocked {op : Op σ α} {s s' : σ} (h : op.result s = (.blocked, s')) :
    op.attempt.result s = (.blocked, s') := by
  simp only [result, run, attempt] at h ⊢
  rcases hr : op s with ⟨_ | _ | _, s'', notices⟩ <;> simp_all

theorem result_attempt (op : Op σ α) (s : σ) : (op.attempt.result s).2 = (op.result s).2 := by
  simp only [result, run, attempt]
  rcases op s with ⟨_ | _ | _, s', notices⟩ <;> rfl

/-! ## Calls in steps -/

section Steps

variable {φ : Type} {step : φ → Op σ (Progress φ α)} {phase phase' : φ} {s s' : σ}

theorem result_drive_of_next (h : (step phase).result s = (.value (.next phase'), s'))
    (steps : Nat) : (drive step (steps + 1) phase).result s = (drive step steps phase').result s' :=
  result_bind_of_value h _

theorem result_drive_of_answer {a : α} (h : (step phase).result s = (.value (.answer a), s'))
    (steps : Nat) : (drive step (steps + 1) phase).result s = (.value a, s') :=
  result_bind_of_value h _

theorem result_drive_of_failed {e : SyncError} (h : (step phase).result s = (.failed e, s'))
    (steps : Nat) : (drive step (steps + 1) phase).result s = (.failed e, s') :=
  result_bind_of_failed h _

theorem result_drive_of_blocked (h : (step phase).result s = (.blocked, s')) (steps : Nat) :
    (drive step (steps + 1) phase).result s = (.blocked, s') :=
  result_bind_of_blocked h _

/-- A call goes on from one phase to another in so many steps. -/
def Leads (step : φ → Op σ (Progress φ α)) (count : Nat) (phase : φ) (s : σ) (phase' : φ)
    (s' : σ) : Prop :=
  ∀ steps, (drive step (steps + count) phase).result s = (drive step steps phase').result s'

theorem Leads.refl (step : φ → Op σ (Progress φ α)) (phase : φ) (s : σ) :
    Leads step 0 phase s phase s :=
  fun _ => rfl

theorem Leads.next (h : (step phase).result s = (.value (.next phase'), s')) :
    Leads step 1 phase s phase' s' :=
  fun steps => result_drive_of_next h steps

theorem Leads.trans {count count' : Nat} {phase'' : φ} {s'' : σ}
    (first : Leads step count phase s phase' s')
    (second : Leads step count' phase' s' phase'' s'') :
    Leads step (count + count') phase s phase'' s'' := by
  intro steps
  rw [Nat.add_comm count, ← Nat.add_assoc, first, second]

end Steps

end Op

end Interprocess
