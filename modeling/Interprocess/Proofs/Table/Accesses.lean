import Interprocess.Proofs.Operation
import Interprocess.Proofs.Table.Parts
import Interprocess.Table.Accesses

/-!
# Accesses of operations

To perform a tree of accesses is to perform its pieces one after another (`Accesses.perform_bind`).
What is shown of all branches of a tree (`All`) holds whatever the parts contain and whoever else
stores in them between two accesses; the accesses of a run on one memory are its trace.
-/

namespace Interprocess

namespace Accesses

variable {α β φ : Type}

/-! ## What a tree performs -/

theorem perform_pure (a : α) : (pure a : Accesses α).perform = pure a := rfl

theorem perform_fail (e : SyncError) : (fail e : Accesses α).perform = Op.fail e := rfl

theorem perform_tell (n : Notice) : (tell n).perform = Op.note n := rfl

theorem perform_ofExcept (x : Except SyncError α) : (ofExcept x).perform = Op.ofExcept x := by
  cases x <;> rfl

theorem perform_ite (p : Prop) [Decidable p] (a b : Accesses α) :
    (if p then a else b).perform = if p then a.perform else b.perform := by
  split <;> rfl

theorem perform_bind (a : Accesses α) (f : α → Accesses β) :
    (a >>= f).perform = a.perform >>= fun x => (f x).perform := by
  funext m
  show (a.bind f).perform m = Op.bind a.perform (fun x => (f x).perform) m
  induction a generalizing m with
  | done o => cases o <;> rfl
  | load part next ih => exact ih (part.load m) m
  | store part content next ih => exact ih (part.store content m)
  | note notices next ih =>
    simp only [Accesses.bind, perform, ih, Op.bind]
    rcases next.perform m with ⟨_ | _ | _, m', later⟩ <;> simp [List.append_assoc]

theorem perform_read_bind (part : Part) (f : part.Content → Accesses β) (m : Words) :
    (read part >>= f).perform m = (f (part.load m)).perform m := rfl

theorem perform_map (f : α → β) (a : Accesses α) : (f <$> a).perform = f <$> a.perform :=
  perform_bind a fun x => pure (f x)

theorem perform_attempt (a : Accesses α) : a.attempt.perform = a.perform.attempt := by
  funext m
  induction a generalizing m with
  | done o => cases o <;> rfl
  | load part next ih => exact ih (part.load m) m
  | store part content next ih => exact ih (part.store content m)
  | note notices next ih =>
    simp only [attempt, perform, ih, Op.attempt]
    rcases next.perform m with ⟨_ | _ | _, m', later⟩ <;> rfl

theorem perform_drive (step : φ → Accesses (Op.Progress φ α)) (count : Nat) (phase : φ) :
    (drive step count phase).perform =
      Op.drive (fun phase => (step phase).perform) count phase := by
  induction count generalizing phase with
  | zero => rfl
  | succ count ih =>
    rw [drive, perform_bind, Op.drive]
    congr 1
    funext progress
    cases progress with
    | next phase => exact ih phase
    | answer a => rfl

theorem perform_onRecord (l : Layout) (slot : UInt32) (op : Op Record α) :
    (onRecord l slot op).perform = Words.onRecord (l.recordIndex slot) op := by
  funext m
  simp only [onRecord, perform, List.append_nil]
  rfl

/-! ## Runs -/

/-- The tree with the way in which it ends as its answer. -/
def settle : Accesses α → Accesses (Outcome α)
  | done o => done (.value o)
  | load part next => load part fun content => (next content).settle
  | store part content next => store part content next.settle
  | note notices next => note notices next.settle

/-- How a tree ends on a memory that nobody else changes, and the memory that it leaves. -/
def run (a : Accesses α) (m : Words) : Outcome α × Words := a.perform.result m

/-- The parts that a tree accesses on a memory that nobody else changes. -/
def trace : Accesses α → Words → List Part
  | done _, _ => []
  | load part next, m => part :: (next (part.load m)).trace m
  | store part content next, m => part :: next.trace (part.store content m)
  | note _ next, m => next.trace m

theorem run_bind (a : Accesses α) (f : α → Accesses β) (m : Words) :
    (a >>= f).run m =
      match a.run m with
      | (.value x, m') => (f x).run m'
      | (.failed e, m') => (.failed e, m')
      | (.blocked, m') => (.blocked, m') := by
  unfold run
  rw [perform_bind, Op.result_bind]
  rcases a.perform.result m with ⟨_ | _ | _, m'⟩ <;> rfl

theorem run_bind_of_value {a : Accesses α} {m m' : Words} {x : α} (h : a.run m = (.value x, m'))
    (f : α → Accesses β) : (a >>= f).run m = (f x).run m' := by
  rw [run_bind, h]

theorem run_load (part : Part) (next : part.Content → Accesses α) (m : Words) :
    (load part next).run m = (next (part.load m)).run m := rfl

theorem run_store (part : Part) (content : part.Content) (next : Accesses α) (m : Words) :
    (store part content next).run m = next.run (part.store content m) := rfl

theorem run_note (notices : List Notice) (next : Accesses α) (m : Words) :
    (note notices next).run m = next.run m := rfl

theorem run_read_bind (part : Part) (f : part.Content → Accesses β) (m : Words) :
    (read part >>= f).run m = (f (part.load m)).run m :=
  run_load part f m

theorem trace_read_bind (part : Part) (f : part.Content → Accesses β) (m : Words) :
    (read part >>= f).trace m = part :: (f (part.load m)).trace m := rfl

theorem run_settle (a : Accesses α) (m : Words) :
    a.settle.run m = (.value (a.run m).1, (a.run m).2) := by
  induction a generalizing m with
  | done o => rfl
  | load part next ih => rw [settle, run_load, run_load, ih]
  | store part content next ih => rw [settle, run_store, run_store, ih]
  | note notices next ih => rw [settle, run_note, run_note, ih]

theorem run_exchangeWord (l : Layout) (index : Nat) (fails : Bool) (expected desired : UInt64)
    (m : Words) :
    (exchangeWord l index fails expected desired).run m =
      if m.getLong (l.bitmapIndex index) = expected ∧ !fails then
        (.value none, m.setLong (l.bitmapIndex index) desired)
      else (.value (some (m.getLong (l.bitmapIndex index))), m) := by
  refine (run_read_bind (.word l index) _ m).trans ?_
  split
  · rename_i found
    exact (if_pos found).symm
  · rename_i found
    exact (if_neg found).symm

/-- A tree ends as an operation does and leaves the memory that the operation leaves. -/
def Performs (a : Accesses α) (op : Op Words α) : Prop := ∀ m, a.run m = op.result m

/-! ## All branches of a tree -/

/-- A step leads to a phase where an invariant holds, or to an answer that is fine. -/
def Upholds (inv : φ → Prop) (post : α → Prop) : Op.Progress φ α → Prop
  | .next phase => inv phase
  | .answer a => post a

/-- Every access of a tree is to a part that is fine, and every value that it may end with is, where
each load may find anything. -/
def All (ok : Part → Prop) (post : α → Prop) : Accesses α → Prop
  | done o => ∀ x, o = .value x → post x
  | load part next => ok part ∧ ∀ content, (next content).All ok post
  | store part _ next => ok part ∧ next.All ok post
  | note _ next => next.All ok post

namespace All

variable {ok ok' : Part → Prop} {post post' : α → Prop} {a : Accesses α}

theorem pure {x : α} (h : post x) : (pure x : Accesses α).All ok post := by
  rintro _ ⟨⟩
  exact h

theorem fail (e : SyncError) : (fail e : Accesses α).All ok post := by
  rintro _ ⟨⟩

theorem ofExcept (x : Except SyncError α) : (Accesses.ofExcept x).All ok fun _ => True :=
  fun _ _ => trivial

theorem read {part : Part} {post : part.Content → Prop} (fine : ok part)
    (any : ∀ content, post content) : (Accesses.read part).All ok post :=
  ⟨fine, fun content => All.pure (any content)⟩

theorem tell (n : Notice) : (Accesses.tell n).All ok fun _ => True := fun _ _ => trivial

theorem mono (h : a.All ok post) (parts : ∀ part, ok part → ok' part)
    (values : ∀ x, post x → post' x) : a.All ok' post' := by
  induction a with
  | done o => exact fun x same => values x (h x same)
  | load part next ih => exact ⟨parts part h.1, fun content => ih content (h.2 content)⟩
  | store part content next ih => exact ⟨parts part h.1, ih h.2⟩
  | note notices next ih => exact ih h

theorem bind {mid : α → Prop} {f : α → Accesses β} {post : β → Prop} (h : a.All ok mid)
    (later : ∀ x, mid x → (f x).All ok post) : (a >>= f).All ok post := by
  induction a with
  | done o =>
    cases o with
    | value x => exact later x (h x rfl)
    | failed e => exact All.fail e
    | blocked => rintro _ ⟨⟩
  | load part next ih => exact ⟨h.1, fun content => ih content (h.2 content)⟩
  | store part content next ih => exact ⟨h.1, ih h.2⟩
  | note notices next ih => exact ih h

theorem map {f : α → β} {post : β → Prop} (h : a.All ok fun x => post (f x)) :
    (f <$> a).All ok post :=
  h.bind fun _ found => All.pure found

theorem attempt (h : a.All ok post) :
    a.attempt.All ok fun result => ∀ x, result = .ok x → post x := by
  induction a with
  | done o =>
    cases o with
    | value x =>
      rintro _ ⟨⟩ _ ⟨⟩
      exact h x rfl
    | failed e => rintro _ ⟨⟩ _ ⟨⟩
    | blocked => rintro _ ⟨⟩
  | load part next ih => exact ⟨h.1, fun content => ih content (h.2 content)⟩
  | store part content next ih => exact ⟨h.1, ih h.2⟩
  | note notices next ih => exact ih h

theorem settle (h : a.All ok post) : a.settle.All ok fun o => ∀ x, o = .value x → post x := by
  induction a with
  | done o =>
    rintro _ ⟨⟩
    exact h
  | load part next ih => exact ⟨h.1, fun content => ih content (h.2 content)⟩
  | store part content next ih => exact ⟨h.1, ih h.2⟩
  | note notices next ih => exact ih h

theorem drive {step : φ → Accesses (Op.Progress φ α)} {inv : φ → Prop}
    (each : ∀ phase, inv phase → (step phase).All ok (Upholds inv post)) (count : Nat) {phase : φ}
    (h : inv phase) : (Accesses.drive step count phase).All ok post := by
  induction count generalizing phase with
  | zero => rintro _ ⟨⟩
  | succ count ih =>
    refine (each phase h).bind fun progress upheld => ?_
    cases progress with
    | next phase' => exact ih upheld
    | answer x => exact All.pure upheld

theorem value (h : a.All ok post) {m m' : Words} {x : α} (ran : a.run m = (.value x, m')) :
    post x := by
  induction a generalizing m with
  | done o =>
    cases ran
    exact h x rfl
  | load part next ih =>
    rw [run_load] at ran
    exact ih _ (h.2 _) ran
  | store part content next ih =>
    rw [run_store] at ran
    exact ih h.2 ran
  | note notices next ih =>
    rw [run_note] at ran
    exact ih h ran

end All

/-! ## Memories that agree -/

theorem run_congr {n : Nat} {post : α → Prop} {a : Accesses α}
    (below : a.All (fun part => part.stop ≤ n) post) {m m' : Words}
    (same : Words.SameBelow n m m') :
    (a.run m).1 = (a.run m').1 ∧ Words.SameBelow n (a.run m).2 (a.run m').2 := by
  induction a generalizing m m' with
  | done o => exact ⟨rfl, same⟩
  | load part next ih =>
    rw [run_load, run_load, ← same.load below.1]
    exact ih _ (below.2 _) same
  | store part content next ih =>
    rw [run_store, run_store]
    exact ih below.2 (same.store content)
  | note notices next ih =>
    rw [run_note, run_note]
    exact ih below same

/-- A run is decided by the parts that it accesses: where they hold the same, the same parts are
accessed and the end is the same. -/
theorem run_of_same_parts {a : Accesses α} {m m' : Words}
    (same : ∀ part ∈ a.trace m, ∀ j, part.first ≤ j → j < part.past → m.get j = m'.get j) :
    a.trace m' = a.trace m ∧ (a.run m').1 = (a.run m).1 := by
  induction a generalizing m m' with
  | done o => exact ⟨rfl, rfl⟩
  | load part next ih =>
    rw [trace] at same
    rw [trace, trace, run_load, run_load]
    have here := same part List.mem_cons_self
    have later := ih (part.load m) fun part' mem => same part' (List.mem_cons_of_mem part mem)
    rw [← Part.load_congr here]
    exact ⟨congrArg (part :: ·) later.1, later.2⟩
  | store part content next ih =>
    rw [trace] at same
    rw [trace, trace, run_store, run_store]
    have later : next.trace (part.store content m') = next.trace (part.store content m) ∧
        (next.run (part.store content m')).1 = (next.run (part.store content m)).1 := by
      apply ih
      intro part' mem j low high
      by_cases inside : part.first ≤ j ∧ j < part.past
      · exact Part.get_store_inside content inside.1 inside.2
      · have outside : j < part.first ∨ part.past ≤ j := by omega
        rw [Part.get_store_outside content outside, Part.get_store_outside content outside]
        exact same part' (List.mem_cons_of_mem part mem) j low high
    exact ⟨congrArg (part :: ·) later.1, later.2⟩
  | note notices next ih =>
    rw [trace] at same
    rw [trace, trace, run_note, run_note]
    exact ih same

theorem get_run {j : Nat} {post : α → Prop} {a : Accesses α}
    (apart : a.All (fun part => j < part.first ∨ part.past ≤ j) post) (m : Words) :
    (a.run m).2.get j = m.get j := by
  induction a generalizing m with
  | done o => rfl
  | load part next ih =>
    rw [run_load]
    exact ih _ (apart.2 _) m
  | store part content next ih =>
    rw [run_store, ih apart.2]
    exact Part.get_store_outside content apart.1
  | note notices next ih =>
    rw [run_note]
    exact ih apart m

end Accesses

end Interprocess
