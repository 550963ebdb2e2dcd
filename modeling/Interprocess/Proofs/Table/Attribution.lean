import Interprocess.Proofs.Object.Places
import Interprocess.Proofs.Table.Sharing

/-!
# What each call did

The log of a shared table has the events of all calls, in the order in which they happened. Those of
one call are few, and they are known from where the call stands, or from what it returned: a call
that has claimed a slot and not counted it is about to hand it out, a call that has cleared a bit is
about to return without an error, and a call that missed its bit is over (`Attributed`). Once no
call is in progress, the calls have counted whatever they did (`Attributed.counted`).
-/

namespace Interprocess

/-! ## What a call tells of -/

/-- What a call returns that the event is of, where the event settles it. -/
def SlotEvent.promise : SlotEvent → Option Return
  | claimed _ slot => some (.handsOut (.ok slot))
  | cleared _ slot => some (.takesBack slot (.ok ()))
  | missed _ slot => some (.takesBack slot (.error (.invalidSlot slot)))
  | added _ | subtracted _ => none

theorem Return.Explains.kept {n : Nat} {r r' : Return} {events : List SlotEvent} {e : SlotEvent}
    (h : r'.Explains n events) (mem : e ∈ events) (promise : e.promise = some r) : r' = r := by
  cases r' with
  | handsOut answer =>
    cases answer with
    | error failure =>
      rw [show events = [] from h] at mem
      cases mem
    | ok slot =>
      rw [show events = [_, _] from h, List.mem_pair] at mem
      rcases mem with rfl | rfl
      · exact Option.some.inj promise
      · cases promise
  | takesBack slot answer =>
    cases answer with
    | error failure =>
      rcases h with rfl | ⟨rfl, rfl⟩
      · cases mem
      · rw [List.mem_singleton.mp mem] at promise
        exact Option.some.inj promise
    | ok _ =>
      rw [show events = [_, _] from h, List.mem_pair] at mem
      rcases mem with rfl | rfl
      · exact Option.some.inj promise
      · cases promise

/-- A call that has made a promise keeps it in its next step, whatever it finds. -/
theorem Work.keeps {n : Nat} {r : Return} {w : Work} {e : SlotEvent} (mem : e ∈ w.done n)
    (promise : e.promise = some r) (t : Table) (fails : Bool) (m : Words) :
    (w.step t fails m).1 = .answer r := by
  unfold done at mem
  split at mem
  · rw [List.mem_singleton.mp mem] at promise
    cases promise
    rw [step, Table.allocStep_count]
    rfl
  · rw [List.mem_singleton.mp mem] at promise
    cases promise
    rw [step, Table.Serves.freeStep_count]
    rfl
  · cases mem

theorem Work.claimed_not_mem_answer (n : Nat) (w : Work) (r : Return) (slot : UInt32) :
    .claimed n slot ∉ (w.event n (.answer r)).toList := by
  intro mem
  have found := Option.mem_toList.mp mem
  cases w with
  | handsOut phase => cases phase <;> cases found
  | takesBack slot' phase => cases phase <;> cases found

theorem Work.claimed_of_answer {n : Nat} {w : Work} {slot : UInt32}
    (h : Return.Explains n (.handsOut (.ok slot))
      (w.done n ++ (w.event n (.answer (.handsOut (.ok slot)))).toList)) :
    .claimed n slot ∈ w.done n := by
  have all : w.done n ++ (w.event n (.answer (.handsOut (.ok slot)))).toList =
      [.claimed n slot, .added n] := h
  have mem := all ▸ List.mem_cons_self
  exact (List.mem_append.mp mem).resolve_right (w.claimed_not_mem_answer n _ slot)

theorem Return.Explains.of_missed {n : Nat} {r : Return} {events : List SlotEvent} {slot : UInt32}
    (h : r.Explains n events) (mem : .missed n slot ∈ events) :
    r = .takesBack slot (.error (.invalidSlot slot)) ∧ events = [.missed n slot] := by
  obtain rfl := h.kept mem rfl
  rcases h with rfl | ⟨-, rfl⟩
  · cases mem
  · exact ⟨rfl, rfl⟩

theorem Return.Explains.counted {n : Nat} {r : Return} {events : List SlotEvent}
    (h : r.Explains n events) :
    events.countP SlotEvent.isClaim = events.countP SlotEvent.isAddition ∧
      events.countP SlotEvent.isClear = events.countP SlotEvent.isSubtraction := by
  cases r with
  | handsOut answer =>
    cases answer with
    | error failure =>
      rw [show events = [] from h]
      exact ⟨rfl, rfl⟩
    | ok slot =>
      rw [show events = [_, _] from h]
      exact ⟨rfl, rfl⟩
  | takesBack slot answer =>
    cases answer with
    | error failure => rcases h with rfl | ⟨-, rfl⟩ <;> exact ⟨rfl, rfl⟩
    | ok _ =>
      rw [show events = [_, _] from h]
      exact ⟨rfl, rfl⟩

/-! ## The calls of a run -/

namespace SharedTable

variable {ι : Type} {s s' : SharedTable ι} {c : UInt32} {m : Words}

/-- The numbers of the calls in progress. -/
def callOf (s : SharedTable ι) : ι → Option Nat := Option.map Task.call ∘ s.task

/-- The events of a call are those that it tells of. -/
structure Attributed (c : UInt32) (s : SharedTable ι) : Prop where
  apart : Apart s.callOf (s.ended.map Prod.fst) s.begun
  tasks : ∀ i task, s.task i = some task → task.handle.Serves c ∧ task.work.Fits c ∧
    SlotEvent.doneBy task.call s.log = task.work.done task.call
  ended : ∀ n r, (n, r) ∈ s.ended → r.Explains n (SlotEvent.doneBy n s.log)
  known : ∀ e ∈ s.log, (∃ i task, s.task i = some task ∧ task.call = e.call) ∨
    ∃ r, (e.call, r) ∈ s.ended

/-- The call has returned so, or cannot but return so in its next step. -/
def Returns (s : SharedTable ι) (n : Nat) (r : Return) : Prop :=
  (n, r) ∈ s.ended ∨ ∃ i task, s.task i = some task ∧ task.call = n ∧
    ∀ fails m, (task.work.step task.handle fails m).1 = .answer r

namespace Attributed

theorem initial (c : UInt32) (m : Words) : (initial m : SharedTable ι).Attributed c :=
  ⟨⟨nofun, nofun, nofun, nofun, List.nodup_nil⟩, nofun, nofun, nofun⟩

theorem callOf_of_busy {i : ι} {task : Task} (busy : s.task i = some task) :
    s.callOf i = some task.call := by
  rw [callOf, Function.comp_apply, busy]
  rfl

theorem lt_begun (h : s.Attributed c) {e : SlotEvent} (mem : e ∈ s.log) : e.call < s.begun := by
  rcases h.known e mem with ⟨i, task, busy, same⟩ | ⟨r, past⟩
  · exact h.apart.below i _ (same ▸ callOf_of_busy busy)
  · exact h.apart.belowPast _ (List.mem_map_of_mem past)

theorem call_ne (h : s.Attributed c) {i j : ι} {task task' : Task} (busy : s.task i = some task)
    (busy' : s.task j = some task') (other : j ≠ i) : task'.call ≠ task.call := by
  intro same
  exact other (h.apart.alone j i _ (callOf_of_busy busy') (same ▸ callOf_of_busy busy))

theorem call_ne_past (h : s.Attributed c) {i : ι} {task : Task} (busy : s.task i = some task)
    {n : Nat} {r : Return} (past : (n, r) ∈ s.ended) : n ≠ task.call := by
  rintro rfl
  exact h.apart.fresh i _ (callOf_of_busy busy) (List.mem_map_of_mem past)

theorem doneBy_other (h : s.Attributed c) {i : ι} {task : Task} (busy : s.task i = some task)
    (next : Op.Progress Work Return) :
    (∀ j task', j ≠ i → s.task j = some task' →
        SlotEvent.doneBy task'.call (s.log ++ (task.work.event task.call next).toList) =
          task'.work.done task'.call) ∧
      ∀ n r, (n, r) ∈ s.ended →
        r.Explains n (SlotEvent.doneBy n (s.log ++ (task.work.event task.call next).toList)) := by
  refine ⟨fun j task' other busy' => ?_, fun n r past => ?_⟩
  · rw [SlotEvent.doneBy_append_other (fun _ => Work.call_of_event) (h.call_ne busy busy' other)]
    exact (h.tasks j task' busy').2.2
  · rw [SlotEvent.doneBy_append_other (fun _ => Work.call_of_event) (h.call_ne_past busy past)]
    exact h.ended n r past

theorem moves (h : s.Attributed c) {i : ι} {task : Task} (busy : s.task i = some task)
    (fails : Bool) : task.work.Moves c task.call s.memory
      (task.work.step task.handle fails s.memory) := by
  obtain ⟨serves, fits, -⟩ := h.tasks i task busy
  exact Work.moves serves fits task.call fails s.memory

/-- A call whose events settle what it returns has returned it, or is about to. -/
theorem returns_of_mem (h : s.Attributed c) {e : SlotEvent} (mem : e ∈ s.log) {r : Return}
    (promise : e.promise = some r) : s.Returns e.call r := by
  have mine : e ∈ SlotEvent.doneBy e.call s.log := SlotEvent.mem_doneBy.mpr ⟨mem, rfl⟩
  rcases h.known e mem with ⟨i, task, busy, same⟩ | ⟨r', past⟩
  · rw [← same, (h.tasks i task busy).2.2] at mine
    exact .inr ⟨i, task, busy, same, Work.keeps mine promise task.handle⟩
  · rw [← (h.ended _ _ past).kept mine promise]
    exact .inl past

theorem claimed_iff (h : s.Attributed c) (n : Nat) (slot : UInt32) :
    .claimed n slot ∈ s.log ↔ s.Returns n (.handsOut (.ok slot)) := by
  refine ⟨fun mem => h.returns_of_mem mem rfl, ?_⟩
  rintro (past | ⟨i, task, busy, rfl, answers⟩)
  · have all : SlotEvent.doneBy n s.log = [.claimed n slot, .added n] := h.ended _ _ past
    exact (SlotEvent.mem_doneBy.mp (all ▸ List.mem_cons_self)).1
  · have moves := (h.moves busy false).explains
    rw [answers] at moves
    have mem := Work.claimed_of_answer moves
    rw [← (h.tasks i task busy).2.2] at mem
    exact (SlotEvent.mem_doneBy.mp mem).1

theorem of_missed (h : s.Attributed c) {n : Nat} {slot : UInt32} (mem : .missed n slot ∈ s.log) :
    (n, .takesBack slot (.error (.invalidSlot slot))) ∈ s.ended ∧
      SlotEvent.doneBy n s.log = [.missed n slot] := by
  have mine : .missed n slot ∈ SlotEvent.doneBy n s.log := SlotEvent.mem_doneBy.mpr ⟨mem, rfl⟩
  rcases h.known _ mem with ⟨i, task, busy, same⟩ | ⟨r, past⟩
  · -- a call that has missed a bit is over
    rw [← show task.call = n from same, (h.tasks i task busy).2.2] at mine
    unfold Work.done at mine
    split at mine <;> simp at mine
  · obtain ⟨rfl, all⟩ := (h.ended n r past).of_missed mine
    exact ⟨past, all⟩

theorem counted (h : s.Attributed c) (idle : ∀ i, s.task i = none) :
    s.log.countP SlotEvent.isClaim = s.log.countP SlotEvent.isAddition ∧
      s.log.countP SlotEvent.isClear = s.log.countP SlotEvent.isSubtraction := by
  have each (n : Nat) : (SlotEvent.doneBy n s.log).countP SlotEvent.isClaim =
        (SlotEvent.doneBy n s.log).countP SlotEvent.isAddition ∧
      (SlotEvent.doneBy n s.log).countP SlotEvent.isClear =
        (SlotEvent.doneBy n s.log).countP SlotEvent.isSubtraction := by
    cases all : SlotEvent.doneBy n s.log with
    | nil => exact ⟨rfl, rfl⟩
    | cons e rest =>
      obtain ⟨mem, rfl⟩ := SlotEvent.mem_doneBy.mp (all ▸ List.mem_cons_self)
      rcases h.known e mem with ⟨i, task, busy, -⟩ | ⟨r, past⟩
      · rw [idle i] at busy
        cases busy
      · rw [← all]
        exact (h.ended _ _ past).counted
  exact ⟨SlotEvent.countP_eq_of_doneBy fun n => (each n).1,
    SlotEvent.countP_eq_of_doneBy fun n => (each n).2⟩

/-! ### Steps -/

/-- An event of the log after a step is of the call that took the step, of another that is in
progress, or of one that is over. -/
theorem known_after (h : s.Attributed c) {i : ι} {task : Task} (busy : s.task i = some task)
    {next : Op.Progress Work Return} {e : SlotEvent}
    (mem : e ∈ s.log ++ (task.work.event task.call next).toList) :
    e.call = task.call ∨ (∃ j task', j ≠ i ∧ s.task j = some task' ∧ task'.call = e.call) ∨
      ∃ r, (e.call, r) ∈ s.ended := by
  rcases List.mem_append.mp mem with old | new
  · rcases h.known e old with ⟨j, task', busy', same⟩ | past
    · by_cases own : j = i
      · subst own
        obtain rfl := Option.some.inj (busy.symm.trans busy')
        exact .inl same.symm
      · exact .inr (.inl ⟨j, task', own, busy', same⟩)
    · exact .inr (.inr past)
  · exact .inl (Work.call_of_event new)

variable [DecidableEq ι]

theorem callOf_assign (s : SharedTable ι) (i : ι) (task : Option Task) :
    (s.assign i task).callOf = Function.update s.callOf i (task.map Task.call) :=
  Function.comp_update ..

theorem begins (h : s.Attributed c) {i : ι} {t : Table} {w : Work} (idle : s.task i = none)
    (serves : t.Serves c) (starts : w.Starts) :
    (assign { s with begun := s.begun + 1 } i (some ⟨s.begun, t, w⟩)).Attributed c := by
  refine ⟨?_, fun j task busy => ?_, h.ended, fun e mem => ?_⟩
  · rw [callOf_assign]
    exact h.apart.claim i
  · by_cases own : j = i
    · rw [own, assign_task_self] at busy
      cases busy
      have nothing : SlotEvent.doneBy s.begun s.log = [] := by
        refine List.filter_eq_nil_iff.mpr fun e mem same => ?_
        have old := h.lt_begun mem
        rw [decide_eq_true_iff] at same
        omega
      cases starts with
      | handsOut => exact ⟨serves, trivial, nothing⟩
      | takesBack slot => exact ⟨serves, trivial, nothing⟩
    · rw [assign_task_of_ne _ _ own] at busy
      exact h.tasks j task busy
  · rcases h.known e mem with ⟨j, task, busy, same⟩ | past
    · have other : j ≠ i := by
        rintro rfl
        rw [idle] at busy
        cases busy
      exact .inl ⟨j, task, (assign_task_of_ne _ _ other).trans busy, same⟩
    · exact .inr past

theorem goesOn (h : s.Attributed c) {i : ι} {task : Task} (busy : s.task i = some task)
    {w : Work} {m' : Words} (moves : task.work.Moves c task.call m (.next w, m')) :
    (assign { s with
      memory := m'
      log := s.log ++ (task.work.event task.call (.next w)).toList } i
      (some { task with work := w })).Attributed c := by
  obtain ⟨serves, -, done⟩ := h.tasks i task busy
  obtain ⟨others, past⟩ := h.doneBy_other busy (.next w)
  refine ⟨?_, fun j task' busy' => ?_, past, fun e mem => ?_⟩
  · have same : Function.update s.callOf i (some task.call) = s.callOf := by
      rw [← callOf_of_busy busy, Function.update_eq_self]
    rw [callOf_assign]
    exact same.symm ▸ h.apart
  · by_cases own : j = i
    · rw [own, assign_task_self] at busy'
      cases busy'
      refine ⟨serves, moves.fits, ?_⟩
      show SlotEvent.doneBy task.call (s.log ++ _) = w.done task.call
      rw [SlotEvent.doneBy_append_own fun _ => Work.call_of_event, done]
      exact moves.explains
    · rw [assign_task_of_ne _ _ own] at busy'
      obtain ⟨serves', fits', -⟩ := h.tasks j task' busy'
      exact ⟨serves', fits', others j task' own busy'⟩
  · rcases h.known_after busy mem with own | ⟨j, task', other, busy', same⟩ | past
    · exact .inl ⟨i, _, assign_task_self .., own.symm⟩
    · exact .inl ⟨j, task', (assign_task_of_ne _ _ other).trans busy', same⟩
    · exact .inr past

theorem returns (h : s.Attributed c) {i : ι} {task : Task} (busy : s.task i = some task)
    {r : Return} {m' : Words} (moves : task.work.Moves c task.call m (.answer r, m')) :
    (assign { s with
      memory := m'
      log := s.log ++ (task.work.event task.call (.answer r)).toList
      ended := s.ended ++ [(task.call, r)] } i none).Attributed c := by
  obtain ⟨-, -, done⟩ := h.tasks i task busy
  obtain ⟨others, past⟩ := h.doneBy_other busy (.answer r)
  have mine : (task.call, r) ∈ s.ended ++ [(task.call, r)] :=
    List.mem_append_right _ (List.mem_singleton_self _)
  refine ⟨?_, fun j task' busy' => ?_, fun n r' mem => ?_, fun e mem => ?_⟩
  · rw [callOf_assign]
    show Apart _ ((s.ended ++ [(task.call, r)]).map Prod.fst) s.begun
    rw [List.map_append]
    exact h.apart.finish (callOf_of_busy busy)
  · have other : j ≠ i := by
      rintro rfl
      rw [assign_task_self] at busy'
      cases busy'
    rw [assign_task_of_ne _ _ other] at busy'
    obtain ⟨serves', fits', -⟩ := h.tasks j task' busy'
    exact ⟨serves', fits', others j task' other busy'⟩
  · rcases List.mem_append.mp mem with old | new
    · exact past n r' old
    · obtain ⟨rfl, rfl⟩ := Prod.mk.inj (List.mem_singleton.mp new)
      show Return.Explains _ _ (SlotEvent.doneBy task.call (s.log ++ _))
      rw [SlotEvent.doneBy_append_own fun _ => Work.call_of_event, done]
      exact moves.explains
  · rcases h.known_after busy mem with own | ⟨j, task', other, busy', same⟩ | ⟨r', past⟩
    · exact .inr ⟨r, own ▸ mine⟩
    · exact .inl ⟨j, task', (assign_task_of_ne _ _ other).trans busy', same⟩
    · exact .inr ⟨r', List.mem_append_left _ past⟩

theorem same_of_quiet (h : s.Attributed c) (step : Step c s s')
    (quiet : ∀ e, s'.log = s.log ++ [e] → ∃ n slot, e = .missed n slot) :
    SameSlots c s.memory s'.memory := by
  cases step with
  | begins => exact .refl c s.memory
  | @goesOn i task fails w m busy ran =>
    have moves := h.moves busy fails
    rw [ran] at moves
    refine moves.effect.same fun e mem => quiet e ?_
    exact congrArg (s.log ++ ·) (congrArg Option.toList mem)
  | @returns i task fails r m busy ran =>
    have moves := h.moves busy fails
    rw [ran] at moves
    refine moves.effect.same fun e mem => quiet e ?_
    exact congrArg (s.log ++ ·) (congrArg Option.toList mem)
  | others same => exact same

end Attributed

variable [DecidableEq ι]

theorem Step.attributed (h : s.Attributed c) (step : Step c s s') : s'.Attributed c := by
  cases step with
  | begins idle serves starts => exact h.begins idle serves starts
  | @goesOn i task fails w m busy ran =>
    have moves := h.moves busy fails
    rw [ran] at moves
    exact h.goesOn busy moves
  | @returns i task fails r m busy ran =>
    have moves := h.moves busy fails
    rw [ran] at moves
    exact h.returns busy moves
  | others same => exact ⟨h.apart, h.tasks, h.ended, h.known⟩

theorem Reachable.attributed (reached : Reachable c m s) : s.Attributed c := by
  induction reached with
  | initial => exact .initial c m
  | step before step ih => exact step.attributed ih

end SharedTable

end Interprocess
