import Interprocess.Proofs.Object.Ownership
import Interprocess.Proofs.Table.Sweep

/-!
# Reports of abandonment

Whoever takes a mutex afresh, that is while nobody holds it, is told whether it was abandoned since
it was last taken afresh. The mark in the record says at every point whether a report is due
(`Marks`): an abandonment sets it and frees the mutex, the next fresh acquisition reports it and
takes it away, and nothing else touches it. So a report is never lost and never made twice, however
often the mutex is abandoned meanwhile and whatever is refused in between.
-/

namespace Interprocess

/-! ## What a history says of reports -/

namespace Entry

def begins (e : Entry) : Bool :=
  match e.call.onMutex?, e.answer? with
  | some (.tryAcquire _), some (.acquisition .acquired) => true
  | some (.tryAcquire _), some (.acquisition .abandoned) => true
  | _, _ => false

theorem begins_of_refused {e : Entry} (refused : e.Refused) : e.begins = false := by
  unfold begins
  rcases refused with none | taken
  · rw [none]
    split <;> first | rfl | contradiction
  · rw [taken]
    split <;> first | rfl | contradiction

theorem abandons_of_refused {e : Entry} (refused : e.Refused) : e.abandons = false := by
  rcases refused with none | taken
  · rw [abandons, none, Option.any_none]
  · rw [abandons, taken]
    rfl

theorem abandons_of_acquisition {e : Entry} {a : Acquisition}
    (answered : e.answer? = some (.acquisition a)) : e.abandons = false := by
  rw [abandons, answered]
  rfl

theorem abandons_of_begins {e : Entry} (fresh : e.begins = true) : e.abandons = false := by
  unfold begins at fresh
  split at fresh
  · exact abandons_of_acquisition ‹_›
  · exact abandons_of_acquisition ‹_›
  · cases fresh

theorem abandons_onMutex {call : Call} {mc : MutexCall} (asks : call.onMutex? = some mc)
    (outcome : Outcome Answer) :
    (Entry.mk call outcome).abandons = (Entry.mk (.mutex mc) outcome).abandons := by
  cases call with
  | mutex call =>
    cases asks
    rfl
  | tryWait requester =>
    cases asks
    cases outcome with
    | value a => cases a <;> rfl
    | failed | blocked => rfl
  | _ => cases asks

theorem abandons_of_other {call : Call} (asks : call.onMutex? = none) (outcome : Outcome Answer) :
    (Entry.mk call outcome).abandons = false := by
  cases call with
  | mutex | tryWait => cases asks
  | _ =>
    cases outcome with
    | value a => cases a <;> rfl
    | failed | blocked => rfl

theorem begins_onMutex {call : Call} {mc : MutexCall} (asks : call.onMutex? = some mc)
    (outcome : Outcome Answer) :
    (Entry.mk call outcome).begins = (Entry.mk (.mutex mc) outcome).begins := by
  simp only [begins, asks]
  rfl

end Entry

/-- The mutex was abandoned, and nobody took it afresh since. -/
def ReportDue (h : List Entry) : Prop :=
  ∃ past a since, h = past ++ a :: since ∧ a.abandons = true ∧ ∀ e ∈ since, e.begins = false

theorem not_reportDue_nil : ¬ ReportDue [] := by
  rintro ⟨past, a, since, split, -⟩
  exact absurd split.symm (by simp)

/-- A report is due after one more entry if the entry abandons the mutex, or leaves it as it is when
a report was due before. -/
theorem reportDue_concat (h : List Entry) (e : Entry) :
    ReportDue (h ++ [e]) ↔ e.abandons = true ∨ (e.begins = false ∧ ReportDue h) := by
  constructor
  · rintro ⟨past, a, since, split, abandons, quiet⟩
    rcases concat_eq_append_cons split with ⟨-, rfl, -⟩ | ⟨older, rfl, rfl⟩
    · exact .inl abandons
    · refine .inr ⟨quiet e (by simp), past, a, older, rfl, abandons, fun x mem => ?_⟩
      exact quiet x (List.mem_append_left _ mem)
  · rintro (abandons | ⟨stays, past, a, since, rfl, abandons, quiet⟩)
    · exact ⟨h, e, [], rfl, abandons, List.forall_mem_nil _⟩
    · refine ⟨past, a, since ++ [e], by simp, abandons, fun x mem => ?_⟩
      rcases List.mem_append.mp mem with mem | mem
      · exact quiet x mem
      · obtain rfl := List.mem_singleton.mp mem
        exact stays

theorem reportDue_concat_of_quiet {h : List Entry} {e : Entry} (stays : e.begins = false)
    (abandons : e.abandons = false) : ReportDue (h ++ [e]) ↔ ReportDue h := by
  rw [reportDue_concat, stays, abandons]
  simp

/-! ## One call -/

/-- The mark of a mutex that somebody holds is gone. -/
def MutexState.MarkFrees (m : MutexState) : Prop := m.isAbandoned = true → m.count = 0

/-- A call sets the mark, takes it away or leaves it, as its entry says, and nobody holds a mutex
that is marked. -/
theorem MutexCall.step_marks (call : MutexCall) {m : MutexState} (frees : m.MarkFrees) :
    let e : Entry := ⟨.mutex call, .ofExcept (call.step m).1⟩
    ((call.step m).2.isAbandoned = true ↔
        e.abandons = true ∨ (e.begins = false ∧ m.isAbandoned = true)) ∧
      (call.step m).2.MarkFrees := by
  intro e
  have kept (quiet : e.begins = false) (lasts : e.abandons = false) :
      m.isAbandoned = true ↔ e.abandons = true ∨ (e.begins = false ∧ m.isAbandoned = true) := by
    rw [quiet, lasts]
    simp
  have unmarked {m' : MutexState} (bare : m'.isAbandoned = false) (fresh : e.begins = true)
      (lasts : e.abandons = false) :
      (m'.isAbandoned = true ↔ e.abandons = true ∨ (e.begins = false ∧ m.isAbandoned = true)) ∧
        m'.MarkFrees := by
    rw [MutexState.MarkFrees, bare, fresh, lasts]
    simp
  cases call with
  | tryAcquire r =>
    simp only [step, e] at kept unmarked ⊢
    split_ifs at kept unmarked ⊢ with nobody free marked other deep
    · exact ⟨kept rfl rfl, frees⟩
    · exact unmarked rfl rfl rfl
    · exact unmarked rfl rfl rfl
    · exact ⟨kept rfl rfl, frees⟩
    · exact ⟨kept rfl rfl, frees⟩
    · exact ⟨kept rfl rfl, fun marked => absurd (frees marked) free⟩
  | release r =>
    simp only [step, e] at kept ⊢
    split_ifs at kept ⊢ with refused last
    · exact ⟨kept rfl rfl, frees⟩
    · exact ⟨kept rfl rfl, fun _ => rfl⟩
    · exact ⟨kept rfl rfl, fun marked => absurd (frees marked) (not_or.mp refused).1⟩
  | markAbandoned => exact ⟨iff_of_true rfl (.inl rfl), fun _ => rfl⟩
  | abandonIfOwnedBy r =>
    simp only [step, e] at kept ⊢
    split_ifs at kept ⊢ with refused
    · exact ⟨kept rfl rfl, frees⟩
    · exact ⟨iff_of_true rfl (.inl rfl), fun _ => rfl⟩
  | state => exact ⟨kept rfl rfl, frees⟩

theorem MutexCall.acquire_begins (r : ThreadId) (m : MutexState) :
    (Entry.mk (.mutex (tryAcquire r)) (.ofExcept ((tryAcquire r).step m).1)).begins = true ↔
      m.count = 0 ∧ r ≠ .none := by
  simp only [step]
  split_ifs with nobody free marked other deep
  · exact iff_of_false Bool.false_ne_true fun fresh =>
      ThreadId.not_isNone_iff.mpr fresh.2 nobody
  · exact iff_of_true rfl ⟨free, ThreadId.not_isNone_iff.mp nobody⟩
  · exact iff_of_true rfl ⟨free, ThreadId.not_isNone_iff.mp nobody⟩
  all_goals exact iff_of_false Bool.false_ne_true fun fresh => free fresh.1

/-- Taken again by the holder, or not taken. -/
def Acquisition.Later (a : Acquisition) : Prop := a = .notAvailable ∨ ∃ d, a = .recursive d

theorem MutexCall.acquire_later {r : ThreadId} {m : MutexState} {a : Acquisition} (later : a.Later)
    (answer : ((tryAcquire r).step m).1 = .ok (.acquisition a)) : m.count ≠ 0 := by
  intro free
  simp only [step, if_pos free] at answer
  split_ifs at answer
  · cases answer
    rcases later with no | ⟨_, no⟩ <;> cases no
  · cases answer
    rcases later with no | ⟨_, no⟩ <;> cases no

theorem Call.acquires_of_acquisition {call : Call} {c : Contents} (kind : c.kind = .mutex)
    {a : Acquisition} (answer : (call.step c).1 = .ok (.acquisition a)) :
    ∃ r, call.onMutex? = some (.tryAcquire r) := by
  cases call with
  | mutex mc =>
    rw [Call.step_onMutex kind rfl] at answer
    cases mc with
    | tryAcquire r => exact ⟨r, rfl⟩
    | release | abandonIfOwnedBy =>
      simp only [MutexCall.step] at answer
      split_ifs at answer <;> cases answer
    | markAbandoned | state => cases answer
  | tryWait r => exact ⟨r, rfl⟩
  | setUp b =>
    simp only [step] at answer
    split at answer
    · cases answer
    · split at answer <;> cases answer
  | event | semaphore =>
    simp only [step, Contents.expect, kind] at answer
    cases answer
  | snapshot | retire => cases answer

theorem Call.not_touches_mutex {call : Call} (keeps : call ≠ .retire)
    (asks : call.onMutex? = none) : call.touches .mutex = false := by
  cases call with
  | mutex | tryWait => cases asks
  | retire => exact absurd rfl keeps
  | _ => rfl

/-! ## Runs -/

/-- The mark in the record of a mutex says whether a report is due. -/
structure Marks (h : List Entry) (c : Contents) : Prop where
  kind : c.kind = .mutex
  due : c.mutexState.isAbandoned = true ↔ ReportDue h
  frees : c.mutexState.MarkFrees

namespace Marks

variable {h : List Entry} {c : Contents}

theorem start {t : Turn} {owner : Option ThreadId} (made : t.call = .setUp (.mutex owner))
    (succeeded : (t.take .blank).1.outcome = .value .done) : Marks [] (t.take .blank).2 := by
  obtain ⟨-, state, first, left⟩ := Turn.take_of_created made succeeded
  rw [left]
  have unmarked : ∃ m, state = .mutex m ∧ m.isAbandoned = false := by
    simp only [Blueprint.firstState, Mutex.firstState] at first
    split at first
    · split at first <;> cases first
      exact ⟨_, rfl, rfl⟩
    · cases first
      exact ⟨_, rfl, rfl⟩
  obtain ⟨m, rfl, bare⟩ := unmarked
  have unset : ¬ m.isAbandoned = true := Bool.eq_false_iff.mp bare
  exact ⟨rfl, iff_of_false unset not_reportDue_nil, fun marked => absurd marked unset⟩

theorem quiet (inv : Marks h c) {e : Entry} (quiet : e.begins = false)
    (lasts : e.abandons = false) : Marks (h ++ [e]) c :=
  ⟨inv.kind, by rw [inv.due, reportDue_concat_of_quiet quiet lasts], inv.frees⟩

theorem step (inv : Marks h c) {call : Call} (keeps : call ≠ .retire) :
    Marks (h ++ [⟨call, .ofExcept (call.step c).1⟩]) (call.step c).2 := by
  cases asks : call.onMutex? with
  | some mc =>
    obtain ⟨due, frees⟩ := mc.step_marks inv.frees
    rw [Call.step_onMutex inv.kind asks]
    refine ⟨inv.kind, ?_, frees⟩
    rw [reportDue_concat, Entry.abandons_onMutex asks, Entry.begins_onMutex asks, ← inv.due]
    exact due
  | none =>
    have same : (call.step c).2 = c :=
      Call.step_of_not_touches inv.kind (by decide) (Call.not_touches_mutex keeps asks)
    rw [same]
    refine inv.quiet ?_ (Entry.abandons_of_other asks _)
    rw [Entry.begins, asks]

theorem turn (inv : Marks h c) {t : Turn} (keeps : t.call ≠ .retire) :
    Marks (h ++ [(t.take c).1]) (t.take c).2 := by
  rcases t.take_cases c with ran | ⟨silent, same⟩
  · rw [ran]
    exact inv.step keeps
  · rw [same]
    exact inv.quiet (Entry.begins_of_refused (.inl silent))
      (Entry.abandons_of_refused (.inl silent))

theorem run (inv : Marks [] c) {turns : List Turn} (keep : ∀ t ∈ turns, t.call ≠ .retire) :
    Marks (runTurns c turns).1 (runTurns c turns).2 :=
  runTurns_keeps inv fun t mem _ _ before => before.turn (keep t mem)

end Marks

/-! ## What a call answers -/

/-- What a call on a mutex answers and leaves, by the report that is due or not. -/
structure ReportsBy (h : List Entry) (c : Contents) (t : Turn) : Prop where
  /-- The mutex is taken afresh by somebody who gets the guard and finds it free. -/
  fresh : (t.take c).1.begins = true ↔ t.Enters ∧ c.mutexState.count = 0 ∧
    ∃ r, r ≠ .none ∧ t.call.onMutex? = some (.tryAcquire r)
  /-- Whoever takes it afresh is told of the abandonments since it was last taken afresh. -/
  told : t.Enters → ∀ r, r ≠ .none → t.call.onMutex? = some (.tryAcquire r) →
    c.mutexState.count = 0 →
      (ReportDue h → (t.take c).1.outcome = .value (.acquisition .abandoned)) ∧
        (¬ ReportDue h → (t.take c).1.outcome = .value (.acquisition .acquired))
  /-- Whoever comes first after an abandonment takes the mutex. -/
  first : t.Enters → ∀ r, r ≠ .none → t.call.onMutex? = some (.tryAcquire r) →
    ∀ past a since, h = past ++ a :: since → a.abandons = true →
      (∀ e ∈ since, e.begins = false) →
        (t.take c).1.outcome = .value (.acquisition .abandoned)
  /-- A report is made once. -/
  once : (t.take c).1.begins = true → ¬ ReportDue (h ++ [(t.take c).1])
  /-- What is refused neither makes the report nor loses it. -/
  refused : (t.take c).1.Refused →
    (t.take c).2 = c ∧ (ReportDue (h ++ [(t.take c).1]) ↔ ReportDue h)
  /-- Nothing but a fresh acquisition and an abandonment has to do with it. -/
  stays : (t.take c).1.begins = false → (t.take c).1.abandons = false →
    (ReportDue (h ++ [(t.take c).1]) ↔ ReportDue h)
  /-- While the mutex is held no report is due, and who takes it again or does not get it takes
  none along. -/
  held : ∀ a : Acquisition, a.Later → (t.take c).1.outcome = .value (.acquisition a) →
    ¬ ReportDue h ∧ ¬ ReportDue (h ++ [(t.take c).1])

namespace Marks

variable {h : List Entry} {c : Contents}

theorem free_of_due (inv : Marks h c) (due : ReportDue h) : c.mutexState.count = 0 :=
  inv.frees (inv.due.mpr due)

theorem fresh (inv : Marks h c) (t : Turn) :
    (t.take c).1.begins = true ↔ t.Enters ∧ c.mutexState.count = 0 ∧
      ∃ r, r ≠ .none ∧ t.call.onMutex? = some (.tryAcquire r) := by
  by_cases enters : t.Enters
  · rw [Turn.take_of_enters enters]
    cases asks : t.call.onMutex? with
    | none =>
      rw [Entry.begins, asks]
      simp
    | some mc =>
      rw [Call.step_onMutex inv.kind asks, Entry.begins_onMutex asks]
      cases mc with
      | tryAcquire r =>
        rw [MutexCall.acquire_begins]
        constructor
        · rintro ⟨free, named⟩
          exact ⟨enters, free, r, named, rfl⟩
        · rintro ⟨-, free, _, named, ⟨rfl⟩⟩
          exact ⟨free, named⟩
      | _ => simp [Entry.begins, Call.onMutex?]
  · have silent := (Turn.take_of_not_enters enters c).1
    rw [Entry.begins_of_refused (.inl silent)]
    exact iff_of_false nofun fun fresh => enters fresh.1

theorem told (inv : Marks h c) {t : Turn} (enters : t.Enters) {r : ThreadId} (named : r ≠ .none)
    (asks : t.call.onMutex? = some (.tryAcquire r)) (free : c.mutexState.count = 0) :
    (ReportDue h → (t.take c).1.outcome = .value (.acquisition .abandoned)) ∧
      (¬ ReportDue h → (t.take c).1.outcome = .value (.acquisition .acquired)) := by
  have some := ThreadId.not_isNone_iff.mpr named
  rw [Turn.outcome_onMutex enters inv.kind asks, MutexCall.step, if_neg some, if_pos free,
    ← inv.due]
  constructor
  · intro marked
    rw [if_pos marked]
    rfl
  · intro unmarked
    rw [if_neg unmarked]
    rfl

theorem held (inv : Marks h c) {t : Turn} {a : Acquisition} (later : a.Later)
    (answered : (t.take c).1.outcome = .value (.acquisition a)) : c.mutexState.count ≠ 0 := by
  rcases t.take_cases c with ran | ⟨silent, -⟩
  · rw [ran] at answered
    have answer : (t.call.step c).1 = .ok (.acquisition a) := Outcome.ofExcept_eq_value answered
    obtain ⟨r, asks⟩ := Call.acquires_of_acquisition inv.kind answer
    rw [Call.step_onMutex inv.kind asks] at answer
    exact MutexCall.acquire_later later answer
  · rw [Entry.answer?, answered] at silent
    cases silent

theorem reportsBy (inv : Marks h c) (t : Turn) : ReportsBy h c t where
  fresh := inv.fresh t
  told enters r named asks free := inv.told enters named asks free
  first enters r named asks past a since split abandons quiet := by
    have due : ReportDue h := ⟨past, a, since, split, abandons, quiet⟩
    exact (inv.told enters named asks (inv.free_of_due due)).1 due
  once fresh := by
    rw [reportDue_concat, fresh, Entry.abandons_of_begins fresh]
    simp
  refused refused :=
    ⟨Turn.take_of_refused refused, reportDue_concat_of_quiet (Entry.begins_of_refused refused)
      (Entry.abandons_of_refused refused)⟩
  stays := reportDue_concat_of_quiet
  held a later answered := by
    have held := inv.held later answered
    have none : ¬ ReportDue h := fun due => held (inv.free_of_due due)
    refine ⟨none, ?_⟩
    rw [reportDue_concat, Entry.abandons_of_acquisition (congrArg Outcome.answer? answered)]
    rintro (no | ⟨-, due⟩)
    · cases no
    · exact none due

end Marks

/-- From the creation of a mutex until it is retired, whoever takes it afresh is told that it was
abandoned just if it was since it was last taken afresh, or since its creation. Nothing else makes
that report, loses it, or makes it twice, and the first who come after an abandonment get the mutex.
A sweep that abandons the mutex is a call like any other. -/
theorem abandonment_reported_once {owner : Option ThreadId} {creation : Turn}
    (made : creation.call = .setUp (.mutex owner))
    (succeeded : (creation.take .blank).1.outcome = .value .done) {turns : List Turn}
    (keep : ∀ t ∈ turns, t.call ≠ .retire) {h : List Entry} {c : Contents}
    (ran : runTurns (creation.take .blank).2 turns = (h, c)) :
    (c.mutexState.isAbandoned = true ↔ ReportDue h) ∧
      (∀ t : Turn, ReportsBy h c t) ∧
      ∀ (table : Table) (capacity : UInt32), table.layout = .ofCapacity capacity →
        ∀ (gone : ThreadId) (slot : UInt32) (m : Words),
          (m.record (table.layout.recordIndex slot)).contents = c →
            table.SweepTakes gone slot m
              ((table.sweepTurn gone (m.record (table.layout.recordIndex slot)).guard).take c) := by
  have inv : Marks h c := by
    simpa only [ran] using (Marks.start made succeeded).run keep
  refine ⟨inv.due, inv.reportsBy, ?_⟩
  rintro table capacity laidOut gone slot m rfl
  exact Table.sweep_takes laidOut gone slot m

/-- A mutex is abandoned twice, and asked for in vain by nobody in particular and by somebody who
finds the guard held; then its former holder takes it back and is told. -/
theorem former_holder_is_told :
    ∃ (creation : Turn) (turns : List Turn) (h : List Entry) (c : Contents),
      (creation.call = .setUp (.mutex (some ⟨5⟩)) ∧
        (creation.take .blank).1.outcome = .value .done ∧
        (∀ t ∈ turns, t.call ≠ .retire) ∧ runTurns (creation.take .blank).2 turns = (h, c)) ∧
      h.map Entry.answer? =
        [some (.acquisition .notAvailable), some (.flag false), some (.flag true), some .done, none,
          none, none] ∧
      ReportDue h ∧
      ((Turn.mk 0 (Guard.hasty 7) (.tryWait ⟨5⟩)).take c).1.outcome =
        .value (.acquisition .abandoned) := by
  have made : (Turn.mk 0 (Guard.hasty 7) (.setUp (.mutex (some ⟨5⟩)))).call =
      .setUp (.mutex (some ⟨5⟩)) := rfl
  have succeeded : ((Turn.mk 0 (Guard.hasty 7) (.setUp (.mutex (some ⟨5⟩)))).take
      .blank).1.outcome = .value .done := rfl
  have ran : runTurns ((Turn.mk 0 (Guard.hasty 7) (.setUp (.mutex (some ⟨5⟩)))).take .blank).2
      [⟨0, Guard.hasty 8, .tryWait ⟨6⟩⟩, ⟨0, Guard.hasty 8, .mutex (.abandonIfOwnedBy ⟨6⟩)⟩,
        ⟨0, Guard.hasty 8, .mutex (.abandonIfOwnedBy ⟨5⟩)⟩,
        ⟨0, Guard.hasty 8, .mutex .markAbandoned⟩, ⟨0, Guard.hasty 8, .tryWait .none⟩,
        ⟨9, Guard.hasty 8, .tryWait ⟨6⟩⟩, ⟨0, Guard.hasty 7, .mutex (.release ⟨5⟩)⟩] =
      ([⟨.tryWait ⟨6⟩, .value (.acquisition .notAvailable)⟩,
        ⟨.mutex (.abandonIfOwnedBy ⟨6⟩), .value (.flag false)⟩,
        ⟨.mutex (.abandonIfOwnedBy ⟨5⟩), .value (.flag true)⟩,
        ⟨.mutex .markAbandoned, .value .done⟩, ⟨.tryWait .none, .failed Mutex.sentinelError⟩,
        ⟨.tryWait ⟨6⟩, .failed (.guardTimeout 9 ⟨0⟩)⟩,
        ⟨.mutex (.release ⟨5⟩), .failed (.notOwner .none ⟨5⟩)⟩], ⟨1, 0, 0, 1⟩) := rfl
  obtain ⟨marked, reports, -⟩ := abandonment_reported_once made succeeded (by simp) ran
  have due := marked.mp rfl
  have enters := Turn.enters_of_free (t := ⟨0, Guard.hasty 7, .tryWait ⟨5⟩⟩) rfl rfl
  have told := (reports ⟨0, Guard.hasty 7, .tryWait ⟨5⟩⟩).told enters ⟨5⟩ (by decide) rfl rfl
  exact ⟨_, _, _, _, ⟨made, succeeded, by simp, ran⟩, rfl, due, told.1 due⟩

end Interprocess
