import Interprocess.Proofs.Table.Errands

/-!
# Every step is a stride

The steps that run are the strides that the rules tell of (`Errand.strides`), wherever a call stands
and whatever the others have done to the memory meanwhile.
-/

namespace Interprocess

/-! ## One step -/

namespace Table.Serves

variable {c : UInt32} {t : Table} {m : Words}

theorem onRecord_yields {α : Type} {op : Op Record α} {f : α → Answer} (serves : t.Serves c)
    {slot : UInt32} (inside : slot < c) (call : Call) (same : call.op t.policy = f <$> op)
    (m : Words) :
    ∃ contents, call.Yields f (slotViews c m slot).contents ((t.onRecord slot op).result m).1
        contents ∧
      slotViews c ((t.onRecord slot op).result m).2 =
        Function.update (slotViews c m) slot ⟨(slotViews c m slot).taken, contents⟩ := by
  have yields := call.yields same serves.canClaim
    (m.record ((Layout.ofCapacity c).recordIndex slot))
  have held := congrArg SlotView.contents (slotViews_of_lt (m := m) inside)
  rw [serves.onRecord_eq, held]
  exact ⟨_, yields, slotViews_setRecord inside _⟩

theorem seeks_seen (serves : t.Serves c) (object : Option Blueprint) (v : UInt32 → SlotView)
    (index : Nat) (current : UInt64) {phase : AllocPhase} (before : ∀ slot, phase ≠ .count slot) :
    (Errand.handsOut object phase).Strides c v
      (.next (.handsOut object (t.seen index current))) v := by
  rcases serves.seen_cases index current with seen | ⟨bit, seen, fits⟩
  · rw [seen]
    exact .seeks before nofun trivial
  · rw [seen]
    exact .seeks before nofun fits

theorem strides_alloc (serves : t.Serves c) (object : Option Blueprint) {phase : AllocPhase}
    (fits : (Errand.handsOut object phase).Fits c) (fails : Bool) (m : Words) :
    (Errand.handsOut object phase).Strides c (slotViews c m)
      ((Errand.handsOut object phase).step t fails m).1
      (slotViews c ((Errand.handsOut object phase).step t fails m).2) := by
  cases phase with
  | look index =>
    by_cases inside : index < t.layout.bitmapWords
    · simp only [Errand.step, allocStep_look inside fails, Op.Progress.among, Op.Progress.andThen]
      exact serves.seeks_seen object _ index _ (by rintro _ ⟨⟩)
    · simp only [Errand.step, allocStep_look_past inside fails, Op.Progress.among,
        Op.Progress.andThen]
      exact .full (by rintro _ ⟨⟩)
  | claim index current bit =>
    by_cases exchanged : t.bitmapWord m index = current ∧ fails = false
    · obtain ⟨rfl, rfl⟩ := exchanged
      obtain ⟨place, clear, inside⟩ := fits.1
      have number : (slotAt index bit).toNat = index * 64 + bit :=
        UInt32.toNat_ofNat_of_lt' (Nat.lt_trans inside c.toNat_lt)
      have small : slotAt index bit < c := UInt32.lt_iff_toNat_lt.mpr (number ▸ inside)
      have word : wordOf (slotAt index bit) = index := by
        rw [wordOf, number]
        omega
      have at' : bitOf (slotAt index bit) = bit := by
        rw [bitOf, number]
        omega
      have marked := slotViews_setBit (m := m) small
      rw [wordFor, word, at', ← serves.layout, ← bitmapWord] at marked
      simp only [Errand.step, allocStep_claim, Op.Progress.among, Op.Progress.andThen, marked]
      refine .claims small ?_
      rw [slotViews_of_lt small]
      show Bitmap.isSet (wordFor c m (slotAt index bit)) (bitOf (slotAt index bit)) = false
      rw [wordFor, word, at', ← serves.layout]
      exact clear
    · have other : t.bitmapWord m index ≠ current ∨ fails = true := by
        rwa [not_and_or, Bool.not_eq_false] at exchanged
      simp only [Errand.step, allocStep_claim_of_other other bit, Op.Progress.among,
        Op.Progress.andThen]
      exact serves.seeks_seen object _ index _ (by rintro _ ⟨⟩)
  | count slot =>
    simp only [Errand.step, allocStep_count, Op.Progress.among, Op.Progress.andThen,
      slotViews_set_allocated]
    exact .counts

theorem strides_sets (serves : t.Serves c) (b : Blueprint) {slot : UInt32} (inside : slot < c)
    (own fails : Bool) (m : Words) :
    (Errand.sets b slot own).Strides c (slotViews c m) ((Errand.sets b slot own).step t fails m).1
      (slotViews c ((Errand.sets b slot own).step t fails m).2) := by
  obtain ⟨contents, yields, left⟩ := serves.onRecord_yields inside (.setUp b) rfl m
  simp only [Errand.step, left]
  generalize ((t.onRecord slot (b.setUp t.policy)).result m).1 = outcome at yields
  generalize slotViews c m = v at yields
  cases yields with
  | ran answers =>
    obtain ⟨blank, state, first, made⟩ := Call.step_setUp_of_ok answers
    rw [made]
    exact .makes blank first
  | failed | timedOut =>
    rw [Function.update_eq_self]
    exact .fails
  | parked =>
    rw [Function.update_eq_self]
    exact .waits

theorem holds_eq_taken (serves : t.Serves c) (slot : UInt32) (m : Words) :
    t.holds slot m = (slotViews c m slot).taken := by
  rw [Bool.eq_iff_iff, serves.holds_iff]
  refine ⟨fun ⟨inside, set⟩ => ?_, fun taken => ?_⟩
  · rw [slotViews_of_lt inside, set]
  · have inside := lt_of_taken taken
    rw [slotViews_of_lt inside] at taken
    exact ⟨inside, taken⟩

theorem strides_clear (serves : t.Serves c) {slot : UInt32} (inside : slot < c)
    (failure : Option SyncError) (kind : Kind) (fails : Bool) (m : Words) :
    (Errand.takesBack slot failure (.clear kind)).Strides c (slotViews c m)
      ((Errand.takesBack slot failure (.clear kind)).step t fails m).1
      (slotViews c ((Errand.takesBack slot failure (.clear kind)).step t fails m).2) := by
  have marked : (slotViews c m slot).taken = Bitmap.isSet (wordFor c m slot) (bitOf slot) :=
    congrArg SlotView.taken (slotViews_of_lt inside)
  have cleared := freeStep_clear_result t slot kind m
  rw [bitmapWord, serves.layout, ← wordFor] at cleared
  by_cases set : Bitmap.isSet (wordFor c m slot) (bitOf slot) = true
  · rw [if_pos set] at cleared
    simp only [Errand.step, cleared, Op.Progress.among, Op.Progress.map, slotViews_clearBit inside]
    exact .clears (marked.trans set)
  · have clear := Bool.eq_false_of_not_eq_true set
    rw [if_neg set] at cleared
    simp only [Errand.step, cleared, Op.Progress.among, Op.Progress.map, slotViews_clearBit inside]
    have same : (⟨false, (slotViews c m slot).contents⟩ : SlotView) = slotViews c m slot := by
      rw [← marked.trans clear]
    rw [same, Function.update_eq_self]
    exact .misses (.inr ⟨kind, rfl⟩) (marked.trans clear)

theorem strides_retire (serves : t.Serves c) {slot : UInt32} (inside : slot < c)
    (failure : Option SyncError) (fails : Bool) (m : Words) :
    (Errand.takesBack slot failure .retire).Strides c (slotViews c m)
      ((Errand.takesBack slot failure .retire).step t fails m).1
      (slotViews c ((Errand.takesBack slot failure .retire).step t fails m).2) := by
  obtain ⟨contents, yields, left⟩ := serves.onRecord_yields inside .retire rfl m
  rcases ran : (t.onRecord slot (Record.retire t.policy)).result m with ⟨outcome, m'⟩
  rw [ran] at yields left
  generalize slotViews c m = v at yields left
  cases yields with
  | @ran kind _ =>
    have step : (t.freeStep slot .retire).result m = (.value (.next (.clear kind)), m') :=
      t.freeStep_retire_of ran
    simp only [Errand.step, step, Op.Progress.among, Op.Progress.map, left]
    exact .retires
  | failed fails => cases fails
  | timedOut holder waited =>
    have step : (t.freeStep slot .retire).result m =
        (.failed (.guardTimeout holder waited), m') := t.freeStep_retire_of ran
    simp only [Errand.step, step, Op.Progress.among, Op.Progress.map, left,
      Function.update_eq_self]
    exact .refused
  | parked =>
    have step : (t.freeStep slot .retire).result m = (.blocked, m') :=
      t.freeStep_retire_of ran
    simp only [Errand.step, step, Op.Progress.among, Op.Progress.map, left,
      Function.update_eq_self]
    exact .waits

theorem strides_free (serves : t.Serves c) {slot : UInt32} (failure : Option SyncError)
    {phase : FreePhase} (fits : (Errand.takesBack slot failure phase).Fits c) (fails : Bool)
    (m : Words) :
    (Errand.takesBack slot failure phase).Strides c (slotViews c m)
      ((Errand.takesBack slot failure phase).step t fails m).1
      (slotViews c ((Errand.takesBack slot failure phase).step t fails m).2) := by
  cases phase with
  | check =>
    have taken := serves.holds_eq_taken slot m
    cases held : t.holds slot m with
    | false =>
      simp only [Errand.step, freeStep_check_of_not_holds held, Op.Progress.among, Op.Progress.map]
      exact .misses (.inl rfl) (taken.symm.trans held)
    | true =>
      simp only [Errand.step, freeStep_check_of_holds held, Op.Progress.among, Op.Progress.map]
      exact .finds (lt_of_taken (taken.symm.trans held)) (taken.symm.trans held)
  | retire => exact serves.strides_retire fits failure fails m
  | clear kind => exact serves.strides_clear fits failure kind fails m
  | count kind =>
    simp only [Errand.step, freeStep_count, Op.Progress.among, Op.Progress.map,
      slotViews_set_allocated]
    exact .freed

theorem mem_slotsOfWord (serves : t.Serves c) (m : Words) (index : Nat) (slot : UInt32) :
    slot ∈ t.slotsOfWord index (t.bitmapWord m index) ↔
      wordOf slot = index ∧ (slotViews c m slot).taken = true := by
  rw [slotsOfWord_eq, List.mem_map]
  constructor
  · rintro ⟨n, mem, rfl⟩
    obtain ⟨mem, holds⟩ := List.mem_filter.mp mem
    obtain ⟨k, small, rfl⟩ := List.mem_map.mp mem
    rw [Bool.and_eq_true, decide_eq_true_iff, serves.capacity] at holds
    obtain ⟨inside, set⟩ := holds
    have number := UInt32.toNat_ofNat_of_lt' (Nat.lt_trans inside c.toNat_lt)
    have low := List.mem_range.mp small
    have within : UInt32.ofNat (index * 64 + k) < c := by rwa [UInt32.lt_iff_toNat_lt, number]
    refine ⟨?_, ?_⟩
    · rw [wordOf, number]
      omega
    · rw [slotViews_of_lt within, number, ← serves.marked_eq_slotBit]
      exact set
  · rintro ⟨rfl, taken⟩
    have inside := lt_of_taken taken
    rw [slotViews_of_lt inside, ← serves.marked_eq_slotBit] at taken
    refine ⟨slot.toNat, List.mem_filter.mpr ⟨List.mem_map.mpr ⟨slot.toNat % 64, ?_, ?_⟩, ?_⟩, ?_⟩
    · exact List.mem_range.mpr (Nat.mod_lt _ (by decide))
    · rw [wordOf]
      omega
    · rw [Bool.and_eq_true, decide_eq_true_iff, serves.capacity]
      exact ⟨UInt32.lt_iff_toNat_lt.mp inside, taken⟩
    · exact UInt32.ofNat_toNat

theorem sees_kind (serves : t.Serves c) {slot : UInt32} (inside : slot < c) (m : Words) :
    ∃ m', (t.kindAt slot).result m = (.value (slotViews c m slot).contents.kind, m') ∧
      slotViews c m' = slotViews c m := by
  refine ⟨_, ?_, slotViews_congr (get_kindAt t slot m)⟩
  rw [slotViews_of_lt inside, ← serves.layout]
  rfl

theorem strides_look (serves : t.Serves c) (owner : ThreadId) {slot : UInt32}
    (inside : slot < c) (rest : List UInt32) (tally : SweepTally) (fails : Bool) (m : Words)
    {phase going : SweepPhase}
    (stands : phase = .look (slot :: rest) tally ∧ going = .opening slot rest tally ∨
      phase = .opening slot rest tally ∧ going = .abandon slot rest tally) :
    (Errand.sweeps owner phase).Strides c (slotViews c m)
      ((Errand.sweeps owner phase).step t fails m).1
      (slotViews c ((Errand.sweeps owner phase).step t fails m).2) := by
  obtain ⟨m', seen, same⟩ := serves.sees_kind inside m
  have step : (t.sweepStep owner phase).result m =
      (.value (.next (if (slotViews c m slot).contents.kind = .mutex then going
        else .look rest tally)), m') := by
    rcases stands with ⟨rfl, rfl⟩ | ⟨rfl, rfl⟩
    · rw [sweepStep_look_eq, Op.result_bind_of_value seen]
      split <;> rfl
    · rw [sweepStep_opening_eq, Op.result_bind_of_value seen]
      split <;> rfl
  simp only [Errand.step, step, Op.Progress.among, same]
  refine .sweeps ?_
  split
  · rcases stands with ⟨rfl, rfl⟩ | ⟨rfl, rfl⟩
    · exact .sees
    · exact .opens
  · exact .passes (stands.imp And.left And.left) ‹_›

theorem sweepStep_of_visit {slot : UInt32} {owner : ThreadId} {rest : List UInt32}
    {tally tally' : SweepTally} {visit : Except SyncError Bool} {m m' : Words}
    (visited : ((t.onRecord slot (Mutex.abandonIfOwnedBy t.policy owner)).attempt).result m =
      (.value visit, m'))
    (recorded : (Accesses.recordVisit owner slot tally visit).run m' = (.value tally', m')) :
    (t.sweepStep owner (.abandon slot rest tally)).result m =
      (.value (.next (.look rest tally')), m') := by
  rw [sweepStep_abandon_eq, Op.result_bind_of_value visited]
  exact Op.result_bind_of_value recorded _

theorem strides_abandon (serves : t.Serves c) (owner : ThreadId) {slot : UInt32}
    (inside : slot < c) (rest : List UInt32) (tally : SweepTally) (fails : Bool) (m : Words) :
    (Errand.sweeps owner (.abandon slot rest tally)).Strides c (slotViews c m)
      ((Errand.sweeps owner (.abandon slot rest tally)).step t fails m).1
      (slotViews c ((Errand.sweeps owner (.abandon slot rest tally)).step t fails m).2) := by
  obtain ⟨contents, yields, left⟩ :=
    serves.onRecord_yields inside (.mutex (.abandonIfOwnedBy owner)) rfl m
  rcases ran : (t.onRecord slot (Mutex.abandonIfOwnedBy t.policy owner)).result m with
    ⟨outcome, m'⟩
  rw [ran] at yields left
  generalize slotViews c m = v at yields left
  cases yields with
  | @ran flag answers =>
    have visited := Op.result_attempt_of_value ran
    by_cases held : (v slot).contents.HeldBy owner
    · rw [Call.step_of_heldBy held] at answers left
      cases answers
      simp only [Errand.step, sweepStep_of_visit visited rfl, Op.Progress.among, left]
      exact .sweeps (.abandons held)
    · rcases Call.step_of_not_heldBy held with same | same
      · rw [same] at answers left
        cases answers
        rw [Function.update_eq_self] at left
        simp only [Errand.step, sweepStep_of_visit visited rfl, Op.Progress.among, left]
        exact .sweeps (.spares held)
      · rw [same] at answers
        cases answers
  | failed fails =>
    have visited := Op.result_attempt_of_failed ran
    rw [Function.update_eq_self] at left
    by_cases held : (v slot).contents.HeldBy owner
    · rw [Call.step_of_heldBy held] at fails
      cases fails
    · rcases Call.step_of_not_heldBy held with same | same
      · rw [same] at fails
        cases fails
      · rw [same] at fails
        cases fails
        simp only [Errand.step, sweepStep_of_visit visited rfl, Op.Progress.among, left]
        exact .sweeps (.spares held)
  | timedOut holder waited =>
    have visited := Op.result_attempt_of_failed ran
    rw [Function.update_eq_self] at left
    simp only [Errand.step, sweepStep_of_visit visited rfl, Op.Progress.among, left]
    exact .sweeps .stalls
  | parked =>
    have step : (t.sweepStep owner (.abandon slot rest tally)).result m = (.blocked, m') := by
      rw [sweepStep_abandon_eq]
      exact Op.result_bind_of_blocked (Op.result_attempt_of_blocked ran) _
    rw [Function.update_eq_self] at left
    simp only [Errand.step, step, Op.Progress.among, left]
    exact .sweeps .waits

theorem sweepStep_report (owner : ThreadId) (tally : SweepTally) (m : Words) :
    (t.sweepStep owner (.look [] tally)).result m =
      ((Outcome.ofExcept tally.answer).map .answer, m) := by
  rw [sweepStep_look_nil_eq, Op.result_map, report_result]

theorem strides_sweep (serves : t.Serves c) (owner : ThreadId) {phase : SweepPhase}
    (fits : (Errand.sweeps owner phase).Fits c) (fails : Bool) (m : Words) :
    (Errand.sweeps owner phase).Strides c (slotViews c m)
      ((Errand.sweeps owner phase).step t fails m).1
      (slotViews c ((Errand.sweeps owner phase).step t fails m).2) := by
  cases phase with
  | collect index slots =>
    by_cases inside : index < t.layout.bitmapWords
    · simp only [Errand.step, sweepStep_collect inside, Op.Progress.among]
      refine .sweeps (.collects (fun s found => ?_) fun s word taken => ?_)
      · exact lt_of_taken ((serves.mem_slotsOfWord m index s).mp found).2
      · exact (serves.mem_slotsOfWord m index s).mpr ⟨word, taken⟩
    · simp only [Errand.step, sweepStep_collect_past inside, Op.Progress.among]
      refine .sweeps (.collected fun s small => ?_)
      have word := Layout.wordOf_lt small
      rw [serves.layout] at inside
      exact Nat.lt_of_lt_of_le word (Nat.le_of_not_lt inside)
  | look slots tally =>
    cases slots with
    | nil =>
      have same : Op.Progress.among (.look [] tally) ((Outcome.ofExcept tally.answer).map
          (Op.Progress.answer (φ := SweepPhase))) = .answer tally.answer := by
        cases tally.answer <;> rfl
      simp only [Errand.step, sweepStep_report, same]
      exact .sweeps .reports
    | cons slot rest =>
      exact serves.strides_look owner (fits slot List.mem_cons_self) rest tally fails m
        (.inl ⟨rfl, rfl⟩)
  | opening slot rest tally =>
    exact serves.strides_look owner (fits slot List.mem_cons_self) rest tally fails m
      (.inr ⟨rfl, rfl⟩)
  | abandon slot rest tally =>
    exact serves.strides_abandon owner (fits slot List.mem_cons_self) rest tally fails m

end Table.Serves

theorem Errand.strides {c : UInt32} {t : Table} (serves : t.Serves c) {w : Errand}
    (fits : w.Fits c) (fails : Bool) (m : Words) :
    w.Strides c (slotViews c m) (w.step t fails m).1 (slotViews c (w.step t fails m).2) := by
  cases w with
  | handsOut object phase => exact serves.strides_alloc object fits fails m
  | sets b slot own => exact serves.strides_sets b fits own fails m
  | takesBack slot failure phase => exact serves.strides_free failure fits fails m
  | sweeps owner phase => exact serves.strides_sweep owner fits fails m

end Interprocess
