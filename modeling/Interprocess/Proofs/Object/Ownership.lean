import Interprocess.Proofs.Object.Tenure

/-!
# Ownership of a mutex

The words of a mutex always show the tenure that its history tells of: who holds it and how deep.
One call moves the words as its entry moves the tenure (`MutexCall.step_shows`), and so does a run.
What an acquisition or a release answers is then a matter of the history too: nobody takes a mutex
that another holds, and nobody gives back what is not theirs.
-/

namespace Interprocess

/-! ## Words that show a tenure -/

/-- The words of a mutex show who holds it and how deep, and nothing that cannot be. -/
structure MutexState.Shows (m : MutexState) (held : Option Tenure) : Prop where
  lasting : ∀ t, held = some t → t.given < t.taken
  owner : m.owner = (held.map Tenure.holder).getD .none
  count : m.count.toNat = (held.map Tenure.depth).getD 0
  owned : m.count ≠ 0 ↔ m.owner ≠ .none
  ceiling : m.count ≤ Mutex.maxRecursion
  freed : m.abandoned ≠ 0 → m.count = 0

namespace MutexState

theorem shows_free (abandoned : UInt32) : (MutexState.mk .none 0 abandoned).Shows none :=
  ⟨nofun, rfl, rfl, by simp, show (0 : UInt32) ≤ Mutex.maxRecursion by decide, fun _ => rfl⟩

theorem shows_held {owner : ThreadId} {count : UInt32} {taken given : Nat} (named : owner ≠ .none)
    (lasting : given < taken) (depth : count.toNat = taken - given)
    (ceiling : count ≤ Mutex.maxRecursion) :
    (MutexState.mk owner count 0).Shows (some ⟨owner, taken, given⟩) := by
  have positive : count ≠ 0 := by
    rintro rfl
    have zero : (0 : UInt32).toNat = 0 := rfl
    omega
  refine ⟨?_, rfl, depth, iff_of_true positive named, ceiling, fun marked => absurd rfl marked⟩
  rintro _ ⟨rfl⟩
  exact lasting

theorem shows_heldBy {r : ThreadId} (named : r ≠ .none) : (heldBy r).Shows (some ⟨r, 1, 0⟩) :=
  shows_held named Nat.one_pos rfl (by decide)

variable {m : MutexState} {held : Option Tenure}

theorem Shows.eq_none (shows : m.Shows held) (free : m.count = 0) : held = none := by
  cases held with
  | none => rfl
  | some t =>
    have depth : m.count.toNat = t.taken - t.given := shows.count
    have lasting := shows.lasting t rfl
    have zero : (0 : UInt32).toNat = 0 := rfl
    rw [free] at depth
    omega

theorem Shows.eq_some (shows : m.Shows held) (taken : m.count ≠ 0) :
    ∃ t, held = some t ∧ t.holder = m.owner ∧ t.holder ≠ .none ∧ m.abandoned = 0 := by
  cases held with
  | none => exact absurd (UInt32.toNat.inj shows.count) taken
  | some t =>
    have owner : m.owner = t.holder := shows.owner
    refine ⟨t, rfl, owner.symm, owner ▸ shows.owned.mp taken, ?_⟩
    by_contra marked
    exact taken (shows.freed marked)

theorem Shows.quiet (shows : m.Shows held) {e : Entry} (takes : e.taker? = none)
    (gives : e.giver? = none) (abandons : e.abandons = false) : m.Shows (e.tenure held) := by
  rw [Entry.tenure_of_quiet takes gives abandons]
  exact shows

end MutexState

/-! ## One call -/

theorem ThreadId.not_isNone_iff {r : ThreadId} : ¬ r.isNone = true ↔ r ≠ .none := by
  obtain ⟨raw⟩ := r
  simp [isNone, none]

theorem Mutex.toNat_next_level {n : UInt32} (room : n.toNat < Mutex.maxRecursion.toNat) :
    (n + 1).toNat = n.toNat + 1 :=
  toNat_add_one_of_lt (UInt32.lt_iff_toNat_lt.mpr room)

theorem MutexCall.acquire_shows (r : ThreadId) {m : MutexState} {held : Option Tenure}
    (shows : m.Shows held) :
    ((tryAcquire r).step m).2.Shows
      ((Entry.mk (.mutex (tryAcquire r)) (.ofExcept ((tryAcquire r).step m).1)).tenure held) := by
  simp only [step]
  split_ifs with nobody free marked other deep
  · exact shows.quiet rfl rfl rfl
  -- the mark of an abandonment changes the answer of the first acquisition, not what it leaves
  · obtain rfl := shows.eq_none free
    have named : r ≠ .none := ThreadId.not_isNone_iff.mp nobody
    exact MutexState.shows_heldBy named
  · obtain rfl := shows.eq_none free
    have named : r ≠ .none := ThreadId.not_isNone_iff.mp nobody
    exact MutexState.shows_heldBy named
  · exact shows.quiet rfl rfl rfl
  · exact shows.quiet rfl rfl rfl
  · obtain ⟨t, rfl, holder, named, clean⟩ := shows.eq_some free
    obtain rfl := holder.trans (not_not.mp other)
    have lasting := shows.lasting t rfl
    have count : m.count.toNat = t.taken - t.given := shows.count
    have room := UInt32.lt_iff_toNat_lt.mp (UInt32.not_le.mp deep)
    have more := Mutex.toNat_next_level room
    rw [Entry.tenure_of_taken rfl rfl, clean, ← holder]
    refine MutexState.shows_held named (lasting.trans (Nat.lt_succ_self _)) (by omega) ?_
    rw [UInt32.le_iff_toNat_le, more]
    exact room

theorem MutexCall.release_shows (r : ThreadId) {m : MutexState} {held : Option Tenure}
    (shows : m.Shows held) :
    ((release r).step m).2.Shows
      ((Entry.mk (.mutex (release r)) (.ofExcept ((release r).step m).1)).tenure held) := by
  simp only [step]
  split_ifs with refused last
  · exact shows.quiet rfl rfl rfl
  -- last level or not, it was the caller's own
  all_goals
    obtain ⟨taken, other⟩ := not_or.mp refused
    obtain ⟨t, rfl, holder, named, clean⟩ := shows.eq_some taken
    obtain rfl := holder.trans (not_not.mp other)
    have lasting := shows.lasting t rfl
    have count : m.count.toNat = t.taken - t.given := shows.count
    rw [Entry.tenure_of_given rfl rfl]
  · have one : m.count.toNat = 1 := congrArg UInt32.toNat last
    rw [if_pos (show t.given + 1 = t.taken by omega)]
    exact MutexState.shows_free m.abandoned
  · have more : m.count.toNat ≠ 1 := fun one => last (UInt32.toNat.inj one)
    have fewer : (m.count - 1).toNat = m.count.toNat - 1 := by
      refine UInt32.toNat_sub_of_le _ _ (UInt32.le_iff_toNat_le.mpr ?_)
      show 1 ≤ m.count.toNat
      omega
    rw [if_neg (show t.given + 1 ≠ t.taken by omega), clean, ← holder]
    refine MutexState.shows_held named (show t.given + 1 < t.taken by omega) (by omega) ?_
    refine UInt32.le_trans (UInt32.le_iff_toNat_le.mpr ?_) shows.ceiling
    omega

/-- A call moves the words of a mutex as its entry moves the tenure. -/
theorem MutexCall.step_shows (call : MutexCall) {m : MutexState} {held : Option Tenure}
    (shows : m.Shows held) :
    (call.step m).2.Shows
      ((Entry.mk (.mutex call) (.ofExcept (call.step m).1)).tenure held) := by
  cases call with
  | tryAcquire r => exact acquire_shows r shows
  | release r => exact release_shows r shows
  | markAbandoned =>
    rw [Entry.tenure_of_abandoned rfl rfl]
    exact MutexState.shows_free 1
  | abandonIfOwnedBy r =>
    simp only [step]
    split_ifs with refused
    · exact shows.quiet rfl rfl rfl
    · rw [Entry.tenure_of_abandoned rfl rfl]
      exact MutexState.shows_free 1
  | state => exact shows.quiet rfl rfl rfl

theorem Call.step_onMutex {call : Call} {mc : MutexCall} {c : Contents} (kind : c.kind = .mutex)
    (asks : call.onMutex? = some mc) :
    call.step c = ((mc.step c.mutexState).1, c.withMutex (mc.step c.mutexState).2) := by
  cases call with
  | mutex call =>
    cases asks
    simp only [step, Contents.expect, kind, if_true]
  | tryWait requester =>
    cases asks
    simp only [step, Contents.wait, kind]
  | _ => cases asks

theorem Entry.tenure_onMutex {call : Call} {mc : MutexCall} (asks : call.onMutex? = some mc)
    (outcome : Outcome Answer) :
    (Entry.mk call outcome).tenure = (Entry.mk (.mutex mc) outcome).tenure := by
  cases call with
  | mutex call =>
    cases asks
    rfl
  | tryWait requester =>
    cases asks
    cases outcome with
    | value a => cases a <;> rfl
    | failed | blocked => rfl
  | _ => cases asks

/-! ## Runs -/

/-- What may be called on a record where nothing but a mutex is made, and which is not retired. -/
def Call.suitsMutex : Call → Bool
  | setUp (.mutex _) => true
  | setUp _ => false
  | retire => false
  | _ => true

/-- The entry of a creation that succeeded. -/
def Entry.Creates (e : Entry) : Prop :=
  (∃ owner, e.call = .setUp (.mutex owner)) ∧ e.answer? = some .done

/-- A record that is blank until the mutex is created there shows the tenure that its history tells
of. -/
structure Owned (h : List Entry) (c : Contents) : Prop where
  kind : (c = .blank ∧ ∀ e ∈ h, ¬ e.Creates) ∨ c.kind = .mutex
  shows : c.mutexState.Shows (tenure h)

namespace Owned

variable {h : List Entry} {c : Contents}

theorem start : Owned [] .blank :=
  ⟨.inl ⟨rfl, List.forall_mem_nil _⟩, MutexState.shows_free 0⟩

theorem quiet (inv : Owned h c) {e : Entry} (same : e.tenure (tenure h) = tenure h)
    (plain : ¬ e.Creates) : Owned (h ++ [e]) c := by
  refine ⟨?_, ?_⟩
  · rcases inv.kind with ⟨blank, never⟩ | kind
    · refine .inl ⟨blank, ?_⟩
      exact List.forall_mem_append.mpr ⟨never, List.forall_mem_singleton.mpr plain⟩
    · exact .inr kind
  · rw [tenure_concat, same]
    exact inv.shows

theorem silent (inv : Owned h c) {e : Entry} (silent : e.answer? = none) : Owned (h ++ [e]) c := by
  refine inv.quiet (Entry.tenure_of_silent silent _) fun ⟨_, made⟩ => ?_
  rw [silent] at made
  cases made

theorem failed (inv : Owned h c) {call : Call} {e : SyncError}
    (fails : call.step c = (.error e, c)) :
    Owned (h ++ [⟨call, .ofExcept (call.step c).1⟩]) (call.step c).2 := by
  rw [fails]
  exact inv.silent rfl

theorem created (inv : Owned h .blank) (owner : Option ThreadId) :
    Owned (h ++ [⟨.setUp (.mutex owner), .ofExcept ((Call.setUp (.mutex owner)).step .blank).1⟩])
      ((Call.setUp (.mutex owner)).step .blank).2 := by
  have free : tenure h = none := inv.shows.eq_none rfl
  cases owner with
  | none =>
    refine ⟨.inr rfl, ?_⟩
    rw [tenure_concat, free]
    exact MutexState.shows_free 0
  | some r =>
    by_cases nobody : r.isNone = true
    · have first : (Blueprint.mutex (some r)).firstState = .error Mutex.sentinelError := by
        simp only [Blueprint.firstState, Mutex.firstState, if_pos nobody]
        rfl
      refine inv.failed (e := Mutex.sentinelError) ?_
      simp only [Call.step, first]
    · have named : r ≠ .none := ThreadId.not_isNone_iff.mp nobody
      have first : (Blueprint.mutex (some r)).firstState = .ok (.mutex (.heldBy r)) := by
        simp only [Blueprint.firstState, Mutex.firstState, if_neg nobody]
        rfl
      have made : (Call.setUp (.mutex (some r))).step .blank =
          (.ok .done, .ofState (.mutex (.heldBy r))) := by
        simp only [Call.step, first]
        rfl
      rw [made]
      refine ⟨.inr rfl, ?_⟩
      rw [tenure_concat, free]
      exact MutexState.shows_heldBy named

theorem step (inv : Owned h c) {call : Call} (suits : call.suitsMutex = true) :
    Owned (h ++ [⟨call, .ofExcept (call.step c).1⟩]) (call.step c).2 := by
  rcases inv.kind with ⟨rfl, -⟩ | kind
  · cases call with
    | setUp b =>
      cases b with
      | mutex owner => exact inv.created owner
      | event | semaphore => cases suits
    | mutex | event | semaphore | tryWait => exact inv.failed rfl
    | snapshot => exact inv.quiet (Entry.tenure_of_quiet rfl rfl rfl _) (by simp [Entry.Creates])
    | retire => cases suits
  · cases asks : call.onMutex? with
    | some mc =>
      rw [Call.step_onMutex kind asks]
      refine ⟨.inr kind, ?_⟩
      rw [tenure_concat, Entry.tenure_onMutex asks]
      exact mc.step_shows inv.shows
    | none =>
      cases call with
      | mutex | tryWait => cases asks
      | setUp b =>
        have typed : c.tag ≠ 0 := Contents.tag_ne_zero (by rw [kind]; decide)
        cases first : b.firstState with
        | error e => exact inv.failed (e := e) (by simp only [Call.step, first])
        | ok state =>
          exact inv.failed (e := .alreadyInitialized c.kind)
            (by simp only [Call.step, first, if_neg typed])
      | event ec =>
        exact inv.failed (e := .typeMismatch (some .event) .mutex)
          (by simp [Call.step, Contents.expect, kind])
      | semaphore sc =>
        exact inv.failed (e := .typeMismatch (some .semaphore) .mutex)
          (by simp [Call.step, Contents.expect, kind])
      | snapshot => exact inv.quiet (Entry.tenure_of_quiet rfl rfl rfl _) (by simp [Entry.Creates])
      | retire => cases suits

theorem turn (inv : Owned h c) {t : Turn} (suits : t.call.suitsMutex = true) :
    Owned (h ++ [(t.take c).1]) (t.take c).2 := by
  rcases t.take_cases c with ran | ⟨silent, same⟩
  · rw [ran]
    exact inv.step suits
  · rw [same]
    exact inv.silent silent

theorem run {turns : List Turn} (suit : ∀ t ∈ turns, t.call.suitsMutex = true) :
    Owned (runTurns .blank turns).1 (runTurns .blank turns).2 :=
  runTurns_keeps start fun t mem _ _ before => before.turn (suit t mem)

end Owned

/-! ## What a call answers -/

/-- What a call on a mutex answers, by the tenure that the history tells of. -/
structure AnswersBy (held : Option Tenure) (c : Contents) (t : Turn) : Prop where
  /-- Without the guard there is no answer. -/
  silent : ¬ t.Enters → (t.take c).1.answer? = none
  /-- What is refused changes nothing. -/
  refused : (t.take c).1.Refused → (t.take c).2 = c
  /-- The sentinel takes nothing. -/
  acquire_nobody : t.Enters → t.call.onMutex? = some (.tryAcquire .none) →
    (t.take c).1.outcome = .failed Mutex.sentinelError
  /-- A free mutex is anybody's. -/
  acquire_free : t.Enters → ∀ r, r ≠ .none → t.call.onMutex? = some (.tryAcquire r) →
    held = none → (t.take c).1.outcome =
      .value (.acquisition (if c.mutexState.isAbandoned then .abandoned else .acquired))
  /-- A mutex that is held is nobody else's. -/
  acquire_other : t.Enters → ∀ r, r ≠ .none → t.call.onMutex? = some (.tryAcquire r) →
    ∀ T, held = some T → r ≠ T.holder →
      (t.take c).1.outcome = .value (.acquisition .notAvailable)
  /-- The holder takes the mutex again, and is told how deep it is now. -/
  acquire_again : t.Enters → ∀ T, held = some T →
    t.call.onMutex? = some (.tryAcquire T.holder) → T.depth < Mutex.maxRecursion.toNat →
      ∃ d, (t.take c).1.outcome = .value (.acquisition (.recursive d)) ∧ d.toNat = T.depth + 1
  /-- At the ceiling the holder cannot take the mutex again. -/
  acquire_full : t.Enters → ∀ T, held = some T →
    t.call.onMutex? = some (.tryAcquire T.holder) → T.depth = Mutex.maxRecursion.toNat →
      (t.take c).1.outcome = .failed (.overflow .mutex Mutex.maxRecursion) ∧ (t.take c).2 = c
  /-- The holder gives back one level, and is told how deep it was. -/
  release_own : t.Enters → ∀ T, held = some T → t.call = .mutex (.release T.holder) →
    ∃ n, (t.take c).1.outcome = .value (.level n) ∧ n.toNat = T.depth
  /-- Nobody else gives anything back, and neither does the sentinel. -/
  release_other : t.Enters → ∀ r, t.call = .mutex (.release r) →
    (r = .none ∨ ∀ T, held = some T → r ≠ T.holder) →
      (t.take c).1.outcome = .failed (.notOwner ((held.map Tenure.holder).getD .none) r)

namespace MutexState.Shows

variable {m : MutexState} {t : Tenure}

theorem taken (shows : m.Shows (some t)) : m.count ≠ 0 := by
  intro free
  cases shows.eq_none free

theorem named (shows : m.Shows (some t)) : t.holder ≠ .none := by
  obtain ⟨_, same, -, named, -⟩ := shows.eq_some shows.taken
  cases same
  exact named

theorem acquire_own (shows : m.Shows (some t)) :
    ((MutexCall.tryAcquire t.holder).step m).1 =
      if Mutex.maxRecursion ≤ m.count then .error (.overflow .mutex Mutex.maxRecursion)
      else .ok (.acquisition (.recursive (m.count + 1))) := by
  have some := ThreadId.not_isNone_iff.mpr shows.named
  have own : ¬ m.owner ≠ t.holder := not_not.mpr shows.owner
  rw [MutexCall.step, if_neg some, if_neg shows.taken, if_neg own, Mutex.maxRecursion]
  split <;> rfl

theorem release_other {held : Option Tenure} {r : ThreadId} (shows : m.Shows held)
    (other : r = .none ∨ ∀ t, held = some t → r ≠ t.holder) :
    ((MutexCall.release r).step m).1 =
      .error (.notOwner ((held.map Tenure.holder).getD .none) r) := by
  have refused : m.count = 0 ∨ m.owner ≠ r := by
    cases held with
    | none => exact .inl (UInt32.toNat.inj shows.count)
    | some t =>
      have owner : m.owner = t.holder := shows.owner
      refine .inr ?_
      rw [owner]
      rcases other with rfl | other
      · exact shows.named
      · exact (other t rfl).symm
  rw [MutexCall.step, if_pos refused, shows.owner]

end MutexState.Shows

theorem Turn.outcome_onMutex {t : Turn} {c : Contents} (enters : t.Enters)
    (kind : c.kind = .mutex) {mc : MutexCall} (asks : t.call.onMutex? = some mc) :
    (t.take c).1.outcome = .ofExcept (mc.step c.mutexState).1 := by
  rw [Turn.take_of_enters enters, Call.step_onMutex kind asks]

theorem MutexState.Shows.answersBy {held : Option Tenure} {c : Contents}
    (shows : c.mutexState.Shows held) (kind : c.kind = .mutex) (t : Turn) :
    AnswersBy held c t where
  silent out := (Turn.take_of_not_enters out c).1
  refused := Turn.take_of_refused
  acquire_nobody enters asks := by
    rw [Turn.outcome_onMutex enters kind asks]
    rfl
  acquire_free enters r named asks free := by
    subst free
    have count : c.mutexState.count = 0 := UInt32.toNat.inj shows.count
    have some := ThreadId.not_isNone_iff.mpr named
    rw [Turn.outcome_onMutex enters kind asks, MutexCall.step, if_neg some, if_pos count]
    rfl
  acquire_other enters r named asks T holds other := by
    subst holds
    have some := ThreadId.not_isNone_iff.mpr named
    have owner : c.mutexState.owner ≠ r := fun same => other (same.symm.trans shows.owner)
    rw [Turn.outcome_onMutex enters kind asks, MutexCall.step, if_neg some, if_neg shows.taken,
      if_pos owner]
    rfl
  acquire_again enters T holds asks room := by
    subst holds
    have count : c.mutexState.count.toNat = T.depth := shows.count
    have below : ¬ Mutex.maxRecursion ≤ c.mutexState.count := by
      rw [UInt32.le_iff_toNat_le]
      omega
    rw [Turn.outcome_onMutex enters kind asks, shows.acquire_own, if_neg below]
    refine ⟨_, rfl, ?_⟩
    rw [← count] at room ⊢
    exact Mutex.toNat_next_level room
  acquire_full enters T holds asks full := by
    subst holds
    have count : c.mutexState.count.toNat = T.depth := shows.count
    have top : Mutex.maxRecursion ≤ c.mutexState.count := by
      rw [UInt32.le_iff_toNat_le]
      omega
    have fails : (t.take c).1.outcome = .failed (.overflow .mutex Mutex.maxRecursion) := by
      rw [Turn.outcome_onMutex enters kind asks, shows.acquire_own, if_pos top]
      rfl
    exact ⟨fails, Turn.take_of_refused (.inl (by rw [Entry.answer?, fails]; rfl))⟩
  release_own enters T holds asks := by
    subst holds
    have owned : ¬ (c.mutexState.count = 0 ∨ c.mutexState.owner ≠ T.holder) :=
      not_or.mpr ⟨shows.taken, not_not.mpr shows.owner⟩
    have answer : ((MutexCall.release T.holder).step c.mutexState).1 =
        .ok (.level c.mutexState.count) := by
      rw [MutexCall.step, if_neg owned]
      split
      · rename_i one
        rw [one]
      · rfl
    rw [Turn.outcome_onMutex enters kind (congrArg Call.onMutex? asks), answer]
    exact ⟨_, rfl, shows.count⟩
  release_other enters r asks other := by
    rw [Turn.outcome_onMutex enters kind (congrArg Call.onMutex? asks), shows.release_other other]
    rfl

/-! ## Whole runs -/

/-- In every run on a record where nothing but a mutex is made, the words of the record show the
tenure that the history tells of. Whoever took the free mutex holds it as long as they gave it back
less often than they took it, as deep as the difference, and unless it is abandoned; when that is
over, it is free at once. From its creation on, every call is answered by the tenure. -/
theorem mutex_follows_history {turns : List Turn}
    (suit : ∀ t ∈ turns, t.call.suitsMutex = true) {h : List Entry} {c : Contents}
    (ran : runTurns .blank turns = (h, c)) :
    c.mutexState.Shows (tenure h) ∧
      (∀ past e since r, h = past ++ e :: since → tenure past = none → e.taker? = some r →
        Lasts r since → c.mutexState.owner = r ∧
          c.mutexState.count.toNat = 1 + acquisitions r since - releases r since) ∧
      (∀ past e since last r, h = past ++ e :: (since ++ [last]) → tenure past = none →
        e.taker? = some r → Lasts r since → ¬ Lasts r (since ++ [last]) →
          c.mutexState.owner = .none ∧ c.mutexState.count = 0) ∧
      ((∃ e ∈ h, e.Creates) → ∀ t : Turn, AnswersBy (tenure h) c t) := by
  have inv : Owned h c := by simpa only [ran] using Owned.run suit
  have begun (past since : List Entry) {e : Entry} {r : ThreadId} (free : tenure past = none)
      (takes : e.taker? = some r) :
      tenure (past ++ e :: since) = tenureFrom (some ⟨r, 1, 0⟩) since := by
    rw [tenure_append, free]
    show tenureFrom (e.tenure none) since = _
    rw [Entry.tenure, takes, Option.map_some]
  refine ⟨inv.shows, ?_, ?_, ?_⟩
  · intro past e since r split free takes lasts
    have shows := inv.shows
    rw [split, begun past since free takes, tenure_of_lasts lasts] at shows
    exact ⟨shows.owner, shows.count⟩
  · intro past e since last r split free takes lasts ends
    have shows := inv.shows
    rw [split, begun past _ free takes, tenure_of_ended lasts ends] at shows
    exact ⟨shows.owner, UInt32.toNat.inj shows.count⟩
  · rintro ⟨e, mem, made⟩
    rcases inv.kind with ⟨-, never⟩ | kind
    · exact absurd made (never e mem)
    · exact inv.shows.answersBy kind

/-- A mutex that was held from its creation on and taken again is abandoned and taken over. The
former holder gives nothing back, and a third thread does not get it. -/
theorem taken_over_after_abandonment :
    ∃ (turns : List Turn) (h : List Entry) (c : Contents),
      ((∀ t ∈ turns, t.call.suitsMutex = true) ∧ runTurns .blank turns = (h, c)) ∧
      h.map Entry.answer? =
        [some .done, some (.acquisition (.recursive 2)), some (.acquisition .notAvailable),
          some (.level 2), some .done, some (.acquisition .abandoned), none] ∧
      (tenure h = some ⟨⟨6⟩, 1, 0⟩ ∧ c.mutexState.Shows (tenure h)) ∧
      ((Turn.mk 0 (Guard.hasty 9) (.tryWait ⟨7⟩)).take c).1.outcome =
        .value (.acquisition .notAvailable) := by
  have ran : runTurns .blank
      [⟨0, Guard.hasty 7, .setUp (.mutex (some ⟨5⟩))⟩,
        ⟨0, Guard.hasty 7, .mutex (.tryAcquire ⟨5⟩)⟩, ⟨0, Guard.hasty 8, .tryWait ⟨6⟩⟩,
        ⟨0, Guard.hasty 7, .mutex (.release ⟨5⟩)⟩, ⟨0, Guard.hasty 8, .mutex .markAbandoned⟩,
        ⟨0, Guard.hasty 8, .tryWait ⟨6⟩⟩, ⟨0, Guard.hasty 7, .mutex (.release ⟨5⟩)⟩] =
      ([⟨.setUp (.mutex (some ⟨5⟩)), .value .done⟩,
        ⟨.mutex (.tryAcquire ⟨5⟩), .value (.acquisition (.recursive 2))⟩,
        ⟨.tryWait ⟨6⟩, .value (.acquisition .notAvailable)⟩,
        ⟨.mutex (.release ⟨5⟩), .value (.level 2)⟩, ⟨.mutex .markAbandoned, .value .done⟩,
        ⟨.tryWait ⟨6⟩, .value (.acquisition .abandoned)⟩,
        ⟨.mutex (.release ⟨5⟩), .failed (.notOwner ⟨6⟩ ⟨5⟩)⟩], ⟨1, 6, 1, 0⟩) := rfl
  obtain ⟨shows, -, -, answers⟩ := mutex_follows_history (by simp [Call.suitsMutex]) ran
  have third := answers ⟨_, List.mem_cons_self, ⟨_, rfl⟩, rfl⟩
    ⟨0, Guard.hasty 9, .tryWait ⟨7⟩⟩
  have enters := Turn.enters_of_free (t := ⟨0, Guard.hasty 9, .tryWait ⟨7⟩⟩) rfl rfl
  exact ⟨_, _, _, ⟨by simp [Call.suitsMutex], ran⟩, rfl, ⟨rfl, shows⟩,
    third.acquire_other enters ⟨7⟩ (by decide) rfl _ rfl (by decide)⟩

end Interprocess
