import Interprocess.Proofs.Object.Endings
import Interprocess.Proofs.Object.Serial
import Interprocess.Proofs.Object.Signals

/-!
# The life of an object

A record gets a kind by a creation and loses it when it is retired, and by nothing else. In between
it is changed by the calls for its kind alone, which keep what the creation fixed for good; those
who still take it for what it was before are refused. What a call can do to the contents is said
once (`Call.acts`), and a run of calls adds up to the life of an object (`Fixed`). When the calls of
many participants are interleaved, they do the same in the order in which they claimed the guard
(`serial_eq_runTurns`).
-/

namespace Interprocess

/-! ## What a call can do to contents -/

/-- What a call can answer on contents, and the contents after it. -/
inductive Call.Acts (call : Call) (c : Contents) : Except SyncError Answer × Contents → Prop where
  | fails (e : SyncError) : call.Acts c (.error e, c)
  | looks (asks : call = .snapshot) : call.Acts c (.ok (.state c.state), c)
  | makes {b : Blueprint} {state : ObjectState} (asks : call = .setUp b)
      (first : b.firstState = .ok state) (blank : c.tag = 0) :
      call.Acts c (.ok .done, .ofState state)
  | retires (asks : call = .retire) : call.Acts c (.ok (.kind c.kind), .blank)
  | mutex {mc : MutexCall} (kind : c.kind = .mutex) (asks : call.onMutex? = some mc) :
      call.Acts c ((mc.step c.mutexState).1, c.withMutex (mc.step c.mutexState).2)
  | event {ec : EventCall} {answer : Except SyncError Answer} (kind : c.kind = .event)
      (asks : call.onEvent? = some ec) :
      call.Acts c (answer, c.withEvent (ec.step c.eventState).2)
  | semaphore {sc : SemaphoreCall} (kind : c.kind = .semaphore)
      (asks : call.onSemaphore? = some sc) :
      call.Acts c ((sc.step c.semaphoreState).1, c.withSemaphore (sc.step c.semaphoreState).2)

theorem Call.acts (call : Call) (c : Contents) : call.Acts c (call.step c) := by
  cases call with
  | setUp b =>
    simp only [step]
    cases first : b.firstState with
    | error e => exact .fails e
    | ok state =>
      by_cases blank : c.tag = 0
      · simp only [if_pos blank]
        exact .makes rfl first blank
      · simp only [if_neg blank]
        exact .fails _
  | mutex mc =>
    by_cases kind : c.kind = .mutex
    · rw [Call.step_onMutex kind rfl]
      exact .mutex kind rfl
    · rw [step, Contents.expect_of_ne kind]
      exact .fails _
  | event ec =>
    by_cases kind : c.kind = .event
    · rw [step, Contents.expect, if_pos kind]
      exact .event kind rfl
    · rw [step, Contents.expect_of_ne kind]
      exact .fails _
  | semaphore sc =>
    by_cases kind : c.kind = .semaphore
    · rw [Call.step_onSemaphore kind rfl]
      exact .semaphore kind rfl
    · rw [step, Contents.expect_of_ne kind]
      exact .fails _
  | snapshot => exact .looks rfl
  | tryWait requester =>
    cases kind : c.kind with
    | unknown =>
      have untyped : (tryWait requester).step c = (.error .untyped, c) := by
        simp only [step, Contents.wait, kind]
      rw [untyped]
      exact .fails _
    | mutex =>
      rw [Call.step_onMutex kind rfl]
      exact .mutex kind rfl
    | event =>
      simp only [step, Contents.wait, kind]
      exact .event kind rfl
    | semaphore =>
      rw [Call.step_onSemaphore kind rfl]
      exact .semaphore kind rfl
  | retire => exact .retires rfl

/-! ## What a creation fixes -/

def Blueprint.kind : Blueprint → Kind
  | mutex _ => .mutex
  | event .. => .event
  | semaphore .. => .semaphore

/-- What stays as it was made as long as the object is there: its kind, how an event is reset, and
how many units a semaphore may have. -/
structure Blueprint.Fixes (b : Blueprint) (c : Contents) : Prop where
  tag : c.tag = b.kind.tag
  mode : ∀ manualReset signaled, b = .event manualReset signaled →
    c.eventState.manualReset = flagWord manualReset
  room : ∀ initial maximum, b = .semaphore initial maximum → c.semaphoreState.maximum = maximum

theorem Blueprint.kind_ne_unknown (b : Blueprint) : b.kind ≠ .unknown := by
  cases b <;> exact nofun

theorem Blueprint.tag_kind (b : Blueprint) : b.kind.tag = 1 ∨ b.kind.tag = 2 ∨ b.kind.tag = 3 := by
  cases b with
  | mutex => exact .inl rfl
  | event => exact .inr (.inl rfl)
  | semaphore => exact .inr (.inr rfl)

theorem Blueprint.fixes_firstState {b : Blueprint} {state : ObjectState}
    (first : b.firstState = .ok state) : b.Fixes (.ofState state) := by
  cases b with
  | mutex owner =>
    have made : ∃ m, state = .mutex m := by
      cases hm : Mutex.firstState owner with
      | error e =>
        rw [firstState, hm] at first
        cases first
      | ok m =>
        rw [firstState, hm] at first
        cases first
        exact ⟨m, rfl⟩
    obtain ⟨m, rfl⟩ := made
    refine ⟨rfl, ?_, ?_⟩ <;> rintro _ _ ⟨⟩
  | event manualReset signaled =>
    cases first
    refine ⟨rfl, ?_, ?_⟩ <;> rintro _ _ ⟨⟩
    rfl
  | semaphore initial maximum =>
    simp only [firstState, Semaphore.firstState] at first
    split_ifs at first <;> cases first
    refine ⟨rfl, ?_, ?_⟩ <;> rintro _ _ ⟨⟩
    rfl

theorem Blueprint.Fixes.kind {b : Blueprint} {c : Contents} (fixes : b.Fixes c) :
    c.kind = b.kind := by
  rw [Contents.kind, fixes.tag, Kind.ofTag_tag]

theorem EventCall.step_manualReset (call : EventCall) (e : EventState) :
    (call.step e).2.manualReset = e.manualReset := by
  cases call with
  | poll =>
    simp only [step]
    split <;> rfl
  | _ => rfl

theorem Blueprint.Fixes.step {b : Blueprint} {c : Contents} (fixes : b.Fixes c) {call : Call}
    (lasts : call ≠ .retire) : b.Fixes (call.step c).2 := by
  have acts := call.acts c
  generalize call.step c = after at acts
  cases acts with
  | fails | looks => exact fixes
  | makes asks first blank =>
    have typed := Contents.tag_ne_zero (fixes.kind ▸ b.kind_ne_unknown)
    exact absurd blank typed
  | retires asks => exact absurd asks lasts
  | mutex kind asks =>
    have made := fixes.kind.symm.trans kind
    refine ⟨fixes.tag, ?_, ?_⟩
    · rintro _ _ rfl
      cases made
    · rintro _ _ rfl
      cases made
  | event kind asks =>
    have made := fixes.kind.symm.trans kind
    refine ⟨fixes.tag, ?_, ?_⟩
    · rintro manualReset signaled rfl
      exact (EventCall.step_manualReset _ _).trans (fixes.mode _ _ rfl)
    · rintro _ _ rfl
      cases made
  | semaphore kind asks =>
    have made := fixes.kind.symm.trans kind
    refine ⟨fixes.tag, ?_, ?_⟩
    · rintro _ _ rfl
      cases made
    · rintro initial maximum rfl
      exact (SemaphoreCall.step_maximum _ _).trans (fixes.room _ _ rfl)

/-! ## Turns -/

namespace Entry

def Makes (e : Entry) (b : Blueprint) : Prop := e.call = .setUp b ∧ e.answer? = some .done

def Retires (e : Entry) : Prop := e.call = .retire ∧ e.answer? ≠ none

end Entry

/-- The kind of objects that a call is for, if it goes through a view of one kind. -/
def Call.view? : Call → Option Kind
  | mutex _ => some .mutex
  | event _ => some .event
  | semaphore _ => some .semaphore
  | _ => none

/-- A call is answered with an error, or it does not get the guard and is told so. -/
structure Denied (t : Turn) (outcome : Outcome Answer) (e : SyncError) : Prop where
  inside : t.Enters → outcome = .failed e
  outside : ¬ t.Enters →
    (∃ holder waited, outcome = .failed (.guardTimeout holder waited)) ∨
      (t.policy.timeout = none ∧ outcome = .blocked) ∨
      (t.policy.canClaim = false ∧ outcome = .failed GuardPolicy.holderIdError)

/-- What a call does to the life of the object that the contents hold. -/
structure Lives (c : Contents) (t : Turn) : Prop where
  /-- A tag comes by a creation on a record without one, and goes when the object is retired. -/
  retagged : (t.take c).2.tag ≠ c.tag →
    (c.tag = 0 ∧ ((t.take c).2.tag = 1 ∨ (t.take c).2.tag = 2 ∨ (t.take c).2.tag = 3) ∧
        ∃ b, (t.take c).1.Makes b) ∨
      ((t.take c).2.tag = 0 ∧ (t.take c).1.Retires)
  made : ∀ b, (t.take c).1.Makes b →
    c.tag = 0 ∧ ∃ state, b.firstState = .ok state ∧ (t.take c).2 = .ofState state
  retired : (t.take c).1.Retires →
    (t.take c).2 = .blank ∧ (t.take c).1.outcome = .value (.kind c.kind)
  /-- Where there is an object, none is made. -/
  again : c.tag ≠ 0 → ∀ b state, t.call = .setUp b → b.firstState = .ok state →
    (t.take c).2 = c ∧ Denied t (t.take c).1.outcome (.alreadyInitialized c.kind)
  /-- Those who take the object for one of another kind are told what it is. -/
  stale : ∀ k, t.call.view? = some k → c.kind ≠ k →
    (t.take c).2 = c ∧ Denied t (t.take c).1.outcome (.typeMismatch (some k) c.kind)
  /-- An object is changed by what is called of its own kind. -/
  own : c.tag ≠ 0 → (t.take c).2 = c ∨ (t.take c).1.Retires ∨
    (c.kind = .mutex ∧ ∃ mc, t.call.onMutex? = some mc ∧
      (t.take c).2 = c.withMutex (mc.step c.mutexState).2) ∨
    (c.kind = .event ∧ ∃ ec, t.call.onEvent? = some ec ∧
      (t.take c).2 = c.withEvent (ec.step c.eventState).2) ∨
    (c.kind = .semaphore ∧ ∃ sc, t.call.onSemaphore? = some sc ∧
      (t.take c).2 = c.withSemaphore (sc.step c.semaphoreState).2)

namespace Turn

variable {t : Turn} {c : Contents}

theorem denied {e : SyncError} (accepts : t.call.Accepts)
    (fails : (t.call.step c).1 = .error e) : Denied t (t.take c).1.outcome e where
  inside enters := by
    rw [take_of_enters enters, fails]
    rfl
  outside out := by
    rw [enters_iff] at out
    have ends := t.call.ends t.policy ⟨t.guard, c⟩
    simp only [take]
    generalize (t.call.op t.policy).result ⟨t.guard, c⟩ = ran at ends
    cases ends with
    | rejected bad =>
      obtain ⟨body, accepted⟩ := accepts
      rw [bad] at accepted
      cases accepted
    | ran _ gets => exact absurd gets out
    | refused _ invalid => exact .inr (.inr ⟨invalid, rfl⟩)
    | timedOut => exact .inl ⟨_, _, rfl⟩
    | parked _ _ _ unbounded => exact .inr (.inl ⟨unbounded, rfl⟩)

theorem take_of_fails {e : SyncError} (fails : t.call.step c = (.error e, c)) :
    (t.take c).2 = c := by
  rcases t.take_cases c with ran | ⟨-, same⟩
  · rw [ran, fails]
  · exact same

theorem ran_of_changed (changed : (t.take c).2 ≠ c) :
    t.take c = (⟨t.call, .ofExcept (t.call.step c).1⟩, (t.call.step c).2) :=
  (t.take_cases c).resolve_right fun silent => changed silent.2

theorem ran_of_answer (answered : (t.take c).1.answer? ≠ none) :
    t.take c = (⟨t.call, .ofExcept (t.call.step c).1⟩, (t.call.step c).2) :=
  (t.take_cases c).resolve_right fun silent => answered silent.1

theorem take_of_makes {b : Blueprint} (makes : (t.take c).1.Makes b) :
    c.tag = 0 ∧ ∃ state, b.firstState = .ok state ∧ (t.take c).2 = .ofState state :=
  take_of_created makes.1 (Outcome.eq_value_of_answer? makes.2)

theorem take_of_retires (retires : (t.take c).1.Retires) :
    (t.take c).2 = .blank ∧ (t.take c).1.outcome = .value (.kind c.kind) := by
  have asks : t.call = .retire := retires.1
  rw [ran_of_answer retires.2, asks]
  exact ⟨rfl, rfl⟩

theorem lives (t : Turn) (c : Contents) : Lives c t where
  retagged changed := by
    have ran := ran_of_changed (t := t) (c := c) fun same => changed (congrArg Contents.tag same)
    rw [ran] at changed ⊢
    have acts := t.call.acts c
    generalize t.call.step c = after at acts changed
    cases acts with
    | fails | looks | mutex | event | semaphore => exact absurd rfl changed
    | makes asks first blank =>
      refine .inl ⟨blank, ?_, _, asks, rfl⟩
      show (Contents.ofState _).tag = 1 ∨ _ ∨ _
      rw [(Blueprint.fixes_firstState first).tag]
      exact Blueprint.tag_kind _
    | retires asks => exact .inr ⟨rfl, asks, nofun⟩
  made _ := take_of_makes
  retired := take_of_retires
  again typed b state asks first := by
    have fails : t.call.step c = (.error (.alreadyInitialized c.kind), c) := by
      simp only [asks, Call.step, first, if_neg typed]
    have accepts : t.call.Accepts := by
      rw [asks, Call.Accepts, Call.body, first]
      exact ⟨_, rfl⟩
    exact ⟨take_of_fails fails, denied accepts (congrArg Prod.fst fails)⟩
  stale k views other := by
    have fails : t.call.step c = (.error (.typeMismatch (some k) c.kind), c) := by
      cases asks : t.call with
      | mutex | event | semaphore =>
        rw [asks] at views
        cases views
        rw [Call.step, Contents.expect_of_ne other]
      | _ =>
        rw [asks] at views
        cases views
    have accepts : t.call.Accepts := by
      cases asks : t.call with
      | mutex | event | semaphore => exact ⟨_, rfl⟩
      | _ =>
        rw [asks] at views
        cases views
    exact ⟨take_of_fails fails, denied accepts (congrArg Prod.fst fails)⟩
  own typed := by
    by_cases changed : (t.take c).2 = c
    · exact .inl changed
    have ran := ran_of_changed changed
    rw [ran] at changed ⊢
    have acts := t.call.acts c
    generalize t.call.step c = after at acts changed
    cases acts with
    | fails | looks => exact absurd rfl changed
    | makes _ _ blank => exact absurd blank typed
    | retires asks => exact .inr (.inl ⟨asks, nofun⟩)
    | mutex kind asks => exact .inr (.inr (.inl ⟨kind, _, asks, rfl⟩))
    | event kind asks => exact .inr (.inr (.inr (.inl ⟨kind, _, asks, rfl⟩)))
    | semaphore kind asks => exact .inr (.inr (.inr (.inr ⟨kind, _, asks, rfl⟩)))

end Turn

/-! ## Runs -/

/-- From its creation on an object is what it was made as, until it is retired. -/
def Fixed (h : List Entry) (c : Contents) : Prop :=
  ∀ past e since b, h = past ++ e :: since → e.Makes b → (∀ x ∈ since, ¬ x.Retires) → b.Fixes c

namespace Fixed

variable {h : List Entry} {c : Contents}

theorem start (c : Contents) : Fixed [] c := by
  intro past e since b split
  exact absurd split.symm (by simp)

theorem turn (inv : Fixed h c) (t : Turn) : Fixed (h ++ [(t.take c).1]) (t.take c).2 := by
  intro past e since b split makes lasts
  rcases concat_eq_append_cons split with ⟨-, rfl, -⟩ | ⟨older, rfl, rfl⟩
  · obtain ⟨-, state, first, left⟩ := Turn.take_of_makes makes
    rw [left]
    exact Blueprint.fixes_firstState first
  · have fixes := inv past e older b rfl makes fun x mem => lasts x (List.mem_append_left _ mem)
    have last : ¬ (t.take c).1.Retires :=
      lasts _ (List.mem_append_right _ (List.mem_singleton_self _))
    by_cases changed : (t.take c).2 = c
    · rwa [changed]
    · have ran := Turn.ran_of_changed changed
      rw [ran] at last ⊢
      refine fixes.step fun asks => last ?_
      rw [asks]
      exact ⟨rfl, nofun⟩

theorem run (c : Contents) (turns : List Turn) :
    Fixed (runTurns c turns).1 (runTurns c turns).2 :=
  runTurns_keeps (start c) fun t _ _ _ before => before.turn t

end Fixed

/-! ## Interleaved runs -/

/-- A claim of the free guard, as a turn. -/
def Turn.ofClaim (x : GuardPolicy × Call) : Turn := ⟨0, x.1, x.2⟩

theorem runTurns_calls (c : Contents) (turns : List Turn) :
    (runTurns c turns).1.map Entry.call = turns.map Turn.call := by
  induction turns generalizing c with
  | nil => rfl
  | cons t rest ih =>
    simp only [runTurns, List.map_cons, ih]
    rfl

/-- Calls that run one after another are turns. -/
theorem serial_eq_runTurns {order : List (GuardPolicy × Call)}
    (valid : ∀ x ∈ order, x.1.canClaim = true) (c : Contents) :
    serial order ⟨0, c⟩ =
      ((runTurns c (order.map Turn.ofClaim)).1.map Entry.outcome,
        ⟨0, (runTurns c (order.map Turn.ofClaim)).2⟩) := by
  induction order generalizing c with
  | nil => rfl
  | cons first rest ih =>
    obtain ⟨p, call⟩ := first
    have canClaim : p.canClaim = true := valid _ List.mem_cons_self
    have taken : (Turn.ofClaim (p, call)).take c = _ :=
      Turn.take_of_enters (Turn.enters_of_free rfl canClaim) c
    simp only [serial, Call.op_result_free canClaim, List.map_cons, runTurns, taken,
      ih fun x mem => valid x (List.mem_cons_of_mem _ mem)]
    rfl

/-- What the operations of an interleaved run that are over answered, and what they left, is what
the turns in the order of their claims answer and leave. -/
structure FollowsTurns {ι : Type} (s : SharedRecord ι) (h : List Entry) (c : Contents) : Prop where
  contents : s.guard.word = 0 → s.contents = c
  claimed : ∀ f ∈ s.finished, ∀ k, f.place = some k →
    ∃ e, h[k]? = some e ∧ e.call = f.call ∧ e.outcome = f.outcome
  others : ∀ f ∈ s.finished, f.place = none → f.stored = false

theorem SharedRecord.Reachable.followsTurns {ι : Type} [DecidableEq ι] {s : SharedRecord ι}
    {c : Contents} (run : SharedRecord.Reachable c s) :
    FollowsTurns s (runTurns c (s.order.map Turn.ofClaim)).1
      (runTurns c (s.order.map Turn.ofClaim)).2 := by
  have inv := Serializable.reachable run
  have turns := serial_eq_runTurns inv.valid c
  refine ⟨fun free => ?_, fun f mem k place => ?_, fun f mem place => ?_⟩
  · have left := run.serial_of_free free
    rw [turns] at left
    exact (congrArg Record.contents left).symm
  · have agrees := inv.finished f mem
    simp only [Finished.Agrees, place, turns] at agrees
    obtain ⟨⟨p, placed⟩, answers⟩ := agrees
    rw [List.getElem?_map, Option.map_eq_some_iff] at answers
    obtain ⟨e, entry, outcome⟩ := answers
    refine ⟨e, entry, ?_, outcome⟩
    have called := congrArg (·[k]?) (runTurns_calls c (s.order.map Turn.ofClaim))
    simp only [List.getElem?_map, entry, placed, Option.map_some] at called
    exact Option.some.inj called
  · have agrees := inv.finished f mem
    simp only [Finished.Agrees, place] at agrees
    exact agrees.1

/-! ## The life of an object -/

/-- In every run on a record, whatever it held at first and whoever still takes it for what it was,
a tag comes by a creation and goes when the object is retired; in between the object keeps what its
creation fixed, no other is made there, and it is changed by calls for its own kind alone. The calls
of interleaved participants are such a run, in the order of their claims. -/
theorem object_lives_from_creation_to_retirement {c₀ : Contents} {turns : List Turn}
    {h : List Entry} {c : Contents} (ran : runTurns c₀ turns = (h, c)) :
    (∀ t : Turn, Lives c t) ∧
      (∀ past e since b, h = past ++ e :: since → e.Makes b → (∀ x ∈ since, ¬ x.Retires) →
        c.kind = b.kind ∧
          (∀ manualReset signaled, b = .event manualReset signaled →
            c.eventState.manualReset = flagWord manualReset) ∧
          ∀ initial maximum, b = .semaphore initial maximum →
            c.semaphoreState.maximum = maximum) ∧
      ∀ (ι : Type) [DecidableEq ι] (s : SharedRecord ι), SharedRecord.Reachable c₀ s →
        s.order.map Turn.ofClaim = turns → FollowsTurns s h c := by
  have fixed : Fixed h c := by simpa only [ran] using Fixed.run c₀ turns
  refine ⟨fun t => t.lives c, fun past e since b split makes lasts => ?_, ?_⟩
  · have fixes := fixed past e since b split makes lasts
    exact ⟨fixes.kind, fixes.mode, fixes.room⟩
  · rintro ι _ s run rfl
    have follows := run.followsTurns
    rwa [ran] at follows

/-- A mutex is retired and its record becomes a semaphore. Those who still take it for the mutex
change nothing, with the guard or without it, and it keeps its maximum. -/
theorem former_mutex_is_semaphore :
    ∃ (turns : List Turn) (h : List Entry) (c : Contents),
      runTurns .blank turns = (h, c) ∧
      h.map Entry.outcome =
        [.value .done, .value (.acquisition .acquired), .value (.kind .mutex),
          .failed (.typeMismatch (some .mutex) .unknown), .value .done,
          .failed (.typeMismatch (some .mutex) .semaphore),
          .failed (.alreadyInitialized .semaphore), .value (.level 1)] ∧
      c.kind = .semaphore ∧ c.semaphoreState.maximum = 5 ∧
      ∀ guard : UInt32,
        ((Turn.mk guard (Guard.hasty 7) (.mutex .markAbandoned)).take c).2 = c := by
  have ran : runTurns .blank
      [⟨0, Guard.hasty 7, .setUp (.mutex none)⟩, ⟨0, Guard.hasty 7, .mutex (.tryAcquire ⟨5⟩)⟩,
        ⟨0, Guard.hasty 8, .retire⟩, ⟨0, Guard.hasty 7, .mutex (.release ⟨5⟩)⟩,
        ⟨0, Guard.hasty 8, .setUp (.semaphore 1 5)⟩, ⟨0, Guard.hasty 7, .mutex (.release ⟨5⟩)⟩,
        ⟨0, Guard.hasty 7, .setUp (.event true true)⟩,
        ⟨0, Guard.hasty 9, .semaphore (.release 4)⟩] =
      ([⟨.setUp (.mutex none), .value .done⟩,
        ⟨.mutex (.tryAcquire ⟨5⟩), .value (.acquisition .acquired)⟩,
        ⟨.retire, .value (.kind .mutex)⟩,
        ⟨.mutex (.release ⟨5⟩), .failed (.typeMismatch (some .mutex) .unknown)⟩,
        ⟨.setUp (.semaphore 1 5), .value .done⟩,
        ⟨.mutex (.release ⟨5⟩), .failed (.typeMismatch (some .mutex) .semaphore)⟩,
        ⟨.setUp (.event true true), .failed (.alreadyInitialized .semaphore)⟩,
        ⟨.semaphore (.release 4), .value (.level 1)⟩], ⟨3, 5, 5, 0⟩) := rfl
  obtain ⟨lives, fixed, -⟩ := object_lives_from_creation_to_retirement ran
  obtain ⟨kind, -, room⟩ := fixed
    [_, _, _, _] ⟨.setUp (.semaphore 1 5), .value .done⟩ [_, _, _] (.semaphore 1 5) rfl
    ⟨rfl, rfl⟩ (by simp [Entry.Retires])
  exact ⟨_, _, _, ran, rfl, kind, room 1 5 rfl, fun guard =>
    ((lives ⟨guard, Guard.hasty 7, .mutex .markAbandoned⟩).stale .mutex rfl (by decide)).1⟩

end Interprocess
