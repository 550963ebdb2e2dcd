import Interprocess.Proofs.Object.History

/-!
# Signals of an event

A signal of an event that resets by itself is consumed once: at every point of every run, the
signals that were raised are those that were observed, those that were cleared, and the one that is
pending, if there is one. An event with manual reset shows what the last signal or reset left, and
is not changed by those who look at it. Both are read off the answers in the history; a call moves
the account by what its answer says (`Relays.next`).
-/

namespace Interprocess

/-! ## What a history says of signals -/

def Call.onEvent? : Call → Option EventCall
  | event c => some c
  | tryWait _ => some .poll
  | _ => none

namespace Entry

def raises (e : Entry) : Bool :=
  match e.call, e.answer? with
  | .event .signal, some (.flag false) => true
  | _, _ => false

/-- A look at the event that found it signaled. -/
def observes (e : Entry) : Bool :=
  match e.call, e.answer? with
  | .event .poll, some (.flag true) => true
  | .tryWait _, some (.acquisition .acquired) => true
  | _, _ => false

def clears (e : Entry) : Bool :=
  match e.call, e.answer? with
  | .event .reset, some (.flag true) => true
  | _, _ => false

/-- How a signal or a reset left the event. -/
def leaves? (e : Entry) : Option Bool :=
  match e.call, e.answer? with
  | .event .signal, some _ => some true
  | .event .reset, some _ => some false
  | _, _ => none

/-- The entry says nothing of signals. -/
structure IsQuiet (e : Entry) : Prop where
  raises : e.raises = false
  observes : e.observes = false
  clears : e.clears = false
  leaves : e.leaves? = none

theorem isQuiet_of_silent {e : Entry} (silent : e.answer? = none) : e.IsQuiet := by
  obtain ⟨call, outcome⟩ := e
  refine ⟨?_, ?_, ?_, ?_⟩
  · simp only [Entry.raises, silent]
  · simp only [Entry.observes, silent]
  · simp only [Entry.clears, silent]
  · simp only [Entry.leaves?, silent]

end Entry

/-- How the last of the creation, the signals and the resets left an event. -/
def leftSignaled (signaled : Bool) (h : List Entry) : Bool :=
  ((h.filterMap Entry.leaves?).getLast?).getD signaled

theorem leftSignaled_concat (signaled : Bool) (h : List Entry) (e : Entry) :
    leftSignaled signaled (h ++ [e]) = e.leaves?.getD (leftSignaled signaled h) := by
  rw [leftSignaled, List.filterMap_append]
  cases left : e.leaves? with
  | none => simp [left, leftSignaled]
  | some b => simp [left]

/-! ## One call -/

theorem Call.step_onEvent {call : Call} {ec : EventCall} {c : Contents} (kind : c.kind = .event)
    (asks : call.onEvent? = some ec) :
    (call.step c).2 = c.withEvent (ec.step c.eventState).2 := by
  cases call with
  | event c =>
    cases asks
    simp only [step, Contents.expect, kind, if_true]
  | tryWait requester =>
    cases asks
    simp only [step, Contents.wait, kind]
  | _ => cases asks

theorem Call.step_event_answer {call : EventCall} {c : Contents} (kind : c.kind = .event) :
    ((Call.event call).step c).1 = (call.step c.eventState).1 := by
  simp only [step, Contents.expect, kind, if_true]

theorem Call.step_tryWait_event {requester : ThreadId} {c : Contents} (kind : c.kind = .event) :
    ((Call.tryWait requester).step c).1 =
      .ok (.acquisition (if c.eventState.isSignaled then .acquired else .notAvailable)) := by
  simp only [step, Contents.wait, kind]

theorem Call.not_touches_event {call : Call} (keeps : call ≠ .retire)
    (asks : call.onEvent? = none) : call.touches .event = false := by
  cases call with
  | event | tryWait => cases asks
  | retire => exact absurd rfl keeps
  | _ => rfl

theorem isSignaled_flagWord (m b : Bool) :
    (EventState.mk (flagWord m) (flagWord b)).isSignaled = b := by
  cases b <;> rfl

theorem isManualReset_flagWord (m b : Bool) :
    (EventState.mk (flagWord m) (flagWord b)).isManualReset = m := by
  cases m <;> rfl

/-! ## Runs -/

/-- An event that agrees with what its history says of signals. -/
structure Relays (manualReset signaled : Bool) (h : List Entry) (c : Contents) : Prop where
  kind : c.kind = .event
  words : c.eventState = ⟨flagWord manualReset, flagWord c.eventState.isSignaled⟩
  once : manualReset = false →
    signaled.toNat + h.countP Entry.raises =
      h.countP Entry.observes + h.countP Entry.clears + c.eventState.isSignaled.toNat
  persists : manualReset = true → c.eventState.isSignaled = leftSignaled signaled h

namespace Relays

variable {manualReset signaled : Bool} {h : List Entry} {c : Contents}

theorem start {t : Turn} (made : t.call = .setUp (.event manualReset signaled))
    (succeeded : (t.take .blank).1.outcome = .value .done) :
    Relays manualReset signaled [] (t.take .blank).2 := by
  obtain ⟨-, state, first, left⟩ := Turn.take_of_created made succeeded
  cases first
  rw [left]
  have now : (Contents.ofState (.event (Event.firstState manualReset signaled))).eventState =
      ⟨flagWord manualReset, flagWord signaled⟩ := rfl
  refine ⟨rfl, ?_, fun _ => ?_, fun _ => ?_⟩
  · rw [now, isSignaled_flagWord]
  · rw [now, isSignaled_flagWord]
    simp
  · rw [now, isSignaled_flagWord]
    rfl

theorem next (inv : Relays manualReset signaled h c) {e : Entry} {s : EventState} {b : Bool}
    (words : s = ⟨flagWord manualReset, flagWord b⟩)
    (once : manualReset = false → c.eventState.isSignaled.toNat + e.raises.toNat =
      e.observes.toNat + e.clears.toNat + b.toNat)
    (persists : manualReset = true → b = e.leaves?.getD c.eventState.isSignaled) :
    Relays manualReset signaled (h ++ [e]) (c.withEvent s) := by
  have same : (c.withEvent s).eventState = s := rfl
  have shown : s.isSignaled = b := by rw [words, isSignaled_flagWord]
  refine ⟨inv.kind, by rw [same, shown, words], fun auto => ?_, fun manual => ?_⟩
  · have before := inv.once auto
    have moved := once auto
    have one (p : Entry → Bool) : (h ++ [e]).countP p = h.countP p + (p e).toNat := by
      rw [List.countP_append, List.countP_singleton]
      cases p e <;> rfl
    rw [same, shown, one, one, one]
    omega
  · rw [same, shown, persists manual, leftSignaled_concat, inv.persists manual]

theorem quiet (inv : Relays manualReset signaled h c) {e : Entry} (quiet : e.IsQuiet) :
    Relays manualReset signaled (h ++ [e]) c := by
  have next := inv.next (e := e) inv.words (fun _ => ?_) fun _ => ?_
  · exact next
  · rw [quiet.raises, quiet.observes, quiet.clears]
    simp
  · rw [quiet.leaves]
    rfl

theorem polled (inv : Relays manualReset signaled h c) {e : Entry} (raises : e.raises = false)
    (observes : e.observes = c.eventState.isSignaled) (clears : e.clears = false)
    (leaves : e.leaves? = none) :
    Relays manualReset signaled (h ++ [e]) (c.withEvent (EventCall.poll.step c.eventState).2) := by
  refine inv.next (b := manualReset && c.eventState.isSignaled) ?_ (fun auto => ?_)
    fun manual => ?_
  · rw [inv.words]
    simp only [EventCall.step, isManualReset_flagWord, isSignaled_flagWord]
    cases manualReset <;> rfl
  · rw [raises, observes, clears, auto]
    simp
  · rw [leaves, manual]
    rfl

theorem step (inv : Relays manualReset signaled h c) {call : Call} (keeps : call ≠ .retire) :
    Relays manualReset signaled (h ++ [⟨call, .ofExcept (call.step c).1⟩]) (call.step c).2 := by
  cases asks : call.onEvent? with
  | none =>
    have same : (call.step c).2 = c :=
      Call.step_of_not_touches inv.kind (by decide) (Call.not_touches_event keeps asks)
    rw [same]
    cases call with
    | event | tryWait => cases asks
    | _ => exact inv.quiet ⟨rfl, rfl, rfl, rfl⟩
  | some ec =>
    -- what the entry says of signals hangs on the call and on the word before it
    rw [Call.step_onEvent inv.kind asks]
    cases call with
    | event call =>
      cases asks
      rw [Call.step_event_answer inv.kind]
      cases ec with
      | signal =>
        refine inv.next (b := true) ?_ (fun auto => ?_) fun manual => rfl
        · rw [inv.words]
          rfl
        · cases before : c.eventState.isSignaled <;>
            simp [Entry.raises, Entry.observes, Entry.clears, Entry.answer?, EventCall.step, before,
              Outcome.ofExcept, Outcome.answer?]
      | reset =>
        refine inv.next (b := false) ?_ (fun auto => ?_) fun manual => rfl
        · rw [inv.words]
          rfl
        · cases before : c.eventState.isSignaled <;>
            simp [Entry.raises, Entry.observes, Entry.clears, Entry.answer?, EventCall.step, before,
              Outcome.ofExcept, Outcome.answer?]
      | poll =>
        refine inv.polled rfl ?_ rfl rfl
        cases before : c.eventState.isSignaled <;>
          simp [Entry.observes, Entry.answer?, EventCall.step, before, Outcome.ofExcept,
            Outcome.answer?]
      | state => exact inv.quiet ⟨rfl, rfl, rfl, rfl⟩
    | tryWait requester =>
      cases asks
      rw [Call.step_tryWait_event inv.kind]
      refine inv.polled rfl ?_ rfl rfl
      cases before : c.eventState.isSignaled <;> rfl
    | _ => cases asks

theorem turn (inv : Relays manualReset signaled h c) {t : Turn} (keeps : t.call ≠ .retire) :
    Relays manualReset signaled (h ++ [(t.take c).1]) (t.take c).2 := by
  rcases t.take_cases c with ran | ⟨silent, same⟩
  · rw [ran]
    exact inv.step keeps
  · rw [same]
    exact inv.quiet (Entry.isQuiet_of_silent silent)

theorem run (inv : Relays manualReset signaled [] c) {turns : List Turn}
    (keep : ∀ t ∈ turns, t.call ≠ .retire) :
    Relays manualReset signaled (runTurns c turns).1 (runTurns c turns).2 :=
  runTurns_keeps inv fun t mem _ _ before => before.turn (keep t mem)

/-! ## What a call answers and leaves -/

theorem look_outcome (inv : Relays true signaled h c) {t : Turn} (enters : t.Enters) :
    (t.call = .event .poll →
        (t.take c).1.outcome = .value (.flag (leftSignaled signaled h))) ∧
      ∀ requester, t.call = .tryWait requester →
        (t.take c).1.outcome =
          .value (.acquisition (if leftSignaled signaled h then .acquired else .notAvailable)) := by
  rw [Turn.take_of_enters enters, ← inv.persists rfl]
  refine ⟨fun look => ?_, fun requester look => ?_⟩
  · rw [look, Call.step_event_answer inv.kind]
    rfl
  · rw [look, Call.step_tryWait_event inv.kind]
    rfl

theorem look_leaves (inv : Relays true signaled h c) {t : Turn}
    (looks : t.call.onEvent? = some .poll) : (t.take c).2 = c := by
  rcases t.take_cases c with ran | ⟨-, same⟩
  · have manual : c.eventState.isManualReset = true := by
      rw [inv.words, isManualReset_flagWord]
    rw [ran, Call.step_onEvent inv.kind looks]
    simp only [EventCall.step, manual, if_true, Contents.withEvent_eventState]
  · exact same

theorem signal_again (inv : Relays manualReset signaled h c) {t : Turn}
    (signals : t.call = .event .signal) (pending : c.eventState.isSignaled = true) :
    (t.take c).1.raises = false ∧ (t.take c).2 = c := by
  rcases t.take_cases c with ran | ⟨silent, same⟩
  · have stays : (EventCall.signal.step c.eventState).2 = c.eventState := by
      rw [inv.words, pending]
      rfl
    rw [ran, signals, Call.step_onEvent inv.kind rfl, Call.step_event_answer inv.kind, stays,
      EventCall.step, pending]
    exact ⟨rfl, rfl⟩
  · exact ⟨(Entry.isQuiet_of_silent silent).raises, same⟩

end Relays

/-- From its creation until it is retired, an event keeps its mode and is signaled or not. If it
resets by itself, the signals that were raised, with the one it may have been created with, are
those that were observed, those that were cleared, and the one that is pending. With manual reset,
those who look at it find what the last of the creation, the signals and the resets left, and change
nothing. A signal of an event that is signaled adds nothing. -/
theorem event_conserves_signals {manualReset signaled : Bool} {creation : Turn}
    (made : creation.call = .setUp (.event manualReset signaled))
    (succeeded : (creation.take .blank).1.outcome = .value .done) {turns : List Turn}
    (keep : ∀ t ∈ turns, t.call ≠ .retire) {h : List Entry} {c : Contents}
    (ran : runTurns (creation.take .blank).2 turns = (h, c)) :
    c.eventState.manualReset = flagWord manualReset ∧
      (c.eventState.signaled = 0 ∨ c.eventState.signaled = 1) ∧
      (manualReset = false →
        signaled.toNat + h.countP Entry.raises =
          h.countP Entry.observes + h.countP Entry.clears + c.eventState.isSignaled.toNat) ∧
      (manualReset = true → ∀ t : Turn,
        (t.Enters → t.call = .event .poll →
          (t.take c).1.outcome = .value (.flag (leftSignaled signaled h))) ∧
        (t.Enters → ∀ requester, t.call = .tryWait requester →
          (t.take c).1.outcome =
            .value (.acquisition (if leftSignaled signaled h then .acquired else .notAvailable))) ∧
        (t.call.onEvent? = some .poll → (t.take c).2 = c)) ∧
      ∀ t : Turn, t.call = .event .signal → c.eventState.isSignaled = true →
        (t.take c).1.raises = false ∧ (t.take c).2 = c := by
  have inv : Relays manualReset signaled h c := by
    simpa only [ran] using (Relays.start made succeeded).run keep
  refine ⟨congrArg EventState.manualReset inv.words, ?_, inv.once, fun manual t => ?_,
    fun t => inv.signal_again⟩
  · rw [inv.words]
    cases c.eventState.isSignaled
    · exact .inl rfl
    · exact .inr rfl
  · subst manual
    exact ⟨fun enters => (inv.look_outcome enters).1, fun enters => (inv.look_outcome enters).2,
      inv.look_leaves⟩

/-- Two signals before the first look are one; the second look finds nothing, and neither does a
reset after it. -/
theorem two_signals_seen_once :
    ∃ (creation : Turn) (turns : List Turn) (h : List Entry) (c : Contents),
      (creation.call = .setUp (.event false false) ∧
        (creation.take .blank).1.outcome = .value .done ∧
        (∀ t ∈ turns, t.call ≠ .retire) ∧ runTurns (creation.take .blank).2 turns = (h, c)) ∧
      h.map Entry.answer? =
        [some (.flag false), some (.flag true), some (.acquisition .acquired), some (.flag false),
          some (.flag false)] ∧
      false.toNat + h.countP Entry.raises =
        h.countP Entry.observes + h.countP Entry.clears + c.eventState.isSignaled.toNat := by
  have made : (Turn.mk 0 (Guard.hasty 7) (.setUp (.event false false))).call =
      .setUp (.event false false) := rfl
  have succeeded : ((Turn.mk 0 (Guard.hasty 7) (.setUp (.event false false))).take
      .blank).1.outcome = .value .done := rfl
  have ran : runTurns
      ((Turn.mk 0 (Guard.hasty 7) (.setUp (.event false false))).take .blank).2
      [⟨0, Guard.hasty 7, .event .signal⟩, ⟨0, Guard.hasty 8, .event .signal⟩,
        ⟨0, Guard.hasty 9, .tryWait ⟨5⟩⟩, ⟨0, Guard.hasty 7, .event .poll⟩,
        ⟨0, Guard.hasty 8, .event .reset⟩] =
      ([⟨.event .signal, .value (.flag false)⟩, ⟨.event .signal, .value (.flag true)⟩,
        ⟨.tryWait ⟨5⟩, .value (.acquisition .acquired)⟩, ⟨.event .poll, .value (.flag false)⟩,
        ⟨.event .reset, .value (.flag false)⟩], ⟨2, 0, 0, 0⟩) := rfl
  have balance := (event_conserves_signals made succeeded (by simp) ran).2.2.1 rfl
  exact ⟨_, _, _, _, ⟨made, succeeded, by simp, ran⟩, rfl, balance⟩

end Interprocess
