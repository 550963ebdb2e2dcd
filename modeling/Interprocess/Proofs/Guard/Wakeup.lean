import Interprocess.Proofs.Guard.Phases

/-!
# No wake-up is lost

Whoever is parked on the guard word will be woken: the word has the waiters bit, so that the next
release wakes, or somebody has released a word with the bit and is about to wake. The bit is set
before anyone parks, and the kernel compares the word when it puts a participant in the queue; a
takeover keeps the bit; and a word that is free, or claimed afresh, had its bit swapped out by
somebody who has not woken yet. For this it does not matter whether probes are right.
-/

namespace Interprocess

namespace Guard

namespace Contention

variable {ι : Type}

/-- Nobody dies between a release and the wake that goes with it. -/
def WakersLive (s : Contention ι) : Prop := ∀ i, s.stance i = .waking → i ∉ s.dead

def Parked (s : Contention ι) (i : ι) : Prop := ∃ p phase, s.stance i = .parked p phase

/-! ## The invariant -/

/-- Whoever is parked is remembered, by the word or by somebody who is about to wake. -/
structure Remembers (s : Contention ι) : Prop where
  parked : ∀ i, s.Parked i → hasWaiters s.word = true ∨ ∃ j, s.stance j = .waking

theorem Remembers.initial : (Contention.initial : Contention ι).Remembers :=
  ⟨fun _ ⟨_, _, stands⟩ => nomatch stands⟩

theorem not_parked_wakeAll (s : Contention ι) (i : ι) : ¬ s.wakeAll.Parked i := by
  rintro ⟨p, phase, stands⟩
  change (s.stance i).woken = .parked p phase at stands
  cases hs : s.stance i <;> simp [Stance.woken, hs] at stands

variable [DecidableEq ι] {s s' : Contention ι} {i : ι}

theorem parked_write_of_ne {j : ι} {word : UInt32} {stance : Stance} (hne : j ≠ i) :
    (s.write word i stance).Parked j ↔ s.Parked j := by
  simp [Parked, write_stance_of_ne s word stance hne]

/-- A participant that is not about to wake may change the word and its stance, if the waiters bit
stays or it is about to wake now, and if it parks only on a word with the bit. -/
theorem Remembers.write (h : s.Remembers) {word : UInt32} {stance : Stance}
    (notWaking : s.stance i ≠ .waking)
    (kept : hasWaiters s.word = true → hasWaiters word = true ∨ stance = .waking)
    (parks : ∀ p phase, stance = .parked p phase → hasWaiters word = true) :
    (s.write word i stance).Remembers := by
  refine ⟨fun j hj => ?_⟩
  by_cases hji : j = i
  · subst hji
    obtain ⟨p, phase, stands⟩ := hj
    rw [write_stance_self] at stands
    exact .inl (parks p phase stands)
  · rcases h.parked j ((parked_write_of_ne hji).mp hj) with bit | ⟨k, waking⟩
    · rcases kept bit with bit | rfl
      · exact .inl bit
      · exact .inr ⟨i, write_stance_self ..⟩
    · have hki : k ≠ i := fun e => notWaking (e ▸ waking)
      exact .inr ⟨k, (write_stance_of_ne s word stance hki).trans waking⟩

theorem Remembers.stay (h : s.Remembers) {stance : Stance} (notWaking : s.stance i ≠ .waking)
    (up : ∀ p phase, stance ≠ .parked p phase) : (s.put i stance).Remembers :=
  h.write notWaking .inl fun p phase e => absurd e (up p phase)

theorem Remembers.effect (h : s.Remembers) {p : GuardPolicy} {phase next : Phase} {word : UInt32}
    (stands : s.stance i = .claiming p phase) (valid : p.canClaim = true)
    (effect : Effect p phase s.word next word) :
    (s.write word i (.claiming p next)).Remembers := by
  refine h.write (by simp [stands]) (fun bit => .inl ?_) (by simp)
  cases effect with
  | none => exact bit
  | claim free =>
    -- a free word has no bit to lose
    simp [free] at bit
  | takeover => rwa [hasWaiters_takenOver (GuardPolicy.holderId_unflagged valid)]
  | flag => exact hasWaiters_flagged s.word

theorem Remembers.step {e : Event ι} (h : s.Remembers) (fits : s.AllFit) (step : Step s e s') :
    s'.Remembers := by
  cases step with
  | tries p alive stands => exact h.stay (by simp [stands]) (by simp)
  | begins p alive stands => exact h.stay (by simp [stands]) (by simp)
  | succeeds alive stands valid free =>
    exact h.write (by simp [stands]) (by simp [free]) (by simp)
  | fails alive stands => exact h.stay (by simp [stands]) (by simp)
  | asks alive stands wants served =>
    exact h.effect stands ((fits.claiming stands).canClaim wants) (effect_of_served wants served)
  | findsAlive alive stands => exact h.stay (by simp [stands]) (by simp)
  | @findsDead i p phase holder next alive stands =>
    have buried : (s.bury holder).Remembers := ⟨h.parked⟩
    exact buried.stay (by simp [stands, bury]) (by simp)
  | @parks i p phase limit next alive stands wants =>
    have flagged : hasWaiters s.word = true := by
      have promise := (fits.claiming stands).2
      cases phase <;> cases wants
      exact promise
    exact h.write (by simp [stands]) .inl fun _ _ _ => flagged
  | staysUp alive stands => exact h.stay (by simp [stands]) (by simp)
  | rises alive stands => exact h.stay (by simp [stands]) (by simp)
  | leaves alive stands => exact h.stay (by simp [stands]) (by simp)
  | @releases i n alive holds =>
    have notWaking : s.stance i ≠ .waking := fun e => by simp [e, Stance.holder?] at holds
    cases bit : hasWaiters s.word with
    | true => exact h.write notWaking (fun _ => .inr rfl) (by simp)
    | false => exact h.write notWaking (by simp [bit]) (by simp)
  | @wakes i alive stands =>
    -- whoever else is about to wake has nobody left to wake
    refine ⟨fun j hj => ?_⟩
    by_cases hji : j = i
    · subst hji
      obtain ⟨p, phase, parked⟩ := hj
      simp at parked
    · exact absurd ((parked_write_of_ne hji).mp hj) (not_parked_wakeAll s j)
  | dies => exact ⟨h.parked⟩

theorem Remembers.reachable {Trusted : Contention ι → Prop} (h : Reachable Trusted s) :
    s.Remembers := by
  induction h with
  | initial => exact .initial
  | step before step _ ih => exact ih.step (.reachable before) step

/-! ## No lost wake-up -/

/-- If anyone is parked, then the word has the waiters bit, or a live participant has released a
word with the bit and is about to wake. So nobody is parked on a free word that no wake follows. -/
theorem parked_is_remembered (h : Reachable WakersLive s) :
    (∀ i, s.Parked i → hasWaiters s.word = true ∨ ∃ j, s.stance j = .waking ∧ j ∉ s.dead) ∧
      (s.word = 0 → (∀ j, s.stance j ≠ .waking) → ∀ i, ¬ s.Parked i) := by
  have inv := Remembers.reachable h
  refine ⟨fun i parked => ?_, fun free nobody i parked => ?_⟩
  · refine (inv.parked i parked).imp_right ?_
    rintro ⟨j, waking⟩
    exact ⟨j, waking, h.trusted j waking⟩
  · rcases inv.parked i parked with bit | ⟨j, waking⟩
    · simp [free] at bit
    · exact nobody j waking

/-- A participant parks behind a holder, who releases the word and has yet to wake it. -/
theorem parked_behind_releaser :
    ∃ s : Contention Bool, Reachable WakersLive s ∧
      (s.word = 0 ∧ s.Parked true ∧ s.stance false = .waking) ∧
      (∀ i, s.Parked i → hasWaiters s.word = true ∨ ∃ j, s.stance j = .waking ∧ j ∉ s.dead) ∧
      (s.word = 0 → (∀ j, s.stance j ≠ .waking) → ∀ i, ¬ s.Parked i) := by
  have live := fun i => Set.notMem_empty (α := Bool) i
  have start : Reachable WakersLive (initial : Contention Bool) := .initial fun i _ => live i
  have h₁ := start.step (.begins (i := false) (impatient 7) (live _) rfl) fun i _ => live i
  have h₂ := h₁.step (.asks (i := false) (live _) rfl rfl (.exchanged false 7)) fun i _ => live i
  have h₃ := h₂.step (.begins (i := true) (impatient 9) (live _) rfl) fun i _ => live i
  have h₄ := h₃.step (.asks (i := true) (live _) rfl rfl (.kept 9 (.inl (by decide))))
    fun i _ => live i
  have h₅ := h₄.step (.asks (i := true) (live _) rfl rfl (.clock 0)) fun i _ => live i
  have h₆ := h₅.step (.asks (i := true) (live _) rfl rfl .load) fun i _ => live i
  have h₇ := h₆.step (.findsAlive (i := true) (live _) rfl rfl) fun i _ => live i
  have h₈ := h₇.step (.asks (i := true) (live _) rfl rfl (.clock 0)) fun i _ => live i
  have h₉ := h₈.step (.asks (i := true) (live _) rfl rfl (.exchanged false (flagged 7)))
    fun i _ => live i
  have h₁₀ := h₉.step (.parks (i := true) (live _) rfl rfl) fun i _ => live i
  have h₁₁ := h₁₀.step (.releases (i := false) (live _) rfl) fun i _ => live i
  exact ⟨_, h₁₁, ⟨rfl, ⟨_, _, rfl⟩, rfl⟩, parked_is_remembered h₁₁⟩

end Contention

end Guard

end Interprocess
