import Interprocess.Proofs.Guard.Contention

/-!
# What a contender knows and does

A contender writes to the word in three ways only (`Effect`), and each phase of its claim keeps a
promise about the word that it acts on (`Phase.Fits`). Both are read off the machine once, so that
what is shown of many contenders need not look into it again.
-/

namespace Interprocess

namespace Guard

/-! ## What answered requests do to the word -/

/-- What an answered request of a contender leads to: the phase and the word after it. -/
inductive Effect (p : GuardPolicy) (phase : Phase) (word : UInt32) : Phase → UInt32 → Prop where
  | none {next : Phase} (without : ∀ d, next ≠ .held d) : Effect p phase word next word
  | claim (free : word = 0) : Effect p phase word (.held none) p.holderId
  | takeover {began : Nat} {spins : UInt32} (stands : phase = .takeover began spins word)
      (d : Option UInt32) : Effect p phase word (.held d) (takenOver p.holderId word)
  | flag {began : Nat} {spins : UInt32} {slice : Duration}
      (stands : phase = .flag began spins word slice) :
      Effect p phase word (.park began spins (flagged word) slice) (flagged word)

section Answers

variable {p : GuardPolicy} {phase : Phase} {request : Request} {next : request.Reply → Phase}
  {reply : request.Reply} {word word' : UInt32}

theorem seen_ne_held (began : Nat) (spins current : UInt32) (d : Option UInt32) :
    seen p began spins current ≠ .held d := by
  unfold seen
  split
  · simp
  · split <;> simp

theorem measured_ne_held (began : Nat) (spins current : UInt32) (now : Nat) (d : Option UInt32) :
    measured p began spins current now ≠ .held d := by
  simp only [measured]
  split
  · simp
  · split <;> simp

theorem start_ne_held (p : GuardPolicy) (d : Option UInt32) : Phase.start p ≠ .held d := by
  unfold Phase.start
  split <;> simp

theorem probed_ne_held {holder : UInt32} {next : Bool → Phase}
    (wants : move p phase = .ask (.probe holder) next) (alive : Bool) (d : Option UInt32) :
    next alive ≠ .held d := by
  cases phase <;> cases wants
  cases alive <;> simp

/-- Every write of a contender claims a free word, takes a word over, or flags a word. -/
theorem effect_of_served (wants : move p phase = .ask request next)
    (served : Served word request reply word') : Effect p phase word (next reply) word' := by
  cases phase <;> cases wants
  case attempt =>
    cases served with
    | exchanged => exact .claim rfl
    | kept => exact .none (by simp)
  case begin =>
    cases served
    exact .none (by simp)
  case look began spins =>
    cases served
    exact .none (seen_ne_held began spins word)
  case claim began spins =>
    cases served with
    | exchanged => exact .claim rfl
    | kept => exact .none (by simp)
  case ask => cases served
  case takeover began spins current =>
    cases served with
    | exchanged => exact .takeover rfl _
    | kept => exact .none (by simp)
  case measure began spins current =>
    cases served
    exact .none (measured_ne_held began spins current _)
  case flag began spins current slice =>
    cases served with
    | exchanged => exact .flag rfl
    | kept => exact .none (by simp)
  case park => cases served

end Answers

theorem Stance.holder?_claiming {p : GuardPolicy} {phase : Phase} (without : ∀ d, phase ≠ .held d) :
    (Stance.claiming p phase).holder? = none := by
  cases phase with
  | held d => exact absurd rfl (without d)
  | _ => rfl

/-! ## What the phases promise -/

/-- What a contender knows in a phase: the word that it acts on is not zero, it takes over only from
a holder that a probe called dead, and it parks only on a word with the waiters bit. -/
def Phase.Fits (gone : Set UInt32) : Phase → Prop
  | .ask _ _ current => current ≠ 0
  | .takeover _ _ current => current ≠ 0 ∧ holderOf current ∈ gone
  | .measure _ _ current => current ≠ 0
  | .flag _ _ current _ => current ≠ 0
  | .park _ _ flagged _ => hasWaiters flagged = true
  | _ => True

/-- What holds of a participant in a stance: only a number that a word can carry gets anywhere. -/
def Stance.Fits (gone : Set UInt32) : Stance → Prop
  | .claiming p phase => (phase = .refused ∨ p.canClaim = true) ∧ phase.Fits gone
  | .parked p phase => p.canClaim = true ∧ ∃ began spins, phase = .look began spins
  | _ => True

section Fits

variable {p : GuardPolicy} {phase : Phase} {gone : Set UInt32}

theorem Phase.Fits.mono {gone' : Set UInt32} (sub : gone ⊆ gone') (h : phase.Fits gone) :
    phase.Fits gone' := by
  cases phase with
  | takeover began spins current => exact ⟨h.1, sub h.2⟩
  | _ => exact h

theorem Stance.Fits.mono {stance : Stance} {gone' : Set UInt32} (sub : gone ⊆ gone')
    (h : stance.Fits gone) : stance.Fits gone' := by
  cases stance with
  | claiming p phase => exact ⟨h.1, h.2.mono sub⟩
  | _ => exact h

theorem Stance.Fits.start : (Stance.claiming p (.start p)).Fits gone := by
  cases hc : p.canClaim <;> simp [Stance.Fits, Phase.start, Phase.Fits, hc]

theorem Stance.Fits.canClaim {request : Request} {next : request.Reply → Phase}
    (h : (Stance.claiming p phase).Fits gone) (wants : move p phase = .ask request next) :
    p.canClaim = true := by
  rcases h.1 with rfl | h
  · cases wants
  · exact h

theorem seen_fits (began : Nat) (spins current : UInt32) :
    (seen p began spins current).Fits gone := by
  unfold seen
  split
  · trivial
  · split
    · trivial
    · assumption

theorem measured_fits {began : Nat} {spins current : UInt32} (h : current ≠ 0) (now : Nat) :
    (measured p began spins current now).Fits gone := by
  simp only [measured]
  split
  · trivial
  · split
    · assumption
    · exact h

theorem fits_of_served {request : Request} {next : request.Reply → Phase} {reply : request.Reply}
    {word word' : UInt32} (h : phase.Fits gone) (wants : move p phase = .ask request next)
    (served : Served word request reply word') : (next reply).Fits gone := by
  cases phase <;> cases wants
  case attempt => cases reply <;> trivial
  case begin => trivial
  case look began spins => exact seen_fits began spins _
  case claim => cases reply <;> trivial
  case ask => cases served
  case takeover => cases reply <;> trivial
  case measure began spins current => exact measured_fits h _
  case flag began spins current slice =>
    cases reply with
    | true => exact hasWaiters_flagged current
    | false => trivial
  case park => trivial

theorem fits_of_probed {holder : UInt32} {next : Bool → Phase} (h : phase.Fits gone)
    (wants : move p phase = .ask (.probe holder) next) :
    (next true).Fits gone ∧ (next false).Fits (insert holder gone) := by
  cases phase <;> cases wants
  exact ⟨h, h, Set.mem_insert _ _⟩

theorem look_of_park {expected : UInt32} {limit : Duration} {next : Unit → Phase}
    (wants : move p phase = .ask (.park expected limit) next) :
    ∃ began spins, next () = .look began spins := by
  cases phase <;> cases wants
  exact ⟨_, _, rfl⟩

theorem Stance.holder?_woken {stance : Stance} (fits : stance.Fits gone) :
    stance.woken.holder? = stance.holder? := by
  cases stance with
  | parked p phase =>
    obtain ⟨-, began, spins, rfl⟩ := fits
    rfl
  | _ => rfl

theorem Stance.Fits.woken {stance : Stance} (fits : stance.Fits gone) :
    stance.woken.Fits gone := by
  cases stance with
  | parked p phase =>
    obtain ⟨valid, began, spins, rfl⟩ := fits
    exact ⟨.inr valid, trivial⟩
  | _ => exact fits

theorem Stance.Fits.mode_woken {stance : Stance} (fits : stance.Fits gone) :
    stance.woken.mode = stance.mode := by
  cases stance with
  | parked p phase =>
    obtain ⟨-, began, spins, rfl⟩ := fits
    rfl
  | _ => rfl

end Fits

namespace Contention

variable {ι : Type}

/-- Every participant keeps the promise of its stance. -/
structure AllFit (s : Contention ι) : Prop where
  each : ∀ i, (s.stance i).Fits s.gone

theorem AllFit.initial : (Contention.initial : Contention ι).AllFit := ⟨fun _ => trivial⟩

theorem AllFit.claiming {s : Contention ι} (h : s.AllFit) {i : ι} {p : GuardPolicy} {phase : Phase}
    (stands : s.stance i = .claiming p phase) : (Stance.claiming p phase).Fits s.gone :=
  stands ▸ h.each i

theorem AllFit.bury {s : Contention ι} (h : s.AllFit) (n : UInt32) : (s.bury n).AllFit :=
  ⟨fun i => (h.each i).mono (Set.subset_insert n s.gone)⟩

theorem AllFit.wakeAll {s : Contention ι} (h : s.AllFit) : s.wakeAll.AllFit :=
  ⟨fun i => (h.each i).woken⟩

variable [DecidableEq ι] {s s' : Contention ι} {i : ι}

theorem AllFit.write (h : s.AllFit) {stance : Stance} {word : UInt32}
    (fits : stance.Fits s.gone) : (s.write word i stance).AllFit := by
  refine ⟨fun j => ?_⟩
  by_cases hj : j = i
  · subst hj
    simpa using fits
  · simpa [write_stance_of_ne s word stance hj] using h.each j

theorem AllFit.step {e : Event ι} (h : s.AllFit) (step : Step s e s') : s'.AllFit := by
  cases step with
  | tries p => exact h.write trivial
  | begins p => exact h.write Stance.Fits.start
  | succeeds alive stands valid => exact h.write ⟨.inr valid, trivial⟩
  | fails => exact h.write trivial
  | asks alive stands wants served =>
    have fits := h.claiming stands
    exact h.write ⟨.inr (fits.canClaim wants), fits_of_served fits.2 wants served⟩
  | findsAlive alive stands wants =>
    have fits := h.claiming stands
    exact h.write ⟨.inr (fits.canClaim wants), (fits_of_probed fits.2 wants).1⟩
  | findsDead alive stands wants =>
    have fits := h.claiming stands
    exact (h.bury _).write ⟨.inr (fits.canClaim wants), (fits_of_probed fits.2 wants).2⟩
  | parks alive stands wants =>
    exact h.write ⟨(h.claiming stands).canClaim wants, look_of_park wants⟩
  | staysUp alive stands wants =>
    obtain ⟨began, spins, look⟩ := look_of_park wants
    rw [look]
    exact h.write ⟨.inr ((h.claiming stands).canClaim wants), trivial⟩
  | @rises i p phase alive stands =>
    have fits := h.each i
    rw [stands] at fits
    obtain ⟨valid, began, spins, rfl⟩ := fits
    exact h.write ⟨.inr valid, trivial⟩
  | leaves => exact h.write trivial
  | releases =>
    split
    · exact h.write trivial
    · exact h.write trivial
  | wakes => exact h.wakeAll.write trivial
  | dies => exact ⟨h.each⟩

theorem AllFit.reachable {Trusted : Contention ι → Prop} (h : Reachable Trusted s) : s.AllFit := by
  induction h with
  | initial => exact .initial
  | step _ step _ ih => exact ih.step step

/-! ## Modes -/

/-- A step changes how its participant stands to the word in one of these ways. -/
inductive Shift : Event ι → Stance.Mode → Stance.Mode → Prop where
  | tries (i : ι) (p : GuardPolicy) : Shift (.tries i p) .away .contending
  | begins (i : ι) (p : GuardPolicy) : Shift (.begins i p) .away .contending
  | contends (i : ι) : Shift (.moves i) .contending .contending
  | takes (i : ι) : Shift (.moves i) .contending .has
  | leaves (i : ι) : Shift (.leaves i) .contending .away
  | releases (i : ι) : Shift (.releases i) .has .away
  | wakes (i : ι) : Shift (.wakes i) .away .away
  | dies (i : ι) (mode : Stance.Mode) : Shift (.dies i) mode mode

namespace Shift

variable {m m' : Stance.Mode}

omit [DecidableEq ι]

theorem of_begins {p : GuardPolicy} (h : Shift (.begins i p) m m') :
    m = .away ∧ m' = .contending := by
  cases h
  exact ⟨rfl, rfl⟩

theorem of_moves (h : Shift (.moves i) m m') : m = .contending := by
  cases h <;> rfl

theorem of_leaves (h : Shift (.leaves i) m m') : m = .contending ∧ m' = .away := by
  cases h
  exact ⟨rfl, rfl⟩

theorem of_releases (h : Shift (.releases i) m m') : m = .has ∧ m' = .away := by
  cases h
  exact ⟨rfl, rfl⟩

theorem of_wakes (h : Shift (.wakes i) m m') : m = .away ∧ m' = .away := by
  cases h
  exact ⟨rfl, rfl⟩

theorem of_dies (h : Shift (.dies i) m m') : m' = m := by
  cases h
  rfl

end Shift

omit [DecidableEq ι] in
theorem shift_moves (p : GuardPolicy) (phase : Phase) :
    Shift (.moves i) .contending (Stance.claiming p phase).mode := by
  cases phase with
  | held d => exact .takes i
  | _ => exact .contends i

omit [DecidableEq ι] in
theorem mode_of_wants {p : GuardPolicy} {phase : Phase} {request : Request}
    {next : request.Reply → Phase} (wants : move p phase = .ask request next) :
    (Stance.claiming p phase).mode = .contending := by
  cases phase <;> first | rfl | cases wants

theorem Step.shift {e : Event ι} (step : Step s e s') :
    Shift e (s.stance e.actor).mode (s'.stance e.actor).mode := by
  cases step with
  | @tries i p alive stands => simpa [Event.actor, stands, Stance.mode] using .tries i p
  | @begins i p alive stands =>
    have started : (Stance.claiming p (.start p)).mode = .contending := by
      unfold Phase.start
      split <;> rfl
    simpa [Event.actor, stands, started] using .begins i p
  | @succeeds i p alive stands => simpa [Event.actor, stands, Stance.mode] using .takes i
  | @fails i p alive stands => simpa [Event.actor, stands, Stance.mode] using .leaves i
  | asks alive stands wants served =>
    simpa [Event.actor, stands, mode_of_wants wants] using shift_moves _ _
  | findsAlive alive stands wants =>
    simpa [Event.actor, stands, mode_of_wants wants] using shift_moves _ _
  | findsDead alive stands wants =>
    simpa [Event.actor, stands, mode_of_wants wants] using shift_moves _ _
  | @parks i p phase limit next alive stands wants =>
    simpa [Event.actor, stands, mode_of_wants wants] using .contends i
  | staysUp alive stands wants =>
    simpa [Event.actor, stands, mode_of_wants wants] using shift_moves _ _
  | rises alive stands => simpa [Event.actor, stands, Stance.mode] using shift_moves _ _
  | @leaves i p phase alive stands ends empty =>
    have without : (Stance.claiming p phase).mode = .contending := by
      rw [stands] at empty
      cases phase <;> first | rfl | cases empty
    simpa [Event.actor, stands, without] using .leaves i
  | @releases i n alive holds =>
    have has := Stance.mode_eq_has_iff.mpr ⟨n, holds⟩
    simp only [Event.actor, has, write_stance_self]
    split <;> exact .releases i
  | @wakes i alive stands => simpa [Event.actor, stands, Stance.mode] using .wakes i
  | @dies i alive => exact .dies i _

theorem Step.alive {e : Event ι} (step : Step s e s') : e.actor ∉ s.dead := by
  cases step <;> assumption

theorem Step.mem_dead {e : Event ι} (step : Step s e s') {j : ι} (h : j ∈ s'.dead) :
    j ∈ s.dead ∨ e = .dies j := by
  cases step with
  | dies =>
    rcases h with rfl | h
    · exact .inr rfl
    · exact .inl h
  | _ => exact .inl h

theorem Step.mode_of_ne {e : Event ι} (fits : s.AllFit) (step : Step s e s') {j : ι}
    (h : j ≠ e.actor) : (s'.stance j).mode = (s.stance j).mode := by
  cases step with
  | wakes =>
    exact (congrArg Stance.mode (write_stance_of_ne s.wakeAll _ _ h)).trans (fits.each j).mode_woken
  | dies => rfl
  | _ => exact congrArg Stance.mode (write_stance_of_ne _ _ _ h)

end Contention

end Guard

end Interprocess
