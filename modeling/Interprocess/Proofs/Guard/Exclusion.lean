import Interprocess.Proofs.Guard.Phases

/-!
# The guard word excludes

If no probe ever calls a number dead that a live participant uses, then at most one live participant
has the word at a time, and the word names it. Why a takeover is safe although the word is loaded,
its holder asked for and the word exchanged in three steps: the exchange only succeeds on a word
that names the number found dead, a live holder would be named by the word, and nobody who lives
uses that number again.
-/

namespace Interprocess

namespace Guard

namespace Contention

variable {ι : Type}

/-- Probes are not wrong: a number that a probe called dead is used by the dead only, from then
on. -/
def ProbesSound (s : Contention ι) : Prop :=
  ∀ i n, (s.stance i).number? = some n → n ∈ s.gone → i ∈ s.dead

/-- A live participant has the word, under a number. -/
def Has (s : Contention ι) (i : ι) (n : UInt32) : Prop :=
  i ∉ s.dead ∧ (s.stance i).holder? = some n

/-! ## The invariant -/

/-- What every step keeps. -/
structure Exclusive (s : Contention ι) : Prop where
  unique : ∀ i j m n, s.Has i m → s.Has j n → i = j
  named : ∀ i n, s.Has i n → holderOf s.word = n
  formed : s.word = 0 ∨ holderOf s.word ≠ 0

theorem Exclusive.initial : (Contention.initial : Contention ι).Exclusive where
  unique _ _ _ _ hi _ := nomatch hi.2
  named _ _ hi := nomatch hi.2
  formed := .inl rfl

theorem AllFit.holder_ne_zero {s : Contention ι} (fits : s.AllFit) {i : ι} {n : UInt32}
    (has : s.Has i n) : n ≠ 0 := by
  have fits := fits.each i
  have holds := has.2
  revert fits holds
  cases s.stance i with
  | claiming p phase =>
    cases phase with
    | held d =>
      rintro ⟨claims, -⟩ holds
      cases holds
      exact GuardPolicy.holderId_ne_zero (claims.resolve_left (by simp))
    | _ => rintro - ⟨⟩
  | _ => rintro - ⟨⟩

theorem Exclusive.free {s : Contention ι} (h : s.Exclusive) (fits : s.AllFit) (free : s.word = 0)
    (i : ι) (n : UInt32) : ¬ s.Has i n := by
  intro has
  have named := h.named i n has
  rw [free, holderOf_zero] at named
  exact fits.holder_ne_zero has named.symm

theorem Exclusive.abandoned {s : Contention ι} (h : s.Exclusive) (sound : s.ProbesSound)
    (dead : holderOf s.word ∈ s.gone) (i : ι) (n : UInt32) : ¬ s.Has i n := by
  intro has
  rw [h.named i n has] at dead
  exact has.1 (sound i n (Stance.number?_of_holder? has.2) dead)

/-! ## What leaves the word and those who have it alone -/

theorem Exclusive.bury {s : Contention ι} (h : s.Exclusive) (n : UInt32) : (s.bury n).Exclusive :=
  ⟨h.unique, h.named, h.formed⟩

theorem Exclusive.wakeAll {s : Contention ι} (h : s.Exclusive) (fits : s.AllFit) :
    s.wakeAll.Exclusive := by
  have before : ∀ j n, s.wakeAll.Has j n → s.Has j n := fun j n hj =>
    ⟨hj.1, (Stance.holder?_woken (fits.each j)).symm.trans hj.2⟩
  exact ⟨fun j k m n hj hk => h.unique j k m n (before j m hj) (before k n hk),
    fun j n hj => h.named j n (before j n hj), h.formed⟩

theorem Exclusive.kill {s : Contention ι} (h : s.Exclusive) (i : ι) : (s.kill i).Exclusive := by
  have before : ∀ j n, (s.kill i).Has j n → s.Has j n := fun j n hj =>
    ⟨fun dead => hj.1 (Set.mem_insert_of_mem i dead), hj.2⟩
  exact ⟨fun j k m n hj hk => h.unique j k m n (before j m hj) (before k n hk),
    fun j n hj => h.named j n (before j n hj), h.formed⟩

theorem probesSound_of_nobody_gone {s : Contention ι} (h : s.gone = ∅) : s.ProbesSound := by
  intro i n _ gone
  rw [h] at gone
  exact absurd gone (Set.notMem_empty n)

theorem probesSound_of_one_gone {s : Contention ι} {n : UInt32} (h : s.gone = {n})
    (users : ∀ i, (s.stance i).number? = some n → i ∈ s.dead) : s.ProbesSound := by
  intro i m uses gone
  rw [h, Set.mem_singleton_iff] at gone
  exact users i (gone ▸ uses)

variable [DecidableEq ι] {s s' : Contention ι} {i : ι}

theorem has_write_of_ne {j : ι} {n word : UInt32} {stance : Stance} (hne : j ≠ i) :
    (s.write word i stance).Has j n ↔ s.Has j n := by
  simp [Has, write_stance_of_ne s word stance hne]

theorem not_has_write {n word : UInt32} {stance : Stance} (without : stance.holder? = none) :
    ¬ (s.write word i stance).Has i n := by
  simp [Has, without]

/-! ## What a step of one participant keeps -/

/-- A participant that goes to a stance without the word keeps the invariant, if the word still
names whoever else has it. -/
theorem Exclusive.write (h : s.Exclusive) {stance : Stance} {word : UInt32}
    (without : stance.holder? = none) (names : ∀ j n, j ≠ i → s.Has j n → holderOf word = n)
    (formed : word = 0 ∨ holderOf word ≠ 0) : (s.write word i stance).Exclusive := by
  have others : ∀ j n, (s.write word i stance).Has j n → j ≠ i ∧ s.Has j n := fun j n hj => by
    have hne : j ≠ i := fun e => not_has_write without (e ▸ hj)
    exact ⟨hne, (has_write_of_ne hne).mp hj⟩
  refine ⟨fun j k m n hj hk => ?_, fun j n hj => ?_, formed⟩
  · exact h.unique j k m n (others j m hj).2 (others k n hk).2
  · obtain ⟨hne, has⟩ := others j n hj
    exact names j n hne has

theorem Exclusive.stay (h : s.Exclusive) {stance : Stance} (without : stance.holder? = none) :
    (s.put i stance).Exclusive :=
  h.write without (fun j n _ has => h.named j n has) h.formed

theorem Exclusive.take {p : GuardPolicy} {d : Option UInt32} {word : UInt32}
    (valid : p.canClaim = true) (nobody : ∀ j n, ¬ s.Has j n)
    (names : holderOf word = p.holderId) :
    (s.write word i (.claiming p (.held d))).Exclusive := by
  have only : ∀ j n, (s.write word i (.claiming p (.held d))).Has j n → j = i := fun j n hj => by
    by_contra hne
    exact nobody j n ((has_write_of_ne hne).mp hj)
  refine ⟨fun j k m n hj hk => ?_, fun j n hj => ?_, .inr ?_⟩
  · exact (only j m hj).trans (only k n hk).symm
  · obtain rfl := only j n hj
    have held := hj.2
    simp only [write_stance_self, Stance.holder?, Option.some.injEq] at held
    exact names.trans held
  · rw [write_word, names]
    exact GuardPolicy.holderId_ne_zero valid

theorem Exclusive.effect (h : s.Exclusive) (fits : s.AllFit) (sound : s.ProbesSound)
    {p : GuardPolicy} {phase next : Phase} {word : UInt32}
    (stands : s.stance i = .claiming p phase) (valid : p.canClaim = true)
    (effect : Effect p phase s.word next word) :
    (s.write word i (.claiming p next)).Exclusive := by
  have known := (fits.claiming stands).2
  cases effect with
  | none without => exact h.stay (Stance.holder?_claiming without)
  | claim free => exact take valid (h.free fits free) (GuardPolicy.holderOf_holderId valid)
  | takeover phase_eq d =>
    -- the word that was exchanged still names the number that was found dead
    subst phase_eq
    exact take valid (h.abandoned sound known.2)
      (holderOf_takenOver (GuardPolicy.holderId_unflagged valid) s.word)
  | flag phase_eq =>
    -- the waiters bit leaves the holder that the word names alone
    subst phase_eq
    have same := holderOf_flagged s.word
    refine h.write rfl (fun j n _ has => same.trans (h.named j n has)) (.inr ?_)
    rw [same]
    exact h.formed.resolve_left known

theorem Exclusive.step {e : Event ι} (h : s.Exclusive) (fits : s.AllFit) (sound : s.ProbesSound)
    (step : Step s e s') : s'.Exclusive := by
  cases step with
  | tries p => exact h.stay rfl
  | begins p => exact h.stay (Stance.holder?_claiming (start_ne_held p))
  | succeeds alive stands valid free =>
    exact take valid (h.free fits free) (GuardPolicy.holderOf_holderId valid)
  | fails => exact h.stay rfl
  | asks alive stands wants served =>
    exact h.effect fits sound stands ((fits.claiming stands).canClaim wants)
      (effect_of_served wants served)
  | findsAlive alive stands wants =>
    exact h.stay (Stance.holder?_claiming (probed_ne_held wants true))
  | findsDead alive stands wants =>
    exact (h.bury _).stay (Stance.holder?_claiming (probed_ne_held wants false))
  | parks => exact h.stay rfl
  | staysUp alive stands wants =>
    obtain ⟨began, spins, look⟩ := look_of_park wants
    rw [look]
    exact h.stay rfl
  | @rises i p phase alive stands =>
    have promise := fits.each i
    rw [stands] at promise
    obtain ⟨-, began, spins, rfl⟩ := promise
    exact h.stay rfl
  | leaves => exact h.stay rfl
  | @releases i n alive holds =>
    have nobody : ∀ j m, j ≠ i → s.Has j m → holderOf 0 = m := fun j m hne has =>
      absurd (h.unique j i m n has ⟨alive, holds⟩) hne
    split
    · exact h.write rfl nobody (.inl rfl)
    · exact h.write rfl nobody (.inl rfl)
  | wakes => exact (h.wakeAll fits).stay rfl
  | dies => exact h.kill _

theorem Exclusive.reachable (h : Reachable ProbesSound s) : s.Exclusive := by
  induction h with
  | initial => exact .initial
  | step before step _ ih => exact ih.step (.reachable before) before.trusted step

/-! ## Mutual exclusion -/

/-- At most one live participant has the word; if one does, the low 31 bits of the word are its
number; and a word that is not zero names somebody. -/
theorem at_most_one_holder (h : Reachable ProbesSound s) :
    (∀ i j m n, s.Has i m → s.Has j n → i = j) ∧
      (∀ i n, s.Has i n → holderOf s.word = n) ∧
      (s.word = 0 ∨ 1 ≤ holderOf s.word ∧ holderOf s.word ≤ 0x7fffffff) := by
  have inv := Exclusive.reachable h
  refine ⟨inv.unique, inv.named, inv.formed.imp_right fun named => ⟨?_, holderOf_le s.word⟩⟩
  rw [UInt32.le_iff_toNat_le]
  have : (holderOf s.word).toNat ≠ 0 := fun e => named (UInt32.toNat_inj.mp e)
  exact Nat.one_le_iff_ne_zero.mpr this

/-- A participant takes the word over from one that died with it, and has it alone. -/
theorem takeover_has_word_alone :
    ∃ s : Contention Bool, Reachable ProbesSound s ∧ (false ∈ s.dead ∧ s.Has true 9) ∧
      (∀ i j m n, s.Has i m → s.Has j n → i = j) ∧
      (∀ i n, s.Has i n → holderOf s.word = n) ∧
      (s.word = 0 ∨ 1 ≤ holderOf s.word ∧ holderOf s.word ≤ 0x7fffffff) := by
  have nobodyDead := Set.notMem_empty false
  have otherDead : true ∉ insert false (∅ : Set Bool) := by simp
  have start := Reachable.initial (ι := Bool) (probesSound_of_nobody_gone rfl)
  have h₁ := start.step (.begins (i := false) (impatient 7) nobodyDead rfl)
    (probesSound_of_nobody_gone rfl)
  have h₂ := h₁.step (.asks (i := false) nobodyDead rfl rfl (.exchanged false 7))
    (probesSound_of_nobody_gone rfl)
  have h₃ := h₂.step (.dies (i := false) nobodyDead) (probesSound_of_nobody_gone rfl)
  have h₄ := h₃.step (.begins (i := true) (impatient 9) otherDead rfl)
    (probesSound_of_nobody_gone rfl)
  have h₅ := h₄.step (.asks (i := true) otherDead rfl rfl (.kept 9 (.inl (by decide))))
    (probesSound_of_nobody_gone rfl)
  have h₆ := h₅.step (.asks (i := true) otherDead rfl rfl (.clock 0))
    (probesSound_of_nobody_gone rfl)
  have h₇ := h₆.step (.asks (i := true) otherDead rfl rfl .load) (probesSound_of_nobody_gone rfl)
  -- from here on the number 7 is gone, which only the dead participant used
  have users : ∀ s : Contention Bool, s.dead = insert false ∅ →
      (s.stance true).number? = some 9 → ∀ i, (s.stance i).number? = some 7 → i ∈ s.dead := by
    intro s dead uses i h
    cases i with
    | false => simp [dead]
    | true => simp [uses] at h
  have h₈ := h₇.step (.findsDead (i := true) otherDead rfl rfl)
    (probesSound_of_one_gone (n := 7) (insert_empty_eq 7) (users _ rfl rfl))
  have h₉ := h₈.step (.asks (i := true) otherDead rfl rfl (.exchanged false 9))
    (probesSound_of_one_gone (n := 7) (insert_empty_eq 7) (users _ rfl rfl))
  exact ⟨_, h₉, ⟨Set.mem_insert false ∅, otherDead, rfl⟩, at_most_one_holder h₉⟩

end Contention

end Guard

end Interprocess
