import Interprocess.Proofs.Table.Custody
import Interprocess.Proofs.Table.Usage
import Mathlib.Data.List.Chain

/-!
# Calls that race for a slot

A call that takes a slot back sees first that the slot is handed out, and blanks the record and
clears the bit in steps of their own. Nothing ties the steps together, so all is well just as long
as nobody hands the slot out, or makes an object in it, while a call stands between them
(`Undisturbed`). Then whatever such a call changes it has seen to be handed out, and nobody has
handed it out since (`Timely`). Otherwise the call takes back what somebody else has made meanwhile,
or an object is made in a slot that is free.
-/

namespace Interprocess

/-! ## Slots that are handed out and taken back -/

def SlotView.cleared (x y : SlotView) : Bool := x.taken && !y.taken

theorem SlotView.cleared_self (x : SlotView) : x.cleared x = false := Bool.and_not_self _

theorem SlotView.cleared_iff {x y : SlotView} :
    x.cleared y = true ↔ x.taken = true ∧ y.taken = false := by
  rw [cleared, Bool.and_eq_true, Bool.not_eq_true']

def Footprint.Clears (f : Footprint) (slot : UInt32) : Prop :=
  (f.before slot).cleared (f.after slot) = true

def Footprint.Claims (f : Footprint) (slot : UInt32) : Prop :=
  (f.after slot).cleared (f.before slot) = true

/-- The same slots are handed out before the second step as after the first. -/
def Footprint.Leads (f g : Footprint) : Prop := ∀ slot, (f.after slot).taken = (g.before slot).taken

theorem Footprint.claimed_between {slot : UInt32} {f g : Footprint} {h : List Footprint}
    (chain : List.IsChain Leads (f :: h ++ [g])) (free : (f.after slot).taken = false)
    (set : (g.before slot).taken = true) : ∃ x ∈ h, x.Claims slot := by
  induction h generalizing f with
  | nil =>
    have same := (List.isChain_cons_cons.mp chain).1 slot
    rw [free, set] at same
    cases same
  | cons x h ih =>
    obtain ⟨leads, chain⟩ := List.isChain_cons_cons.mp chain
    have before : (x.before slot).taken = false := (leads slot).symm.trans free
    cases after : (x.after slot).taken with
    | true => exact ⟨x, List.mem_cons_self, SlotView.cleared_iff.mpr ⟨after, before⟩⟩
    | false =>
      obtain ⟨y, mem, claims⟩ := ih chain after
      exact ⟨y, List.mem_cons_of_mem _ mem, claims⟩

/-- In a history the call saw that the slot is handed out, and nobody has handed it out since. -/
def Checked (n : Nat) (slot : UInt32) (h : List Footprint) : Prop :=
  ∃ h₁ f h₂, h = h₁ ++ f :: h₂ ∧ f.call = n ∧
    (∃ failure, f.errand = .takesBack slot failure .check) ∧ (f.before slot).taken = true ∧
    ∀ g ∈ h₂, ¬ g.Claims slot

theorem Checked.concat {n : Nat} {slot : UInt32} {h : List Footprint} (checked : Checked n slot h)
    {g : Footprint} (quiet : ¬ g.Claims slot) : Checked n slot (h ++ [g]) := by
  obtain ⟨h₁, f, h₂, rfl, call, errand, taken, since⟩ := checked
  refine ⟨h₁, f, h₂ ++ [g], List.append_assoc .., call, errand, taken, fun x mem => ?_⟩
  rcases List.mem_append.mp mem with old | new
  · exact since x old
  · rwa [List.mem_singleton.mp new]

/-- The call is about to clear the bit of its slot. -/
def Errand.Clearing : Errand → Prop
  | takesBack _ _ (.clear _) => True
  | _ => False

namespace Errand.Strides

variable {c slot : UInt32} {v v' : UInt32 → SlotView} {w w' : Errand}
  {next : Op.Progress Errand Yield}

theorem acquires_of_claims (h : w.Strides c v next v')
    (claims : (v' slot).cleared (v slot) = true) : next.Acquires slot := by
  obtain ⟨set, clear⟩ := SlotView.cleared_iff.mp claims
  have stands : ∃ object index current bit, w = handsOut object (.claim index current bit) := by
    have treats := h.treats slot
    generalize v' slot = y at treats set
    cases treats with
    | claims stands => exact stands
    | leaves | makes | retires | abandons => exact absurd (clear.symm.trans set) Bool.false_ne_true
    | clears => cases set
  obtain ⟨object, index, current, bit, rfl⟩ := stands
  cases h with
  | waits | seeks | full => exact absurd (clear.symm.trans set) Bool.false_ne_true
  | claims =>
    by_contra other
    rw [Function.update_of_ne (Ne.symm other), clear] at set
    cases set

theorem destroys (h : w.Strides c v (.next w') v') (destroys : w'.Destroys slot) :
    w.Destroys slot ∨ ((∃ failure, w = takesBack slot failure .check) ∧ (v slot).taken = true ∧
      v' = v) := by
  generalize goesOn : Op.Progress.next w' = next at h
  cases h with
  | waits =>
    cases goesOn
    exact .inl destroys
  | finds inside set =>
    cases goesOn
    obtain rfl : _ = slot := destroys
    exact .inr ⟨⟨_, rfl⟩, set, rfl⟩
  | retires =>
    cases goesOn
    exact .inl destroys
  | @full object | @counts object => cases object <;> cases goesOn <;> cases destroys
  | @fails b s own => cases own <;> cases goesOn; cases destroys
  | @sweeps owner phase next => cases next <;> cases goesOn; cases destroys
  | seeks | claims | clears => cases goesOn; cases destroys
  | makes | misses | refused | freed => cases goesOn

/-- A call that takes a slot back changes that slot alone, and only after it has seen that the slot
is handed out. -/
theorem destroys_of_changes {failure : Option SyncError} {phase : Table.FreePhase} {s : UInt32}
    (h : (takesBack slot failure phase).Strides c v next v') (changes : v' s ≠ v s) :
    s = slot ∧ (takesBack slot failure phase).Destroys slot := by
  have treats := h.treats s
  generalize v' s = y at treats changes
  cases treats with
  | leaves => exact absurd rfl changes
  | claims stands =>
    obtain ⟨object, index, current, bit, other⟩ := stands
    cases other
  | makes acquires => cases acquires
  | retires destroys =>
    have own : slot = s := by cases phase <;> first | exact destroys | cases destroys
    exact ⟨own.symm, own ▸ destroys⟩
  | clears stands =>
    cases stands
    exact ⟨rfl, rfl⟩
  | abandons stands => cases stands

theorem clears_of_cleared (h : w.Strides c v next v')
    (cleared : (v slot).cleared (v' slot) = true) :
    ∃ failure kind, w = takesBack slot failure (.clear kind) := by
  obtain ⟨set, clear⟩ := SlotView.cleared_iff.mp cleared
  have treats := h.treats slot
  generalize v' slot = y at treats clear
  cases treats with
  | clears stands => exact ⟨_, _, stands⟩
  | leaves | makes | retires | abandons => exact absurd (clear.symm.trans set) Bool.false_ne_true
  | claims => cases clear

theorem cleared_eq_nil (h : w.Strides c v next v')
    (other : ¬ w.Clearing) : slotsWhere c SlotView.cleared v v' = [] := by
  refine List.filter_eq_nil_iff.mpr fun slot _ cleared => ?_
  obtain ⟨failure, kind, rfl⟩ := h.clears_of_cleared cleared
  exact other trivial

theorem of_refused {e : SyncError} (h : w.Strides c v next v')
    (answers : next = .answer (.freed slot (.error e))) :
    e = .invalidSlot slot ∨ w = takesBack slot none .retire := by
  cases h with
  | @misses s failure =>
    cases failure <;> cases answers
    exact .inl rfl
  | @refused s failure =>
    cases failure <;> cases answers
    exact .inr rfl
  | @full object | @counts object => cases object <;> cases answers
  | @makes b s own | @fails b s own => cases own <;> cases answers
  | @freed s failure => cases failure <;> cases answers
  | @sweeps owner phase next => cases next <;> cases answers
  | waits | seeks | claims | finds | retires | clears => cases answers

end Errand.Strides

namespace Traffic

variable {ι : Type} {c : UInt32} {rule : Rule} {s s' : Traffic ι}

/-! ## Histories -/

/-- The steps of a history lead from one to the next, and the last of them to the slots as they
are. -/
structure Linked (c : UInt32) (s : Traffic ι) : Prop where
  chain : s.history.IsChain Footprint.Leads
  last : ∀ f ∈ s.history.getLast?, ∀ slot, (f.after slot).taken = (s.views c slot).taken

theorem Linked.initial (c : UInt32) (m : Words) : (initial m : Traffic ι).Linked c :=
  ⟨List.isChain_nil, fun _ last => absurd last (Option.not_mem_none _)⟩

theorem Linked.within (h : s.Linked c) {m : Words}
    (keeps : KeepsSlots (s.views c) (slotViews c m)) : Linked c { s with memory := m } :=
  ⟨h.chain, fun f mem slot => (h.last f mem slot).trans (keeps.taken slot).symm⟩

theorem Linked.step [DecidableEq ι] (h : s.Linked c) (step : Step c rule s s') : s'.Linked c := by
  cases step with
  | begins => exact ⟨h.chain, h.last⟩
  | moves =>
    refine ⟨List.isChain_append.mpr ⟨h.chain, List.isChain_singleton _, ?_⟩, ?_⟩
    · intro f last g only
      cases only
      exact h.last f last
    · rw [move, List.getLast?_concat]
      rintro f ⟨⟩ slot
      rfl
  | uses inside makesNone lasts p => exact h.within (keepsSlots_uses s inside makesNone p)
  | guards word => exact h.within (keepsSlots_guards s c _ word)

/-- Whoever is to destroy what is in a slot, or has done so, has checked the slot. -/
structure Timely (s : Traffic ι) : Prop where
  ongoing : ∀ i o slot, s.ongoing i = some o → o.errand.Destroys slot →
    Checked o.call slot s.history
  history : ∀ h f, h ++ [f] <+: s.history → ∀ slot failure phase,
    f.errand = .takesBack slot failure phase → ∀ x, f.after x ≠ f.before x →
      x = slot ∧ Checked f.call slot h

theorem Timely.initial (m : Words) : (initial m : Traffic ι).Timely where
  ongoing _ _ _ busy := absurd busy (Option.some_ne_none _).symm
  history h f first := by
    have none := List.prefix_nil.mp first
    exact absurd none (List.append_ne_nil_of_right_ne_nil _ (List.cons_ne_nil _ _))

theorem Timely.within (h : s.Timely) (m : Words) : Timely { s with memory := m } :=
  ⟨h.ongoing, h.history⟩

section Steps

variable [DecidableEq ι]

theorem Timely.move (h : s.Timely) {i : ι} {o : Ongoing} (busy : s.ongoing i = some o)
    {next : Op.Progress Errand Yield × Words}
    (strides : o.errand.Strides c (s.views c) next.1 (slotViews c next.2))
    (calm : (s.move c i o next).Undisturbed) : (s.move c i o next).Timely := by
  -- who is to destroy what is in a slot does not see it handed out
  have quiet : ∀ j o' slot, (s.move c i o next).ongoing j = some o' → o'.errand.Destroys slot →
      ¬ Footprint.Claims ⟨o.call, o.errand, s.views c, slotViews c next.2⟩ slot := by
    intro j o' slot busy' destroys claims
    have acquires := strides.acquires_of_claims claims
    obtain ⟨progress, m⟩ := next
    cases progress with
    | next w =>
      exact calm i j _ o' slot (ongoing_move.mpr (.inl ⟨rfl, w, rfl, rfl⟩)) busy' acquires destroys
    | answer => exact acquires
  refine ⟨fun j o' slot busy' destroys => ?_, ?_⟩
  · have none := quiet j o' slot busy' destroys
    rcases ongoing_move.mp busy' with ⟨-, w, goesOn, rfl⟩ | ⟨other, busy'⟩
    · rw [goesOn] at strides
      rcases strides.destroys destroys with already | ⟨checks, taken, -⟩
      · exact (h.ongoing i o slot busy already).concat none
      · exact ⟨s.history, _, [], rfl, rfl, checks, taken, fun _ mem => absurd mem List.not_mem_nil⟩
    · exact (h.ongoing j o' slot busy' destroys).concat none
  · intro before f first slot failure phase stands x changes
    rcases List.prefix_concat_iff.mp first with all | old
    · obtain ⟨rfl, last⟩ := List.append_inj' all rfl
      cases last
      have stands : o.errand = .takesBack slot failure phase := stands
      rw [stands] at strides
      obtain ⟨rfl, destroys⟩ := strides.destroys_of_changes changes
      exact ⟨rfl, h.ongoing i o _ busy (stands ▸ destroys)⟩
    · exact h.history before f old slot failure phase stands x changes

theorem Timely.step (h : s.Timely) (orderly : s.Orderly c) (step : Step c rule s s')
    (calm : s'.Undisturbed) : s'.Timely := by
  cases step with
  | @begins i t w idle serves starts =>
    refine ⟨fun j o slot busy destroys => ?_, h.history⟩
    rcases ongoing_begin.mp busy with ⟨-, rfl⟩ | ⟨-, before⟩
    · cases starts <;> cases destroys
    · exact h.ongoing j o slot before destroys
  | moves busy fails => exact h.move busy (orderly.strides busy fails) calm
  | uses | guards => exact h.within _

end Steps

/-! ## What the calls answer -/

/-- The call did not take the slot back: the slot was free, or the guard of its record was held. -/
inductive Refuses (slot : UInt32) : SyncError → Prop where
  | free : Refuses slot (.invalidSlot slot)
  | held (holder : UInt32) (waited : Duration) : Refuses slot (.guardTimeout holder waited)

/-- A call clears the bit of a slot just if it takes the slot back. -/
def clears (c : UInt32) : Audit c SlotView.cleared where
  during
    | .takesBack slot _ (.count _), done => done = [slot]
    | _, done => done = []
  upon
    | .freed slot (.ok ()), done => done = [slot]
    | .freed slot (.error e), done => done = [] ∧ Refuses slot e
    | .slot (.error _), _ => True
    | _, done => done = []
  starts starts := by
    cases starts <;> rfl
  goesOn {v v' w w' done} fits strides so := by
    generalize goesOn : Op.Progress.next w' = next at strides
    have none := strides.cleared_eq_nil
    cases strides with
    | waits =>
      cases goesOn
      rwa [slotsWhere_self SlotView.cleared_self, List.append_nil]
    | clears set =>
      cases goesOn
      obtain rfl : done = [] := so
      rw [slotsWhere_update SlotView.cleared_self fits,
        if_pos (SlotView.cleared_iff.mpr ⟨set, rfl⟩)]
      rfl
    | seeks | claims | finds | retires =>
      cases goesOn
      rw [none id, List.append_nil]
      exact so
    | @full object => cases object <;> cases goesOn
    | @counts object =>
      cases object <;> cases goesOn
      rw [none id, List.append_nil]
      exact so
    | @fails b slot own =>
      cases own <;> cases goesOn
      rw [none id, List.append_nil]
      exact so
    | @sweeps owner phase next =>
      cases next <;> cases goesOn
      rw [none id, List.append_nil]
      exact so
    | makes | misses | refused | freed => cases goesOn
  returns {v v' w y done} fits strides so := by
    generalize answers : Op.Progress.answer y = next at strides
    have none := strides.cleared_eq_nil
    cases strides with
    | @full object => cases object <;> cases answers <;> trivial
    | @counts object =>
      cases object <;> cases answers
      rw [none id, List.append_nil]
      exact so
    | @makes b slot own | @fails b slot own =>
      cases own <;> cases answers <;> (rw [none id, List.append_nil]; exact so)
    | @misses slot failure phase stands =>
      obtain rfl : done = [] := by rcases stands with rfl | ⟨kind, rfl⟩ <;> exact so
      cases failure <;> cases answers
      · rw [slotsWhere_self SlotView.cleared_self]
        exact ⟨rfl, .free⟩
      · trivial
    | @refused slot failure =>
      cases failure <;> cases answers
      · rw [none id, List.append_nil]
        exact ⟨so, .held ..⟩
      · trivial
    | @freed slot failure =>
      cases failure <;> cases answers
      · rw [none id, List.append_nil]
        exact so
      · trivial
    | @sweeps owner phase next =>
      cases next <;> cases answers
      rw [none id, List.append_nil]
      exact so
    | waits | seeks | claims | finds | retires | clears => cases answers

/-! ## Every run -/

/-- The calls of a run take back what they have seen to be handed out, and nothing newer. -/
structure FreesRight (c : UInt32) (s : Traffic ι) : Prop where
  /-- The record of a slot whose bit is clear has no tag and no payload. -/
  blank : ∀ slot, (s.views c slot).taken = false → (s.views c slot).contents = .blank
  /-- Between two steps that clear the bit of a slot there is one that hands the slot out. -/
  once : ∀ h₁ f h₂ g slot, h₁ ++ (f :: h₂ ++ [g]) <+: s.history → f.Clears slot → g.Clears slot →
    ∃ x ∈ h₂, x.Claims slot
  /-- A bit is cleared by a call that takes the slot back, and that succeeds. -/
  succeeds : ∀ f ∈ s.history, ∀ slot, f.Clears slot →
    (∃ failure kind, f.errand = .takesBack slot failure (.clear kind)) ∧
      ∀ answer, (f.call, .freed slot answer) ∈ s.ended → answer = .ok ()
  /-- Such a call changes its slot alone, which it has seen to be handed out and nobody has handed
  out since. -/
  timely : ∀ h f, h ++ [f] <+: s.history → ∀ slot failure phase,
    f.errand = .takesBack slot failure phase → ∀ x, f.after x ≠ f.before x →
      x = slot ∧ Checked f.call slot h
  /-- It cleared the bit once if it succeeds, and never if it does not. -/
  returns : ∀ n slot answer, (n, .freed slot answer) ∈ s.ended →
    (answer = .ok () ∧ s.doneBy c SlotView.cleared n = [slot]) ∨
      ∃ e, answer = .error e ∧ Refuses slot e ∧ s.doneBy c SlotView.cleared n = []

/-- What carries this from one step to the next. -/
structure Tidy (c : UInt32) (s : Traffic ι) : Prop where
  orderly : s.Orderly c
  clean : s.Clean c
  linked : s.Linked c
  timely : s.Timely
  agrees : (clears c).Agrees s
  cleared : ∀ f ∈ s.history, ∀ slot, f.Clears slot →
    slot < c ∧ ∃ failure kind, f.errand = .takesBack slot failure (.clear kind)

theorem Tidy.freesRight (h : s.Tidy c) : s.FreesRight c where
  blank := h.clean.blank
  once h₁ f h₂ g slot first clears again := by
    have chain := List.IsChain.prefix h.linked.chain first
    exact Footprint.claimed_between (List.isChain_append.mp chain).2.1
      (SlotView.cleared_iff.mp clears).2 (SlotView.cleared_iff.mp again).1
  succeeds f mem slot clears := by
    obtain ⟨inside, stands⟩ := h.cleared f mem slot clears
    refine ⟨stands, fun answer ended => ?_⟩
    have done : slot ∈ s.doneBy c SlotView.cleared f.call :=
      List.mem_flatMap.mpr ⟨f, List.mem_filter.mpr ⟨mem, decide_eq_true rfl⟩,
        mem_slotsWhere.mpr ⟨inside, clears⟩⟩
    cases answer with
    | ok => rfl
    | error e =>
      have none := (h.agrees.ended _ _ ended).1
      rw [none] at done
      cases done
  timely := h.timely.history
  returns n slot answer ended := by
    have upon := h.agrees.ended _ _ ended
    cases answer with
    | ok => exact .inl ⟨rfl, upon⟩
    | error e => exact .inr ⟨e, rfl, upon.2, upon.1⟩

theorem Tidy.initial (c : UInt32) (m : Words) :
    (initial (Table.layOut (Layout.ofCapacity c) m) : Traffic ι).Tidy c :=
  ⟨.initial c _, .initial c m, .initial c _, .initial _, Audit.agrees_initial _ _,
    fun _ mem => absurd mem List.not_mem_nil⟩

section Runs

variable [DecidableEq ι] {m : Words}

theorem Tidy.step (h : s.Tidy c) (step : Step c rule s s') (calm : s.Undisturbed)
    (calm' : s'.Undisturbed)
    (lent : rule = .users → ∀ slot ∈ s.lent, (s.views c slot).taken = true) : s'.Tidy c where
  orderly := h.orderly.step step
  clean := h.clean.step calm h.orderly lent step
  linked := h.linked.step step
  timely := h.timely.step h.orderly step calm'
  agrees := h.agrees.step h.orderly step
  cleared := by
    cases step with
    | begins | uses | guards => exact h.cleared
    | moves busy fails =>
      intro f mem slot clears
      rcases mem_history_move.mp mem with old | rfl
      · exact h.cleared f old slot clears
      · exact ⟨lt_of_taken (SlotView.cleared_iff.mp clears).1,
          (h.orderly.strides busy fails).clears_of_cleared clears⟩

/-- Steps after each of which no call is about to destroy what another is about to make. -/
def CalmSteps (c : UInt32) (rule : Rule) : Traffic ι → Traffic ι → Prop :=
  Relation.ReflTransGen fun s s' => Step c rule s s' ∧ s'.Undisturbed

omit [DecidableEq ι] in
theorem undisturbed_initial (m : Words) : (initial m : Traffic ι).Undisturbed :=
  fun _ _ _ _ _ busy => absurd busy (Option.some_ne_none _).symm

theorem CalmSteps.undisturbed (run : CalmSteps c rule (initial m) s) : s.Undisturbed := by
  cases run with
  | refl => exact undisturbed_initial m
  | tail _ step => exact step.2

theorem CalmSteps.freesRight
    (run : CalmSteps c .anybody (initial (Table.layOut (Layout.ofCapacity c) m)) s) :
    s.FreesRight c := by
  suffices tidy : s.Tidy c from tidy.freesRight
  induction run with
  | refl => exact .initial c m
  | tail before step ih => exact ih.step step.1 (CalmSteps.undisturbed before) step.2 nofun

theorem Steps.freesRight
    (run : Steps c .users (initial (Table.layOut (Layout.ofCapacity c) m)) s) :
    s.FreesRight c := by
  suffices tidy : s.Tidy c from tidy.freesRight
  induction run with
  | refl => exact .initial c m
  | tail before step ih =>
    have custody := (Steps.custody before).2.1
    have custody' := (Steps.custody (before.tail step)).2.1
    exact ih.step step custody.undisturbed custody'.undisturbed
      fun _ slot lent => custody.taken slot none lent

/-! ### While nobody holds a guard -/

def Unguarded (c : UInt32) (s : Traffic ι) : Prop :=
  ∀ slot, slot < c → (s.memory.record ((Layout.ofCapacity c).recordIndex slot)).guard = 0

/-- Steps before each of which all guards are free. -/
def UnguardedSteps (c : UInt32) (rule : Rule) : Traffic ι → Traffic ι → Prop :=
  Relation.ReflTransGen fun s s' => s.Unguarded c ∧ Step c rule s s'

omit [DecidableEq ι] in
theorem Unguarded.refuses (h : s.Unguarded c) {t : Table} (serves : t.Serves c) {w : Errand}
    (fits : w.Fits c) (fails : Bool) {slot : UInt32} {e : SyncError}
    (answers : (w.step t fails s.memory).1 = .answer (.freed slot (.error e))) :
    e = .invalidSlot slot := by
  refine ((Errand.strides serves fits fails s.memory).of_refused answers).resolve_right ?_
  rintro rfl
  have free : s.memory.record ((Layout.ofCapacity c).recordIndex slot) = ⟨0, _⟩ :=
    congrArg (Record.mk · _) (h slot fits)
  simp only [Errand.step, serves.freeStep_retire_of_free free] at answers
  cases answers

theorem UnguardedSteps.refuses (run : UnguardedSteps c rule (initial m) s) :
    s.Orderly c ∧ ∀ n slot e, (n, .freed slot (.error e)) ∈ s.ended → e = .invalidSlot slot := by
  induction run with
  | refl => exact ⟨.initial c m, fun _ _ _ mem => absurd mem List.not_mem_nil⟩
  | tail _ step ih =>
    obtain ⟨unguarded, step⟩ := step
    obtain ⟨orderly, refuses⟩ := ih
    refine ⟨orderly.step step, fun n slot e ended => ?_⟩
    cases step with
    | begins | uses | guards => exact refuses n slot e ended
    | @moves i o busy fails =>
      rcases mem_ended_move.mp ended with past | ⟨-, answers⟩
      · exact refuses n slot e past
      · obtain ⟨serves, fits⟩ := orderly.fits i o busy
        exact unguarded.refuses serves fits fails answers

/-! ### Runs of few participants -/

theorem StepsOf.calm {i : ι} (run : StepsOf c rule i s s')
    (idle : ∀ j, j ≠ i → s.ongoing j = none) : CalmSteps c rule s s' := by
  suffices both : CalmSteps c rule s s' ∧ ∀ j, j ≠ i → s'.ongoing j = none from both.1
  induction run with
  | refl => exact ⟨.refl, idle⟩
  | @tail x y _ step ih =>
    obtain ⟨calm, idle⟩ := ih
    have only (j : ι) (o : Ongoing) (busy : y.ongoing j = some o) : j = i := by
      by_contra other
      rw [step.2 j other, idle j other] at busy
      cases busy
    have undisturbed : y.Undisturbed := by
      intro j k o o' slot busy busy' acquires destroys
      obtain rfl := (only j o busy).trans (only k o' busy').symm
      obtain rfl := Option.some.inj (busy.symm.trans busy')
      exact acquires.not_destroys destroys
    exact ⟨calm.tail ⟨step.1, undisturbed⟩, fun j other => (step.2 j other).trans (idle j other)⟩

theorem CalmSteps.freed {t : Table} (serves : t.Serves 2) (m : Words) (i j : ι) :
    ∃ s : Traffic ι, CalmSteps 2 .anybody (initial (Table.layOut (Layout.ofCapacity 2) m)) s ∧
      s.ended = [(0, .slot (.ok 0)), (1, .freed 0 (.ok ()))] := by
  obtain ⟨s₁, creation, created, holds⟩ := StepsOf.creates (i := i)
    (s := (initial (Table.layOut (Layout.ofCapacity 2) m) : Traffic ι)) .anybody rfl serves
    (Table.represents_layOut 2 m) (.mutex none)
  obtain ⟨s₂, freeing, freed, -⟩ := StepsOf.frees (i := j) (congrFun created.ongoing j) serves
    holds 0
  refine ⟨s₂, (creation.calm fun _ _ => rfl).trans (freeing.calm fun k _ => ?_), ?_⟩
  · exact congrFun created.ongoing k
  · rw [freed.ended, created.ended, created.begun]
    rfl

/-- Of three participants, one has seen that a slot is handed out, to a mutex. The second takes the
slot back, the third makes an event there, and then the first takes back the slot with the event. -/
theorem Steps.takes_newer {t : Table} (serves : t.Serves 2) (m : Words) {i j k : ι} (first : i ≠ j)
    (second : i ≠ k) :
    ∃ s₁ s₂ s₃ s₄ : Traffic ι,
      Steps 2 .anybody (initial (Table.layOut (Layout.ofCapacity 2) m)) s₁ ∧
      s₁.ongoing i = some ⟨1, t, .takesBack 0 none .retire⟩ ∧
      Steps 2 .anybody s₁ s₂ ∧ s₂.ended = s₁.ended ++ [(2, .freed 0 (.ok ()))] ∧
      s₂.views 2 0 = .free ∧
      Steps 2 .anybody s₂ s₃ ∧ s₃.ended = s₂.ended ++ [(3, .slot (.ok 0))] ∧
      (∃ e, s₃.views 2 0 = ⟨true, .ofState (.event e)⟩) ∧
      Steps 2 .anybody s₃ s₄ ∧ s₄.ended = s₃.ended ++ [(1, .freed 0 (.ok ()))] ∧
      s₄.views 2 0 = .free := by
  obtain ⟨s₀, run₀, made₀, holds₀⟩ := StepsOf.creates (i := k)
    (s := (initial (Table.layOut (Layout.ofCapacity 2) m) : Traffic ι)) .anybody rfl serves
    (Table.represents_layOut 2 m) (.mutex none)
  -- the first participant checks the slot, and is then overtaken
  have checked := Table.Serves.freeStep_check_of_holds (serves.holds_eq holds₀ 0)
  have checks : Errand.Alone t (.next (.takesBack 0 none .check), s₀.memory)
      (.next (.takesBack 0 none .retire), s₀.memory) := by
    refine .next ?_
    simp only [Errand.step, checked, Op.Progress.among, Op.Progress.map]
    exact .refl
  have permits : Rule.anybody.Permits s₀.lent (.takesBack 0 none .check) := trivial
  obtain ⟨s₁, run₁, stays⟩ := StepsOf.alone (i := i) (congrFun made₀.ongoing i) serves (.free 0)
    permits checks
  have busy₁ : s₁.ongoing = Function.update (fun _ => none) i
      (some ⟨1, t, .takesBack 0 none .retire⟩) := by
    rw [stays.ongoing, made₀.begun]
    show Function.update (Function.update s₀.ongoing i _) i _ = _
    rw [Function.update_idem, made₀.ongoing]
    rfl
  have idle (x : ι) (other : x ≠ i) : s₁.ongoing x = none :=
    (congrFun busy₁ x).trans (Function.update_of_ne other ..)
  have holds₁ : Represents s₁.memory _ := (show s₁.memory = s₀.memory from stays.memory) ▸ holds₀
  obtain ⟨s₂, run₂, made₂, holds₂⟩ := StepsOf.frees (idle j first.symm) serves holds₁ 0
  obtain ⟨s₃, run₃, made₃, holds₃⟩ := StepsOf.creates .anybody
    ((congrFun made₂.ongoing k).trans (idle k second.symm)) serves holds₂ (.event false true)
  have busy₃ : s₃.ongoing i = some ⟨1, t, .takesBack 0 none .retire⟩ := by
    rw [made₃.ongoing, made₂.ongoing, busy₁, Function.update_self]
  obtain ⟨m₄, frees, holds₄⟩ := serves.free_refines 0 _ _ holds₃
  have checked := Table.Serves.freeStep_check_of_holds (serves.holds_eq holds₃ 0)
  rw [Table.free_eq, Op.result_drive_of_next checked] at frees
  obtain ⟨s₄, run₄, goes⟩ := StepsOf.of_alone .anybody busy₃
    (Errand.takesBack_alone none frees)
  have holds₄ : Represents s₄.memory _ := (show s₄.memory = m₄ from goes.memory) ▸ holds₄
  have begun₁ : s₁.begun = 2 := stays.begun.trans (congrArg (· + 1) made₀.begun)
  refine ⟨s₁, s₂, s₃, s₄, run₀.steps.trans run₁.steps, ?_, run₂.steps, ?_,
    slotViews_of_represents holds₂ (by decide), run₃.steps, ?_,
    ⟨_, slotViews_of_represents holds₃ (by decide)⟩, run₄.steps, goes.ended,
    slotViews_of_represents holds₄ (by decide)⟩
  · rw [busy₁, Function.update_self]
  · rw [made₂.ended, begun₁]
    rfl
  · rw [made₃.ended, made₂.begun, begun₁]
    rfl

/-- A slot is handed out for an event. Before the event is made somebody takes the slot back, and
then the event stands in a slot that is free. -/
theorem Steps.fills_free {t : Table} (serves : t.Serves 2) (m : Words) {i j : ι} (apart : j ≠ i) :
    ∃ s : Traffic ι, Steps 2 .anybody (initial (Table.layOut (Layout.ofCapacity 2) m)) s ∧
      s.ended = [(1, .freed 0 (.ok ())), (0, .slot (.ok 0))] ∧
      ∃ e, s.views 2 0 = ⟨false, .ofState (.event e)⟩ := by
  obtain ⟨m₁, allocs, holds₁⟩ := serves.alloc_refines _ .empty (Table.represents_layOut 2 m)
  generalize Table.layOut (Layout.ofCapacity 2) m = m₀ at allocs
  have claims : Errand.Alone t (.next (.handsOut (some (.event false true)) (.look 0)), m₀)
      (.next (.sets (.event false true) 0 true), m₁) := Errand.alloc_alone (a := .ok 0) .refl allocs
  have permits : Rule.anybody.Permits ∅ (.handsOut (some (.event false true)) (.look 0)) := trivial
  obtain ⟨s₁, run₁, stays⟩ := StepsOf.alone (i := i) (s := (initial m₀ : Traffic ι)) rfl serves
    (.create _) permits claims
  have idle : s₁.ongoing j = none := by
    rw [stays.ongoing, Function.update_of_ne apart]
    exact Function.update_of_ne apart ..
  have holds₁ : Represents s₁.memory _ := (show s₁.memory = m₁ from stays.memory) ▸ holds₁
  obtain ⟨s₂, run₂, made₂, holds₂⟩ := StepsOf.frees idle serves holds₁ 0
  have busy : s₂.ongoing i = some ⟨0, t, .sets (.event false true) 0 true⟩ := by
    rw [made₂.ongoing, stays.ongoing]
    exact Function.update_self ..
  -- the record is blank again, and that is all that is looked at
  have blank : ((ObjectMap.empty : ObjectMap 2).alloc.2.free 0).2.objectAt 0 = .unknown := rfl
  have sets := serves.onRecord_result holds₂ (show 0 < 2 by decide)
    ((Blueprint.event false true).setUp t.policy)
  rw [blank, Blueprint.setUp_blank serves.canClaim] at sets
  have goes : Errand.Alone t (.next (.sets (.event false true) 0 true), s₂.memory)
      (.answer (.slot (.ok 0)), s₂.memory.setRecord ((Layout.ofCapacity 2).recordIndex 0)
        ⟨0, .ofState (.event (Event.firstState false true))⟩) := by
    refine .next ?_
    simp only [Errand.step, sets]
    exact .refl
  obtain ⟨s₃, run₃, ends⟩ := StepsOf.of_alone .anybody busy goes
  refine ⟨s₃, (run₁.steps.trans run₂.steps).trans run₃.steps, ?_,
    Event.firstState false true, ?_⟩
  · rw [ends.ended, made₂.ended, stays.ended, stays.begun]
    rfl
  · rw [views, ends.memory, slotViews_setRecord (by decide), Function.update_self,
      slotViews_of_represents holds₂ (by decide)]
    rfl

end Runs

end Traffic

open Traffic in
/-- From the moment that a table is made, however the steps of the calls on it are interleaved: as
long as nobody hands out a slot or makes an object in it while a call stands between its look at the
slot and the clear of its bit, calls take back what they have looked at and nothing newer, once for
each time it is handed out, and records of free slots are blank. So it is always if slots are filled
and taken back by those who have them. A call that cannot take a slot back while the guards are free
is told that the slot is. -/
theorem calm_frees_take_nothing_newer {ι : Type} [DecidableEq ι] {region : Region}
    {settings : TableSettings} {m m₀ : Words} {t : Table}
    (made : (Table.create region settings).result m = (.value t, m₀)) :
    (∀ s : Traffic ι, CalmSteps settings.capacity .anybody (initial m₀) s →
        s.FreesRight settings.capacity) ∧
      (∀ s : Traffic ι, Steps settings.capacity .users (initial m₀) s →
        s.FreesRight settings.capacity) ∧
      ∀ (rule : Rule) (s : Traffic ι), UnguardedSteps settings.capacity rule (initial m₀) s →
        ∀ n slot e, (n, .freed slot (.error e)) ∈ s.ended → e = .invalidSlot slot := by
  obtain ⟨valid, fits⟩ := Table.of_create made
  rw [Table.create_result valid fits] at made
  cases made
  exact ⟨fun _ => CalmSteps.freesRight, fun _ => Steps.freesRight,
    fun _ _ run => (UnguardedSteps.refuses run).2⟩

open Traffic in
/-- One participant makes a mutex, and another takes the slot back. -/
theorem slot_of_other_taken_back :
    ∃ (region : Region) (settings : TableSettings) (t : Table) (m₀ : Words) (s : Traffic Bool),
      (Table.create region settings).result Words.zero = (.value t, m₀) ∧
      CalmSteps settings.capacity .anybody (initial m₀) s ∧
      s.ended = [(0, .slot (.ok 0)), (1, .freed 0 (.ok ()))] ∧
      s.FreesRight settings.capacity := by
  have made : (Table.create { (default : Region) with size := 128 } ⟨2, Guard.hasty 7⟩).result
      Words.zero = (.value ⟨_, _, _⟩, _) := Table.create_result rfl (by decide) Words.zero
  have serves : Table.Serves 2 ⟨default, .ofCapacity 2, Guard.hasty 7⟩ := ⟨rfl, rfl⟩
  obtain ⟨s, run, ended⟩ := CalmSteps.freed serves Words.zero true false
  exact ⟨_, _, _, _, s, made, run, ended, (calm_frees_take_nothing_newer made).1 s run⟩

open Traffic in
/-- The calls on one slot race. A call that has seen a mutex in the slot takes back the event that
was made there after the mutex was gone, and succeeds. And an event is made in a slot that was taken
back meanwhile: its bit is clear, and its record is not blank. -/
theorem racing_free_takes_newer_object :
    ∃ (region : Region) (settings : TableSettings) (t : Table) (m₀ : Words),
      (Table.create region settings).result Words.zero = (.value t, m₀) ∧
      (∃ s₁ s₂ s₃ s₄ : Traffic (Fin 3),
        Steps settings.capacity .anybody (initial m₀) s₁ ∧
        s₁.ongoing 0 = some ⟨1, t, .takesBack 0 none .retire⟩ ∧
        Steps settings.capacity .anybody s₁ s₂ ∧
        s₂.ended = s₁.ended ++ [(2, .freed 0 (.ok ()))] ∧
        s₂.views settings.capacity 0 = .free ∧
        Steps settings.capacity .anybody s₂ s₃ ∧
        s₃.ended = s₂.ended ++ [(3, .slot (.ok 0))] ∧
        (∃ e, s₃.views settings.capacity 0 = ⟨true, .ofState (.event e)⟩) ∧
        Steps settings.capacity .anybody s₃ s₄ ∧
        s₄.ended = s₃.ended ++ [(1, .freed 0 (.ok ()))] ∧
        s₄.views settings.capacity 0 = .free) ∧
      ∃ s : Traffic (Fin 3), Steps settings.capacity .anybody (initial m₀) s ∧
        s.ended = [(1, .freed 0 (.ok ())), (0, .slot (.ok 0))] ∧
        (∃ e, s.views settings.capacity 0 = ⟨false, .ofState (.event e)⟩) ∧
        ¬ s.FreesRight settings.capacity := by
  have made : (Table.create { (default : Region) with size := 128 } ⟨2, Guard.hasty 7⟩).result
      Words.zero = (.value ⟨_, _, _⟩, _) := Table.create_result rfl (by decide) Words.zero
  have serves : Table.Serves 2
      ⟨{ (default : Region) with size := 128 }, .ofCapacity 2, Guard.hasty 7⟩ := ⟨rfl, rfl⟩
  have takes := Steps.takes_newer serves Words.zero (show (0 : Fin 3) ≠ 1 by decide)
    (show 0 ≠ 2 by decide)
  obtain ⟨s, run, ended, e, view⟩ := Steps.fills_free serves Words.zero
    (show (1 : Fin 3) ≠ 0 by decide)
  refine ⟨_, _, _, _, made, takes, s, run, ended, ⟨e, view⟩, fun right => ?_⟩
  have blank := right.blank 0 (congrArg SlotView.taken view)
  have kind := congrArg Contents.kind ((congrArg SlotView.contents view).symm.trans blank)
  rw [Contents.kind_ofState] at kind
  cases kind

end Interprocess
