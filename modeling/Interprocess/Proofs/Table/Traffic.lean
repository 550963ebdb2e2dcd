import Interprocess.Proofs.Table.Objects
import Interprocess.Proofs.Table.Strides

/-!
# A table with many calls in progress

Any number of participants call one table, each through a handle of its own, and the steps of their
calls are interleaved in any order. Between them anybody may use the object in any slot, and the
guards may change hands. What the steps of the calls did to the slots is kept in a history on the
side. Who may take a slot back is left open: anybody, or only those who have it (`Rule`).
-/

namespace Interprocess

/-! ## States -/

/-- A call that a participant is in. -/
structure Ongoing where
  call : Nat
  handle : Table
  errand : Errand

/-- A step of a call: where the call stood, and the slots before and after the step. -/
structure Footprint where
  call : Nat
  errand : Errand
  before : UInt32 → SlotView
  after : UInt32 → SlotView

/-- A table that participants call. -/
structure Traffic (ι : Type) where
  memory : Words
  ongoing : ι → Option Ongoing
  /-- How many calls were begun. -/
  begun : Nat
  /-- The slots that somebody has, and is not about to fill or to take back. -/
  lent : Set UInt32
  history : List Footprint
  /-- The calls that are over, with what they returned. -/
  ended : List (Nat × Yield)

/-- Who fills slots and takes them back. -/
inductive Rule where
  /-- Anybody takes back any slot, and nobody makes an object but in a slot that the same call hands
  out. -/
  | anybody
  /-- Whoever has a slot fills it or takes it back, and does not have it meanwhile. -/
  | users
  deriving DecidableEq

/-- The slot that the caller leaves to a call. -/
def Errand.asks : Errand → Option UInt32
  | sets _ slot false => some slot
  | takesBack slot none _ => some slot
  | _ => none

/-- The slot that the caller has after a call. -/
def Yield.lends : Yield → Option UInt32
  | slot answer => answer.toOption
  | filled place _ => some place
  | freed place (.error _) => some place
  | _ => none

def Rule.Permits (lent : Set UInt32) : Rule → Errand → Prop
  | anybody, .sets .. => False
  | anybody, _ => True
  | users, w => ∀ slot ∈ w.asks, slot ∈ lent

def Op.Progress.phase? {φ α : Type} : Op.Progress φ α → Option φ
  | .next phase => some phase
  | .answer _ => none

def Op.Progress.answer? {φ α : Type} : Op.Progress φ α → Option α
  | .next _ => none
  | .answer a => some a

namespace Traffic

variable {ι : Type}

def initial (m : Words) : Traffic ι where
  memory := m
  ongoing _ := none
  begun := 0
  lent := ∅
  history := []
  ended := []

def views (c : UInt32) (s : Traffic ι) : UInt32 → SlotView := slotViews c s.memory

def callOf (s : Traffic ι) : ι → Option Nat := Option.map Ongoing.call ∘ s.ongoing

section Steps

variable [DecidableEq ι]

def begin (s : Traffic ι) (i : ι) (t : Table) (w : Errand) : Traffic ι :=
  { s with
    ongoing := Function.update s.ongoing i (some ⟨s.begun, t, w⟩)
    begun := s.begun + 1
    lent := {slot ∈ s.lent | w.asks ≠ some slot} }

/-- A participant takes a step of its call, which goes on or is over then. -/
def move (c : UInt32) (s : Traffic ι) (i : ι) (o : Ongoing)
    (next : Op.Progress Errand Yield × Words) : Traffic ι :=
  { s with
    memory := next.2
    ongoing := Function.update s.ongoing i (next.1.phase?.map fun w => { o with errand := w })
    lent := s.lent ∪ {slot | next.1.answer?.bind Yield.lends = some slot}
    history := s.history ++ [⟨o.call, o.errand, slotViews c s.memory, slotViews c next.2⟩]
    ended := s.ended ++ (next.1.answer?.map (o.call, ·)).toList }

/-- One step of one participant, on a table with so many slots. -/
inductive Step (c : UInt32) (rule : Rule) : Traffic ι → Traffic ι → Prop where
  | begins {s : Traffic ι} {i : ι} {t : Table} {w : Errand} (idle : s.ongoing i = none)
      (serves : t.Serves c) (starts : w.Starts c) (permits : rule.Permits s.lent w) :
      Step c rule s (s.begin i t w)
  | moves {s : Traffic ι} {i : ι} {o : Ongoing} (busy : s.ongoing i = some o) (fails : Bool) :
      Step c rule s (s.move c i o (o.errand.step o.handle fails s.memory))
  /-- Somebody uses the object in a slot, whoever has the slot. -/
  | uses {s : Traffic ι} {slot : UInt32} {call : Call} (inside : slot < c)
      (makesNone : call.makesObject = false) (lasts : call ≠ .retire) (p : GuardPolicy) :
      Step c rule s { s with
        memory := ((Words.onRecord ((Layout.ofCapacity c).recordIndex slot) (call.op p)).result
          s.memory).2 }
  /-- A guard is claimed or released, or its holder dies. -/
  | guards {s : Traffic ι} {slot : UInt32} (word : UInt32) :
      Step c rule s { s with
        memory := s.memory.setRecord ((Layout.ofCapacity c).recordIndex slot)
          ⟨word, (s.memory.record ((Layout.ofCapacity c).recordIndex slot)).contents⟩ }

def Steps (c : UInt32) (rule : Rule) : Traffic ι → Traffic ι → Prop :=
  Relation.ReflTransGen (Step c rule)

/-- A run, with its steps one after another. -/
inductive Run (c : UInt32) (rule : Rule) (s : Traffic ι) :
    List (Traffic ι × Traffic ι) → Traffic ι → Prop where
  | refl : Run c rule s [] s
  | tail {steps : List (Traffic ι × Traffic ι)} {x y : Traffic ι} (before : Run c rule s steps x)
      (step : Step c rule x y) : Run c rule s (steps ++ [(x, y)]) y

theorem Run.steps {c : UInt32} {rule : Rule} {s s' : Traffic ι}
    {steps : List (Traffic ι × Traffic ι)} (run : Run c rule s steps s') : Steps c rule s s' := by
  induction run with
  | refl => exact .refl
  | tail _ step ih => exact ih.tail step

end Steps

/-! ## Calls in progress -/

section Moves

variable [DecidableEq ι] {s : Traffic ι} {c : UInt32} {i j : ι} {o o' : Ongoing}
  {next : Op.Progress Errand Yield × Words}

theorem ongoing_begin {t : Table} {w : Errand} :
    (s.begin i t w).ongoing j = some o ↔
      (j = i ∧ o = ⟨s.begun, t, w⟩) ∨ (j ≠ i ∧ s.ongoing j = some o) := by
  by_cases own : j = i
  · subst own
    simp [begin, eq_comm]
  · simp [begin, own]

theorem ongoing_move :
    (s.move c i o next).ongoing j = some o' ↔
      (j = i ∧ ∃ w, next.1 = .next w ∧ o' = { o with errand := w }) ∨
        (j ≠ i ∧ s.ongoing j = some o') := by
  by_cases own : j = i
  · subst own
    simp only [move, Function.update_self, ne_eq, not_true, false_and, or_false, true_and]
    cases next.1 with
    | next w => simp [Op.Progress.phase?, eq_comm]
    | answer y => simp [Op.Progress.phase?]
  · simp only [move, Function.update_of_ne own, own, false_and, false_or, ne_eq, not_false_eq_true,
      true_and]

theorem views_move (c : UInt32) (s : Traffic ι) (i : ι) (o : Ongoing)
    (next : Op.Progress Errand Yield × Words) :
    (s.move c i o next).views c = slotViews c next.2 := rfl

theorem mem_history_move {f : Footprint} :
    f ∈ (s.move c i o next).history ↔
      f ∈ s.history ∨ f = ⟨o.call, o.errand, s.views c, slotViews c next.2⟩ := by
  rw [move, List.mem_append, List.mem_singleton]
  rfl

theorem mem_ended_move {n : Nat} {y : Yield} :
    (n, y) ∈ (s.move c i o next).ended ↔
      (n, y) ∈ s.ended ∨ (n = o.call ∧ next.1 = .answer y) := by
  rw [move, List.mem_append]
  cases next.1 with
  | next w => simp [Op.Progress.answer?]
  | answer z => simp [Op.Progress.answer?, eq_comm]

theorem mem_lent_move {slot : UInt32} :
    slot ∈ (s.move c i o next).lent ↔
      slot ∈ s.lent ∨ ∃ y, next.1 = .answer y ∧ y.lends = some slot := by
  cases progress : next.1 with
  | next w => simp [move, progress, Op.Progress.answer?]
  | answer y => simp [move, progress, Op.Progress.answer?]

end Moves

/-- The calls in progress and the calls that are over are different ones, and know what they have
made sure of. -/
structure Orderly (c : UInt32) (s : Traffic ι) : Prop where
  apart : Apart s.callOf (s.ended.map Prod.fst) s.begun
  fits : ∀ i o, s.ongoing i = some o → o.handle.Serves c ∧ o.errand.Fits c
  known : ∀ f ∈ s.history, f.call < s.begun

namespace Orderly

variable {c : UInt32} {rule : Rule} {s s' : Traffic ι} {i j : ι} {o o' : Ongoing}

theorem initial (c : UInt32) (m : Words) : (initial m : Traffic ι).Orderly c where
  apart := ⟨nofun, nofun, nofun, nofun, List.nodup_nil⟩
  fits _ _ busy := absurd busy (Option.some_ne_none _).symm
  known _ mem := absurd mem List.not_mem_nil

theorem callOf_of_busy (busy : s.ongoing i = some o) : s.callOf i = some o.call := by
  rw [callOf, Function.comp_apply, busy]
  rfl

theorem strides (h : s.Orderly c) (busy : s.ongoing i = some o) (fails : Bool) :
    o.errand.Strides c (s.views c) (o.errand.step o.handle fails s.memory).1
      (slotViews c (o.errand.step o.handle fails s.memory).2) := by
  obtain ⟨serves, fits⟩ := h.fits i o busy
  exact Errand.strides serves fits fails s.memory

theorem call_ne (h : s.Orderly c) (busy : s.ongoing i = some o) (busy' : s.ongoing j = some o')
    (other : j ≠ i) : o'.call ≠ o.call := by
  intro same
  exact other (h.apart.alone j i _ (callOf_of_busy busy') (same ▸ callOf_of_busy busy))

theorem call_ne_past (h : s.Orderly c) (busy : s.ongoing i = some o) {n : Nat} {y : Yield}
    (past : (n, y) ∈ s.ended) : n ≠ o.call := by
  rintro rfl
  exact h.apart.fresh i _ (callOf_of_busy busy) (List.mem_map_of_mem past)

theorem call_lt (h : s.Orderly c) (busy : s.ongoing i = some o) : o.call < s.begun :=
  h.apart.below i _ (callOf_of_busy busy)

theorem within (h : s.Orderly c) (m : Words) : Orderly c { s with memory := m } :=
  ⟨h.apart, h.fits, h.known⟩

variable [DecidableEq ι]

theorem step (h : s.Orderly c) (step : Step c rule s s') : s'.Orderly c := by
  cases step with
  | @begins i t w idle serves starts =>
    refine ⟨?_, fun j o busy => ?_, fun f mem => Nat.lt_succ_of_lt (h.known f mem)⟩
    · show Apart (Option.map Ongoing.call ∘ Function.update s.ongoing i _) _ _
      rw [Function.comp_update]
      exact h.apart.claim i
    · rcases ongoing_begin.mp busy with ⟨-, rfl⟩ | ⟨-, before⟩
      · exact ⟨serves, starts.fits⟩
      · exact h.fits j o before
  | @moves i o busy fails =>
    have strides := h.strides busy fails
    generalize o.errand.step o.handle fails s.memory = next at strides
    refine ⟨?_, fun j o' busy' => ?_, fun f mem => ?_⟩
    · show Apart (Option.map Ongoing.call ∘ Function.update s.ongoing i _)
        ((s.ended ++ _).map Prod.fst) s.begun
      rw [Function.comp_update, List.map_append]
      obtain ⟨progress, m⟩ := next
      cases progress with
      | next w =>
        show Apart (Function.update s.callOf i (some o.call)) (s.ended.map Prod.fst ++ []) s.begun
        rw [← callOf_of_busy busy, Function.update_eq_self, List.append_nil]
        exact h.apart
      | answer y =>
        show Apart (Function.update s.callOf i none) (s.ended.map Prod.fst ++ [o.call]) s.begun
        exact h.apart.finish (callOf_of_busy busy)
    · rcases ongoing_move.mp busy' with ⟨-, w, goesOn, rfl⟩ | ⟨-, before⟩
      · exact ⟨(h.fits i o busy).1, strides.fits (h.fits i o busy).2 goesOn⟩
      · exact h.fits j o' before
    · rcases mem_history_move.mp mem with old | rfl
      · exact h.known f old
      · exact h.call_lt busy
  | uses | guards => exact h.within _

end Orderly

/-! ## What a call has done -/

/-- The slots that the steps of a call changed in some way, one after another. -/
def doneBy (c : UInt32) (p : SlotView → SlotView → Bool) (s : Traffic ι) (n : Nat) :
    List UInt32 :=
  (s.history.filter fun f => f.call = n).flatMap fun f => slotsWhere c p f.before f.after

/-- What calls have done, judged by where they stand and by what they return. -/
structure Audit (c : UInt32) (p : SlotView → SlotView → Bool) where
  during : Errand → List UInt32 → Prop
  upon : Yield → List UInt32 → Prop
  starts : ∀ {w : Errand}, w.Starts c → during w []
  goesOn : ∀ {v v' : UInt32 → SlotView} {w w' : Errand} {done : List UInt32}, w.Fits c →
    w.Strides c v (.next w') v' → during w done → during w' (done ++ slotsWhere c p v v')
  returns : ∀ {v v' : UInt32 → SlotView} {w : Errand} {y : Yield} {done : List UInt32}, w.Fits c →
    w.Strides c v (.answer y) v' → during w done → upon y (done ++ slotsWhere c p v v')

section Audits

variable {c : UInt32} {p : SlotView → SlotView → Bool} {rule : Rule} {s s' : Traffic ι}

/-- The calls of a run are as an audit says. -/
structure Audit.Agrees (a : Audit c p) (s : Traffic ι) : Prop where
  ongoing : ∀ i o, s.ongoing i = some o → a.during o.errand (s.doneBy c p o.call)
  ended : ∀ n y, (n, y) ∈ s.ended → a.upon y (s.doneBy c p n)

theorem doneBy_within (s : Traffic ι) (m : Words) (n : Nat) :
    doneBy c p { s with memory := m } n = s.doneBy c p n := rfl

theorem Audit.agrees_initial (a : Audit c p) (m : Words) : a.Agrees (initial m : Traffic ι) where
  ongoing _ _ busy := absurd busy (Option.some_ne_none _).symm
  ended _ _ mem := absurd mem List.not_mem_nil

theorem Audit.Agrees.within {a : Audit c p} (h : a.Agrees s) (m : Words) :
    a.Agrees { s with memory := m } :=
  ⟨h.ongoing, h.ended⟩

variable [DecidableEq ι]

theorem doneBy_begin (s : Traffic ι) (i : ι) (t : Table) (w : Errand) (n : Nat) :
    (s.begin i t w).doneBy c p n = s.doneBy c p n := rfl

theorem doneBy_move {i : ι} {o : Ongoing} {next : Op.Progress Errand Yield × Words} :
    (s.move c i o next).doneBy c p o.call =
      s.doneBy c p o.call ++ slotsWhere c p (s.views c) (slotViews c next.2) := by
  simp only [doneBy, move, List.filter_append, List.flatMap_append]
  rw [List.filter_singleton, decide_eq_true rfl]
  exact congrArg (_ ++ ·) (List.append_nil _)

theorem doneBy_move_of_ne {i : ι} {o : Ongoing} {next : Op.Progress Errand Yield × Words} {n : Nat}
    (other : n ≠ o.call) : (s.move c i o next).doneBy c p n = s.doneBy c p n := by
  simp only [doneBy, move, List.filter_append, List.flatMap_append]
  rw [List.filter_singleton, decide_eq_false (Ne.symm other)]
  exact List.append_nil _

theorem Audit.Agrees.step {a : Audit c p} (h : a.Agrees s) (orderly : s.Orderly c)
    (step : Step c rule s s') : a.Agrees s' := by
  cases step with
  | @begins i t w idle serves starts =>
    refine ⟨fun j o busy => ?_, h.ended⟩
    rcases ongoing_begin.mp busy with ⟨-, rfl⟩ | ⟨-, before⟩
    · have nothing : s.history.filter (fun f => f.call = s.begun) = [] :=
        List.filter_eq_nil_iff.mpr fun f mem same =>
          Nat.ne_of_lt (orderly.known f mem) (of_decide_eq_true same)
      show a.during w ((s.history.filter _).flatMap _)
      rw [nothing]
      exact a.starts starts
    · exact h.ongoing j o before
  | @moves i o busy fails =>
    have strides := orderly.strides busy fails
    have fits := (orderly.fits i o busy).2
    have so := h.ongoing i o busy
    generalize o.errand.step o.handle fails s.memory = next at strides
    refine ⟨fun j o' busy' => ?_, fun n y mem => ?_⟩
    · rcases ongoing_move.mp busy' with ⟨-, w, goesOn, rfl⟩ | ⟨other, before⟩
      · rw [doneBy_move]
        exact a.goesOn fits (goesOn ▸ strides) so
      · rw [doneBy_move_of_ne (orderly.call_ne busy before other)]
        exact h.ongoing j o' before
    · rcases mem_ended_move.mp mem with past | ⟨rfl, answers⟩
      · rw [doneBy_move_of_ne (orderly.call_ne_past busy past)]
        exact h.ended n y past
      · rw [doneBy_move]
        exact a.returns fits (answers ▸ strides) so
  | uses | guards => exact h.within _

end Audits

/-! ## Calls that run alone -/

section Alone

variable [DecidableEq ι]

/-- Steps of one participant, while nobody else is called or takes a step. -/
def StepsOf (c : UInt32) (rule : Rule) (i : ι) : Traffic ι → Traffic ι → Prop :=
  Relation.ReflTransGen fun s s' => Step c rule s s' ∧ ∀ j, j ≠ i → s'.ongoing j = s.ongoing j

/-- Since the first state, a participant has gone on with its call, and nobody did anything else. -/
structure RanAlone (i : ι) (n : Nat) (t : Table) (last : Op.Progress Errand Yield × Words)
    (s s' : Traffic ι) : Prop where
  memory : s'.memory = last.2
  ongoing : s'.ongoing = Function.update s.ongoing i (last.1.phase?.map fun w => ⟨n, t, w⟩)
  ended : s'.ended = s.ended ++ (last.1.answer?.map (n, ·)).toList
  begun : s'.begun = s.begun

/-- Since the first state, a call was made and returned, and nobody did anything else. -/
structure Made (y : Yield) (s s' : Traffic ι) : Prop where
  ongoing : s'.ongoing = s.ongoing
  ended : s'.ended = s.ended ++ [(s.begun, y)]
  begun : s'.begun = s.begun + 1

variable {c : UInt32} {rule : Rule} {s s' : Traffic ι} {i : ι} {n : Nat} {t : Table}
  {w : Errand} {last : Op.Progress Errand Yield × Words}

theorem StepsOf.steps (run : StepsOf c rule i s s') : Steps c rule s s' :=
  Relation.ReflTransGen.mono (fun _ _ step => step.1) s s' run

/-- A call that nobody disturbs goes on as it does on a table of its own. -/
theorem StepsOf.of_alone (rule : Rule) (busy : s.ongoing i = some ⟨n, t, w⟩)
    (alone : Errand.Alone t (.next w, s.memory) last) :
    ∃ s', StepsOf c rule i s s' ∧ s.RanAlone i n t last s' := by
  generalize start : ((.next w, s.memory) : Op.Progress Errand Yield × Words) = x at alone
  induction alone generalizing s w with
  | refl =>
    subst start
    refine ⟨s, .refl, rfl, ?_, (List.append_nil _).symm, rfl⟩
    exact (Function.update_eq_self_iff.mpr busy.symm).symm
  | @next w m last rest ih =>
    cases start
    have step : Step c rule s _ := .moves busy false
    rcases ran : w.step t false s.memory with ⟨w' | y, m⟩
    · rw [ran] at step ih
      obtain ⟨s', steps, alone⟩ := ih (s := s.move c i ⟨n, t, w⟩ (.next w', m))
        (Function.update_self ..) rfl
      exact ⟨s', .head ⟨step, fun j other => Function.update_of_ne other ..⟩ steps, alone.memory,
        alone.ongoing.trans (Function.update_idem ..),
        alone.ended.trans (congrArg (· ++ _) (List.append_nil _)), alone.begun⟩
    · rw [ran] at step rest
      cases rest
      exact ⟨_, .single ⟨step, fun j other => Function.update_of_ne other ..⟩, rfl, rfl, rfl, rfl⟩

theorem StepsOf.alone (idle : s.ongoing i = none) (serves : t.Serves c) (starts : w.Starts c)
    (permits : rule.Permits s.lent w) (alone : Errand.Alone t (.next w, s.memory) last) :
    ∃ s', StepsOf c rule i s s' ∧ (s.begin i t w).RanAlone i s.begun t last s' := by
  obtain ⟨s', steps, ran⟩ := StepsOf.of_alone (s := s.begin i t w) rule (Function.update_self ..)
    alone
  have begins : Step c rule s (s.begin i t w) := .begins idle serves starts permits
  exact ⟨s', .head ⟨begins, fun j other => Function.update_of_ne other ..⟩ steps, ran⟩

theorem StepsOf.made {y : Yield} {m : Words} (idle : s.ongoing i = none) (serves : t.Serves c)
    (starts : w.Starts c) (permits : rule.Permits s.lent w)
    (alone : Errand.Alone t (.next w, s.memory) (.answer y, m)) :
    ∃ s', StepsOf c rule i s s' ∧ s.Made y s' ∧ s'.memory = m := by
  obtain ⟨s', steps, ran⟩ := StepsOf.alone idle serves starts permits alone
  refine ⟨s', steps, ⟨?_, ran.ended, ran.begun⟩, ran.memory⟩
  rw [ran.ongoing]
  exact (Function.update_idem ..).trans (Function.update_eq_self_iff.mpr idle.symm)

/-- A creation that nobody disturbs does what it does to the map that the memory stands for. -/
theorem StepsOf.creates {o : ObjectMap c} (rule : Rule) (idle : s.ongoing i = none)
    (serves : t.Serves c) (h : Represents s.memory o) (b : Blueprint) :
    ∃ s', StepsOf c rule i s s' ∧ s.Made (.slot (o.create b).1) s' ∧
      Represents s'.memory (o.create b).2 := by
  obtain ⟨m, creates, next⟩ := serves.create_refines b s.memory o h
  have permits : rule.Permits s.lent (.handsOut (some b) (.look 0)) := by
    cases rule with
    | anybody => trivial
    | users => exact nofun
  obtain ⟨s', steps, made, rfl⟩ := StepsOf.made idle serves (.create b) permits
    (Errand.create_alone creates)
  exact ⟨s', steps, made, next⟩

theorem StepsOf.frees {o : ObjectMap c} (idle : s.ongoing i = none) (serves : t.Serves c)
    (h : Represents s.memory o) (slot : UInt32) :
    ∃ s', StepsOf c .anybody i s s' ∧ s.Made (.freed slot (o.free slot).1) s' ∧
      Represents s'.memory (o.free slot).2 := by
  obtain ⟨m, frees, next⟩ := serves.free_refines slot s.memory o h
  have permits : Rule.anybody.Permits s.lent (.takesBack slot none .check) := trivial
  obtain ⟨s', steps, made, rfl⟩ := StepsOf.made idle serves (.free slot) permits
    (Errand.free_alone none frees)
  exact ⟨s', steps, made, next⟩

end Alone

end Traffic

end Interprocess
