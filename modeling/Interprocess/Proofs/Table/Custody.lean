import Interprocess.Proofs.Table.Traffic

/-!
# Who has a slot

A slot is had by the call that handed it out or was left it, or by a caller, until a call has
cleared its bit. Where callers fill and take back only what they have, nobody else can do so
meanwhile (`Custody`), and no call destroys what another is about to make (`Undisturbed`). That is
what it takes for the records of free slots to be blank (`Clean`).
-/

namespace Interprocess

/-! ## What calls have -/

namespace Errand

/-- The call has handed out the slot just now, or is about to make an object in it. -/
def Acquires (slot : UInt32) : Errand → Prop
  | handsOut _ (.count s) => s = slot
  | sets _ s _ => s = slot
  | _ => False

/-- The call has seen that the slot is handed out, and has not tried to clear its bit yet. -/
def Destroys (slot : UInt32) : Errand → Prop
  | takesBack s _ .retire => s = slot
  | takesBack s _ (.clear _) => s = slot
  | _ => False

/-- The slot is the call's to fill or to take back. -/
def Has (slot : UInt32) : Errand → Prop
  | handsOut _ (.count s) => s = slot
  | sets _ s _ => s = slot
  | takesBack _ _ (.count _) => False
  | takesBack s _ _ => s = slot
  | _ => False

variable {slot : UInt32} {w : Errand}

theorem Acquires.has (h : w.Acquires slot) : w.Has slot := by
  unfold Acquires at h
  split at h <;> first | exact h | cases h

theorem Destroys.has (h : w.Destroys slot) : w.Has slot := by
  unfold Destroys at h
  split at h <;> first | exact h | cases h

theorem Acquires.not_destroys (h : w.Acquires slot) : ¬ w.Destroys slot := by
  unfold Acquires at h
  split at h <;> first | exact id | cases h

theorem Starts.asks {c : UInt32} (starts : w.Starts c) (has : w.Has slot) : w.asks = some slot := by
  cases starts with
  | alloc | create | sweep => cases has
  | fill | free => exact congrArg some has

end Errand

/-- Whether the call has the slot after a step, or has left it to its caller. -/
def Op.Progress.Has (slot : UInt32) : Op.Progress Errand Yield → Prop
  | .next w => w.Has slot
  | .answer y => y.lends = some slot

def Op.Progress.Acquires (slot : UInt32) : Op.Progress Errand Yield → Prop
  | .next w => w.Acquires slot
  | .answer _ => False

namespace Errand.Strides

variable {c slot : UInt32} {v v' : UInt32 → SlotView} {w : Errand} {next : Op.Progress Errand Yield}

theorem has (h : w.Strides c v next v') (has : next.Has slot) :
    (w.Has slot ∧ (v' slot).taken = (v slot).taken) ∨
      ((v slot).taken = false ∧ (v' slot).taken = true) := by
  cases h with
  | waits | finds => exact .inl ⟨has, rfl⟩
  | @seeks object phase phase' before after =>
    cases phase' with
    | count s => exact absurd rfl (after s)
    | look | claim => cases has
  | @full object => cases object <;> cases has
  | claims inside clear =>
    obtain rfl : _ = slot := has
    rw [Function.update_self]
    exact .inr ⟨clear, rfl⟩
  | @counts object =>
    cases object with
    | none => exact .inl ⟨Option.some.inj has, rfl⟩
    | some b => exact .inl ⟨has, rfl⟩
  | @makes b s own =>
    obtain rfl : s = slot := by cases own <;> exact Option.some.inj has
    rw [Function.update_self]
    exact .inl ⟨rfl, rfl⟩
  | @fails b s own =>
    cases own with
    | false => exact .inl ⟨Option.some.inj has, rfl⟩
    | true => exact .inl ⟨has, rfl⟩
  | @misses s failure phase stands =>
    cases failure with
    | none =>
      obtain rfl : s = slot := Option.some.inj has
      rcases stands with rfl | ⟨kind, rfl⟩ <;> exact .inl ⟨rfl, rfl⟩
    | some => cases has
  | @retires s =>
    obtain rfl : s = slot := has
    rw [Function.update_self]
    exact .inl ⟨rfl, rfl⟩
  | @refused s failure =>
    cases failure with
    | none => exact .inl ⟨Option.some.inj has, rfl⟩
    | some => cases has
  | clears => cases has
  | @freed s failure => cases failure <;> cases has
  | @sweeps owner phase next v' strides => cases next <;> cases has

end Errand.Strides

/-! ## What becomes of a slot -/

namespace Errand

/-- What a step of a call makes of a slot. -/
inductive Treats (w : Errand) (slot : UInt32) (x : SlotView) : SlotView → Prop where
  | leaves : w.Treats slot x x
  | claims (stands : ∃ object index current bit, w = handsOut object (.claim index current bit))
      (clear : x.taken = false) : w.Treats slot x ⟨true, x.contents⟩
  | makes {state : ObjectState} (acquires : w.Acquires slot) :
      w.Treats slot x ⟨x.taken, .ofState state⟩
  | retires (destroys : w.Destroys slot) : w.Treats slot x ⟨x.taken, .blank⟩
  | clears {failure : Option SyncError} {kind : Kind}
      (stands : w = takesBack slot failure (.clear kind)) (set : x.taken = true) :
      w.Treats slot x ⟨false, x.contents⟩
  | abandons {owner : ThreadId} {rest : List UInt32} {tally : Table.SweepTally}
      (stands : w = sweeps owner (.abandon slot rest tally)) (held : x.contents.HeldBy owner) :
      w.Treats slot x ⟨x.taken, x.contents.withMutex .abandonedFree⟩

variable {c slot : UInt32} {v v' : UInt32 → SlotView} {w w' : Errand}
  {next : Op.Progress Errand Yield} {x y : SlotView}

theorem Treats.update {s : UInt32} (own : w.Treats s (v s) x) (slot : UInt32) :
    w.Treats slot (v slot) (Function.update v s x slot) := by
  by_cases same : slot = s
  · subst same
    rwa [Function.update_self]
  · rw [Function.update_of_ne same]
    exact .leaves

theorem Strides.treats (h : w.Strides c v next v') (slot : UInt32) :
    w.Treats slot (v slot) (v' slot) := by
  cases h with
  | claims inside clear => exact Treats.update (.claims ⟨_, _, _, _, rfl⟩ clear) slot
  | @makes b s own =>
    have acquires : (sets b s own).Acquires s := rfl
    exact Treats.update (.makes acquires) slot
  | @retires s failure =>
    have destroys : (takesBack s failure .retire).Destroys s := rfl
    exact Treats.update (.retires destroys) slot
  | clears set => exact Treats.update (.clears rfl set) slot
  | sweeps strides =>
    cases strides with
    | abandons held => exact Treats.update (.abandons rfl held) slot
    | _ => exact .leaves
  | _ => exact .leaves

theorem Treats.blank (h : w.Treats slot x y) (blank : x.contents = .blank)
    (other : ¬ w.Acquires slot) : y.contents = .blank := by
  cases h with
  | leaves | claims | clears => exact blank
  | makes acquires => exact absurd acquires other
  | retires => rfl
  | abandons _ held =>
    rw [blank] at held
    exact absurd held (Contents.not_heldBy_blank _)

theorem Treats.clear (h : w.Treats slot x y) (clear : y.taken = false) :
    x.taken = false ∨ ∃ failure kind, w = takesBack slot failure (.clear kind) := by
  cases h with
  | leaves | makes | retires | abandons => exact .inl clear
  | claims => cases clear
  | clears stands => exact .inr ⟨_, _, stands⟩

theorem Strides.retired {failure : Option SyncError} {kind : Kind} (h : w.Strides c v next v')
    (goesOn : next = .next (takesBack slot failure (.clear kind))) :
    (v' slot).contents = .blank ∨ (w = takesBack slot failure (.clear kind) ∧ v' = v) := by
  cases h with
  | waits =>
    cases goesOn
    exact .inr ⟨rfl, rfl⟩
  | retires =>
    cases goesOn
    left
    rw [Function.update_self]
  | @full object | @counts object => cases object <;> cases goesOn
  | @fails b s own => cases own <;> cases goesOn
  | @sweeps owner phase next => cases next <;> cases goesOn
  | seeks | claims | makes | finds | misses | refused | clears | freed => cases goesOn

theorem Strides.acquired (h : w.Strides c v next v') (acquires : next.Acquires slot) :
    (v' slot).taken = true ∨ (w.Acquires slot ∧ v' = v) := by
  cases h with
  | waits => exact .inr ⟨acquires, rfl⟩
  | @seeks object phase phase' before after =>
    cases phase' with
    | count s => exact absurd rfl (after s)
    | look | claim => cases acquires
  | claims =>
    obtain rfl : _ = slot := acquires
    left
    rw [Function.update_self]
  | @full object => cases object <;> cases acquires
  | @counts object =>
    cases object with
    | none => cases acquires
    | some b => exact .inr ⟨acquires, rfl⟩
  | @fails b s own => cases own <;> cases acquires
  | @sweeps owner phase next => cases next <;> cases acquires
  | makes | finds | misses | retires | refused | clears | freed => cases acquires

end Errand

/-! ## What others do -/

/-- The same slots are handed out, and blank records stay blank. -/
structure KeepsSlots (v v' : UInt32 → SlotView) : Prop where
  taken : ∀ slot, (v' slot).taken = (v slot).taken
  blank : ∀ slot, (v slot).contents = .blank → (v' slot).contents = .blank

theorem KeepsSlots.of_eq {v v' : UInt32 → SlotView} (same : v' = v) : KeepsSlots v v' := by
  rw [same]
  exact ⟨fun _ => rfl, fun _ => id⟩

namespace Traffic

variable {ι : Type} {s s' : Traffic ι} {c slot : UInt32} {rule : Rule}

theorem keepsSlots_uses (s : Traffic ι) {call : Call} (inside : slot < c)
    (makesNone : call.makesObject = false) (p : GuardPolicy) :
    KeepsSlots (s.views c) (slotViews c
      ((Words.onRecord ((Layout.ofCapacity c).recordIndex slot) (call.op p)).result
        s.memory).2) := by
  rw [Words.onRecord, Op.result_within, slotViews_setRecord inside]
  refine ⟨fun x => ?_, fun x blank => ?_⟩
  · by_cases own : x = slot
    · rw [own, Function.update_self, views]
    · rw [Function.update_of_ne own, views]
  · by_cases own : x = slot
    · rw [own, Function.update_self]
      rw [own, views, slotViews_of_lt inside] at blank
      generalize s.memory.record _ = r at blank ⊢
      obtain ⟨guard, contents⟩ := r
      obtain rfl : contents = .blank := blank
      exact Call.op_blank makesNone p guard
    · rwa [Function.update_of_ne own]

theorem keepsSlots_guards (s : Traffic ι) (c slot word : UInt32) :
    KeepsSlots (s.views c) (slotViews c
      (s.memory.setRecord ((Layout.ofCapacity c).recordIndex slot)
        ⟨word, (s.memory.record ((Layout.ofCapacity c).recordIndex slot)).contents⟩)) :=
  .of_eq (slotViews_setRecord_same rfl)

/-! ## Custody -/

/-- A participant has the slot for its call, or a caller has it. -/
def Keeps (s : Traffic ι) (slot : UInt32) : Option ι → Prop
  | none => slot ∈ s.lent
  | some i => ∃ o, s.ongoing i = some o ∧ o.errand.Has slot

/-- Nobody else has a slot that somebody has, and its bit is set. -/
structure Custody (c : UInt32) (s : Traffic ι) : Prop where
  alone : ∀ slot k k', s.Keeps slot k → s.Keeps slot k' → k = k'
  taken : ∀ slot k, s.Keeps slot k → (s.views c slot).taken = true

/-- No call is about to destroy what another is about to make. -/
def Undisturbed (s : Traffic ι) : Prop :=
  ∀ i j o o' slot, s.ongoing i = some o → s.ongoing j = some o' → o.errand.Acquires slot →
    ¬ o'.errand.Destroys slot

theorem Custody.initial (c : UInt32) (m : Words) : (initial m : Traffic ι).Custody c := by
  have nobody : ∀ slot k, ¬ (Traffic.initial m : Traffic ι).Keeps slot k := by
    rintro slot (_ | i) keeps
    · exact keeps
    · obtain ⟨o, busy, -⟩ := keeps
      cases busy
  exact ⟨fun slot k _ keeps => absurd keeps (nobody slot k),
    fun slot k keeps => absurd keeps (nobody slot k)⟩

/-- Whoever has a slot alone is not disturbed. -/
theorem Custody.undisturbed (h : s.Custody c) : s.Undisturbed := by
  intro i j o o' slot busy busy' acquires destroys
  have same := h.alone slot (some i) (some j) ⟨o, busy, acquires.has⟩ ⟨o', busy', destroys.has⟩
  obtain rfl : i = j := Option.some.inj same
  obtain rfl : o = o' := Option.some.inj (busy.symm.trans busy')
  exact acquires.not_destroys destroys

theorem Custody.within (h : s.Custody c) {m : Words}
    (keeps : KeepsSlots (s.views c) (slotViews c m)) :
    Custody c { s with memory := m } where
  alone := h.alone
  taken slot k has := (keeps.taken slot).trans (h.taken slot k has)

section Steps

variable [DecidableEq ι]

theorem keeps_begin {i : ι} {t : Table} {w : Errand} {k : Option ι} (starts : w.Starts c)
    (permits : Rule.Permits s.lent .users w) (keeps : (s.begin i t w).Keeps slot k) :
    (k = some i ∧ w.Has slot ∧ s.Keeps slot none) ∨
      (k ≠ some i ∧ s.Keeps slot k ∧ (k = none → ¬ w.Has slot)) := by
  cases k with
  | none => exact .inr ⟨nofun, keeps.1, fun _ has => keeps.2 (starts.asks has)⟩
  | some j =>
    obtain ⟨o, busy, has⟩ := keeps
    rcases ongoing_begin.mp busy with ⟨rfl, rfl⟩ | ⟨other, before⟩
    · exact .inl ⟨rfl, has, permits slot (starts.asks has)⟩
    · exact .inr ⟨fun same => other (Option.some.inj same), ⟨o, before, has⟩, nofun⟩

theorem keeps_move {i : ι} {o : Ongoing} {next : Op.Progress Errand Yield × Words} {k : Option ι}
    (keeps : (s.move c i o next).Keeps slot k) :
    (k = next.1.phase?.map (fun _ => i) ∧ next.1.Has slot) ∨ (k ≠ some i ∧ s.Keeps slot k) := by
  cases k with
  | none =>
    rcases mem_lent_move.mp keeps with before | ⟨y, answers, lends⟩
    · exact .inr ⟨nofun, before⟩
    · rw [answers]
      exact .inl ⟨rfl, lends⟩
  | some j =>
    obtain ⟨o', busy, has⟩ := keeps
    rcases ongoing_move.mp busy with ⟨rfl, w, goesOn, rfl⟩ | ⟨other, before⟩
    · rw [goesOn]
      exact .inl ⟨rfl, has⟩
    · exact .inr ⟨fun same => other (Option.some.inj same), o', before, has⟩

theorem Custody.begin (h : s.Custody c) {i : ι} {t : Table} {w : Errand} (starts : w.Starts c)
    (permits : Rule.Permits s.lent .users w) : (s.begin i t w).Custody c where
  alone slot k k' keeps keeps' := by
    rcases keeps_begin starts permits keeps with ⟨rfl, has, lent⟩ | ⟨-, before, free⟩ <;>
      rcases keeps_begin starts permits keeps' with ⟨rfl, has', lent'⟩ | ⟨-, before', free'⟩
    · rfl
    · exact absurd has (free' (h.alone slot _ _ before' lent))
    · exact absurd has' (free (h.alone slot _ _ before lent'))
    · exact h.alone slot k k' before before'
  taken slot k keeps := by
    rcases keeps_begin starts permits keeps with ⟨-, -, lent⟩ | ⟨-, before, -⟩
    · exact h.taken slot _ lent
    · exact h.taken slot k before

theorem Custody.move (h : s.Custody c) {i : ι} {o : Ongoing} (busy : s.ongoing i = some o)
    {next : Op.Progress Errand Yield × Words}
    (strides : o.errand.Strides c (s.views c) next.1 (slotViews c next.2)) :
    (s.move c i o next).Custody c := by
  -- a slot that the call has now was its own before, or nobody's
  have others : ∀ slot k, next.1.Has slot → k ≠ some i → ¬ s.Keeps slot k := by
    intro slot k has other keeps
    rcases strides.has has with ⟨own, -⟩ | ⟨clear, -⟩
    · exact other (h.alone slot _ _ keeps ⟨o, busy, own⟩)
    · rw [h.taken slot k keeps] at clear
      cases clear
  refine ⟨fun slot k k' keeps keeps' => ?_, fun slot k keeps => ?_⟩
  · rcases keeps_move keeps with ⟨rfl, has⟩ | ⟨other, before⟩ <;>
      rcases keeps_move keeps' with ⟨rfl, has'⟩ | ⟨other', before'⟩
    · rfl
    · exact absurd before' (others slot k' has other')
    · exact absurd before (others slot k has' other)
    · exact h.alone slot k k' before before'
  · by_contra clear
    rw [Bool.not_eq_true] at clear
    rcases keeps_move keeps with ⟨-, has⟩ | ⟨other, before⟩
    · rcases strides.has has with ⟨own, same⟩ | ⟨-, set⟩
      · exact Bool.false_ne_true (clear.symm.trans (same.trans
          (h.taken slot (some i) ⟨o, busy, own⟩)))
      · exact Bool.false_ne_true (clear.symm.trans set)
    · rcases (strides.treats slot).clear clear with before' | ⟨failure, kind, stands⟩
      · rw [h.taken slot k before] at before'
        cases before'
      · exact other (h.alone slot _ _ before ⟨o, busy, stands ▸ rfl⟩)

theorem Custody.step (h : s.Custody c) (orderly : s.Orderly c) (step : Step c .users s s') :
    s'.Custody c := by
  cases step with
  | begins idle serves starts permits => exact h.begin starts permits
  | moves busy fails => exact h.move busy (orderly.strides busy fails)
  | uses inside makesNone lasts p => exact h.within (keepsSlots_uses s inside makesNone p)
  | guards word => exact h.within (keepsSlots_guards s c _ word)

end Steps

/-! ## Records of free slots -/

/-- The records of free slots are blank, and so is a record whose bit is about to be cleared. -/
structure Clean (c : UInt32) (s : Traffic ι) : Prop where
  blank : ∀ slot, (s.views c slot).taken = false → (s.views c slot).contents = .blank
  retired : ∀ i o slot failure kind, s.ongoing i = some o →
    o.errand = .takesBack slot failure (.clear kind) → (s.views c slot).contents = .blank
  acquired : ∀ i o slot, s.ongoing i = some o → o.errand.Acquires slot →
    (s.views c slot).taken = true

namespace Clean

theorem initial (c : UInt32) (m : Words) :
    (initial (Table.layOut (Layout.ofCapacity c) m) : Traffic ι).Clean c := by
  have views : (Traffic.initial (Table.layOut (Layout.ofCapacity c) m) : Traffic ι).views c = _ :=
    slotViews_layOut c m
  refine ⟨fun slot _ => ?_, fun i o slot failure kind busy => ?_, fun i o slot busy => ?_⟩
  · rw [views]
    rfl
  · cases busy
  · cases busy

theorem within (h : s.Clean c) {m : Words} (keeps : KeepsSlots (s.views c) (slotViews c m)) :
    Clean c { s with memory := m } where
  blank slot clear := keeps.blank slot (h.blank slot ((keeps.taken slot).symm.trans clear))
  retired i o slot failure kind busy stands :=
    keeps.blank slot (h.retired i o slot failure kind busy stands)
  acquired i o slot busy acquires := (keeps.taken slot).trans (h.acquired i o slot busy acquires)

variable [DecidableEq ι]

theorem begin (h : s.Clean c) {i : ι} {t : Table} {w : Errand} (starts : w.Starts c)
    (lent : ∀ slot, w.asks = some slot → w.Acquires slot → (s.views c slot).taken = true) :
    (s.begin i t w).Clean c := by
  refine ⟨h.blank, fun j o slot failure kind busy stands => ?_, fun j o slot busy acquires => ?_⟩
  · rcases ongoing_begin.mp busy with ⟨-, rfl⟩ | ⟨-, before⟩
    · obtain rfl : w = _ := stands
      cases starts
    · exact h.retired j o slot failure kind before stands
  · rcases ongoing_begin.mp busy with ⟨-, rfl⟩ | ⟨-, before⟩
    · exact lent slot (starts.asks acquires.has) acquires
    · exact h.acquired j o slot before acquires

theorem move (h : s.Clean c) (calm : s.Undisturbed) {i : ι} {o : Ongoing}
    (busy : s.ongoing i = some o) {next : Op.Progress Errand Yield × Words}
    (strides : o.errand.Strides c (s.views c) next.1 (slotViews c next.2)) :
    (s.move c i o next).Clean c := by
  refine ⟨fun slot clear => ?_, fun j o' slot failure kind busy' stands => ?_,
    fun j o' slot busy' acquires => ?_⟩
  · have treats := strides.treats slot
    rcases treats.clear clear with before | ⟨failure, kind, stands⟩
    · refine treats.blank (h.blank slot before) fun acquires => ?_
      rw [h.acquired i o slot busy acquires] at before
      cases before
    · refine treats.blank (h.retired i o slot failure kind busy stands) fun acquires => ?_
      rw [stands] at acquires
      cases acquires
  · rcases ongoing_move.mp busy' with ⟨-, w, goesOn, rfl⟩ | ⟨other, before⟩
    · obtain rfl : w = _ := stands
      rcases strides.retired goesOn with blank | ⟨same, kept⟩
      · exact blank
      · show (slotViews c next.2 slot).contents = .blank
        rw [kept]
        exact h.retired i o slot failure kind busy same
    · have destroys : o'.errand.Destroys slot := stands ▸ rfl
      exact (strides.treats slot).blank (h.retired j o' slot failure kind before stands)
        fun acquires => calm i j o o' slot busy before acquires destroys
  · rcases ongoing_move.mp busy' with ⟨-, w, goesOn, rfl⟩ | ⟨other, before⟩
    · have acquires : next.1.Acquires slot := goesOn ▸ acquires
      rcases strides.acquired acquires with set | ⟨same, kept⟩
      · exact set
      · show (slotViews c next.2 slot).taken = true
        rw [kept]
        exact h.acquired i o slot busy same
    · by_contra clear
      rw [Bool.not_eq_true] at clear
      rcases (strides.treats slot).clear clear with before' | ⟨failure, kind, stands⟩
      · rw [h.acquired j o' slot before acquires] at before'
        cases before'
      · exact calm j i o' o slot before busy acquires (stands ▸ rfl)

/-- The records of free slots stay blank while no call destroys what another is about to make. -/
theorem step (h : s.Clean c) (calm : s.Undisturbed) (orderly : s.Orderly c)
    (lent : rule = .users → ∀ slot ∈ s.lent, (s.views c slot).taken = true)
    (step : Step c rule s s') : s'.Clean c := by
  cases step with
  | @begins i t w idle serves starts permits =>
    refine h.begin starts fun slot asks acquires => ?_
    cases rule with
    | anybody =>
      cases starts with
      | fill => exact permits.elim
      | alloc | create | free | sweep => cases acquires
    | users => exact lent rfl slot (permits slot asks)
  | moves busy fails => exact h.move calm busy (orderly.strides busy fails)
  | uses inside makesNone lasts p => exact h.within (keepsSlots_uses s inside makesNone p)
  | guards word => exact h.within (keepsSlots_guards s c _ word)

end Clean

/-! ## Runs -/

section Runs

variable [DecidableEq ι] {m : Words}

theorem Steps.custody
    (run : Steps c .users (initial (Table.layOut (Layout.ofCapacity c) m)) s) :
    s.Orderly c ∧ s.Custody c ∧ s.Clean c := by
  induction run with
  | refl => exact ⟨.initial c _, .initial c _, .initial c m⟩
  | tail _ step ih =>
    obtain ⟨orderly, custody, clean⟩ := ih
    exact ⟨orderly.step step, custody.step orderly step,
      clean.step custody.undisturbed orderly (fun _ slot lent => custody.taken slot none lent) step⟩

end Runs

end Traffic

end Interprocess
