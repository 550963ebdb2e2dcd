import Interprocess.Proofs.Guard.Contention
import Interprocess.Proofs.Object.Refusals

/-!
# Histories of a record

Calls on one record, one after another. Each comes with a policy of its own and finds the guard word
as it happens to be by then: free, or left by a holder who lives or is dead. A call that gets the
guard does to the contents what its transition says; one that does not get it answers nothing and
leaves the contents alone (`Turn.take_cases`). The calls and how they ended are the history of the
record. What is said of whole runs compares the history with the contents that the run leaves, and
is proved turn by turn (`runTurns_keeps`).
-/

namespace Interprocess

/-! ## Turns -/

def Outcome.answer? {α : Type} : Outcome α → Option α
  | value a => some a
  | _ => none

theorem Outcome.eq_value_of_answer? {α : Type} {o : Outcome α} {a : α} (h : o.answer? = some a) :
    o = .value a := by
  cases o with
  | value b =>
    cases h
    rfl
  | failed | blocked => cases h

/-- A call by somebody, with the guard word that it finds. -/
structure Turn where
  guard : UInt32
  policy : GuardPolicy
  call : Call

/-- A call that is over, and how it ended. -/
structure Entry where
  call : Call
  outcome : Outcome Answer

namespace Entry

def answer? (e : Entry) : Option Answer := e.outcome.answer?

/-- The call ended without an answer, or with the answer that the object cannot be taken. -/
def Refused (e : Entry) : Prop :=
  e.answer? = none ∨ e.answer? = some (.acquisition .notAvailable)

end Entry

/-- Whether the claim of a guard word ended with the guard. -/
def Guard.Ending.isHeld : Guard.Ending → Bool
  | held _ => true
  | _ => false

/-- A policy that gives up at once when the holder lives. -/
def Guard.hasty (holderId : UInt32) : GuardPolicy :=
  { impatient holderId with timeout := some ⟨0⟩ }

namespace Turn

/-- The caller gets the guard: it is free, or its holder is dead. -/
def Enters (t : Turn) : Prop := (Guard.settle t.policy t.guard).1.isHeld = true

/-- The call on the contents: the entry that it leaves in the history, and the contents after it. -/
def take (t : Turn) (c : Contents) : Entry × Contents :=
  (⟨t.call, ((t.call.op t.policy).result ⟨t.guard, c⟩).1⟩,
    ((t.call.op t.policy).result ⟨t.guard, c⟩).2.contents)

theorem enters_of_free {t : Turn} (free : t.guard = 0) (valid : t.policy.canClaim = true) :
    t.Enters := by
  rw [Enters, free, Guard.settle_free valid]
  rfl

theorem take_of_enters {t : Turn} (enters : t.Enters) (c : Contents) :
    t.take c = (⟨t.call, .ofExcept (t.call.step c).1⟩, (t.call.step c).2) := by
  rw [take, Call.op_result]
  cases hb : t.call.body with
  | error e =>
    rw [Call.step_of_refused hb]
    rfl
  | ok body =>
    simp only [Record.guarded_result, ← Call.body_run hb]
    rcases hs : Guard.settle t.policy t.guard with ⟨ending, word⟩
    rw [Enters, hs] at enters
    cases ending with
    | held d => rfl
    | _ => cases enters

theorem take_of_not_enters {t : Turn} (out : ¬ t.Enters) (c : Contents) :
    (t.take c).1.answer? = none ∧ (t.take c).2 = c := by
  simp only [take, Entry.answer?, Call.op_result]
  cases hb : t.call.body with
  | error e => exact ⟨rfl, rfl⟩
  | ok body =>
    simp only [Record.guarded_result]
    rcases hs : Guard.settle t.policy t.guard with ⟨ending, word⟩
    rw [Enters, hs] at out
    cases ending with
    | held d => exact absurd rfl out
    | _ => exact ⟨rfl, rfl⟩

theorem take_cases (t : Turn) (c : Contents) :
    t.take c = (⟨t.call, .ofExcept (t.call.step c).1⟩, (t.call.step c).2) ∨
      ((t.take c).1.answer? = none ∧ (t.take c).2 = c) := by
  by_cases enters : t.Enters
  · exact .inl (take_of_enters enters c)
  · exact .inr (take_of_not_enters enters c)

theorem take_of_refused {t : Turn} {c : Contents} (refused : (t.take c).1.Refused) :
    (t.take c).2 = c := by
  rcases t.take_cases c with ran | ⟨-, same⟩
  · rw [ran] at refused ⊢
    refine Call.step_refused ?_
    simp only [Entry.Refused, Entry.answer?] at refused
    cases answer : (t.call.step c).1 with
    | error e => exact .inl ⟨e, rfl⟩
    | ok a =>
      rw [answer] at refused
      rcases refused with none | taken
      · cases none
      · exact .inr (congrArg Except.ok (Option.some.inj taken))
  · exact same

theorem take_of_created {t : Turn} {b : Blueprint} {c : Contents} (made : t.call = .setUp b)
    (succeeded : (t.take c).1.outcome = .value .done) :
    c.tag = 0 ∧ ∃ state, b.firstState = .ok state ∧ (t.take c).2 = .ofState state := by
  rcases t.take_cases c with ran | ⟨silent, -⟩
  · rw [ran] at succeeded ⊢
    simp only [made, Call.step] at succeeded ⊢
    cases first : b.firstState with
    | error e =>
      rw [first] at succeeded
      cases succeeded
    | ok state =>
      simp only [first] at succeeded ⊢
      by_cases blank : c.tag = 0
      · rw [if_pos blank]
        exact ⟨blank, state, rfl, rfl⟩
      · rw [if_neg blank] at succeeded
        cases succeeded
  · rw [Entry.answer?, succeeded] at silent
    cases silent

end Turn

/-! ## Runs -/

theorem concat_eq_append_cons {α : Type} {h past since : List α} {e a : α}
    (split : h ++ [e] = past ++ a :: since) :
    (h = past ∧ e = a ∧ since = []) ∨ ∃ older, h = past ++ a :: older ∧ since = older ++ [e] := by
  rcases List.eq_nil_or_concat since with rfl | ⟨older, last, rfl⟩
  · obtain ⟨same, rfl⟩ := List.append_singleton_inj.mp split
    exact .inl ⟨same, rfl, rfl⟩
  · rw [List.concat_eq_append, ← List.cons_append, ← List.append_assoc] at split
    obtain ⟨same, rfl⟩ := List.append_singleton_inj.mp split
    exact .inr ⟨older, same, List.concat_eq_append⟩

/-- Turns one after another: the history, and the contents after it. -/
def runTurns (c : Contents) : List Turn → List Entry × Contents
  | [] => ([], c)
  | t :: rest =>
    ((t.take c).1 :: (runTurns (t.take c).2 rest).1, (runTurns (t.take c).2 rest).2)

/-- What holds at first and is kept by every turn holds of the history and the contents after any
run. -/
theorem runTurns_keeps {P : List Entry → Contents → Prop} {c : Contents} {turns : List Turn}
    {h : List Entry} (start : P h c)
    (keeps : ∀ t ∈ turns, ∀ h c, P h c → P (h ++ [(t.take c).1]) (t.take c).2) :
    P (h ++ (runTurns c turns).1) (runTurns c turns).2 := by
  induction turns generalizing h c with
  | nil => simpa [runTurns] using start
  | cons t rest ih =>
    have next := keeps t List.mem_cons_self h c start
    have last := ih next fun t mem => keeps t (List.mem_cons_of_mem _ mem)
    rwa [List.append_assoc, List.singleton_append] at last

end Interprocess
