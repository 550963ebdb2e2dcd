import Mathlib.Data.List.Induction
import Interprocess.Proofs.Object.History

/-!
# Who holds a mutex, by its history

A tenure begins when somebody takes the free mutex and lasts until the mutex is abandoned or its
holder has given it back as often as they took it. The history alone tells who holds the mutex and
how deep: `tenure` reads it entry by entry, and `tenure_of_lasts` and `tenure_of_ended` say the same
by plain counts of acquisitions and releases.
-/

namespace Interprocess

/-! ## What an entry says of the holder -/

def Call.onMutex? : Call → Option MutexCall
  | mutex c => some c
  | tryWait requester => some (.tryAcquire requester)
  | _ => none

namespace Entry

/-- Who took the mutex, for the first time or again. A mutex may be held from its creation on. -/
def taker? (e : Entry) : Option ThreadId :=
  e.answer?.bind fun
    | .done => match e.call with
      | .setUp (.mutex owner) => owner
      | _ => none
    | .acquisition a => match e.call.onMutex? with
      | some (.tryAcquire requester) => if a.isAcquired then some requester else none
      | _ => none
    | _ => none

/-- Who gave the mutex back once. -/
def giver? (e : Entry) : Option ThreadId :=
  e.answer?.bind fun
    | .level _ => match e.call with
      | .mutex (.release requester) => some requester
      | _ => none
    | _ => none

def abandons (e : Entry) : Bool :=
  e.answer?.any fun
    | .done => match e.call with
      | .mutex .markAbandoned => true
      | _ => false
    | .flag b => match e.call with
      | .mutex (.abandonIfOwnedBy _) => b
      | _ => false
    | _ => false

theorem giver?_of_taker? {e : Entry} {r : ThreadId} (takes : e.taker? = some r) :
    e.giver? = none := by
  cases answered : e.answer? with
  | none => simp only [giver?, answered, Option.bind_none]
  | some a => cases a <;> simp_all [giver?, taker?]

end Entry

/-! ## Tenures -/

/-- How often a holder took a mutex and gave it back since it was last free. -/
structure Tenure where
  holder : ThreadId
  taken : Nat
  given : Nat

def Tenure.depth (t : Tenure) : Nat := t.taken - t.given

/-- The tenure after one more entry. -/
def Entry.tenure (e : Entry) : Option Tenure → Option Tenure
  | none => e.taker?.map fun r => ⟨r, 1, 0⟩
  | some t =>
    if e.abandons then none
    else if e.taker? = some t.holder then some { t with taken := t.taken + 1 }
    else if e.giver? = some t.holder then
      if t.given + 1 = t.taken then none else some { t with given := t.given + 1 }
    else some t

def tenureFrom (start : Option Tenure) (h : List Entry) : Option Tenure :=
  h.foldl (fun before e => e.tenure before) start

/-- The tenure at the end of a history, and none if nobody holds the mutex. -/
def tenure (h : List Entry) : Option Tenure := tenureFrom none h

theorem tenureFrom_concat (start : Option Tenure) (h : List Entry) (e : Entry) :
    tenureFrom start (h ++ [e]) = e.tenure (tenureFrom start h) := by
  simp [tenureFrom]

theorem tenure_concat (h : List Entry) (e : Entry) : tenure (h ++ [e]) = e.tenure (tenure h) :=
  tenureFrom_concat none h e

theorem tenure_append (past since : List Entry) :
    tenure (past ++ since) = tenureFrom (tenure past) since :=
  List.foldl_append

theorem Entry.tenure_of_quiet {e : Entry} (takes : e.taker? = none) (gives : e.giver? = none)
    (abandons : e.abandons = false) (before : Option Tenure) : e.tenure before = before := by
  cases before with
  | none => rw [tenure, takes, Option.map_none]
  | some t => simp [tenure, takes, gives, abandons]

theorem Entry.tenure_of_abandoned {e : Entry} (abandons : e.abandons = true)
    (takes : e.taker? = none) (before : Option Tenure) : e.tenure before = none := by
  cases before with
  | none => rw [tenure, takes, Option.map_none]
  | some t => simp [tenure, abandons]

theorem Entry.tenure_of_taken {e : Entry} {t : Tenure} (stays : e.abandons = false)
    (takes : e.taker? = some t.holder) :
    e.tenure (some t) = some { t with taken := t.taken + 1 } := by
  simp [tenure, stays, takes]

theorem Entry.tenure_of_given {e : Entry} {t : Tenure} (stays : e.abandons = false)
    (gives : e.giver? = some t.holder) :
    e.tenure (some t) =
      if t.given + 1 = t.taken then none else some { t with given := t.given + 1 } := by
  have takes : e.taker? ≠ some t.holder := by
    intro takes
    rw [giver?_of_taker? takes] at gives
    cases gives
  simp only [tenure, stays, takes, gives, if_true, if_false, Bool.false_eq_true]

theorem Entry.tenure_of_silent {e : Entry} (silent : e.answer? = none) (before : Option Tenure) :
    e.tenure before = before := by
  refine tenure_of_quiet ?_ ?_ ?_ before
  · rw [taker?, silent, Option.bind_none]
  · rw [giver?, silent, Option.bind_none]
  · rw [abandons, silent, Option.any_none]

/-! ## Tenures by counts -/

def acquisitions (r : ThreadId) (h : List Entry) : Nat := h.countP fun e => e.taker? = some r

def releases (r : ThreadId) (h : List Entry) : Nat := h.countP fun e => e.giver? = some r

/-- Whoever took the free mutex has not lost it by what happened since, at no point of it: nobody
abandoned it, and they gave it back less often than they took it. -/
def Lasts (r : ThreadId) (since : List Entry) : Prop :=
  ∀ part, part <+: since →
    (∀ e ∈ part, e.abandons = false) ∧ releases r part < 1 + acquisitions r part

theorem acquisitions_concat (r : ThreadId) (h : List Entry) (e : Entry) :
    acquisitions r (h ++ [e]) = acquisitions r h + if e.taker? = some r then 1 else 0 := by
  simp [acquisitions, List.countP_append, List.countP_singleton]

theorem releases_concat (r : ThreadId) (h : List Entry) (e : Entry) :
    releases r (h ++ [e]) = releases r h + if e.giver? = some r then 1 else 0 := by
  simp [releases, List.countP_append, List.countP_singleton]

theorem Lasts.before {r : ThreadId} {since : List Entry} {e : Entry} (h : Lasts r (since ++ [e])) :
    Lasts r since :=
  fun part starts => h part (starts.trans (List.prefix_append since [e]))

/-- As long as the tenure lasts, its depth is one more than the difference of the counts. -/
theorem tenure_of_lasts {r : ThreadId} {since : List Entry} (lasts : Lasts r since) :
    tenureFrom (some ⟨r, 1, 0⟩) since = some ⟨r, 1 + acquisitions r since, releases r since⟩ := by
  -- on the last entry: what lasts to the end has lasted at every point before
  induction since using List.reverseRecOn with
  | nil => rfl
  | append_singleton since e ih =>
    obtain ⟨kept, fewer⟩ := lasts _ (List.prefix_refl _)
    have stays : e.abandons = false := kept e (by simp)
    rw [acquisitions_concat, releases_concat] at fewer ⊢
    rw [tenureFrom_concat, ih lasts.before]
    by_cases takes : e.taker? = some r
    · have gives : ¬ e.giver? = some r := by simp [Entry.giver?_of_taker? takes]
      rw [Entry.tenure_of_taken stays takes, if_pos takes, if_neg gives]
      rfl
    · rw [if_neg takes] at fewer ⊢
      by_cases gives : e.giver? = some r
      · rw [if_pos gives] at fewer ⊢
        have more : ¬ releases r since + 1 = 1 + acquisitions r since := by omega
        rw [Entry.tenure_of_given stays gives, if_neg more]
        rfl
      · rw [if_neg gives]
        simp [Entry.tenure, stays, takes, gives]

theorem tenure_of_ended {r : ThreadId} {since : List Entry} {e : Entry} (lasts : Lasts r since)
    (ends : ¬ Lasts r (since ++ [e])) : tenureFrom (some ⟨r, 1, 0⟩) (since ++ [e]) = none := by
  rw [tenureFrom_concat, tenure_of_lasts lasts]
  obtain ⟨kept, fewer⟩ := lasts _ (List.prefix_refl _)
  cases abandons : e.abandons with
  | true => simp [Entry.tenure, abandons]
  | false =>
    -- nothing but the last release can have ended it, and then the counts are equal
    have spent : ¬ releases r (since ++ [e]) < 1 + acquisitions r (since ++ [e]) := by
      intro fewer
      refine ends fun part starts => ?_
      rcases List.prefix_concat_iff.mp starts with rfl | starts
      · refine ⟨fun x mem => ?_, fewer⟩
        rcases List.mem_append.mp mem with mem | mem
        · exact kept x mem
        · obtain rfl := List.mem_singleton.mp mem
          exact abandons
      · exact lasts part starts
    rw [acquisitions_concat, releases_concat] at spent
    by_cases takes : e.taker? = some r
    · rw [if_pos takes, Entry.giver?_of_taker? takes] at spent
      simp only [reduceCtorEq, if_false] at spent
      omega
    · by_cases gives : e.giver? = some r
      · rw [if_neg takes, if_pos gives] at spent
        have last : releases r since + 1 = 1 + acquisitions r since := by omega
        rw [Entry.tenure_of_given abandons gives, if_pos last]
      · rw [if_neg takes, if_neg gives] at spent
        omega

end Interprocess
