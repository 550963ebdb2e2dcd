import Interprocess.Proofs.Object.Places
import Interprocess.Proofs.Object.Transitions

/-!
# Operations on one record are serializable

Whatever the interleaving, the operations that claimed the guard answer as if they had run one after
another in the order of their claims, and so do the contents whenever the guard is free; operations
that never got the guard change nothing. The invariant is about the one operation that has the
guard, if there is one: what is left of its body, run in one go on the contents as they are, gives
what the serial run gives for it (`JobFits.working`). A step of the body keeps that equation, and
the release turns it into the final one.
-/

namespace Interprocess

namespace SharedRecord

open Guard (Contention)
open Guard.Stance (Mode)
open Record (Script)

variable {ι : Type} {c : Contents}

/-! ## The invariant -/

/-- How the job of a participant agrees with the serial run of the calls that claimed the guard. The
script of an operation says where it stands: before its claim it waits, with the rest of its body
and the release before it it has the guard, and once it has released the guard only the answer is
left. -/
inductive JobFits (c : Contents) (order : List (GuardPolicy × Call)) (contents : Contents) :
    Mode → Option Job → Prop where
  | idle : JobFits c order contents .away none
  | waiting {call : Call} {body : Body (Except SyncError Answer)} {script : Script Answer}
      (accepted : call.body = .ok body) (whole : script = .bracket body) :
      JobFits c order contents .contending (some ⟨call, none, false, script⟩)
  | working {call : Call} {k : Nat} {stored : Bool} {rest : Body (Except SyncError Answer)}
      {script : Script Answer} (left : script = .finish rest)
      (placed : ∃ p, order[k]? = some (p, call))
      (answers : (serial order ⟨0, c⟩).1[k]? = some (.ofExcept (rest.run contents).1))
      (leaves : (serial order ⟨0, c⟩).2 = ⟨0, (rest.run contents).2⟩) :
      JobFits c order contents .has (some ⟨call, some k, stored, script⟩)
  | ending {call : Call} {k : Nat} {stored : Bool} {answer : Except SyncError Answer}
      (placed : ∃ p, order[k]? = some (p, call))
      (answers : (serial order ⟨0, c⟩).1[k]? = some (.ofExcept answer)) :
      JobFits c order contents .away (some ⟨call, some k, stored, .answer answer⟩)

/-- How an operation that is over agrees with the serial run. One that never claimed the guard
stored nothing: it refused its arguments, which it would do at any time, or gave up. -/
def Finished.Agrees (c : Contents) (order : List (GuardPolicy × Call)) (f : Finished) : Prop :=
  match f.place with
  | some k =>
    (∃ p, order[k]? = some (p, f.call)) ∧ (serial order ⟨0, c⟩).1[k]? = some f.outcome
  | none =>
    f.stored = false ∧
      ((∀ p r, (f.call.op p).result r = (f.outcome, r)) ∨
        (∃ holder waited, f.outcome = .failed (.guardTimeout holder waited)) ∨
        f.outcome = .failed GuardPolicy.holderIdError)

/-- What every step keeps. -/
structure Serializable (c : Contents) (s : SharedRecord ι) : Prop where
  jobs : ∀ i, JobFits c s.order s.contents (s.guard.stance i).mode (s.job i)
  free : (∀ i, (s.guard.stance i).mode ≠ .has) → (serial s.order ⟨0, c⟩).2 = ⟨0, s.contents⟩
  living : ∀ i ∈ s.guard.dead, s.job i = none
  finished : ∀ f ∈ s.finished, Finished.Agrees c s.order f
  valid : ∀ x ∈ s.order, x.1.canClaim = true

/-! ## More claims, other contents -/

theorem getElem?_append_of_some {α : Type} {l : List α} {k : Nat} {x : α} (h : l[k]? = some x)
    (l' : List α) : (l ++ l')[k]? = some x :=
  (List.getElem?_append_left (List.getElem?_eq_some_iff.mp h).1).trans h

theorem serial_answers_append {order : List (GuardPolicy × Call)} {k : Nat} {o : Outcome Answer}
    (h : (serial order ⟨0, c⟩).1[k]? = some o) (x : GuardPolicy × Call) :
    (serial (order ++ [x]) ⟨0, c⟩).1[k]? = some o := by
  rw [serial_concat]
  exact getElem?_append_of_some h _

/-- The job of a participant without the guard fits whatever the contents become and whoever claims
the guard next. -/
theorem JobFits.append {order : List (GuardPolicy × Call)} {contents : Contents} {mode : Mode}
    {job : Option Job} (h : JobFits c order contents mode job) (without : mode ≠ .has)
    (x : GuardPolicy × Call) (contents' : Contents) :
    JobFits c (order ++ [x]) contents' mode job := by
  cases h with
  | idle => exact .idle
  | waiting accepted whole => exact .waiting accepted whole
  | working => exact absurd rfl without
  | ending placed answers =>
    obtain ⟨p, placed⟩ := placed
    exact .ending ⟨p, getElem?_append_of_some placed _⟩ (serial_answers_append answers x)

theorem JobFits.other {order : List (GuardPolicy × Call)} {contents : Contents} {mode : Mode}
    {job : Option Job} (h : JobFits c order contents mode job) (without : mode ≠ .has)
    (contents' : Contents) : JobFits c order contents' mode job := by
  cases h with
  | idle => exact .idle
  | waiting accepted whole => exact .waiting accepted whole
  | working => exact absurd rfl without
  | ending placed answers => exact .ending placed answers

theorem Finished.Agrees.append {order : List (GuardPolicy × Call)} {f : Finished}
    (h : Finished.Agrees c order f) (x : GuardPolicy × Call) :
    Finished.Agrees c (order ++ [x]) f := by
  unfold Finished.Agrees at h ⊢
  split at h
  · obtain ⟨⟨p, placed⟩, answers⟩ := h
    exact ⟨⟨p, getElem?_append_of_some placed _⟩, serial_answers_append answers x⟩
  · exact h

/-! ## What a step keeps -/

theorem Serializable.initial : Serializable c (initial c : SharedRecord ι) where
  jobs _ := .idle
  free _ := rfl
  living _ dead := absurd dead (Set.notMem_empty _)
  finished _ mem := absurd mem List.not_mem_nil
  valid _ mem := absurd mem List.not_mem_nil

theorem Serializable.has {s : SharedRecord ι} (h : Serializable c s) {i : ι}
    (has : (s.guard.stance i).mode = .has) : ∃ n, s.guard.Has i n := by
  obtain ⟨n, holds⟩ := Guard.Stance.mode_eq_has_iff.mp has
  refine ⟨n, fun dead => ?_, holds⟩
  have fits := h.jobs i
  rw [has, h.living i dead] at fits
  cases fits

theorem Serializable.only {s : SharedRecord ι} (h : Serializable c s)
    (exclusive : s.guard.Exclusive) {i j : ι} (hi : (s.guard.stance i).mode = .has)
    (hj : (s.guard.stance j).mode = .has) : i = j := by
  obtain ⟨m, hm⟩ := h.has hi
  obtain ⟨n, hn⟩ := h.has hj
  exact exclusive.unique i j m n hm hn

variable [DecidableEq ι] {s s' : SharedRecord ι}

theorem assign_job (s : SharedRecord ι) (i : ι) : s.assign i (s.job i) = s := by
  simp [assign]

theorem Serializable.turn (h : Serializable c s) {g : Contention ι} {i : ι} {job : Option Job}
    {finished : List Finished}
    (others : ∀ j, j ≠ i → (g.stance j).mode = (s.guard.stance j).mode)
    (own : JobFits c s.order s.contents (g.stance i).mode job)
    (free : (s.guard.stance i).mode = .has → (g.stance i).mode ≠ .has →
      (serial s.order ⟨0, c⟩).2 = ⟨0, s.contents⟩)
    (dead : ∀ j ∈ g.dead, j ≠ i → j ∈ s.guard.dead) (mine : i ∈ g.dead → job = none)
    (agree : ∀ f ∈ finished, Finished.Agrees c s.order f) :
    Serializable c (assign { s with guard := g, finished := finished } i job) := by
  refine ⟨fun j => ?_, fun nobody => ?_, fun j hj => ?_, agree, h.valid⟩
  · by_cases hji : j = i
    · subst hji
      rw [assign_job_self]
      exact own
    · rw [assign_job_of_ne _ _ hji]
      exact (others j hji).symm ▸ h.jobs j
  · by_cases had : (s.guard.stance i).mode = .has
    · exact free had (nobody i)
    · refine h.free fun j => ?_
      by_cases hji : j = i
      · exact hji ▸ had
      · exact others j hji ▸ nobody j
  · by_cases hji : j = i
    · subst hji
      rw [assign_job_self]
      exact mine hj
    · rw [assign_job_of_ne _ _ hji]
      exact h.living j (dead j hj hji)

theorem Serializable.follow (h : Serializable c s) (fits : s.guard.AllFit) {g : Contention ι}
    {e : Guard.Event ι} (step : Contention.Step s.guard e g) {job : Option Job}
    {finished : List Finished} (own : JobFits c s.order s.contents (g.stance e.actor).mode job)
    (free : (s.guard.stance e.actor).mode = .has → (g.stance e.actor).mode ≠ .has →
      (serial s.order ⟨0, c⟩).2 = ⟨0, s.contents⟩)
    (lives : e = .dies e.actor → job = none)
    (agree : ∀ f ∈ finished, Finished.Agrees c s.order f) :
    Serializable c (assign { s with guard := g, finished := finished } e.actor job) := by
  refine h.turn (fun j hj => step.mode_of_ne fits hj) own free (fun j dead hj => ?_)
    (fun dead => ?_) agree
  · rcases step.mem_dead dead with dead | rfl
    · exact dead
    · exact absurd rfl hj
  · rcases step.mem_dead dead with dead | dies
    · exact absurd dead step.alive
    · exact lives dies

theorem Serializable.pass (h : Serializable c s) (fits : s.guard.AllFit) {g : Contention ι}
    {e : Guard.Event ι} (step : Contention.Step s.guard e g)
    (own : JobFits c s.order s.contents (g.stance e.actor).mode (s.job e.actor))
    (free : (s.guard.stance e.actor).mode = .has → (g.stance e.actor).mode ≠ .has →
      (serial s.order ⟨0, c⟩).2 = ⟨0, s.contents⟩)
    (lives : e = .dies e.actor → s.job e.actor = none) :
    Serializable c { s with guard := g } :=
  assign_job { s with guard := g } e.actor ▸ h.follow fits step own free lives h.finished

theorem Serializable.stay (h : Serializable c s) (fits : s.guard.AllFit) {g : Contention ι}
    {e : Guard.Event ι} (step : Contention.Step s.guard e g)
    (same : (g.stance e.actor).mode = (s.guard.stance e.actor).mode)
    (lives : e = .dies e.actor → s.job e.actor = none) :
    Serializable c { s with guard := g } :=
  h.pass fits step (same.symm ▸ h.jobs e.actor) (fun had hasNot => absurd (same.trans had) hasNot)
    lives

/-! ### Inside the bracket

A script that goes on with a load, a store or the release is that of a participant who has the
guard: before its claim a script begins with the claim, and after its release only the answer is
left. -/

omit [DecidableEq ι] in
/-- A participant who has the guard: what is left of its body comes to what the serial run gives. -/
structure Inside (c : Contents) (s : SharedRecord ι) (i : ι) (job : Job) (k : Nat)
    (rest : Body (Except SyncError Answer)) : Prop where
  works : s.Works i job
  left : job.rest = .finish rest
  place : job.place = some k
  placed : ∃ p, s.order[k]? = some (p, job.call)
  answers : (serial s.order ⟨0, c⟩).1[k]? = some (.ofExcept (rest.run s.contents).1)
  leaves : (serial s.order ⟨0, c⟩).2 = ⟨0, (rest.run s.contents).2⟩

omit [DecidableEq ι] in
theorem Serializable.inside (h : Serializable c s) {i : ι} {job : Job}
    (busy : s.job i = some job) (begun : ∀ next, job.rest ≠ .claim next)
    (unanswered : ∀ answer, job.rest ≠ .answer answer) : ∃ k rest, Inside c s i job k rest := by
  have alive : i ∉ s.guard.dead := fun dead => nomatch busy.symm.trans (h.living i dead)
  have fits := h.jobs i
  rw [busy] at fits
  generalize has : (s.guard.stance i).mode = mode at fits
  cases fits with
  | waiting accepted whole => exact absurd whole (begun _)
  | working left placed answers leaves =>
    exact ⟨_, _, ⟨alive, has, busy⟩, left, rfl, placed, answers, leaves⟩
  | ending => exact absurd rfl (unanswered _)

theorem Serializable.loads (h : Serializable c s) {i : ι} {call : Call} {place : Option Nat}
    {stored : Bool} {field : Field} {next : UInt32 → Script Answer}
    (busy : s.job i = some ⟨call, place, stored, .load field next⟩) :
    Serializable c (s.assign i (some ⟨call, place, stored, next (s.contents.get field)⟩)) := by
  obtain ⟨k, rest, inside⟩ := h.inside busy nofun nofun
  obtain ⟨later, rfl, rfl⟩ := Script.of_finish_eq_load inside.left.symm
  obtain rfl : place = some k := inside.place
  refine h.turn (fun _ _ => rfl) ?_ (fun had hasNot => absurd had hasNot) (fun _ dead _ => dead)
    (fun dead => absurd dead inside.works.alive) h.finished
  rw [inside.works.has]
  exact .working rfl inside.placed inside.answers inside.leaves

theorem Serializable.stores (h : Serializable c s) (exclusive : s.guard.Exclusive) {i : ι}
    {call : Call} {place : Option Nat} {stored : Bool} {field : Field} {word : UInt32}
    {next : Script Answer} (busy : s.job i = some ⟨call, place, stored, .store field word next⟩) :
    Serializable c (assign { s with contents := s.contents.set field word } i
      (some ⟨call, place, true, next⟩)) := by
  obtain ⟨k, rest, inside⟩ := h.inside busy nofun nofun
  obtain ⟨later, rfl, rfl⟩ := Script.of_finish_eq_store inside.left.symm
  obtain rfl : place = some k := inside.place
  have works := inside.works
  refine ⟨fun j => ?_, fun nobody => absurd works.has (nobody i), fun j dead => ?_, h.finished,
    h.valid⟩
  · by_cases hj : j = i
    · subst hj
      rw [assign_job_self]
      exact works.has.symm ▸ .working rfl inside.placed inside.answers inside.leaves
    · rw [assign_job_of_ne _ _ hj]
      exact (h.jobs j).other (fun has => hj (h.only exclusive has works.has)) _
  · have hj : j ≠ i := fun same => works.alive (same ▸ dead)
    rw [assign_job_of_ne _ _ hj]
    exact h.living j dead

/-- Nothing is left of the body when its script comes to the release, so its answer and the contents
are those of the serial run. -/
theorem Serializable.releases (h : Serializable c s) (fits : s.guard.AllFit) {g : Contention ι}
    {i : ι} {call : Call} {place : Option Nat} {stored : Bool} {next : Script Answer}
    (busy : s.job i = some ⟨call, place, stored, .release next⟩)
    (step : Contention.Step s.guard (.releases i) g) :
    Serializable c (assign { s with guard := g } i (some ⟨call, place, stored, next⟩)) := by
  obtain ⟨k, rest, inside⟩ := h.inside busy nofun nofun
  obtain ⟨result, rfl, rfl⟩ := Script.of_finish_eq_release inside.left.symm
  obtain rfl : place = some k := inside.place
  refine h.follow fits step ?_ (fun _ _ => inside.leaves) nofun h.finished
  exact step.shift.of_releases.2.symm ▸ .ending inside.placed inside.answers

omit [DecidableEq ι] in
theorem claimed_failed {ending : Guard.Ending} {e : SyncError}
    (h : ∀ r, (Record.claimed ending).result r = (.failed e, r)) :
    (∃ holder waited, Outcome.failed (α := Answer) e = .failed (.guardTimeout holder waited)) ∨
      Outcome.failed (α := Answer) e = .failed GuardPolicy.holderIdError := by
  have h := congrArg Prod.fst (h Record.blank)
  cases ending with
  | held d => cases d <;> cases h
  | timedOut holder waited =>
    cases h
    exact .inl ⟨holder, waited, rfl⟩
  | refused =>
    cases h
    exact .inr rfl
  | parked => cases h

theorem Serializable.free_of_claimed (h : Serializable c s) (fits : s.guard.AllFit)
    {g : Contention ι} (exclusive : g.Exclusive) {i : ι} {p : GuardPolicy} {d : Option UInt32}
    (step : Contention.Step s.guard (.moves i) g) (has : g.stance i = .claiming p (.held d))
    (j : ι) : (s.guard.stance j).mode ≠ .has := by
  intro had
  have hj : j ≠ i := by
    rintro rfl
    exact nomatch step.shift.of_moves.symm.trans had
  have lives : ∀ k, k ∉ s.guard.dead → k ∉ g.dead := fun k alive dead =>
    (step.mem_dead dead).elim alive nofun
  obtain ⟨m, alive, -⟩ := h.has had
  obtain ⟨n, holds⟩ := Guard.Stance.mode_eq_has_iff.mp ((step.mode_of_ne fits hj).trans had)
  have mine : g.Has i p.holderId := ⟨lives i step.alive, by rw [has]; rfl⟩
  exact hj (exclusive.unique j i n _ ⟨lives j alive, holds⟩ mine)

omit [DecidableEq ι] in
/-- The call that claims the guard comes last in the order: what its body will do is what the serial
run does with it, since the contents are those that the serial run left. -/
theorem JobFits.claimed {order : List (GuardPolicy × Call)} {contents : Contents}
    (left : (serial order ⟨0, c⟩).2 = ⟨0, contents⟩) {p : GuardPolicy} (valid : p.canClaim = true)
    {call : Call} {body : Body (Except SyncError Answer)} (accepted : call.body = .ok body) :
    JobFits c (order ++ [(p, call)]) contents .has
      (some ⟨call, some order.length, false, .finish body⟩) := by
  have ran : serial (order ++ [(p, call)]) ⟨0, c⟩ =
      ((serial order ⟨0, c⟩).1 ++ [.ofExcept (body.run contents).1],
        ⟨0, (body.run contents).2⟩) := by
    rw [serial_concat, left, Call.op_result_free valid, Call.body_run accepted]
  refine .working rfl ⟨p, List.getElem?_concat_length⟩ ?_ ?_
  · rw [ran, ← length_serial order ⟨0, c⟩]
    exact List.getElem?_concat_length
  · rw [ran]

theorem Serializable.claims (h : Serializable c s) (fits : s.guard.AllFit) {g : Contention ι}
    (exclusive : g.Exclusive) {i : ι} {p : GuardPolicy} {d : Option UInt32} {call : Call}
    {place : Option Nat} {stored : Bool} {next : Script Answer}
    (busy : s.job i = some ⟨call, place, stored, .claim next⟩)
    (step : Contention.Step s.guard (.moves i) g) (has : g.stance i = .claiming p (.held d)) :
    Serializable c (assign { s with guard := g, order := s.order ++ [(p, call)] } i
      (some ⟨call, some s.order.length, stored, next⟩)) := by
  have nobody := h.free_of_claimed fits exclusive step has
  have now : (g.stance i).mode = .has := by
    rw [has]
    rfl
  have valid : p.canClaim = true :=
    ((fits.step step).claiming has).1.resolve_left nofun
  have fit := h.jobs i
  rw [show (s.guard.stance i).mode = _ from step.shift.of_moves, busy] at fit
  cases fit with
  | waiting accepted whole =>
    cases whole
    refine ⟨fun j => ?_, fun without => absurd now (without i), fun j dead => ?_,
      fun f hf => (h.finished f hf).append _,
      List.forall_mem_append.mpr ⟨h.valid, List.forall_mem_singleton.mpr valid⟩⟩
    · by_cases hj : j = i
      · subst hj
        rw [assign_job_self]
        exact now.symm ▸ .claimed (h.free nobody) valid accepted
      · rw [assign_job_of_ne _ _ hj]
        exact (step.mode_of_ne fits hj).symm ▸ (h.jobs j).append (nobody j) _ _
    · have living := (step.mem_dead dead).resolve_right nofun
      have hj : j ≠ i := fun same => step.alive (same ▸ living)
      rw [assign_job_of_ne _ _ hj]
      exact h.living j living

omit [DecidableEq ι] in
theorem Serializable.finished_concat (h : Serializable c s) {f : Finished}
    (agrees : Finished.Agrees c s.order f) :
    ∀ f' ∈ s.finished ++ [f], Finished.Agrees c s.order f' :=
  List.forall_mem_append.mpr ⟨h.finished, List.forall_mem_singleton.mpr agrees⟩

theorem Serializable.step (h : Serializable c s) (fits : s.guard.AllFit)
    (exclusive : s.guard.Exclusive) (exclusive' : s'.guard.Exclusive) (step : Step s s') :
    Serializable c s' := by
  cases step with
  | @refuses call e refused =>
    refine ⟨h.jobs, h.free, h.living, h.finished_concat ⟨rfl, .inl fun p r => ?_⟩, h.valid⟩
    rw [Call.op_result, refused]
  | @begins g i p call body next idle accepted opens step =>
    obtain ⟨away, contending⟩ := step.shift.of_begins
    refine h.follow fits step ?_ (fun had => nomatch away.symm.trans had) nofun h.finished
    exact contending.symm ▸ .waiting accepted opens.symm
  | contends step without => exact h.stay fits step (without.trans step.shift.of_moves.symm) nofun
  | claims busy step has => exact h.claims fits exclusive' busy step has
  | loads alive busy => exact h.loads busy
  | stores alive busy => exact h.stores exclusive busy
  | releases busy step => exact h.releases fits busy step
  | wakes step =>
    obtain ⟨before, after⟩ := step.shift.of_wakes
    exact h.stay fits step (after.trans before.symm) nofun
  | @returns i call place stored answer alive stands busy =>
    have fit := h.jobs i
    rw [stands, busy] at fit
    cases fit with
    | ending placed answers =>
      exact h.turn (fun _ _ => rfl) (by rw [stands]; exact .idle)
        (fun had hasNot => absurd had hasNot) (fun _ dead _ => dead) (fun _ => rfl)
        (h.finished_concat ⟨placed, answers⟩)
  | @givesUp g i p phase call place stored next e busy step stands reason =>
    obtain ⟨before, after⟩ := step.shift.of_leaves
    have fit := h.jobs i
    rw [show (s.guard.stance i).mode = _ from before, busy] at fit
    cases fit with
    | waiting accepted whole =>
      exact h.follow fits step (after.symm ▸ .idle) (fun had => nomatch before.symm.trans had)
        nofun (h.finished_concat ⟨rfl, .inr (claimed_failed reason)⟩)
  | dies idle step => exact h.stay fits step step.shift.of_dies fun _ => idle

theorem Serializable.reachable (h : Reachable c s) : Serializable c s := by
  induction h with
  | initial => exact .initial
  | step before step sound ih =>
    exact ih.step (.reachable before.guard) (.reachable before.guard)
      (.reachable (before.step step sound).guard) step

theorem Reachable.serial_of_free (h : Reachable c s) (free : s.guard.word = 0) :
    (serial s.order ⟨0, c⟩).2 = ⟨0, s.contents⟩ := by
  have inv := Serializable.reachable h
  refine inv.free fun i has => ?_
  obtain ⟨n, holds⟩ := inv.has has
  exact (Contention.Exclusive.reachable h.guard).free (.reachable h.guard) free i n holds

/-! ## Serializability -/

theorem serial_prompt {order : List (GuardPolicy × Call)}
    (valid : ∀ x ∈ order, x.1.canClaim = true) (c : Contents) {o : Outcome Answer}
    (mem : o ∈ (serial order ⟨0, c⟩).1) (holder : UInt32) (waited : Duration) :
    o ≠ .failed (.guardTimeout holder waited) := by
  induction order generalizing c with
  | nil => exact absurd mem List.not_mem_nil
  | cons first rest ih =>
    obtain ⟨p, call⟩ := first
    have free := Call.op_result_free (valid _ List.mem_cons_self) call c
    simp only [serial, free, List.mem_cons] at mem
    rcases mem with rfl | mem
    · intro late
      cases answer : (call.step c).1 with
      | ok a =>
        rw [answer] at late
        cases late
      | error e =>
        rw [answer] at late
        cases late
        cases Call.step_prompt answer
    · exact ih (fun x hx => valid x (List.mem_cons_of_mem _ hx)) _ mem

omit [DecidableEq ι] in
/-- An operation that gives up the wait for the guard never claimed it: none that did answers so. -/
theorem Serializable.gave_up (h : Serializable c s) {f : Finished} (mem : f ∈ s.finished)
    {holder : UInt32} {waited : Duration} (late : f.outcome = .failed (.guardTimeout holder waited)) :
    f.place = none ∧ f.stored = false := by
  have agrees := h.finished f mem
  unfold Finished.Agrees at agrees
  cases place : f.place with
  | some k =>
    rw [place] at agrees
    have answered := List.mem_of_getElem? agrees.2
    exact absurd late (serial_prompt h.valid c answered holder waited)
  | none =>
    rw [place] at agrees
    exact ⟨rfl, agrees.1⟩

/-- Contents change only by an operation that has claimed the guard and remembers the store. -/
theorem Serializable.stored_of_contents_ne (h : Serializable c s) (step : Step s s')
    (changed : s'.contents ≠ s.contents) :
    ∃ i job, s.Works i job ∧ ∃ job', s'.job i = some job' ∧ job'.stored = true := by
  cases step with
  | @stores i call place stored field word next alive busy =>
    obtain ⟨k, rest, inside⟩ := h.inside busy nofun nofun
    exact ⟨i, _, inside.works, _, assign_job_self .., rfl⟩
  | _ => exact absurd rfl changed

/-- Whatever the interleaving, what the operations that claimed the guard answer, each in a place of
its own, is what they answer one after another in the order of their claims; so are the contents
whenever the guard is free; and an operation that gives up the wait for the guard stores nothing. -/
theorem serializable_in_guard_order (h : Reachable c s) :
    (∀ f ∈ s.finished, Finished.Agrees c s.order f) ∧
      (s.finished.filterMap Finished.place).Nodup ∧
      (s.guard.word = 0 → (serial s.order ⟨0, c⟩).2 = ⟨0, s.contents⟩) ∧
      (∀ f ∈ s.finished, ∀ holder waited, f.outcome = .failed (.guardTimeout holder waited) →
        f.place = none ∧ f.stored = false) ∧
      (∀ s', Step s s' → s'.contents ≠ s.contents →
        ∃ i job, s.Works i job ∧ ∃ job', s'.job i = some job' ∧ job'.stored = true) := by
  have inv := Serializable.reachable h
  refine ⟨inv.finished, (Placed.reachable h).once, fun free => inv.free fun i has => ?_,
    fun f mem holder waited late => inv.gave_up mem late,
    fun s' step changed => inv.stored_of_contents_ne step changed⟩
  obtain ⟨n, holds⟩ := inv.has has
  exact (Contention.Exclusive.reachable h.guard).free (.reachable h.guard) free i n holds

/-- A reset and a poll of a signaled event, which begin together: the poll comes second, and finds
the event reset. -/
theorem reset_before_poll :
    ∃ s : SharedRecord Bool, Reachable ⟨2, 0, 1, 0⟩ s ∧
      s.finished = [⟨.event .reset, some 0, true, .value (.flag true)⟩,
        ⟨.event .poll, some 1, false, .value (.flag false)⟩] ∧
      (∀ f ∈ s.finished, Finished.Agrees ⟨2, 0, 1, 0⟩ s.order f) ∧
      (s.finished.filterMap Finished.place).Nodup ∧
      (s.guard.word = 0 → (serial s.order ⟨0, ⟨2, 0, 1, 0⟩⟩).2 = ⟨0, s.contents⟩) ∧
      (∀ f ∈ s.finished, ∀ holder waited, f.outcome = .failed (.guardTimeout holder waited) →
        f.place = none ∧ f.stored = false) ∧
      (∀ s', Step s s' → s'.contents ≠ s.contents →
        ∃ i job, s.Works i job ∧ ∃ job', s'.job i = some job' ∧ job'.stored = true) := by
  have alive (i : Bool) : i ∉ (∅ : Set Bool) := Set.notMem_empty i
  have next {s s' : SharedRecord Bool} (before : Reachable ⟨2, 0, 1, 0⟩ s) (step : Step s s')
      (gone : s'.guard.gone = ∅) : Reachable ⟨2, 0, 1, 0⟩ s' :=
    before.step step (Contention.probesSound_of_nobody_gone gone)
  have h₁ := next .initial (.begins (i := false) rfl (show (Call.event .reset).body = _ from rfl) rfl
    (.begins (Guard.impatient 7) (alive _) rfl)) rfl
  have h₂ := next h₁ (.begins (i := true) rfl (show (Call.event .poll).body = _ from rfl) rfl
    (.begins (Guard.impatient 9) (alive _) rfl)) rfl
  have h₃ := next h₂ (.claims (i := false) rfl
    (.asks (alive _) rfl rfl (.exchanged false 7)) rfl) rfl
  have h₄ := next h₃ (.loads (i := false) (alive _) rfl) rfl
  have h₅ := next h₄ (.loads (i := false) (alive _) rfl) rfl
  have h₆ := next h₅ (.stores (i := false) (alive _) rfl) rfl
  have h₇ := next h₆ (.releases (i := false) rfl (.releases (alive _) rfl)) rfl
  have h₈ := next h₇ (.claims (i := true) rfl
    (.asks (alive _) rfl rfl (.exchanged false 9)) rfl) rfl
  have h₉ := next h₈ (.loads (i := true) (alive _) rfl) rfl
  have h₁₀ := next h₉ (.loads (i := true) (alive _) rfl) rfl
  have h₁₁ := next h₁₀ (.returns (i := false) (alive _) rfl rfl) rfl
  have h₁₂ := next h₁₁ (.releases (i := true) rfl (.releases (alive _) rfl)) rfl
  have h₁₃ := next h₁₂ (.returns (i := true) (alive _) rfl rfl) rfl
  exact ⟨_, h₁₃, rfl, serializable_in_guard_order h₁₃⟩

end SharedRecord

end Interprocess
