import Interprocess.Proofs.Object.Interleaving

/-!
# Places in the order of claims

No two operations have the same place in the order of claims, whether they are over or not.
-/

namespace Interprocess

/-- Distinct places below `n`: those of the jobs, and those of the operations that are over. -/
structure Apart {ι : Type} (places : ι → Option Nat) (past : List Nat) (n : Nat) : Prop where
  below : ∀ i k, places i = some k → k < n
  alone : ∀ i j k, places i = some k → places j = some k → i = j
  fresh : ∀ i k, places i = some k → k ∉ past
  belowPast : ∀ k ∈ past, k < n
  once : past.Nodup

namespace Apart

variable {ι : Type} [DecidableEq ι] {places : ι → Option Nat} {past : List Nat} {n : Nat} {i : ι}

theorem drop (h : Apart places past n) (i : ι) : Apart (Function.update places i none) past n := by
  have kept : ∀ j k, Function.update places i none j = some k → places j = some k :=
    fun j k hj => by
      by_cases same : j = i
      · subst same
        simp at hj
      · rwa [Function.update_of_ne same] at hj
  exact ⟨fun j k hj => h.below j k (kept j k hj),
    fun j j' k hj hj' => h.alone j j' k (kept j k hj) (kept j' k hj'),
    fun j k hj => h.fresh j k (kept j k hj), h.belowPast, h.once⟩

theorem claim (h : Apart places past n) (i : ι) :
    Apart (Function.update places i (some n)) past (n + 1) := by
  have kept : ∀ j k, j ≠ i → Function.update places i (some n) j = some k → places j = some k :=
    fun j k hj place => by rwa [Function.update_of_ne hj] at place
  have mine : ∀ k, Function.update places i (some n) i = some k → k = n := fun k place => by
    simpa [eq_comm] using place
  refine ⟨fun j k hj => ?_, fun j j' k hj hj' => ?_, fun j k hj past => ?_,
    fun k hk => Nat.lt_succ_of_lt (h.belowPast k hk), h.once⟩
  · by_cases same : j = i
    · subst same
      rw [mine k hj]
      exact Nat.lt_succ_self n
    · exact Nat.lt_succ_of_lt (h.below j k (kept j k same hj))
  · by_cases same : j = i <;> by_cases same' : j' = i
    · rw [same, same']
    · subst same
      have := h.below j' k (kept j' k same' hj')
      have := mine k hj
      omega
    · subst same'
      have := h.below j k (kept j k same hj)
      have := mine k hj'
      omega
    · exact h.alone j j' k (kept j k same hj) (kept j' k same' hj')
  · by_cases same : j = i
    · subst same
      have := h.belowPast k past
      have := mine k hj
      omega
    · exact h.fresh j k (kept j k same hj) past

theorem finish (h : Apart places past n) {place : Option Nat} (mine : places i = place) :
    Apart (Function.update places i none) (past ++ place.toList) n := by
  have left := h.drop i
  cases place with
  | none => rwa [Option.toList_none, List.append_nil]
  | some k =>
    refine ⟨left.below, left.alone, fun j m hj past => ?_, fun m hm => ?_, ?_⟩
    · have hji : j ≠ i := by
        rintro rfl
        simp at hj
      rcases List.mem_append.mp past with hm | hm
      · exact left.fresh j m hj hm
      · obtain rfl := List.mem_singleton.mp hm
        rw [Function.update_of_ne hji] at hj
        exact hji (h.alone j i m hj mine)
    · rcases List.mem_append.mp hm with hm | hm
      · exact h.belowPast m hm
      · obtain rfl := List.mem_singleton.mp hm
        exact h.below i m mine
    · rw [List.nodup_append]
      refine ⟨h.once, by simp, fun a ha b hb same => ?_⟩
      obtain rfl := List.mem_singleton.mp hb
      exact h.fresh i b mine (same ▸ ha)

end Apart

namespace SharedRecord

variable {ι : Type}

/-- The place of what a participant works at. -/
def placeOf (s : SharedRecord ι) (i : ι) : Option Nat := (s.job i).bind Job.place

/-- The places of the operations that are over. -/
def placesOver (s : SharedRecord ι) : List Nat := s.finished.filterMap Finished.place

/-- Every place was given out once. -/
def Placed (s : SharedRecord ι) : Prop := Apart s.placeOf s.placesOver s.order.length

theorem Placed.initial (c : Contents) : (initial c : SharedRecord ι).Placed :=
  ⟨nofun, nofun, nofun, nofun, List.nodup_nil⟩

variable [DecidableEq ι] {s s' : SharedRecord ι}

theorem placeOf_assign (s : SharedRecord ι) (i : ι) (job : Option Job) :
    (s.assign i job).placeOf = Function.update s.placeOf i (job.bind Job.place) := by
  funext j
  by_cases hj : j = i
  · subst hj
    simp [placeOf]
  · simp [placeOf, assign_job_of_ne _ _ hj, Function.update_of_ne hj]

omit [DecidableEq ι] in
theorem placeOf_of_busy {i : ι} {job : Job} (busy : s.job i = some job) :
    s.placeOf i = job.place := by
  simp [placeOf, busy]

theorem Placed.turn (h : s.Placed) {i : ι} {job job' : Job} (busy : s.job i = some job)
    (same : job'.place = job.place) (g : Guard.Contention ι) (contents : Contents) :
    (assign { s with guard := g, contents := contents } i (some job')).Placed := by
  have places : Function.update s.placeOf i job'.place = s.placeOf := by
    rw [same, ← placeOf_of_busy busy, Function.update_eq_self]
  unfold Placed
  rw [placeOf_assign]
  exact places.symm ▸ h

omit [DecidableEq ι] in
theorem placesOver_concat (s : SharedRecord ι) (f : Finished) :
    (s.finished ++ [f]).filterMap Finished.place = s.placesOver ++ f.place.toList := by
  cases hf : f.place <;> simp [placesOver, hf]

theorem Placed.step (h : s.Placed) (step : Step s s') : s'.Placed := by
  cases step with
  | @refuses call e refused =>
    unfold Placed placesOver
    rw [placesOver_concat, Option.toList_none, List.append_nil]
    exact h
  | @begins g i p call body next idle accepted opens step =>
    unfold Placed
    rw [placeOf_assign]
    exact Apart.drop h i
  | contends | wakes | dies => exact h
  | @claims g i p d call place stored next busy step has =>
    unfold Placed
    rw [placeOf_assign]
    show Apart _ _ (s.order ++ [(p, call)]).length
    rw [List.length_append]
    exact Apart.claim h i
  | loads alive busy => exact h.turn busy (by rfl) s.guard s.contents
  | stores alive busy => exact h.turn busy (by rfl) s.guard _
  | releases busy step => exact h.turn busy (by rfl) _ s.contents
  | returns alive stands busy =>
    unfold Placed placesOver
    rw [placeOf_assign]
    show Apart _ ((s.finished ++ _).filterMap Finished.place) _
    rw [placesOver_concat]
    exact Apart.finish h (placeOf_of_busy busy)
  | givesUp busy step stands reason =>
    unfold Placed placesOver
    rw [placeOf_assign]
    show Apart _ ((s.finished ++ _).filterMap Finished.place) _
    rw [placesOver_concat]
    exact Apart.finish h (placeOf_of_busy busy)

theorem Placed.reachable {c : Contents} (h : Reachable c s) : s.Placed := by
  induction h with
  | initial => exact .initial c
  | step before step sound ih => exact ih.step step

end SharedRecord

end Interprocess
