import Interprocess.Guard.Claim

/-!
# Attempts at a guard word

One attempt to take a guard word as a log: the requests that the contender made, how each of them
was answered, and where the contender stands after them (`Attempt`). What the surroundings may do is
left open here. Nobody else may touch the word, or everybody may.

Whatever the surroundings do, a contender acts on what it has just been told (`Attempt.rests`). It
takes a word over right after it loaded that word and a probe called the holder dead. It flags a
word, parks on it or gives up right after it loaded that word, a probe called the holder alive, and
the clock told how much time is left.
-/

namespace Interprocess

namespace Guard

variable {σ : Type}

/-! ## Logs -/

/-- A request that was answered, and the surroundings before and after it. -/
structure Deal (σ : Type) where
  before : σ
  request : Request
  reply : request.Reply
  after : σ

namespace Deal

def loaded? : Deal σ → Option UInt32
  | ⟨_, .load, word, _⟩ => some word
  | _ => none

def probed? : Deal σ → Option (UInt32 × Bool)
  | ⟨_, .probe holder, alive, _⟩ => some (holder, alive)
  | _ => none

def reading? : Deal σ → Option Nat
  | ⟨_, .clock, now, _⟩ => some now
  | _ => none

def parked? : Deal σ → Option Duration
  | ⟨_, .park _ limit, _, _⟩ => some limit
  | _ => none

/-- The word that an exchange replaced and the word that it stored, if it succeeded. -/
def wrote? : Deal σ → Option (UInt32 × UInt32)
  | ⟨_, .exchange _ expected desired, true, _⟩ => some (expected, desired)
  | _ => none

end Deal

/-- How often a contender looked at the word: once for each pass of its loop. -/
def looks (log : List (Deal σ)) : Nat := (log.filterMap Deal.loaded?).length

def parks (log : List (Deal σ)) : Nat := (log.filterMap Deal.parked?).length

def readings (log : List (Deal σ)) : List Nat := log.filterMap Deal.reading?

/-- The time between the first and the newest reading of the clock. -/
def elapsed (log : List (Deal σ)) : Nat :=
  (readings log).head?.getD 0 - (readings log).getLast?.getD 0

/-- An attempt in surroundings that deal with a contender as `Fair` says: its log, the newest deal
first, and where the contender stands after it. -/
inductive Attempt (p : GuardPolicy) (Fair : List (Deal σ) → Deal σ → Prop) :
    List (Deal σ) → Phase → Prop where
  | start : Attempt p Fair [] (.start p)
  | deal {log : List (Deal σ)} {phase : Phase} (attempt : Attempt p Fair log phase)
      {before after : σ} {request : Request} {next : request.Reply → Phase}
      (asks : move p phase = .ask request next) {reply : request.Reply}
      (fair : Fair log ⟨before, request, reply, after⟩) :
      Attempt p Fair (⟨before, request, reply, after⟩ :: log) (next reply)

namespace Attempt

variable {p : GuardPolicy} {Fair : List (Deal σ) → Deal σ → Prop} {log : List (Deal σ)}
  {phase : Phase}

theorem split {later earlier : List (Deal σ)} (attempt : Attempt p Fair (later ++ earlier) phase) :
    ∃ stood, Attempt p Fair earlier stood ∧
      (move p stood = .done → later = [] ∧ phase = stood) := by
  induction later generalizing phase with
  | nil => exact ⟨phase, attempt, fun _ => ⟨rfl, rfl⟩⟩
  | cons d later ih =>
    cases attempt with
    | deal attempt asks fair =>
      obtain ⟨stood, attempt, ended⟩ := ih attempt
      refine ⟨stood, attempt, fun done => ?_⟩
      obtain ⟨rfl, rfl⟩ := ended done
      rw [done] at asks
      cases asks

theorem refused (attempt : Attempt p Fair log phase) (invalid : p.canClaim = false) :
    log = [] ∧ phase = .refused := by
  induction attempt with
  | start => exact ⟨rfl, by simp [Phase.start, invalid]⟩
  | deal attempt asks fair ih =>
    rw [ih.2] at asks
    cases asks

end Attempt

/-! ## Passes of the loop -/

/-- The most deals that a contender makes from a phase on before it looks at the word again. -/
def Phase.spare : Phase → Nat
  | attempt => 2
  | begin | claim .. | takeover .. | park .. => 1
  | ask .. => 4
  | measure .. => 3
  | flag .. => 2
  | look .. | held _ | timedOut .. | refused => 0

theorem spare_seen (p : GuardPolicy) (began : Nat) (spins current : UInt32) :
    (seen p began spins current).spare ≤ 4 := by
  unfold seen
  split
  · simp [Phase.spare]
  · split <;> simp [Phase.spare]

theorem spare_measured (p : GuardPolicy) (began : Nat) (spins current : UInt32) (now : Nat) :
    (measured p began spins current now).spare ≤ 2 := by
  simp only [measured]
  split
  · simp [Phase.spare]
  · split <;> simp [Phase.spare]

theorem spare_of_asks {p : GuardPolicy} {phase : Phase} {request : Request}
    {next : request.Reply → Phase} (asks : move p phase = .ask request next) (reply : request.Reply)
    (before after : σ) (log : List (Deal σ)) :
    (next reply).spare + 1 + 5 * looks log ≤
      phase.spare + 5 * looks (⟨before, request, reply, after⟩ :: log) := by
  cases phase <;> cases asks
  case look began spins =>
    have few := spare_seen p began spins reply
    have pass : looks (⟨before, .load, reply, after⟩ :: log) = looks log + 1 := rfl
    show (seen p began spins reply).spare + 1 + 5 * looks log ≤ 0 + 5 * _
    omega
  case measure began spins current =>
    have few := spare_measured p began spins current reply
    exact Nat.add_le_add_right (Nat.succ_le_succ few) _
  all_goals
    refine Nat.add_le_add_right ?_ (5 * looks log)
    first
      | exact Nat.le_refl _
      | cases reply <;> simp [Phase.spare]

/-- A pass of the loop takes at most five deals, and two are made before the first. -/
theorem Attempt.length_le {p : GuardPolicy} {Fair : List (Deal σ) → Deal σ → Prop}
    {log : List (Deal σ)} {phase : Phase} (attempt : Attempt p Fair log phase) :
    log.length + phase.spare ≤ 2 + 5 * looks log := by
  induction attempt with
  | start =>
    unfold Phase.start
    split <;> simp [Phase.spare, looks]
  | @deal log phase attempt before after request next asks reply fair ih =>
    have spends := spare_of_asks asks reply before after log
    rw [List.length_cons]
    omega

/-! ## Logs that are attempts -/

/-- Where a contender stands after the deals of a log, if these are what it asks for. -/
def replay (p : GuardPolicy) : List (Deal σ) → Option Phase
  | [] => some (.start p)
  | d :: log =>
    match (replay p log).map (move p) with
    | some (.ask request next) =>
      if same : d.request = request then some (next (same ▸ d.reply)) else none
    | _ => none

/-- The surroundings deal as `Fair` says in every entry of a log. -/
def Throughout (Fair : List (Deal σ) → Deal σ → Prop) : List (Deal σ) → Prop
  | [] => True
  | d :: log => Fair log d ∧ Throughout Fair log

theorem attempt_of_replay {p : GuardPolicy} {Fair : List (Deal σ) → Deal σ → Prop}
    {log : List (Deal σ)} {phase : Phase} (stands : replay p log = some phase)
    (fair : Throughout Fair log) : Attempt p Fair log phase := by
  induction log generalizing phase with
  | nil =>
    cases stands
    exact .start
  | cons d log ih =>
    obtain ⟨before, request, reply, after⟩ := d
    cases stood : replay p log with
    | none => simp [replay, stood] at stands
    | some phase' =>
      cases asks : move p phase' with
      | done => simp [replay, stood, asks] at stands
      | ask request' next =>
        simp only [replay, stood, Option.map_some, asks] at stands
        split at stands
        · next same =>
          subst same
          cases stands
          exact (ih stood fair.2).deal asks fair.1
        · cases stands

/-! ## Time -/

/-- What the readings of the clock say of a phase: the contender waits since the first of them. -/
def Phase.Clocked (log : List (Deal σ)) : Phase → Prop
  | attempt | begin => readings log = []
  | look began _ | claim began _ | ask began _ _ | takeover began _ _ | measure began _ _
  | flag began _ _ _ | park began _ _ _ => (readings log).getLast? = some began
  | held _ | timedOut .. | refused => True

section Time

variable {p : GuardPolicy} {Fair : List (Deal σ) → Deal σ → Prop} {log : List (Deal σ)}
  {phase : Phase} {before after : σ} {began now : Nat} {spins current : UInt32}

theorem clocked_seen (since : (readings log).getLast? = some began) :
    (seen p began spins current).Clocked log := by
  unfold seen
  split
  · exact since
  · split <;> exact since

theorem clocked_measured (since : (readings log).getLast? = some began) :
    (measured p began spins current now).Clocked log := by
  simp only [measured]
  split
  · trivial
  · split <;> exact since

theorem clocked_ite {phase' : Phase} {ok : Bool} (yes : phase.Clocked log)
    (no : phase'.Clocked log) : (if ok then phase else phase').Clocked log := by
  split
  · exact yes
  · exact no

theorem getLast?_readings_clock (since : (readings log).getLast? = some began) :
    (readings (⟨before, .clock, now, after⟩ :: log)).getLast? = some began := by
  show (now :: readings log).getLast? = some began
  rw [List.getLast?_cons, since]
  rfl

theorem elapsed_clock (since : (readings log).getLast? = some began) :
    elapsed (⟨before, .clock, now, after⟩ :: log) = now - began := by
  rw [elapsed, getLast?_readings_clock since]
  rfl

theorem clocked_of_asks (clocked : phase.Clocked log) {request : Request}
    {next : request.Reply → Phase} (asks : move p phase = .ask request next)
    (reply : request.Reply) :
    (next reply).Clocked (⟨before, request, reply, after⟩ :: log) := by
  cases phase <;> cases asks
  case attempt => exact clocked_ite trivial clocked
  case begin =>
    show (reply :: readings log).getLast? = some reply
    rw [show readings log = [] from clocked]
    rfl
  case look => exact clocked_seen clocked
  case claim => exact clocked_ite trivial clocked
  case ask => exact clocked_ite clocked clocked
  case takeover => exact clocked_ite trivial clocked
  case measure => exact clocked_measured (getLast?_readings_clock clocked)
  case flag => exact clocked_ite clocked clocked
  case park => exact clocked

theorem Attempt.clocked (attempt : Attempt p Fair log phase) : phase.Clocked log := by
  induction attempt with
  | start =>
    unfold Phase.start
    split
    · rfl
    · trivial
  | deal _ asks _ ih => exact clocked_of_asks ih asks _

end Time

/-! ## What a contender acts on -/

/-- The newest deal loaded the word `current`. -/
inductive Saw : List (Deal σ) → UInt32 → Prop where
  | load {log : List (Deal σ)} {d : Deal σ} {current : UInt32}
      (loaded : d.loaded? = some current) : Saw (d :: log) current

/-- The newest deals loaded the word `current`, and then asked a probe for its holder. -/
inductive Asked (alive : Bool) : List (Deal σ) → UInt32 → Prop where
  | probe {log : List (Deal σ)} {d : Deal σ} {current : UInt32} (saw : Saw log current)
      (probed : d.probed? = some (holderOf current, alive)) : Asked alive (d :: log) current

/-- The newest deals loaded the word `current`, found its holder alive, and then read the clock. -/
inductive Measured : List (Deal σ) → UInt32 → Prop where
  | clock {log : List (Deal σ)} {d : Deal σ} {current : UInt32} {now : Nat}
      (asked : Asked true log current) (read : d.reading? = some now) : Measured (d :: log) current

/-- What the log says of the word and the time that a contender acts on in a phase. -/
def Phase.Rests (p : GuardPolicy) (log : List (Deal σ)) : Phase → Prop
  | ask _ _ current => Saw log current ∧ current ≠ 0
  | takeover _ _ current => Asked false log current
  | measure _ _ current => Asked true log current ∧ current ≠ 0
  | flag _ _ current slice =>
    (Measured log current ∧ current ≠ 0 ∧ hasWaiters current = false) ∧
      slice? p ⟨elapsed log⟩ = some slice
  | park _ _ _ slice => slice? p ⟨elapsed log⟩ = some slice
  | timedOut holder waited =>
    (∃ current, Measured log current ∧ holderOf current = holder) ∧
      waited = ⟨elapsed log⟩ ∧ slice? p waited = none
  | _ => True

section Basis

variable {p : GuardPolicy} {Fair : List (Deal σ) → Deal σ → Prop} {log : List (Deal σ)}
  {phase : Phase} {before after : σ} {began now : Nat} {spins current : UInt32}

theorem rests_seen :
    (seen p began spins current).Rests p (⟨before, .load, current, after⟩ :: log) := by
  unfold seen
  split
  · trivial
  · next held =>
    split
    · trivial
    · exact ⟨.load rfl, held⟩

theorem rests_measured (since : (readings log).getLast? = some began)
    (asked : Asked true log current) (held : current ≠ 0) :
    (measured p began spins current now).Rests p (⟨before, .clock, now, after⟩ :: log) := by
  have measured' : Measured (⟨before, .clock, now, after⟩ :: log) current := .clock asked rfl
  have time : elapsed (⟨before, .clock, now, after⟩ :: log) = now - began := elapsed_clock since
  simp only [measured]
  split
  · next late => exact ⟨⟨current, measured', rfl⟩, by rw [time], late⟩
  · next slice early =>
    rw [← time] at early
    split
    · exact early
    · next alone => exact ⟨⟨measured', held, by simpa using alone⟩, early⟩

theorem rests_of_asks (clocked : phase.Clocked log) (rests : phase.Rests p log)
    {request : Request} {next : request.Reply → Phase} (asks : move p phase = .ask request next)
    (reply : request.Reply) :
    (next reply).Rests p (⟨before, request, reply, after⟩ :: log) := by
  cases phase <;> cases asks
  case attempt => cases reply <;> trivial
  case begin => trivial
  case look => exact rests_seen
  case claim => cases reply <;> trivial
  case ask =>
    cases reply with
    | true => exact ⟨.probe rests.1 rfl, rests.2⟩
    | false => exact .probe rests.1 rfl
  case takeover => cases reply <;> trivial
  case measure => exact rests_measured clocked rests.1 rests.2
  case flag =>
    cases reply with
    | true => exact rests.2
    | false => trivial
  case park => trivial

/-- A contender acts on the word that it loaded last, on what a probe said of its holder, and on the
time that has gone by. -/
theorem Attempt.rests (attempt : Attempt p Fair log phase) : phase.Rests p log := by
  induction attempt with
  | start =>
    unfold Phase.start
    split <;> trivial
  | deal attempt asks _ ih => exact rests_of_asks attempt.clocked ih asks _

end Basis

/-! ## Time that is left -/

theorem exists_limit_of_slice? {p : GuardPolicy} {waited : Duration}
    (late : slice? p waited = none) :
    ∃ limit, p.timeout = some limit ∧ limit.nanos ≤ waited.nanos := by
  unfold slice? at late
  split at late
  · cases late
  · next limit bounded =>
    split at late
    · next reached => exact ⟨limit, bounded, reached⟩
    · cases late

theorem stood_of_parked {p : GuardPolicy} {phase : Phase} {request : Request}
    {next : request.Reply → Phase} (asks : move p phase = .ask request next) {before after : σ}
    {reply : request.Reply} {slice : Duration}
    (parked : Deal.parked? ⟨before, request, reply, after⟩ = some slice) :
    ∃ began spins expected, phase = .park began spins expected slice := by
  cases phase <;> cases asks <;> cases parked
  exact ⟨_, _, _, rfl⟩

end Guard

end Interprocess
