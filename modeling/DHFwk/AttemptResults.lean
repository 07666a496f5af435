import DHFwk.EnableParams
import DHFwk.Runs

/-!
# Whose result an attempt returns

`ComponentEnable::Enable` and `ComponentDisable::Disable` ask the handler and wait a second for its
callback, which sets `status_`. The component manager repeats a failed attempt on the same object,
but nothing takes `status_` back : after a callback that reports a failure the next attempt does
not wait at all, and a callback that comes too late ends the wait of the attempt after its own.

A run makes any number of attempts, with the callbacks of all of them at any time.
`results_own_iff` says exactly when each wait returns what its own attempt was told.
-/

set_option linter.unusedSectionVars false

namespace DHFwk

open Runs

/-- The error codes of `distributed_hardware_errno.h`. -/
abbrev ERR_DH_FWK_COMPONENT_DISABLE_FAILED : Int := -10303
abbrev ERR_DH_FWK_COMPONENT_REGISTER_FAILED : Int := -10306
abbrev ERR_DH_FWK_COMPONENT_CONFIG_FAILED : Int := -10307
abbrev ERR_DH_FWK_COMPONENT_UNREGISTER_FAILED : Int := -10007

/-- What `ComponentEnable` and `ComponentDisable` differ in. -/
structure CompOperation where
  registerFailed : Int
  timeout : Int
  failed : Int
  /-- Custom parameters are configured before the wait. -/
  configures : Bool
  timeout_ne_success : timeout ≠ DH_FWK_SUCCESS
  failed_ne_success : failed ≠ DH_FWK_SUCCESS
  timeout_ne_failed : timeout ≠ failed

/-- `ComponentEnable`. -/
def componentEnable : CompOperation where
  registerFailed := ERR_DH_FWK_COMPONENT_REGISTER_FAILED
  timeout := ERR_DH_FWK_COMPONENT_ENABLE_TIMEOUT
  failed := ERR_DH_FWK_COMPONENT_ENABLE_FAILED
  configures := true
  timeout_ne_success := by decide
  failed_ne_success := by decide
  timeout_ne_failed := by decide

/-- `ComponentDisable`. -/
def componentDisable : CompOperation where
  registerFailed := ERR_DH_FWK_COMPONENT_UNREGISTER_FAILED
  timeout := ERR_DH_FWK_COMPONENT_DISABLE_TIMEOUT
  failed := ERR_DH_FWK_COMPONENT_DISABLE_FAILED
  configures := false
  timeout_ne_success := by decide
  failed_ne_success := by decide
  timeout_ne_failed := by decide

/-- How far an attempt is. -/
inductive AttemptPhase
  | idle
  /-- `RegisterDistributedHardware` or `UnregisterDistributedHardware` has been called. -/
  | registering (config : Bool)
  /-- `ConfigDistributedHardware` has been called. -/
  | configuring
  /-- In `wait_for`. -/
  | waiting
  deriving DecidableEq

/-- An object of one of the classes, and what it has been told. -/
structure CompAttempts where
  status_ : Int32 := Int32.maxValue
  phase : AttemptPhase := .idle
  /-- The attempts that have called the handler. -/
  attempt : ℕ := 0
  /-- The callbacks taken, with the attempts they were delivered for, the last one first. -/
  taken : List (ℕ × Int32) := []

namespace CompAttempts

/-! ## The code -/

variable (op : CompOperation) (s : CompAttempts)

/-- `Enable` or `Disable` up to the call of the handler, with what it returns if it does. -/
def call (networkId dhId : String) (handler : Bool) (customParams : String) :
    Option Int × CompAttempts :=
  if ¬isIdLengthValid networkId ∨ ¬isIdLengthValid dhId then (some ERR_DH_FWK_PARA_INVALID, s)
  else if ¬handler then (some ERR_DH_FWK_PARA_INVALID, s)
  else (none, { s with
    phase := .registering (op.configures && customParams ≠ ""), attempt := s.attempt + 1 })

/-- The handler's `RegisterDistributedHardware` or `UnregisterDistributedHardware` has returned. -/
def registered (config : Bool) (ret : Int) : Option Int × CompAttempts :=
  if ret ≠ DH_FWK_SUCCESS then (some op.registerFailed, { s with phase := .idle })
  else (none, { s with phase := if config then .configuring else .waiting })

/-- `ConfigDistributedHardware` has returned. -/
def configured (ret : Int) : Option Int × CompAttempts :=
  if ret ≠ DH_FWK_SUCCESS then (some ERR_DH_FWK_COMPONENT_CONFIG_FAILED, { s with phase := .idle })
  else (none, { s with phase := .waiting })

/-- What a status is returned as. -/
def value (status : Int32) : Int :=
  if status = 0 then DH_FWK_SUCCESS else op.failed

/-- `wait_for` returns : at the time-out, or before it with a status. -/
def waitEnds : Option Int × CompAttempts :=
  (some (if s.status_ = Int32.maxValue then op.timeout else value op s.status_),
    { s with phase := .idle })

/-- `OnRegisterResult` or `OnUnregisterResult`, delivered for the given attempt. -/
def onResult (attempt : ℕ) (networkId dhId : String) (status : Int32) : Int × CompAttempts :=
  if ¬isIdLengthValid networkId ∨ ¬isIdLengthValid dhId then (ERR_DH_FWK_PARA_INVALID, s)
  else (status.toInt, { s with status_ := status, taken := (attempt, status) :: s.taken })

/-! ## Runs -/

/-- What happens to the object. -/
inductive Step
  | call (networkId dhId : String) (handler : Bool) (customParams : String)
  | registered (ret : Int)
  | configured (ret : Int)
  | waitEnds
  | onResult (attempt : ℕ) (networkId dhId : String) (status : Int32)

/-- A step, with what the attempt returns if it does. A callback is delivered for an attempt that
has called the handler, however long ago. -/
def perform : Step → Option Int × CompAttempts
  | .call networkId dhId handler customParams =>
    if s.phase = .idle then s.call op networkId dhId handler customParams else (none, s)
  | .registered ret =>
    match s.phase with
    | .registering config => s.registered op config ret
    | _ => (none, s)
  | .configured ret => if s.phase = .configuring then s.configured ret else (none, s)
  | .waitEnds => if s.phase = .waiting then s.waitEnds op else (none, s)
  | .onResult attempt networkId dhId status =>
    if 0 < attempt ∧ attempt ≤ s.attempt then
      (none, (s.onResult attempt networkId dhId status).2)
    else (none, s)

/-- One step. -/
def step (l : Step) : CompAttempts := (s.perform op l).2

/-- Some callback has been delivered for the attempt. -/
def Told : Prop := ∃ e ∈ s.taken, e.1 = s.attempt

instance : Decidable s.Told := inferInstanceAs (Decidable (∃ e ∈ s.taken, e.1 = s.attempt))

/-- The value of a callback delivered for the attempt, or the time-out error if there is none. -/
def Own (result : Int) : Prop :=
  (∃ e ∈ s.taken, e.1 = s.attempt ∧ result = value op e.2) ∨ ¬s.Told ∧ result = op.timeout

instance (result : Int) : Decidable (s.Own op result) :=
  inferInstanceAs (Decidable
    ((∃ e ∈ s.taken, e.1 = s.attempt ∧ result = value op e.2) ∨ ¬s.Told ∧ result = op.timeout))

/-- If the wait of an attempt returns, its result is its own. -/
def ReturnsOwn (l : Step) : Prop :=
  s.phase = .waiting → ∀ result ∈ (s.perform op l).1, s.Own op result

instance (l : Step) : Decidable (s.ReturnsOwn op l) :=
  inferInstanceAs (Decidable (s.phase = .waiting → ∀ result ∈ (s.perform op l).1, s.Own op result))

/-- The last callback taken, if any, was delivered for the attempt or agrees with one that was,
and does not carry the value of no status; or it does, and none was. -/
def Undisturbed : Prop :=
  ∀ last ∈ s.taken.head?,
    last.2 ≠ Int32.maxValue ∧ (∃ e ∈ s.taken, e.1 = s.attempt ∧ (e.2 = 0 ↔ last.2 = 0)) ∨
      last.2 = Int32.maxValue ∧ ¬s.Told

/-- A wait that returns is undisturbed. -/
def WaitsUndisturbed (l : Step) : Prop :=
  l = .waitEnds → s.phase = .waiting → s.Undisturbed

section

variable {op s}

/-- A step leaves the status and the callbacks as they are, or takes a callback of an attempt made
so far. -/
theorem step_cases (op : CompOperation) (s : CompAttempts) (l : Step) :
    ((s.step op l).status_ = s.status_ ∧ (s.step op l).taken = s.taken ∧
        s.attempt ≤ (s.step op l).attempt) ∨
      ∃ attempt status, 0 < attempt ∧ attempt ≤ s.attempt ∧ (s.step op l).status_ = status ∧
        (s.step op l).taken = (attempt, status) :: s.taken ∧ (s.step op l).attempt = s.attempt := by
  cases l with
  | call networkId dhId handler customParams =>
    refine Or.inl ?_
    simp only [step, perform, call]
    split_ifs <;> simp
  | registered ret =>
    refine Or.inl ?_
    simp only [step, perform, registered]
    split
    · split_ifs <;> simp
    · simp
  | configured ret =>
    refine Or.inl ?_
    simp only [step, perform, configured]
    split_ifs <;> simp
  | waitEnds =>
    refine Or.inl ?_
    simp only [step, perform, waitEnds]
    split_ifs <;> simp
  | onResult attempt networkId dhId status =>
    simp only [step, perform, onResult]
    split_ifs with hattempt
    · exact Or.inl ⟨rfl, rfl, le_rfl⟩
    · exact Or.inr ⟨attempt, status, hattempt.1, hattempt.2, rfl, rfl, rfl⟩
    · exact Or.inl ⟨rfl, rfl, le_rfl⟩

/-- The status is that of the last callback taken, and all were delivered for attempts made. -/
structure Sound (s : CompAttempts) : Prop where
  status_eq : s.status_ = (s.taken.head?.map Prod.snd).getD Int32.maxValue
  attempt_pos : ∀ e ∈ s.taken, 0 < e.1
  attempt_le : ∀ e ∈ s.taken, e.1 ≤ s.attempt

theorem sound_init : Sound {} :=
  ⟨rfl, fun _ h => absurd h List.not_mem_nil, fun _ h => absurd h List.not_mem_nil⟩

theorem Sound.step (h : s.Sound) (l : Step) : (s.step op l).Sound := by
  rcases step_cases op s l with
    ⟨hstatus, htaken, hattempt⟩ | ⟨k, status, hpos, hle, hstatus, htaken, hattempt⟩
  · refine ⟨?_, ?_, ?_⟩
    · rw [hstatus, htaken]
      exact h.status_eq
    · rw [htaken]
      exact h.attempt_pos
    · rw [htaken]
      exact fun e he => (h.attempt_le e he).trans hattempt
  · refine ⟨?_, ?_, ?_⟩
    · rw [hstatus, htaken]
      rfl
    · rw [htaken]
      exact List.forall_mem_cons.2 ⟨hpos, h.attempt_pos⟩
    · rw [htaken, hattempt]
      exact List.forall_mem_cons.2 ⟨hle, h.attempt_le⟩

theorem Sound.foldl (ls : List Step) : Sound (ls.foldl (CompAttempts.step op) {}) :=
  foldl_invariant (fun _ l h => h.step l) ls sound_init

/-! ## The result of a wait -/

theorem value_ne_timeout (status : Int32) : value op status ≠ op.timeout := by
  unfold value
  split_ifs
  · exact op.timeout_ne_success.symm
  · exact op.timeout_ne_failed.symm

theorem value_eq_iff (status status' : Int32) :
    value op status = value op status' ↔ (status' = 0 ↔ status = 0) := by
  unfold value
  by_cases h : status = 0 <;> by_cases h' : status' = 0 <;>
    simp [h, h', op.failed_ne_success, op.failed_ne_success.symm]

theorem own_value_iff (status : Int32) :
    s.Own op (value op status) ↔ ∃ e ∈ s.taken, e.1 = s.attempt ∧ (e.2 = 0 ↔ status = 0) := by
  simp only [Own, value_eq_iff, value_ne_timeout, and_false, or_false]

theorem own_timeout_iff : s.Own op op.timeout ↔ ¬s.Told := by
  simp only [Own, (value_ne_timeout _).symm, and_false, exists_false, false_or, and_true]

/-- What a wait returns is the attempt's own by the status alone. -/
theorem waitEnds_own_iff :
    (∀ result ∈ (s.waitEnds op).1, s.Own op result) ↔
      if s.status_ = Int32.maxValue then ¬s.Told
      else ∃ e ∈ s.taken, e.1 = s.attempt ∧ (e.2 = 0 ↔ s.status_ = 0) := by
  have hresult : (∀ result ∈ (s.waitEnds op).1, s.Own op result) ↔
      s.Own op (if s.status_ = Int32.maxValue then op.timeout else value op s.status_) :=
    ⟨fun h => h _ rfl, fun h result hr => Option.mem_some.1 hr ▸ h⟩
  rw [hresult]
  split_ifs
  · exact own_timeout_iff
  · exact own_value_iff _

/-- A wait returns the result of its own attempt exactly if it is undisturbed. -/
theorem Sound.own_iff (h : s.Sound) :
    (∀ result ∈ (s.waitEnds op).1, s.Own op result) ↔ s.Undisturbed := by
  have hstatus := h.status_eq
  rw [waitEnds_own_iff, Undisturbed]
  rcases hlast : s.taken.head? with _ | last
  · rw [hlast] at hstatus
    have hnone : ¬s.Told := fun ⟨e, he, _⟩ => by
      rw [List.head?_eq_none_iff.1 hlast] at he
      exact List.not_mem_nil he
    rw [if_pos (show s.status_ = Int32.maxValue from hstatus)]
    exact iff_of_true hnone fun _ h => absurd h (Option.not_mem_none _)
  · rw [hlast] at hstatus
    have hstatus : s.status_ = last.2 := hstatus
    have hmem : ∀ p : ℕ × Int32 → Prop, (∀ l ∈ some last, p l) ↔ p last := fun p =>
      ⟨fun h => h last rfl, fun h l hl => Option.mem_some.1 hl ▸ h⟩
    rw [hmem, hstatus]
    by_cases hmax : last.2 = Int32.maxValue <;> simp [hmax]

/-- The wait of an attempt is undisturbed if the last callback was delivered for it. -/
theorem Undisturbed.of_last {status : Int32} (h : s.taken.head? = some (s.attempt, status))
    (hstatus : status ≠ Int32.maxValue) : s.Undisturbed := by
  intro last hlast
  obtain rfl := Option.mem_unique hlast h
  exact Or.inl ⟨hstatus, _, List.mem_of_mem_head? h, rfl, Iff.rfl⟩

/-- The first attempt's wait is undisturbed, unless it is told the value of no status. -/
theorem Sound.undisturbed_first (h : s.Sound) (hfirst : s.attempt = 1)
    (hstatus : ∀ e ∈ s.taken, e.2 ≠ Int32.maxValue) : s.Undisturbed := by
  intro last hlast
  have hmem := List.mem_of_mem_head? hlast
  have hattempt : last.1 = s.attempt := by
    have hpos := h.attempt_pos last hmem
    have hle := h.attempt_le last hmem
    omega
  exact Or.inl ⟨hstatus last hmem, last, hmem, hattempt, Iff.rfl⟩

/-- While an attempt waits, nothing but the end of the wait makes it return. -/
theorem perform_fst_of_waiting (h : s.phase = .waiting) {l : Step} (hl : l ≠ .waitEnds) :
    (s.perform op l).1 = none := by
  cases l with
  | call => simp [perform, h]
  | registered => simp [perform, h]
  | configured => simp [perform, h]
  | waitEnds => exact absurd rfl hl
  | onResult =>
    simp only [perform]
    split_ifs <;> rfl

theorem Sound.returnsOwn_iff (h : s.Sound) (l : Step) :
    s.ReturnsOwn op l ↔ s.WaitsUndisturbed l := by
  unfold ReturnsOwn WaitsUndisturbed
  rw [imp.swap]
  refine imp_congr_right fun hphase => ?_
  by_cases hl : l = .waitEnds
  · have hperform : s.perform op .waitEnds = s.waitEnds op := if_pos hphase
    rw [hl, hperform, h.own_iff]
    exact ⟨fun h _ => h, fun h => h rfl⟩
  · rw [perform_fst_of_waiting hphase hl]
    exact iff_of_true (fun _ h => absurd h (Option.not_mem_none _)) fun h => absurd h hl

/-- Every wait of a run that returns, returns the result of its own attempt, if and only if every
such wait is undisturbed : for any number of attempts, with their callbacks at any time. -/
theorem results_own_iff (op : CompOperation) (ls : List Step) :
    Along (step op) (ReturnsOwn op) {} ls ↔
      Along (step op) (fun s l => s.WaitsUndisturbed l) {} ls :=
  along_congr (fun _ l h _ => h.step l) (fun _ l h => h.returnsOwn_iff l) ls sound_init

end

/-- The first attempt is told that it failed, the second one nothing. -/
def toldOnce : List Step :=
  [.call "net" "dh" true "", .registered 0, .onResult 1 "net" "dh" 5, .waitEnds,
    .call "net" "dh" true "", .registered 0, .waitEnds]

/-- The first attempt times out and is told of its success while the second one waits. -/
def toldLate : List Step :=
  [.call "net" "dh" true "", .registered 0, .waitEnds,
    .call "net" "dh" true "", .registered 0, .onResult 1 "net" "dh" 0, .waitEnds]

theorem results_of_earlier_attempts :
    ¬Along (step componentEnable) (ReturnsOwn componentEnable) {} toldOnce ∧
      ¬Along (step componentEnable) (ReturnsOwn componentEnable) {} toldLate ∧
      ¬Along (step componentDisable) (ReturnsOwn componentDisable) {} toldOnce ∧
      ¬Along (step componentDisable) (ReturnsOwn componentDisable) {} toldLate := by
  decide

end CompAttempts

end DHFwk
