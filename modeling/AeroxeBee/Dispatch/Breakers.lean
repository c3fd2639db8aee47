import AeroxeBee.Dispatch.CircuitBreaker
import Mathlib.Algebra.Order.Field.Basic
import Mathlib.Tactic.Linarith
import Mathlib.Tactic.NormNum
import Mathlib.Tactic.Ring

/-!
# The life of a circuit breaker

The operations on a breaker one by one, and what they come to over any sequence of calls on any
number of breakers.

* `CircuitState.failed`, `CircuitState.succeeded`, `CircuitState.asked`: what an operation makes of
  the breaker it is about;
* `CircuitState.Counted.apply`: the invariant of the two counters;
* `lawful_run`: in which states a breaker can be, and how it goes from one to the other.
-/

namespace AeroxeBee.Dispatch

open StateManager

/-! ## One breaker -/

namespace CircuitState

variable (cfg : CircuitBreakerConfig) (now : ℤ) (scope : CircuitBreakerScope) (cs : CircuitState)

/-- The breaker opens. -/
def opens : CircuitState :=
  { cs with state := .opened, cooldownUntil := now + cooldownFor cfg scope }

/-- The share of failures among the samples. -/
def failureRate : ℚ := cs.failureCount / (cs.failureCount + cs.successCount)

/-- By how much the failures exceed what the threshold tolerates. -/
def excess : ℚ :=
  cs.failureCount - failureThreshold cfg scope * (cs.failureCount + cs.successCount)

/-- The breaker with one more failure. -/
def countFailure : CircuitState := { cs with failureCount := cs.failureCount + 1 }

/-- The share of failures that is compared with the threshold. -/
def comparedRate : ℚ :=
  let total : ℤ := cs.failureCount + cs.successCount
  let total : ℤ := if total = 0 then 1 else total
  (cs.failureCount : ℚ) / (total : ℤ)

/-- What a failure makes of a breaker. -/
def failed : CircuitState :=
  if cs.state = .halfOpen then { cs.countFailure with successCount := 0 }.opens cfg now scope
  else if failureThreshold cfg scope < cs.countFailure.comparedRate then
    cs.countFailure.opens cfg now scope
  else cs.countFailure

/-- What a success makes of a breaker. -/
def succeeded : CircuitState :=
  if cs.state = .opened then cs
  else if cs.state = .halfOpen then
    if halfOpenSuccessesFor cfg scope ≤ cs.halfOpenTrial + 1 then
      { cs with state := .closed, failureCount := 0, successCount := 0, halfOpenTrial := 0 }
    else { cs with successCount := cs.successCount + 1, halfOpenTrial := cs.halfOpenTrial + 1 }
  else { cs with successCount := cs.successCount + 1 }

/-- What becomes of a breaker when its state is asked for. -/
def asked : CircuitState :=
  if cs.state = .opened ∧ cs.cooldownUntil < now then { cs with state := .halfOpen, halfOpenTrial := 0 }
  else cs

end CircuitState

/-- The operations on a breaker. -/
inductive Operation where
  | recordFailure
  | recordSuccess
  | getState
deriving DecidableEq

/-- What an operation makes of a breaker. -/
def Operation.apply (cfg : CircuitBreakerConfig) (now : ℤ) (scope : CircuitBreakerScope) :
    Operation → CircuitState → CircuitState
  | recordFailure, cs => cs.failed cfg now scope
  | recordSuccess, cs => cs.succeeded cfg scope
  | getState, cs => cs.asked now

namespace StateManager

variable (cfg : CircuitBreakerConfig) (sm : StateManager) (now : ℤ)
  (scope : CircuitBreakerScope) (scopeValue : String)

/-- Perform an operation. -/
def perform : Operation → StateManager
  | .recordFailure => recordFailure cfg sm now scope scopeValue
  | .recordSuccess => recordSuccess cfg sm scope scopeValue
  | .getState => (getState sm now scope scopeValue).2

/-- An operation changes the breaker it is about, and no other one. -/
theorem perform_eq (op : Operation) :
    perform cfg sm now scope scopeValue op =
      putState sm scope scopeValue
        (op.apply cfg now scope (getOrCreateState sm scope scopeValue)) := by
  cases op with
  | recordFailure =>
    simp only [Operation.apply, CircuitState.failed]
    rw [apply_ite (putState sm scope scopeValue), apply_ite (putState sm scope scopeValue)]
    rfl
  | recordSuccess =>
    simp only [perform, recordSuccess, Operation.apply, CircuitState.succeeded]
    split_ifs <;> rfl
  | getState =>
    simp only [perform, getState, Operation.apply, CircuitState.asked]
    split_ifs <;> rfl

/-- The key says which breaker it is. -/
theorem keyCB_injective {scope' : CircuitBreakerScope} {scopeValue' : String}
    (h : keyCB scope scopeValue = keyCB scope' scopeValue') :
    scope = scope' ∧ scopeValue = scopeValue' := by
  have hlist := congrArg String.toList h
  simp only [keyCB, String.toList_append] at hlist
  have hvalue : scope = scope' → scopeValue = scopeValue' := by
    rintro rfl
    exact String.toList_injective (List.append_cancel_left hlist)
  have hscope : scope = scope' := by
    cases scope <;> cases scope' <;> first | rfl | (simp [CircuitBreakerScope.name] at hlist)
  exact ⟨hscope, hvalue hscope⟩

@[simp] theorem getOrCreateState_putState (cs : CircuitState) :
    getOrCreateState (putState sm scope scopeValue cs) scope scopeValue = cs := by
  simp [getOrCreateState, putState]

theorem getOrCreateState_putState_of_ne {scope' : CircuitBreakerScope} {scopeValue' : String}
    (h : ¬ (scope = scope' ∧ scopeValue = scopeValue')) (cs : CircuitState) :
    getOrCreateState (putState sm scope scopeValue cs) scope' scopeValue' =
      getOrCreateState sm scope' scopeValue' := by
  have hkey : keyCB scope' scopeValue' ≠ keyCB scope scopeValue := by
    intro hkey
    obtain ⟨hscope, hvalue⟩ := keyCB_injective _ _ hkey
    exact h ⟨hscope.symm, hvalue.symm⟩
  rw [getOrCreateState, getOrCreateState, putState_of_ne hkey]

end StateManager

/-! ## The counters -/

namespace CircuitState

variable {cfg : CircuitBreakerConfig} {now : ℤ} {scope : CircuitBreakerScope} {cs : CircuitState}

/-- The rate is above the threshold if there are too many failures. -/
theorem lt_failureRate_iff (htotal : 0 < cs.failureCount + cs.successCount) :
    failureThreshold cfg scope < cs.failureRate ↔ 0 < cs.excess cfg scope := by
  have hpos : (0 : ℚ) < cs.failureCount + cs.successCount := by exact_mod_cast htotal
  rw [failureRate, lt_div_iff₀ hpos, excess, sub_pos]

theorem comparedRate_eq (htotal : 0 < cs.failureCount + cs.successCount) :
    cs.comparedRate = cs.failureRate := by
  simp only [comparedRate, failureRate, if_neg htotal.ne']
  push_cast
  rfl

/-- The counters of a breaker are not negative. -/
structure Counted (cs : CircuitState) : Prop where
  failures : 0 ≤ cs.failureCount
  successes : 0 ≤ cs.successCount

theorem Counted.initial : Counted CircuitState.initial := ⟨le_refl 0, le_refl 0⟩

theorem Counted.countFailure (h : Counted cs) : Counted cs.countFailure :=
  ⟨by simpa [CircuitState.countFailure] using Int.le_add_one h.failures, h.successes⟩

/-- A breaker that is not in trial opens if there are too many failures. -/
theorem Counted.failed_eq (h : Counted cs) (hstate : cs.state ≠ .halfOpen) :
    cs.failed cfg now scope =
      if 0 < cs.countFailure.excess cfg scope then cs.countFailure.opens cfg now scope
      else cs.countFailure := by
  have htotal : 0 < cs.countFailure.failureCount + cs.countFailure.successCount := by
    have hf := h.failures
    have hs := h.successes
    simp only [CircuitState.countFailure]
    omega
  rw [failed, if_neg hstate, comparedRate_eq htotal]
  simp only [lt_failureRate_iff htotal]

theorem failed_of_halfOpen (hstate : cs.state = .halfOpen) :
    cs.failed cfg now scope = { cs.countFailure with successCount := 0 }.opens cfg now scope := by
  rw [failed, if_pos hstate]

theorem succeeded_of_opened (hstate : cs.state = .opened) : cs.succeeded cfg scope = cs := by
  rw [succeeded, if_pos hstate]

variable (cfg scope) in
theorem succeeded_of_halfOpen (hstate : cs.state = .halfOpen) :
    cs.succeeded cfg scope =
      if halfOpenSuccessesFor cfg scope ≤ cs.halfOpenTrial + 1 then
        { cs with state := .closed, failureCount := 0, successCount := 0, halfOpenTrial := 0 }
      else { cs with successCount := cs.successCount + 1, halfOpenTrial := cs.halfOpenTrial + 1 } := by
  have hopen : cs.state ≠ .opened := by simp [hstate]
  rw [succeeded, if_neg hopen, if_pos hstate]

variable (cfg scope) in
theorem succeeded_of_closed (hstate : cs.state = .closed) :
    cs.succeeded cfg scope = { cs with successCount := cs.successCount + 1 } := by
  have hopen : cs.state ≠ .opened := by simp [hstate]
  have hhalf : cs.state ≠ .halfOpen := by simp [hstate]
  rw [succeeded, if_neg hopen, if_neg hhalf]

variable (cfg now scope) in
/-- The counters stay at zero or above. -/
theorem Counted.apply (h : Counted cs) (op : Operation) : Counted (op.apply cfg now scope cs) := by
  have hs := h.successes
  cases op with
  | recordFailure =>
    have hf := h.countFailure
    simp only [Operation.apply, failed]
    split_ifs
    · exact ⟨hf.failures, le_refl 0⟩
    · exact ⟨hf.failures, hf.successes⟩
    · exact hf
  | recordSuccess =>
    simp only [Operation.apply, succeeded]
    split_ifs
    · exact h
    · exact ⟨le_refl 0, le_refl 0⟩
    · exact ⟨h.failures, show 0 ≤ cs.successCount + 1 by omega⟩
    · exact ⟨h.failures, show 0 ≤ cs.successCount + 1 by omega⟩
  | getState =>
    simp only [Operation.apply, asked]
    split_ifs
    · exact ⟨h.failures, h.successes⟩
    · exact h

variable (cfg scope cs) in
/-- What a failure adds to the excess. -/
theorem excess_countFailure :
    cs.countFailure.excess cfg scope = cs.excess cfg scope + (1 - failureThreshold cfg scope) := by
  simp only [excess, countFailure]
  push_cast
  ring

/-- A closed breaker does not have too many failures. -/
theorem Counted.excess_apply (hcounted : Counted cs) (ht0 : 0 ≤ failureThreshold cfg scope)
    (hlow : cs.state = .closed → cs.excess cfg scope ≤ 0) (op : Operation)
    (hstate' : (op.apply cfg now scope cs).state = .closed) :
    (op.apply cfg now scope cs).excess cfg scope ≤ 0 := by
  cases op with
  | recordFailure =>
    simp only [Operation.apply] at hstate' ⊢
    by_cases hhalf : cs.state = .halfOpen
    · rw [failed_of_halfOpen hhalf] at hstate'
      cases hstate'
    · rw [hcounted.failed_eq hhalf] at hstate' ⊢
      split_ifs at hstate' ⊢ with hexcess
      · cases hstate'
      · exact not_lt.1 hexcess
  | recordSuccess =>
    simp only [Operation.apply] at hstate' ⊢
    cases hstate : cs.state with
    | opened =>
      rw [succeeded_of_opened hstate, hstate] at hstate'
      cases hstate'
    | halfOpen =>
      rw [succeeded_of_halfOpen cfg scope hstate] at hstate' ⊢
      split_ifs at hstate' ⊢
      · simp [excess]
      · cases hstate.symm.trans hstate'
    | closed =>
      have hle := hlow hstate
      rw [succeeded_of_closed cfg scope hstate]
      simp only [excess] at hle ⊢
      push_cast
      linarith
  | getState =>
    simp only [Operation.apply, asked] at hstate' ⊢
    split_ifs at hstate' ⊢
    exact hlow hstate'

end CircuitState

/-! ## Sequences of calls -/

/-- An operation on a breaker, some time after the call before it. -/
structure Call where
  elapsed : ℕ
  op : Operation
  scope : CircuitBreakerScope
  scopeValue : String
deriving DecidableEq

/-- What has happened to a breaker: when a failure was last recorded, and what was recorded since
the breaker last entered its trial. -/
structure History where
  lastFailure : Option ℤ
  successes : ℕ
  failures : ℕ
deriving DecidableEq

/-- The history after an operation. -/
def History.note (h : History) (now : ℤ) (op : Operation) (before after : CircuitBreakerState) :
    History :=
  let h := match op with
    | .recordFailure => { h with lastFailure := some now, failures := h.failures + 1 }
    | .recordSuccess => { h with successes := h.successes + 1 }
    | .getState => h
  if after = .halfOpen ∧ before ≠ .halfOpen then { h with successes := 0, failures := 0 } else h

/-- The breakers at a time, with what has happened to one of them. -/
structure Watched where
  now : ℤ
  sm : StateManager
  history : History

section Watch

variable (cfg : CircuitBreakerConfig) (scope : CircuitBreakerScope) (scopeValue : String)

/-- The operation of a call on a breaker. -/
def Call.opOn (call : Call) : Option Operation :=
  if call.scope = scope ∧ call.scopeValue = scopeValue then some call.op else none

/-- The breakers after a call. -/
def Watched.next (r : Watched) (call : Call) : Watched :=
  let now := r.now + call.elapsed
  let sm := perform cfg r.sm now call.scope call.scopeValue call.op
  let before := (getOrCreateState r.sm scope scopeValue).state
  let after := (getOrCreateState sm scope scopeValue).state
  { now := now
    sm := sm
    history :=
      match call.opOn scope scopeValue with
      | none => r.history
      | some op => r.history.note now op before after }

/-- The breakers after a sequence of calls; the process starts without any breaker. -/
def watch (start : ℤ) (calls : List Call) : Watched :=
  calls.foldl (Watched.next cfg scope scopeValue) ⟨start, fun _ => none, ⟨none, 0, 0⟩⟩

/-- The breaker that is watched. -/
def Watched.breaker (r : Watched) : CircuitState := getOrCreateState r.sm scope scopeValue

/-- What a call makes of the breaker that is watched. -/
theorem Watched.breaker_next (r : Watched) (call : Call) :
    (r.next cfg scope scopeValue call).breaker scope scopeValue =
      match call.opOn scope scopeValue with
      | none => r.breaker scope scopeValue
      | some op => op.apply cfg (r.now + call.elapsed) scope (r.breaker scope scopeValue) := by
  simp only [next, breaker, perform_eq, Call.opOn]
  by_cases h : call.scope = scope ∧ call.scopeValue = scopeValue
  · obtain ⟨rfl, rfl⟩ := h
    simp
  · rw [if_neg h]
    exact getOrCreateState_putState_of_ne _ _ _ h _

end Watch

/-! ## The states of a breaker -/

section Lawful

variable (cfg : CircuitBreakerConfig) (scope : CircuitBreakerScope)

/-- What holds of a breaker in each of its states. -/
structure Sound (h : History) (cs : CircuitState) : Prop where
  closed : cs.state = .closed → cs.halfOpenTrial = 0 ∧
    (cs.failureCount + cs.successCount = 0 ∨ cs.failureRate ≤ failureThreshold cfg scope)
  halfOpen : cs.state = .halfOpen → 0 ≤ cs.halfOpenTrial ∧
    cs.halfOpenTrial < halfOpenSuccessesFor cfg scope ∧ cs.halfOpenTrial = h.successes
  opened : cs.state = .opened → failureThreshold cfg scope < cs.failureRate

/-- How a breaker goes from one state to another, with an operation at a time or without one. -/
structure Lawful (h : History) (now : ℤ) (op : Option Operation) (cs cs' : CircuitState) :
    Prop where
  leavesOpen : cs.state = .opened → cs'.state ≠ .opened →
    op = some .getState ∧ cs'.state = .halfOpen ∧
      ∃ failedAt, h.lastFailure = some failedAt ∧ failedAt + cooldownFor cfg scope < now
  closes : cs.state = .halfOpen → (cs'.state = .closed ↔
    op = some .recordSuccess ∧ (h.successes + 1 : ℤ) = halfOpenSuccessesFor cfg scope ∧
      h.failures = 0)
  reopens : cs.state = .halfOpen →
    (cs'.state = .opened ↔ op = some .recordFailure ∧ h.failures = 0)

/-- What is known of a breaker and its history. -/
structure Tallied (h : History) (cs : CircuitState) : Prop where
  counted : cs.Counted
  closed : cs.state = .closed → cs.halfOpenTrial = 0 ∧ cs.excess cfg scope ≤ 0
  halfOpen : cs.state = .halfOpen → cs.halfOpenTrial < halfOpenSuccessesFor cfg scope ∧
    cs.halfOpenTrial = h.successes ∧ h.failures = 0
  opened : cs.state = .opened → 0 < cs.excess cfg scope ∧
    ∃ failedAt, h.lastFailure = some failedAt ∧ cs.cooldownUntil = failedAt + cooldownFor cfg scope

variable {cfg scope} {h : History} {cs : CircuitState}

theorem Tallied.initial : Tallied cfg scope ⟨none, 0, 0⟩ CircuitState.initial where
  counted := .initial
  closed _ := by simp [CircuitState.initial, CircuitState.excess]
  halfOpen hstate := by cases hstate
  opened hstate := by cases hstate

theorem Tallied.sound (ht : Tallied cfg scope h cs) : Sound cfg scope h cs where
  closed hstate := by
    obtain ⟨htrial, hexcess⟩ := ht.closed hstate
    refine ⟨htrial, ?_⟩
    rcases (add_nonneg ht.counted.failures ht.counted.successes).eq_or_lt with hzero | hpos
    · exact .inl hzero.symm
    · exact .inr (not_lt.1 fun hlt =>
        not_lt.2 hexcess ((CircuitState.lt_failureRate_iff hpos).1 hlt))
  halfOpen hstate := by
    obtain ⟨hlt, heq, -⟩ := ht.halfOpen hstate
    exact ⟨heq ▸ Int.natCast_nonneg _, hlt, heq⟩
  opened hstate := by
    obtain ⟨hexcess, -⟩ := ht.opened hstate
    have hpos : 0 < cs.failureCount + cs.successCount := by
      rcases (add_nonneg ht.counted.failures ht.counted.successes).eq_or_lt with hzero | hpos
      · have hf : cs.failureCount = 0 := by
          have := ht.counted.failures
          have := ht.counted.successes
          omega
        have hs : cs.successCount = 0 := by omega
        simp [CircuitState.excess, hf, hs] at hexcess
      · exact hpos
    exact (CircuitState.lt_failureRate_iff hpos).2 hexcess

/-- Nothing changes without an operation. -/
theorem Lawful.refl (now : ℤ) : Lawful cfg scope h now none cs cs where
  leavesOpen hopen hleaves := absurd hopen hleaves
  closes hstate := by simp [hstate]
  reopens hstate := by simp [hstate]

section Operations

variable {now : ℤ} (ht : Tallied cfg scope h cs)
include ht

theorem Tallied.failed (ht1 : failureThreshold cfg scope < 1) :
    Tallied cfg scope (h.note now .recordFailure cs.state (cs.failed cfg now scope).state)
        (cs.failed cfg now scope) ∧
      Lawful cfg scope h now (some .recordFailure) cs (cs.failed cfg now scope) := by
  have hcounted : (cs.failed cfg now scope).Counted := ht.counted.apply cfg now scope .recordFailure
  have hf := ht.counted.failures
  by_cases hhalf : cs.state = .halfOpen
  · obtain ⟨-, -, hfailures⟩ := ht.halfOpen hhalf
    rw [CircuitState.failed_of_halfOpen hhalf] at hcounted ⊢
    refine ⟨⟨hcounted, nofun, nofun, fun _ => ⟨?_, now, rfl, rfl⟩⟩, ⟨fun hopen => ?_, fun _ => ?_,
      fun _ => ?_⟩⟩
    · have hpos : (0 : ℚ) < cs.failureCount + 1 := by exact_mod_cast Int.lt_add_one_of_le hf
      have hprod := mul_pos hpos (sub_pos.2 ht1)
      simp only [CircuitState.excess, CircuitState.opens, CircuitState.countFailure]
      push_cast
      linarith
    · cases hhalf.symm.trans hopen
    · simp [CircuitState.opens]
    · simp [CircuitState.opens, hfailures]
  · rw [ht.counted.failed_eq hhalf] at hcounted ⊢
    have hgrows := CircuitState.excess_countFailure cfg scope cs
    split_ifs at hcounted ⊢ with hexcess
    · exact ⟨⟨hcounted, nofun, nofun, fun _ => ⟨hexcess, now, rfl, rfl⟩⟩,
        ⟨fun _ hleaves => absurd rfl hleaves, fun hstate => absurd hstate hhalf,
          fun hstate => absurd hstate hhalf⟩⟩
    · have hclosed : cs.state ≠ .opened := by
        intro hopen
        have hpos := (ht.opened hopen).1
        linarith
      refine ⟨⟨hcounted, fun hstate => ⟨(ht.closed hstate).1, not_lt.1 hexcess⟩,
        fun hstate => absurd hstate hhalf, fun hopen => absurd hopen hclosed⟩,
        ⟨fun hopen => absurd hopen hclosed, fun hstate => absurd hstate hhalf,
          fun hstate => absurd hstate hhalf⟩⟩

theorem Tallied.succeeded (ht0 : 0 ≤ failureThreshold cfg scope) :
    Tallied cfg scope (h.note now .recordSuccess cs.state (cs.succeeded cfg scope).state)
        (cs.succeeded cfg scope) ∧
      Lawful cfg scope h now (some .recordSuccess) cs (cs.succeeded cfg scope) := by
  have hcounted : (cs.succeeded cfg scope).Counted := ht.counted.apply cfg now scope .recordSuccess
  cases hstate : cs.state with
  | opened =>
    rw [CircuitState.succeeded_of_opened hstate] at hcounted ⊢
    obtain ⟨hexcess, failedAt, hlast, hcool⟩ := ht.opened hstate
    refine ⟨⟨hcounted, fun hc => ?_, fun hc => ?_, fun _ => ⟨hexcess, failedAt, ?_, hcool⟩⟩,
      ⟨fun hopen hleaves => absurd hopen hleaves, fun hc => ?_, fun hc => ?_⟩⟩
    · cases hstate.symm.trans hc
    · cases hstate.symm.trans hc
    · simpa [History.note, hstate] using hlast
    · cases hstate.symm.trans hc
    · cases hstate.symm.trans hc
  | halfOpen =>
    obtain ⟨hlt, heq, hfailures⟩ := ht.halfOpen hstate
    have hopen : cs.state ≠ .opened := by simp [hstate]
    rw [CircuitState.succeeded_of_halfOpen cfg scope hstate] at hcounted ⊢
    split_ifs at hcounted ⊢ with hlast
    · refine ⟨⟨hcounted, fun _ => ⟨rfl, ?_⟩, nofun, nofun⟩,
        ⟨fun hc => absurd hc hopen, fun _ => ?_, fun _ => by simp⟩⟩
      · simp [CircuitState.excess]
      · have hN : (h.successes + 1 : ℤ) = halfOpenSuccessesFor cfg scope := by omega
        simp [hN, hfailures]
    · refine ⟨⟨hcounted, fun hc => ?_, fun _ => ⟨by simpa using hlast, ?_, ?_⟩, fun hc => ?_⟩,
        ⟨fun hc => absurd hc hopen, fun _ => ?_, fun _ => by simp [hstate]⟩⟩
      · cases hstate.symm.trans hc
      · simp [History.note, hstate, heq]
      · simp [History.note, hstate, hfailures]
      · cases hstate.symm.trans hc
      · have hN : (h.successes + 1 : ℤ) ≠ halfOpenSuccessesFor cfg scope := by omega
        simp [hstate, hN]
  | closed =>
    obtain ⟨htrial, hexcess⟩ := ht.closed hstate
    have hopen : cs.state ≠ .opened := by simp [hstate]
    have hhalf : cs.state ≠ .halfOpen := by simp [hstate]
    rw [CircuitState.succeeded_of_closed cfg scope hstate] at hcounted ⊢
    refine ⟨⟨hcounted, fun _ => ⟨htrial, ?_⟩, fun hc => absurd hc hhalf, fun hc => absurd hc hopen⟩,
      ⟨fun hc => absurd hc hopen, fun hc => absurd hc hhalf, fun hc => absurd hc hhalf⟩⟩
    simp only [CircuitState.excess] at hexcess ⊢
    push_cast
    linarith

theorem Tallied.asked (hN : 1 ≤ halfOpenSuccessesFor cfg scope) :
    Tallied cfg scope (h.note now .getState cs.state (cs.asked now).state) (cs.asked now) ∧
      Lawful cfg scope h now (some .getState) cs (cs.asked now) := by
  have hcounted : (cs.asked now).Counted := ht.counted.apply cfg now scope .getState
  rw [CircuitState.asked] at hcounted ⊢
  split_ifs at hcounted ⊢ with hexpired
  · obtain ⟨hopen, hcool⟩ := hexpired
    obtain ⟨-, failedAt, hlast, huntil⟩ := ht.opened hopen
    refine ⟨⟨hcounted, nofun, fun _ => ⟨Int.lt_of_lt_of_le Int.zero_lt_one hN, ?_, ?_⟩, nofun⟩,
      ⟨fun _ _ => ⟨rfl, rfl, failedAt, hlast, huntil ▸ hcool⟩, fun hc => ?_, fun hc => ?_⟩⟩
    · simp [History.note, hopen]
    · simp [History.note, hopen]
    · cases hopen.symm.trans hc
    · cases hopen.symm.trans hc
  · have hsame : h.note now .getState cs.state cs.state = h := by simp [History.note]
    rw [hsame]
    exact ⟨ht, ⟨fun hopen hleaves => absurd hopen hleaves, fun hc => by simp [hc],
      fun hc => by simp [hc]⟩⟩

/-- **What an operation preserves, and what it may do.** -/
theorem Tallied.apply (hN : 1 ≤ halfOpenSuccessesFor cfg scope)
    (ht0 : 0 ≤ failureThreshold cfg scope) (ht1 : failureThreshold cfg scope < 1) (op : Operation) :
    Tallied cfg scope (h.note now op cs.state (op.apply cfg now scope cs).state)
        (op.apply cfg now scope cs) ∧
      Lawful cfg scope h now (some op) cs (op.apply cfg now scope cs) := by
  cases op with
  | recordFailure => exact ht.failed ht1
  | recordSuccess => exact ht.succeeded ht0
  | getState => exact ht.asked hN

end Operations

section Run

variable (cfg scope) (scopeValue : String)
  (hN : 1 ≤ halfOpenSuccessesFor cfg scope)
  (ht0 : 0 ≤ failureThreshold cfg scope) (ht1 : failureThreshold cfg scope < 1)
include hN ht0 ht1

/-- **A call** keeps what is known of the breaker that is watched, and changes its state only as it
may. -/
theorem tallied_next {r : Watched} (ht : Tallied cfg scope r.history (r.breaker scope scopeValue))
    (call : Call) :
    let r' := r.next cfg scope scopeValue call
    Tallied cfg scope r'.history (r'.breaker scope scopeValue) ∧
      Lawful cfg scope r.history r'.now (call.opOn scope scopeValue) (r.breaker scope scopeValue)
        (r'.breaker scope scopeValue) := by
  intro r'
  have hbreaker := r.breaker_next cfg scope scopeValue call
  have hhistory : r'.history = match call.opOn scope scopeValue with
      | none => r.history
      | some op => r.history.note (r.now + call.elapsed) op (r.breaker scope scopeValue).state
          (r'.breaker scope scopeValue).state := rfl
  rw [hhistory, hbreaker]
  cases hop : call.opOn scope scopeValue with
  | none => exact ⟨ht, .refl _⟩
  | some op => exact ht.apply hN ht0 ht1 op

/-- **The states of a breaker, over any sequence of calls.** In each state the counters and the
trial are as they should be, and the next call changes the state only as it may. -/
theorem lawful_run (start : ℤ) (calls : List Call) :
    let r := watch cfg scope scopeValue start calls
    Sound cfg scope r.history (r.breaker scope scopeValue) ∧
      ∀ call : Call,
        let r' := r.next cfg scope scopeValue call
        Lawful cfg scope r.history r'.now (call.opOn scope scopeValue) (r.breaker scope scopeValue)
          (r'.breaker scope scopeValue) := by
  intro r
  have htallied : Tallied cfg scope r.history (r.breaker scope scopeValue) := by
    induction calls using List.reverseRecOn with
    | nil => exact .initial
    | append_singleton calls call ih =>
      have hr : r = (watch cfg scope scopeValue start calls).next cfg scope scopeValue call := by
        simp only [r, watch, List.foldl_append, List.foldl_cons, List.foldl_nil]
      rw [hr]
      exact (tallied_next cfg scope scopeValue hN ht0 ht1 ih call).1
  exact ⟨htallied.sound, fun call => (tallied_next cfg scope scopeValue hN ht0 ht1 htallied call).2⟩

end Run

/-- The breaker of a carrier that has failed once under the default configuration. -/
theorem lawful_run_carrier :
    let r := watch .default .carrier "T-Mobile" 0 [⟨5, .recordFailure, .carrier, "T-Mobile"⟩]
    Sound .default .carrier r.history (r.breaker .carrier "T-Mobile") ∧
      ∀ call : Call,
        let r' := r.next .default .carrier "T-Mobile" call
        Lawful .default .carrier r.history r'.now (call.opOn .carrier "T-Mobile")
          (r.breaker .carrier "T-Mobile") (r'.breaker .carrier "T-Mobile") :=
  lawful_run .default .carrier "T-Mobile" (by decide)
    (by norm_num [failureThreshold, CircuitBreakerConfig.default])
    (by norm_num [failureThreshold, CircuitBreakerConfig.default]) 0
    [⟨5, .recordFailure, .carrier, "T-Mobile"⟩]

end Lawful

end AeroxeBee.Dispatch
