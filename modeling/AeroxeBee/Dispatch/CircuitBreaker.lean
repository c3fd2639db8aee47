import AeroxeBee.Database

/-!
# Circuit breakers

The state manager keeps one breaker for each scope and value, in memory. A breaker opens when
too many calls fail, lets trial calls through once its cooldown has passed, and closes again after
enough of them succeed. The copy that it writes to Redis is never read and is left out.

* `StateManager.isOpen_iff`: a breaker counts as open exactly while it is in the open state and
  its cooldown lasts;
* `StateManager.isOpen_frame`, `StateManager.recordFailure_frame`,
  `StateManager.recordSuccess_frame`: no operation touches the breaker of another key.
-/

namespace AeroxeBee.Dispatch

/-- What a breaker protects. -/
inductive CircuitBreakerScope where
  | device
  | account
  | carrier
deriving DecidableEq

/-- The name of a scope in the key of a breaker. -/
def CircuitBreakerScope.name : CircuitBreakerScope → String
  | device => "device"
  | account => "account"
  | carrier => "carrier"

/-- The configuration of the breakers. -/
structure CircuitBreakerConfig where
  deviceFailureThreshold : ℚ
  deviceCooldownDuration : ℤ
  deviceHalfOpenSuccesses : ℤ
  accountFailureMultiplier : ℚ
  accountCooldownDuration : ℤ
  carrierFailureThreshold : ℚ
  carrierCooldownDuration : ℤ

/-- The default configuration. -/
def CircuitBreakerConfig.default : CircuitBreakerConfig where
  deviceFailureThreshold := 1 / 2
  deviceCooldownDuration := 120000000000
  deviceHalfOpenSuccesses := 3
  accountFailureMultiplier := 2
  accountCooldownDuration := 300000000000
  carrierFailureThreshold := 3 / 10
  carrierCooldownDuration := 600000000000

/-- The state of one breaker. -/
structure CircuitState where
  state : CircuitBreakerState
  failureCount : ℤ
  successCount : ℤ
  cooldownUntil : ℤ
  halfOpenTrial : ℤ
deriving DecidableEq

/-- The breaker of something that has not been called yet; its cooldown ends at the zero time. -/
def CircuitState.initial : CircuitState := ⟨.closed, 0, 0, QueueMessage.zero.createdAt.nanos, 0⟩

/-- All breakers, under their keys. -/
abbrev StateManager := String → Option CircuitState

namespace StateManager

variable (cfg : CircuitBreakerConfig) (sm : StateManager) (now : ℤ)
  (scope : CircuitBreakerScope) (scopeValue : String)

/-- The key of a breaker. -/
def keyCB : String := "cb:" ++ scope.name ++ ":" ++ scopeValue

/-- The breaker of a key; a key that is not in the map gets a closed breaker. -/
def getOrCreateState : CircuitState := (sm (keyCB scope scopeValue)).getD .initial

/-- Store a breaker under its key. -/
def putState (cs : CircuitState) : StateManager :=
  Function.update sm (keyCB scope scopeValue) (some cs)

/-- The failure rate above which a breaker opens. -/
def failureThreshold : ℚ :=
  match scope with
  | .device => cfg.deviceFailureThreshold
  | .account => cfg.accountFailureMultiplier * cfg.deviceFailureThreshold
  | .carrier => cfg.carrierFailureThreshold

/-- How long a breaker stays open. -/
def cooldownFor : ℤ :=
  match scope with
  | .device => cfg.deviceCooldownDuration
  | .account => cfg.accountCooldownDuration
  | .carrier => cfg.carrierCooldownDuration

/-- How many trials have to succeed before a breaker closes again. -/
def halfOpenSuccessesFor : ℤ :=
  match scope with
  | .device => cfg.deviceHalfOpenSuccesses
  | _ => 3

/-- Count a failure: a breaker in trial opens at once, any other when its failure rate is too
high. -/
def recordFailure : StateManager :=
  let cs := getOrCreateState sm scope scopeValue
  let cs := { cs with failureCount := cs.failureCount + 1 }
  if cs.state = .halfOpen then
    putState sm scope scopeValue
      { cs with
        successCount := 0
        state := .opened
        cooldownUntil := now + cooldownFor cfg scope }
  else
    let total : ℤ := cs.failureCount + cs.successCount
    let total : ℤ := if total = 0 then 1 else total
    let failureRate : ℚ := (cs.failureCount : ℚ) / (total : ℤ)
    if failureThreshold cfg scope < failureRate then
      putState sm scope scopeValue
        { cs with state := .opened, cooldownUntil := now + cooldownFor cfg scope }
    else putState sm scope scopeValue cs

/-- Count a success, which an open breaker ignores. -/
def recordSuccess : StateManager :=
  let cs := getOrCreateState sm scope scopeValue
  if cs.state = .opened then putState sm scope scopeValue cs
  else
    let cs := { cs with successCount := cs.successCount + 1 }
    if cs.state = .halfOpen then
      let cs := { cs with halfOpenTrial := cs.halfOpenTrial + 1 }
      if halfOpenSuccessesFor cfg scope ≤ cs.halfOpenTrial then
        putState sm scope scopeValue
          { cs with state := .closed, failureCount := 0, successCount := 0, halfOpenTrial := 0 }
      else putState sm scope scopeValue cs
    else putState sm scope scopeValue cs

/-- The state of a breaker; an open one whose cooldown has passed enters its trial. -/
def getState : CircuitBreakerState × StateManager :=
  let cs := getOrCreateState sm scope scopeValue
  if cs.state = .opened ∧ cs.cooldownUntil < now then
    (.halfOpen, putState sm scope scopeValue { cs with state := .halfOpen, halfOpenTrial := 0 })
  else (cs.state, putState sm scope scopeValue cs)

/-- Whether calls are turned away. -/
def isOpen : Bool × StateManager :=
  let r := getState sm now scope scopeValue
  (decide (r.1 = .opened), r.2)

/-- Forget a breaker. -/
def reset : StateManager := Function.update sm (keyCB scope scopeValue) none

/-- The breaker is in the open state and its cooldown lasts. -/
def Blocks : Prop :=
  ∃ cs, sm (keyCB scope scopeValue) = some cs ∧ cs.state = .opened ∧ now ≤ cs.cooldownUntil

variable {cfg sm now scope scopeValue}

/-- **When a breaker turns calls away.** -/
theorem isOpen_iff : (isOpen sm now scope scopeValue).1 = true ↔
    Blocks sm now scope scopeValue := by
  simp only [isOpen, getState, getOrCreateState, Blocks]
  rcases Option.eq_none_or_eq_some (sm (keyCB scope scopeValue)) with hcs | ⟨cs, hcs⟩
  · simp [hcs, CircuitState.initial]
  · simp only [hcs, Option.getD_some, Option.some.injEq, exists_eq_left']
    split_ifs with h
    · simp [h.2]
    · simpa using fun hopen => not_lt.1 fun hcool => h ⟨hopen, hcool⟩

theorem putState_of_ne {key : String} (h : key ≠ keyCB scope scopeValue) (cs : CircuitState) :
    putState sm scope scopeValue cs key = sm key :=
  Function.update_of_ne h _ _

theorem isOpen_frame {key : String} (h : key ≠ keyCB scope scopeValue) :
    (isOpen sm now scope scopeValue).2 key = sm key := by
  simp only [isOpen, getState]
  split_ifs <;> exact putState_of_ne h _

theorem recordFailure_frame {key : String} (h : key ≠ keyCB scope scopeValue) :
    recordFailure cfg sm now scope scopeValue key = sm key := by
  simp only [recordFailure]
  split_ifs <;> exact putState_of_ne h _

theorem recordSuccess_frame {key : String} (h : key ≠ keyCB scope scopeValue) :
    recordSuccess cfg sm scope scopeValue key = sm key := by
  simp only [recordSuccess]
  split_ifs <;> exact putState_of_ne h _

end StateManager

end AeroxeBee.Dispatch
