import AeroxeBee.Dispatch.Breakers

/-!
# Recent failures

The configuration of a device breaker names a window, but nothing reads it: the two counters of a
breaker go back to the time it last closed, and to the start of the process if it never opened.

* `FailsClosed.opening_iff`: a failure opens a closed breaker if too many outcomes since it last
  closed are failures;
* `measuresRecent_iff`: when the failures of the window decide.
-/

namespace AeroxeBee.Dispatch

open StateManager

/-! ## Outcomes -/

/-- An outcome that was recorded for a breaker, and when. -/
structure CallOutcome where
  recordedAt : ℤ
  failed : Bool
deriving DecidableEq

/-- The share of failures among some outcomes. -/
def failureShare (outcomes : List CallOutcome) : ℚ := outcomes.countP (·.failed) / outcomes.length

/-- The outcomes of the last span of time. -/
def recent (window now : ℤ) (outcomes : List CallOutcome) : List CallOutcome :=
  outcomes.filter fun o => now - window ≤ o.recordedAt

/-- The outcome that an operation records. -/
def Operation.outcome (now : ℤ) : Operation → List CallOutcome
  | recordFailure => [⟨now, true⟩]
  | recordSuccess => [⟨now, false⟩]
  | getState => []

/-- The outcomes since a breaker last closed, after it has gone from one state to another. -/
def sinceClosing (before after : CircuitBreakerState) (outcomes recorded : List CallOutcome) :
    List CallOutcome :=
  if before ≠ .closed ∧ after = .closed then [] else outcomes ++ recorded

/-- The breakers at a time, with the outcomes that were recorded for one of them, and those of them
that were recorded since it last closed. -/
structure Observed extends Watched where
  outcomes : List CallOutcome
  sinceClosed : List CallOutcome

@[simp] theorem sinceClosing_self (state : CircuitBreakerState)
    (outcomes recorded : List CallOutcome) :
    sinceClosing state state outcomes recorded = outcomes ++ recorded := by
  simp [sinceClosing]

section Observe

variable (cfg : CircuitBreakerConfig) (scopeValue : String)

/-- The outcome of a call, if it is about a device. -/
def Call.outcome (call : Call) (now : ℤ) : List CallOutcome :=
  match call.opOn .device scopeValue with
  | none => []
  | some op => op.outcome now

/-- The breakers after a call. -/
def Observed.next (r : Observed) (call : Call) : Observed :=
  let r' := r.toWatched.next cfg .device scopeValue call
  let recorded := call.outcome scopeValue r'.now
  let before := (r.breaker .device scopeValue).state
  let after := (r'.breaker .device scopeValue).state
  { toWatched := r'
    outcomes := r.outcomes ++ recorded
    sinceClosed := sinceClosing before after r.sinceClosed recorded }

/-- The breakers after a sequence of calls; the process starts without any breaker. -/
def observe (start : ℤ) (calls : List Call) : Observed :=
  calls.foldl (Observed.next cfg scopeValue) ⟨⟨start, fun _ => none, ⟨none, 0, 0⟩⟩, [], []⟩

theorem observe_concat (start : ℤ) (calls : List Call) (call : Call) :
    observe cfg scopeValue start (calls ++ [call]) =
      (observe cfg scopeValue start calls).next cfg scopeValue call := by
  simp only [observe, List.foldl_append, List.foldl_cons, List.foldl_nil]

end Observe

/-! ## What the counters count -/

section Counters

variable {cfg : CircuitBreakerConfig} {scopeValue : String}

/-- The counters of a closed breaker are those of the outcomes since it closed. -/
structure CountsSince (outcomes : List CallOutcome) (cs : CircuitState) : Prop where
  counted : cs.Counted
  failures : cs.state = .closed → cs.failureCount = outcomes.countP (·.failed)
  total : cs.state = .closed → cs.failureCount + cs.successCount = outcomes.length

theorem CountsSince.initial : CountsSince [] CircuitState.initial :=
  ⟨.initial, fun _ => rfl, fun _ => rfl⟩

/-- One more failure. -/
theorem CountsSince.countFailure {outcomes : List CallOutcome} {cs : CircuitState}
    (h : CountsSince outcomes cs) (now : ℤ) :
    CountsSince (outcomes ++ [⟨now, true⟩]) cs.countFailure where
  counted := h.counted.countFailure
  failures hclosed := by
    have hfailures := h.failures hclosed
    simp [CircuitState.countFailure, hfailures]
  total hclosed := by
    have htotal := h.total hclosed
    simp only [CircuitState.countFailure, List.length_append, List.length_singleton]
    push_cast
    omega

/-- The rate that the counters give is the share of failures since the breaker closed. -/
theorem CountsSince.failureRate {outcomes : List CallOutcome} {cs : CircuitState}
    (h : CountsSince outcomes cs) (hclosed : cs.state = .closed) :
    cs.failureRate = failureShare outcomes := by
  have htotal : (cs.failureCount + cs.successCount : ℚ) = outcomes.length := by
    exact_mod_cast h.total hclosed
  rw [CircuitState.failureRate, failureShare, htotal, h.failures hclosed]
  rfl

variable (cfg) in
/-- **When a failure opens a closed breaker.** -/
theorem CountsSince.failed_opens_iff {outcomes : List CallOutcome} {cs : CircuitState}
    (h : CountsSince outcomes cs) (hclosed : cs.state = .closed) (now : ℤ) :
    (cs.failed cfg now .device).state = .opened ↔
      cfg.deviceFailureThreshold < failureShare (outcomes ++ [⟨now, true⟩]) := by
  have hcounts := h.countFailure now
  have hpos : 0 < cs.countFailure.failureCount + cs.countFailure.successCount := by
    rw [hcounts.total hclosed]
    simp
  have hrate : failureThreshold cfg .device < cs.countFailure.failureRate ↔
      0 < cs.countFailure.excess cfg .device := CircuitState.lt_failureRate_iff hpos
  rw [hcounts.failureRate hclosed] at hrate
  rw [h.counted.failed_eq (by simp [hclosed]), show cfg.deviceFailureThreshold =
    failureThreshold cfg .device from rfl, hrate]
  split_ifs with hexcess
  · exact iff_of_true rfl hexcess
  · exact iff_of_false (by simp [CircuitState.countFailure, hclosed]) hexcess

/-- **An operation** keeps the counters those of the outcomes since the breaker closed. -/
theorem CountsSince.apply {outcomes : List CallOutcome} {cs : CircuitState}
    (h : CountsSince outcomes cs) (now : ℤ) (op : Operation) :
    CountsSince
      (sinceClosing cs.state (op.apply cfg now .device cs).state outcomes (op.outcome now))
      (op.apply cfg now .device cs) := by
  have hcounted := h.counted.apply cfg now .device op
  cases op with
  | recordFailure =>
    simp only [Operation.apply] at hcounted ⊢
    by_cases hhalf : cs.state = .halfOpen
    · rw [CircuitState.failed_of_halfOpen hhalf] at hcounted ⊢
      exact ⟨hcounted, fun hc => (by cases hc), fun hc => (by cases hc)⟩
    · rw [h.counted.failed_eq hhalf] at hcounted ⊢
      split_ifs at hcounted ⊢ with hexcess
      · exact ⟨hcounted, fun hc => (by cases hc), fun hc => (by cases hc)⟩
      · have hstays : cs.countFailure.state = cs.state := rfl
        rw [hstays, sinceClosing_self]
        exact h.countFailure now
  | recordSuccess =>
    simp only [Operation.apply] at hcounted ⊢
    cases hstate : cs.state with
    | opened =>
      rw [CircuitState.succeeded_of_opened hstate] at hcounted ⊢
      have hclosed : cs.state ≠ .closed := by simp [hstate]
      exact ⟨hcounted, fun hc => absurd hc hclosed, fun hc => absurd hc hclosed⟩
    | halfOpen =>
      rw [CircuitState.succeeded_of_halfOpen cfg .device hstate] at hcounted ⊢
      split_ifs at hcounted ⊢ with hlast
      · -- the breaker closes, and its counters start again
        exact ⟨hcounted, fun _ => rfl, fun _ => rfl⟩
      · have hclosed : cs.state ≠ .closed := by simp [hstate]
        exact ⟨hcounted, fun hc => absurd hc hclosed, fun hc => absurd hc hclosed⟩
    | closed =>
      rw [CircuitState.succeeded_of_closed cfg .device hstate] at hcounted ⊢
      have hfailures := h.failures hstate
      have htotal := h.total hstate
      have hstays : sinceClosing CircuitBreakerState.closed cs.state outcomes
          (Operation.recordSuccess.outcome now) = outcomes ++ [⟨now, false⟩] := by
        rw [hstate, sinceClosing_self]
        rfl
      change CountsSince (sinceClosing CircuitBreakerState.closed cs.state outcomes
        (Operation.recordSuccess.outcome now)) _
      rw [hstays]
      refine ⟨hcounted, fun _ => ?_, fun _ => ?_⟩
      · simpa using hfailures
      · simp only [List.length_append, List.length_singleton]
        push_cast
        omega
  | getState =>
    simp only [Operation.apply, CircuitState.asked] at hcounted ⊢
    split_ifs at hcounted ⊢ with hexpired
    · exact ⟨hcounted, fun hc => (by cases hc), fun hc => (by cases hc)⟩
    · rw [sinceClosing_self, Operation.outcome, List.append_nil]
      exact h

variable (cfg scopeValue)

/-- **A call** keeps the counters of the breaker that is watched. -/
theorem countsSince_next {r : Observed}
    (h : CountsSince r.sinceClosed (r.breaker .device scopeValue)) (call : Call) :
    CountsSince (r.next cfg scopeValue call).sinceClosed
      ((r.next cfg scopeValue call).breaker .device scopeValue) := by
  have hbreaker := r.breaker_next cfg .device scopeValue call
  have hsince : (r.next cfg scopeValue call).sinceClosed =
      sinceClosing (r.breaker .device scopeValue).state
        ((r.toWatched.next cfg .device scopeValue call).breaker .device scopeValue).state
        r.sinceClosed (call.outcome scopeValue (r.now + call.elapsed)) := rfl
  change CountsSince _ ((r.toWatched.next cfg .device scopeValue call).breaker .device scopeValue)
  rw [hsince, hbreaker, Call.outcome]
  cases hop : call.opOn .device scopeValue with
  | none =>
    rw [sinceClosing_self, List.append_nil]
    exact h
  | some op => exact h.apply (r.now + call.elapsed) op

/-- The counters after any sequence of calls. -/
theorem countsSince_run (start : ℤ) (calls : List Call) :
    CountsSince (observe cfg scopeValue start calls).sinceClosed
      ((observe cfg scopeValue start calls).breaker .device scopeValue) := by
  induction calls using List.reverseRecOn with
  | nil => exact .initial
  | append_singleton calls call ih =>
    rw [observe_concat]
    exact countsSince_next cfg scopeValue ih call

end Counters

/-! ## When the window decides -/

section Window

variable (cfg : CircuitBreakerConfig) (window : ℤ) (scopeValue : String) (start : ℤ)

/-- The breakers before a failure of a closed breaker is recorded. -/
structure FailsClosed (calls earlier : List Call) (call : Call) : Prop where
  prefix_of : earlier ++ [call] <+: calls
  fails : call.opOn .device scopeValue = some .recordFailure
  closed : ((observe cfg scopeValue start earlier).breaker .device scopeValue).state = .closed

/-- **The breaker of a device measures the recent failures**: a failure opens it if the share of the
failures among the outcomes of the window is too high, and only then. -/
def MeasuresRecent (calls : List Call) : Prop :=
  ∀ earlier call, FailsClosed cfg scopeValue start calls earlier call →
    let r := observe cfg scopeValue start (earlier ++ [call])
    (r.breaker .device scopeValue).state = .opened ↔
      cfg.deviceFailureThreshold < failureShare (recent window r.now r.outcomes)

/-- At each failure the outcomes of the window and those since the breaker closed agree on whether
there are too many failures. -/
def WindowAgrees (calls : List Call) : Prop :=
  ∀ earlier call, FailsClosed cfg scopeValue start calls earlier call →
    let r := observe cfg scopeValue start earlier
    let now := r.now + call.elapsed
    cfg.deviceFailureThreshold < failureShare (r.sinceClosed ++ [⟨now, true⟩]) ↔
      cfg.deviceFailureThreshold < failureShare (recent window now (r.outcomes ++ [⟨now, true⟩]))

variable {cfg scopeValue start} {calls earlier : List Call} {call : Call}

theorem FailsClosed.outcome (h : FailsClosed cfg scopeValue start calls earlier call) (now : ℤ) :
    call.outcome scopeValue now = [⟨now, true⟩] := by
  rw [Call.outcome, h.fails]
  rfl

/-- **When a failure opens the breaker.** -/
theorem FailsClosed.opening_iff (h : FailsClosed cfg scopeValue start calls earlier call) :
    let r := observe cfg scopeValue start earlier
    ((r.next cfg scopeValue call).breaker .device scopeValue).state = .opened ↔
      cfg.deviceFailureThreshold < failureShare (r.sinceClosed ++ [⟨r.now + call.elapsed, true⟩]) := by
  intro r
  have hbreaker := r.breaker_next cfg .device scopeValue call
  rw [h.fails] at hbreaker
  change ((r.toWatched.next cfg .device scopeValue call).breaker .device scopeValue).state = _ ↔ _
  rw [hbreaker]
  exact (countsSince_run cfg scopeValue start earlier).failed_opens_iff cfg h.closed _

variable (cfg scopeValue start calls)

/-- **When the breaker of a device measures the recent failures.** -/
theorem measuresRecent_iff :
    MeasuresRecent cfg window scopeValue start calls ↔
      WindowAgrees cfg window scopeValue start calls := by
  refine forall_congr' fun earlier => forall_congr' fun call => forall_congr' fun h => ?_
  let r := observe cfg scopeValue start (earlier ++ [call])
  let r₀ := observe cfg scopeValue start earlier
  have hr : r = r₀.next cfg scopeValue call := observe_concat cfg scopeValue start earlier call
  have houtcomes : r.outcomes = r₀.outcomes ++ [⟨r₀.now + call.elapsed, true⟩] := by
    rw [hr, ← h.outcome]
    rfl
  have hnow : r.now = r₀.now + call.elapsed := by
    rw [hr]
    rfl
  have hopens : ((r₀.next cfg scopeValue call).breaker .device scopeValue).state = .opened ↔
      cfg.deviceFailureThreshold < failureShare (r₀.sinceClosed ++ [⟨r₀.now + call.elapsed, true⟩]) :=
    h.opening_iff
  change ((r.breaker .device scopeValue).state = .opened ↔
    cfg.deviceFailureThreshold < failureShare (recent window r.now r.outcomes)) ↔ _
  rw [houtcomes, hnow, hr, hopens]

/-- A success, and a failure six minutes after it. -/
def oldSuccess : List Call :=
  [⟨0, .recordSuccess, .device, "device-1"⟩, ⟨360000000000, .recordFailure, .device, "device-1"⟩]

/-- The success is no longer in the window of five minutes, but it keeps the breaker closed. -/
theorem oldSuccess_not_measuresRecent :
    ¬ MeasuresRecent .default 300000000000 "device-1" 0 oldSuccess := by
  intro h
  have hfails : FailsClosed .default "device-1" 0 oldSuccess (oldSuccess.take 1)
      ⟨360000000000, .recordFailure, .device, "device-1"⟩ :=
    ⟨⟨[], rfl⟩, by decide, by decide⟩
  have hopened := (h _ _ hfails).2 (by decide +kernel)
  revert hopened
  decide +kernel

end Window

end AeroxeBee.Dispatch
