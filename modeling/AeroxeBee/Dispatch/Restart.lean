import AeroxeBee.Dispatch.Breakers
import Mathlib.Algebra.Order.Floor.Semiring
import Mathlib.Data.Rat.Floor
import Mathlib.Algebra.Order.Archimedean.Basic

/-!
# Circuit breakers across a restart

The state manager writes its breakers to Redis and never reads them back: a process that starts
again has no breakers.

* `Process.step`: what the process does, with the copies in Redis;
* `sameAnswers_iff`: after which runs a restart makes no difference to any later answer.
-/

namespace AeroxeBee.Dispatch

open StateManager

/-! ## The process -/

/-- What can be done with a breaker. -/
inductive Action where
  | perform (op : Operation)
  | reset
deriving DecidableEq

/-- Something done with a breaker, some time after what was done before. -/
structure Task where
  elapsed : ℕ
  action : Action
  scope : CircuitBreakerScope
  scopeValue : String
deriving DecidableEq

/-- The copy of a breaker in Redis, with the time it expires. Times in the copy are in seconds. -/
structure Persisted where
  state : CircuitBreakerState
  failureCount : ℤ
  successCount : ℤ
  halfOpenTrial : ℤ
  cooldownUntil : ℤ
  expiresAt : ℤ
deriving DecidableEq

/-- The copy of a breaker. -/
def CircuitState.persisted (now : ℤ) (cs : CircuitState) : Persisted where
  state := cs.state
  failureCount := cs.failureCount
  successCount := cs.successCount
  halfOpenTrial := cs.halfOpenTrial
  cooldownUntil := cs.cooldownUntil / 1000000000
  expiresAt := now + 86400000000000

/-- Whether an operation writes the breaker to Redis. -/
def Operation.persists (before after : CircuitState) : Operation → Bool
  | recordFailure => true
  | recordSuccess => before.state ≠ .opened
  | getState => before.state ≠ after.state

/-- The process: the time, the breakers in memory and their copies. -/
structure Process where
  now : ℤ
  sm : StateManager
  client : String → Option Persisted

namespace Process

variable (cfg : CircuitBreakerConfig)

/-- The process when it starts. -/
def newStateManager (now : ℤ) (client : String → Option Persisted) : Process :=
  ⟨now, fun _ => none, client⟩

/-- The process after something was done. -/
def step (p : Process) (t : Task) : Process :=
  let now := p.now + t.elapsed
  let key := keyCB t.scope t.scopeValue
  match t.action with
  | .perform op =>
    let sm := StateManager.perform cfg p.sm now t.scope t.scopeValue op
    let before := getOrCreateState p.sm t.scope t.scopeValue
    let after := getOrCreateState sm t.scope t.scopeValue
    { now := now
      sm := sm
      client :=
        if op.persists before after then Function.update p.client key (some (after.persisted now))
        else p.client }
  | .reset =>
    { now := now
      sm := StateManager.reset p.sm t.scope t.scopeValue
      client := Function.update p.client key none }

/-- The process after a sequence of tasks. -/
def run (p : Process) (tasks : List Task) : Process := tasks.foldl (step cfg) p

/-- The process that takes over the connection to Redis. -/
def restart (p : Process) : Process := newStateManager p.now p.client

/-- Whether a breaker turns calls away, some time later. -/
def isOpen (p : Process) (elapsed : ℕ) (scope : CircuitBreakerScope) (scopeValue : String) : Bool :=
  (StateManager.isOpen p.sm (p.now + elapsed) scope scopeValue).1

/-- A breaker of the process. -/
def breaker (p : Process) (scope : CircuitBreakerScope) (scopeValue : String) : CircuitState :=
  getOrCreateState p.sm scope scopeValue

/-- A restart makes no difference to the answers about one breaker. -/
def SameAnswers (p : Process) (scope : CircuitBreakerScope) (scopeValue : String) : Prop :=
  ∀ (tasks : List Task) (elapsed : ℕ),
    (p.restart.run cfg tasks).isOpen elapsed scope scopeValue =
      (p.run cfg tasks).isOpen elapsed scope scopeValue

end Process

/-! ## Breakers that cannot be told from new ones -/

section Forgettable

variable (cfg : CircuitBreakerConfig) (now : ℤ) (scope : CircuitBreakerScope) (cs : CircuitState)

/-- The breaker is open, and its cooldown lasts. -/
def CircuitState.Blocking : Prop := cs.state = .opened ∧ now ≤ cs.cooldownUntil

instance : Decidable (cs.Blocking now) := inferInstanceAs (Decidable (_ ∧ _))

/-- The breaker will be as a new one: its scope never turns calls away, or turns them away after
every failure and this breaker does not yet, or it is closed and its samples are at the threshold,
as they are when there are none. -/
def CircuitState.Forgettable : Prop :=
  cooldownFor cfg scope < 0 ∨ 1 ≤ failureThreshold cfg scope ∨
    (failureThreshold cfg scope ≤ 0 ∧ ¬ cs.Blocking now) ∨
    (cs.state = .closed ∧ cs.excess cfg scope = 0)

end Forgettable

/-! ## What a task does to one breaker -/

section Breaker

variable (cfg : CircuitBreakerConfig) {scope : CircuitBreakerScope} {scopeValue : String}

/-- What an action makes of a breaker. -/
def Action.apply (now : ℤ) (scope : CircuitBreakerScope) : Action → CircuitState → CircuitState
  | perform op, cs => op.apply cfg now scope cs
  | reset, _ => .initial

/-- The action of a task on a breaker. -/
def Task.actionOn (t : Task) (scope : CircuitBreakerScope) (scopeValue : String) : Option Action :=
  if t.scope = scope ∧ t.scopeValue = scopeValue then some t.action else none

@[simp] theorem Process.now_step (p : Process) (t : Task) : (p.step cfg t).now = p.now + t.elapsed := by
  unfold Process.step
  cases t.action <;> rfl

/-- **A task changes the breaker it is about, and no other one.** -/
theorem Process.breaker_step (p : Process) (t : Task) :
    (p.step cfg t).breaker scope scopeValue =
      match t.actionOn scope scopeValue with
      | none => p.breaker scope scopeValue
      | some action => action.apply cfg (p.now + t.elapsed) scope (p.breaker scope scopeValue) := by
  have hsm : (p.step cfg t).sm = match t.action with
      | .perform op => StateManager.perform cfg p.sm (p.now + t.elapsed) t.scope t.scopeValue op
      | .reset => StateManager.reset p.sm t.scope t.scopeValue := by
    unfold Process.step
    cases t.action <;> rfl
  simp only [breaker, hsm, Task.actionOn]
  by_cases h : t.scope = scope ∧ t.scopeValue = scopeValue
  · obtain ⟨rfl, rfl⟩ := h
    cases t.action with
    | perform op => simp [perform_eq, Action.apply]
    | reset => simp [StateManager.reset, getOrCreateState, Action.apply]
  · rw [if_neg h]
    cases t.action with
    | perform op =>
      simp only [perform_eq]
      exact getOrCreateState_putState_of_ne _ _ _ h _
    | reset =>
      have hkey : keyCB scope scopeValue ≠ keyCB t.scope t.scopeValue := by
        intro hkey
        obtain ⟨hscope, hvalue⟩ := keyCB_injective _ _ hkey
        exact h ⟨hscope.symm, hvalue.symm⟩
      simp [StateManager.reset, getOrCreateState, Function.update_of_ne hkey]

/-- Calls are turned away while the breaker is open and its cooldown lasts. -/
theorem Process.isOpen_eq (p : Process) (elapsed : ℕ) :
    p.isOpen elapsed scope scopeValue =
      decide ((p.breaker scope scopeValue).Blocking (p.now + elapsed)) := by
  have hstate : (getState p.sm (p.now + elapsed) scope scopeValue).1 =
      ((p.breaker scope scopeValue).asked (p.now + elapsed)).state := by
    rw [CircuitState.asked, apply_ite CircuitState.state]
    simp only [getState]
    rw [apply_ite Prod.fst]
    rfl
  change decide (_ = _) = _
  rw [decide_eq_decide, hstate, CircuitState.asked]
  split_ifs with h
  · exact ⟨fun hopen => (by cases hopen), fun hb => absurd hb.2 (not_le.2 h.2)⟩
  · rw [not_and, not_lt] at h
    exact ⟨fun hopen => ⟨hopen, h hopen⟩, fun hb => hb.1⟩

/-- The counters of every breaker stay at zero or above. -/
theorem Process.counted_run (start : ℤ) (client : String → Option Persisted) (tasks : List Task) :
    (((newStateManager start client).run cfg tasks).breaker scope scopeValue).Counted := by
  induction tasks using List.reverseRecOn with
  | nil => exact .initial
  | append_singleton tasks t ih =>
    rw [run, List.foldl_append, List.foldl_cons, List.foldl_nil, breaker_step]
    cases t.actionOn scope scopeValue with
    | none => exact ih
    | some action =>
      cases action with
      | perform op => exact ih.apply cfg _ scope op
      | reset => exact .initial

end Breaker

/-! ## Simulations -/

section Simulation

variable {cfg : CircuitBreakerConfig} {scope : CircuitBreakerScope} {scopeValue : String}
  {now now' : ℤ} {a b : CircuitState} {R : ℤ → CircuitState → CircuitState → Prop}

/-- A relation between two breakers under which they turn the same calls away, now and later. -/
structure Simulation (cfg : CircuitBreakerConfig) (scope : CircuitBreakerScope)
    (R : ℤ → CircuitState → CircuitState → Prop) : Prop where
  later : ∀ {now now' a b}, R now a b → now ≤ now' → R now' a b
  apply : ∀ {now a b}, R now a b → ∀ op : Operation,
    R now (op.apply cfg now scope a) (op.apply cfg now scope b)
  initial : ∀ now, R now .initial .initial
  blocking : ∀ {now a b}, R now a b → (a.Blocking now ↔ b.Blocking now)

/-- **Two processes in the relation stay in it**, whatever is done with both. -/
theorem Simulation.run (h : Simulation cfg scope R) {p q : Process} (hnow : p.now = q.now)
    (hR : R p.now (p.breaker scope scopeValue) (q.breaker scope scopeValue)) (tasks : List Task) :
    (p.run cfg tasks).now = (q.run cfg tasks).now ∧
      R (p.run cfg tasks).now ((p.run cfg tasks).breaker scope scopeValue)
        ((q.run cfg tasks).breaker scope scopeValue) := by
  induction tasks generalizing p q with
  | nil => exact ⟨hnow, hR⟩
  | cons t tasks ih =>
    have hlater : R (p.now + t.elapsed) (p.breaker scope scopeValue) (q.breaker scope scopeValue) :=
      h.later hR (by omega)
    refine ih (p := p.step cfg t) (q := q.step cfg t) ?_ ?_
    · rw [Process.now_step, Process.now_step, hnow]
    · rw [Process.now_step, Process.breaker_step, Process.breaker_step, ← hnow]
      cases t.actionOn scope scopeValue with
      | none => exact hlater
      | some action =>
        cases action with
        | perform op => exact h.apply hlater op
        | reset => exact h.initial _

/-- A restart makes no difference to a breaker that is related to a new one. -/
theorem Simulation.sameAnswers (h : Simulation cfg scope R) {p : Process}
    (hR : R p.now .initial (p.breaker scope scopeValue)) : p.SameAnswers cfg scope scopeValue := by
  intro tasks elapsed
  obtain ⟨hnow, hrun⟩ := h.run (p := p.restart) (q := p) rfl hR tasks
  have hlater : R ((p.restart.run cfg tasks).now + elapsed)
      ((p.restart.run cfg tasks).breaker scope scopeValue)
      ((p.run cfg tasks).breaker scope scopeValue) := h.later hrun (by omega)
  rw [Process.isOpen_eq, Process.isOpen_eq, ← hnow, decide_eq_decide]
  exact h.blocking hlater

/-- Two breakers are related if neither of them ever turns calls away. -/
theorem Simulation.of_never {Q : ℤ → CircuitState → Prop}
    (later : ∀ {now now' a}, Q now a → now ≤ now' → Q now' a)
    (apply : ∀ {now a}, Q now a → ∀ op : Operation, Q now (op.apply cfg now scope a))
    (initial : ∀ now, Q now .initial)
    (blocking : ∀ {now a}, Q now a → ¬ a.Blocking now) :
    Simulation cfg scope fun now a b => Q now a ∧ Q now b where
  later h hle := ⟨later h.1 hle, later h.2 hle⟩
  apply h op := ⟨apply h.1 op, apply h.2 op⟩
  initial now := ⟨initial now, initial now⟩
  blocking h := iff_of_false (blocking h.1) (blocking h.2)

/-- A process that has just started keeps every invariant of its breakers. -/
theorem Simulation.reached (h : Simulation cfg scope R) (start : ℤ)
    (client : String → Option Persisted) (tasks : List Task) :
    let p := (Process.newStateManager start client).run cfg tasks
    R p.now (p.breaker scope scopeValue) (p.breaker scope scopeValue) :=
  (h.run (p := .newStateManager start client) rfl (h.initial start) tasks).2

/-! ### The four reasons -/

/-- An open breaker whose cooldown is negative has always passed it. -/
theorem simulation_of_cooldown (hcool : cooldownFor cfg scope < 0) :
    Simulation cfg scope fun now a b =>
      (a.state = .opened → a.cooldownUntil < now) ∧ (b.state = .opened → b.cooldownUntil < now) := by
  refine .of_never (Q := fun now a => a.state = .opened → a.cooldownUntil < now)
    (fun h hle hopen => lt_of_lt_of_le (h hopen) hle) (fun {now a} h op => ?_)
    (fun _ hopen => by cases hopen) (fun h hb => not_lt.2 hb.2 (h hb.1))
  cases op with
  | recordFailure =>
    simp only [Operation.apply, CircuitState.failed]
    split_ifs
    · intro _
      simp only [CircuitState.opens]
      omega
    · intro _
      simp only [CircuitState.opens]
      omega
    · exact h
  | recordSuccess =>
    simp only [Operation.apply, CircuitState.succeeded]
    split_ifs
    · exact h
    · intro hopen
      cases hopen
    · exact h
    · exact h
  | getState =>
    simp only [Operation.apply, CircuitState.asked]
    split_ifs
    · intro hopen
      cases hopen
    · exact h

/-- A breaker never opens if no rate is above its threshold. -/
theorem simulation_of_threshold (ht : 1 ≤ failureThreshold cfg scope) :
    Simulation cfg scope fun _ a b =>
      (a.Counted ∧ a.state = .closed) ∧ (b.Counted ∧ b.state = .closed) := by
  refine .of_never (Q := fun _ a => a.Counted ∧ a.state = .closed) (fun h _ => h)
    (fun {now a} h op => ⟨h.1.apply cfg now scope op, ?_⟩) (fun _ => ⟨.initial, rfl⟩)
    (fun h hb => by cases h.2.symm.trans hb.1)
  obtain ⟨hcounted, hclosed⟩ := h
  have hhalf : a.state ≠ .halfOpen := by simp [hclosed]
  have hopen : a.state ≠ .opened := by simp [hclosed]
  cases op with
  | recordFailure =>
    have hexcess : ¬ 0 < a.countFailure.excess cfg scope := by
      have hf : (0 : ℚ) ≤ a.countFailure.failureCount := by exact_mod_cast hcounted.countFailure.failures
      have hs : (0 : ℚ) ≤ a.countFailure.successCount := by exact_mod_cast hcounted.countFailure.successes
      rw [not_lt, CircuitState.excess]
      nlinarith
    simp only [Operation.apply]
    rw [hcounted.failed_eq hhalf, if_neg hexcess]
    exact hclosed
  | recordSuccess =>
    simp only [Operation.apply]
    rw [CircuitState.succeeded, if_neg hopen, if_neg hhalf]
    exact hclosed
  | getState =>
    simp only [Operation.apply]
    rw [CircuitState.asked, if_neg fun h => hopen h.1]
    exact hclosed

variable (now) in
/-- Every failure opens a breaker whose threshold is not positive. -/
theorem opens_of_threshold (ht : failureThreshold cfg scope ≤ 0) (hcounted : a.Counted) :
    (a.failed cfg now scope).state = .opened ∧
      (a.failed cfg now scope).cooldownUntil = now + cooldownFor cfg scope := by
  by_cases hhalf : a.state = .halfOpen
  · rw [CircuitState.failed_of_halfOpen hhalf]
    exact ⟨rfl, rfl⟩
  · have hexcess : 0 < a.countFailure.excess cfg scope := by
      have hf : (1 : ℚ) ≤ a.countFailure.failureCount := by
        have hle : 1 ≤ a.failureCount + 1 := by
          have := hcounted.failures
          omega
        exact_mod_cast hle
      have hs : (0 : ℚ) ≤ a.countFailure.successCount := by exact_mod_cast hcounted.countFailure.successes
      rw [CircuitState.excess]
      nlinarith
    rw [hcounted.failed_eq hhalf, if_pos hexcess]
    exact ⟨rfl, rfl⟩

/-- A success does not make a breaker turn calls away, or stop it. -/
theorem blocking_succeeded : (a.succeeded cfg scope).Blocking now ↔ a.Blocking now := by
  rw [CircuitState.succeeded]
  split_ifs with hopen hhalf
  · exact Iff.rfl
  · exact iff_of_false (fun hb => by cases hb.1) fun hb => hopen hb.1
  · exact iff_of_false (fun hb => hopen hb.1) fun hb => hopen hb.1
  · exact iff_of_false (fun hb => hopen hb.1) fun hb => hopen hb.1

/-- Neither does a question about its state. -/
theorem blocking_asked : (a.asked now).Blocking now ↔ a.Blocking now := by
  rw [CircuitState.asked]
  split_ifs with hexpired
  · exact iff_of_false (fun hb => by cases hb.1) fun hb => not_le.2 hexpired.2 hb.2
  · exact Iff.rfl

/-- Two breakers that every failure opens need only agree on whether they turn calls away. -/
theorem simulation_of_opens (ht : failureThreshold cfg scope ≤ 0) :
    Simulation cfg scope fun now a b => a.Counted ∧ b.Counted ∧
      ((a.state = .opened ∧ b.state = .opened ∧ a.cooldownUntil = b.cooldownUntil) ∨
        (¬ a.Blocking now ∧ ¬ b.Blocking now)) where
  later {now now' a b} h hle := by
    obtain ⟨ha, hb, hopen | ⟨hna, hnb⟩⟩ := h
    · exact ⟨ha, hb, .inl hopen⟩
    · exact ⟨ha, hb, .inr ⟨fun h => hna ⟨h.1, hle.trans h.2⟩, fun h => hnb ⟨h.1, hle.trans h.2⟩⟩⟩
  initial now := ⟨.initial, .initial, .inr ⟨fun hb => (by cases hb.1), fun hb => (by cases hb.1)⟩⟩
  blocking {now a b} h := by
    obtain ⟨-, -, ⟨hopen, hopen', huntil⟩ | ⟨hna, hnb⟩⟩ := h
    · simp [CircuitState.Blocking, hopen, hopen', huntil]
    · exact iff_of_false hna hnb
  apply {now a b} h op := by
    obtain ⟨ha, hb, h⟩ := h
    refine ⟨ha.apply cfg now scope op, hb.apply cfg now scope op, ?_⟩
    cases op with
    | recordFailure =>
      obtain ⟨hopen, huntil⟩ := opens_of_threshold now ht ha
      obtain ⟨hopen', huntil'⟩ := opens_of_threshold now ht hb
      exact .inl ⟨hopen, hopen', huntil.trans huntil'.symm⟩
    | recordSuccess =>
      rcases h with ⟨hopen, hopen', huntil⟩ | ⟨hna, hnb⟩
      · simp only [Operation.apply]
        rw [CircuitState.succeeded_of_opened hopen, CircuitState.succeeded_of_opened hopen']
        exact .inl ⟨hopen, hopen', huntil⟩
      · exact .inr ⟨mt blocking_succeeded.1 hna, mt blocking_succeeded.1 hnb⟩
    | getState =>
      rcases h with ⟨hopen, hopen', huntil⟩ | ⟨hna, hnb⟩
      · simp only [Operation.apply, CircuitState.asked, huntil]
        by_cases hexpired : b.cooldownUntil < now
        · rw [if_pos ⟨hopen, hexpired⟩, if_pos ⟨hopen', hexpired⟩]
          exact .inr ⟨fun hb => (by cases hb.1), fun hb => (by cases hb.1)⟩
        · rw [if_neg fun hc => hexpired hc.2, if_neg fun hc => hexpired hc.2]
          exact .inl ⟨hopen, hopen', huntil⟩
      · exact .inr ⟨mt blocking_asked.1 hna, mt blocking_asked.1 hnb⟩

/-- What two breakers have in common that go through the same states. -/
structure Alike (cfg : CircuitBreakerConfig) (scope : CircuitBreakerScope) (a b : CircuitState) :
    Prop where
  counted : a.Counted
  counted' : b.Counted
  state : a.state = b.state
  closed : a.state = .closed → a.excess cfg scope = b.excess cfg scope
  halfOpen : a.state = .halfOpen → a.halfOpenTrial = b.halfOpenTrial
  opened : a.state = .opened → a.cooldownUntil = b.cooldownUntil ∧
    0 < a.excess cfg scope ∧ 0 < b.excess cfg scope

/-- Closed breakers with the same excess go through the same states. -/
theorem simulation_alike (ht1 : failureThreshold cfg scope < 1) :
    Simulation cfg scope fun _ a b => Alike cfg scope a b where
  later h _ := h
  initial now := ⟨.initial, .initial, rfl, fun _ => rfl, fun hc => (by cases hc),
    fun hc => (by cases hc)⟩
  blocking {now a b} h := by
    simp only [CircuitState.Blocking, ← h.state]
    exact and_congr_right fun hopen => by rw [(h.opened hopen).1]
  apply {now a b} h op := by
    have ha := h.counted.apply cfg now scope op
    have hb := h.counted'.apply cfg now scope op
    cases op with
    | recordFailure =>
      simp only [Operation.apply] at ha hb ⊢
      by_cases hhalf : a.state = .halfOpen
      · have hhalf' : b.state = .halfOpen := h.state ▸ hhalf
        have hpos {c : CircuitState} (hc : c.Counted) :
            0 < ({ c.countFailure with successCount := 0 }.opens cfg now scope).excess cfg scope := by
          have hle : 0 < c.failureCount + 1 := by
            have := hc.failures
            omega
          have hf : (0 : ℚ) < c.failureCount + 1 := by exact_mod_cast hle
          have hprod := mul_pos hf (sub_pos.2 ht1)
          simp only [CircuitState.excess, CircuitState.opens, CircuitState.countFailure]
          push_cast
          linarith
        rw [CircuitState.failed_of_halfOpen hhalf] at ha ⊢
        rw [CircuitState.failed_of_halfOpen hhalf'] at hb ⊢
        exact ⟨ha, hb, rfl, fun hc => (by cases hc), fun hc => (by cases hc),
          fun _ => ⟨rfl, hpos h.counted, hpos h.counted'⟩⟩
      · have hhalf' : b.state ≠ .halfOpen := h.state ▸ hhalf
        have hga := CircuitState.excess_countFailure cfg scope a
        have hgb := CircuitState.excess_countFailure cfg scope b
        rw [h.counted.failed_eq hhalf] at ha ⊢
        rw [h.counted'.failed_eq hhalf'] at hb ⊢
        cases hstate : a.state with
        | halfOpen => exact absurd hstate hhalf
        | closed =>
          have heq : a.countFailure.excess cfg scope = b.countFailure.excess cfg scope := by
            rw [hga, hgb, h.closed hstate]
          rw [← heq] at hb ⊢
          split_ifs at ha hb ⊢ with hexcess
          · exact ⟨ha, hb, rfl, fun hc => (by cases hc), fun hc => (by cases hc),
              fun _ => ⟨rfl, hexcess, heq ▸ hexcess⟩⟩
          · exact ⟨ha, hb, h.state, fun _ => heq, fun hc => absurd hc hhalf, fun hc => by
              cases hstate.symm.trans hc⟩
        | opened =>
          obtain ⟨-, hpa, hpb⟩ := h.opened hstate
          have hpa' : 0 < a.countFailure.excess cfg scope := by linarith
          have hpb' : 0 < b.countFailure.excess cfg scope := by linarith
          rw [if_pos hpa'] at ha ⊢
          rw [if_pos hpb'] at hb ⊢
          exact ⟨ha, hb, rfl, fun hc => (by cases hc), fun hc => (by cases hc),
            fun _ => ⟨rfl, hpa', hpb'⟩⟩
    | recordSuccess =>
      simp only [Operation.apply] at ha hb ⊢
      cases hstate : a.state with
      | opened =>
        have hstate' : b.state = .opened := h.state ▸ hstate
        rw [CircuitState.succeeded_of_opened hstate, CircuitState.succeeded_of_opened hstate']
        exact h
      | halfOpen =>
        have hstate' : b.state = .halfOpen := h.state ▸ hstate
        rw [CircuitState.succeeded_of_halfOpen cfg scope hstate] at ha ⊢
        rw [CircuitState.succeeded_of_halfOpen cfg scope hstate', ← h.halfOpen hstate] at hb ⊢
        split_ifs at ha hb ⊢
        · exact ⟨ha, hb, rfl, fun _ => by simp [CircuitState.excess], fun hc => (by cases hc),
            fun hc => (by cases hc)⟩
        · exact ⟨ha, hb, h.state, fun hc => (by cases hstate.symm.trans hc), fun _ => rfl,
            fun hc => (by cases hstate.symm.trans hc)⟩
      | closed =>
        have hstate' : b.state = .closed := h.state ▸ hstate
        rw [CircuitState.succeeded_of_closed cfg scope hstate] at ha ⊢
        rw [CircuitState.succeeded_of_closed cfg scope hstate'] at hb ⊢
        refine ⟨ha, hb, h.state, fun _ => ?_, fun hc => ?_, fun hc => ?_⟩
        · have heq := h.closed hstate
          simp only [CircuitState.excess] at heq ⊢
          push_cast
          linarith
        · cases hstate.symm.trans hc
        · cases hstate.symm.trans hc
    | getState =>
      simp only [Operation.apply, CircuitState.asked] at ha hb ⊢
      by_cases hopen : a.state = .opened
      · have hopen' : b.state = .opened := h.state ▸ hopen
        rw [← (h.opened hopen).1] at hb ⊢
        by_cases hexpired : a.cooldownUntil < now
        · rw [if_pos ⟨hopen, hexpired⟩] at ha ⊢
          rw [if_pos ⟨hopen', hexpired⟩] at hb ⊢
          exact ⟨ha, hb, rfl, fun hc => (by cases hc), fun _ => rfl, fun hc => (by cases hc)⟩
        · rw [if_neg fun hc => hexpired hc.2, if_neg fun hc => hexpired hc.2]
          exact h
      · have hopen' : b.state ≠ .opened := h.state ▸ hopen
        rw [if_neg fun hc => hopen hc.1, if_neg fun hc => hopen' hc.1]
        exact h

/-- **A breaker that is as a new one** is not missed after a restart. -/
theorem sameAnswers_of_forgettable (start : ℤ) (client : String → Option Persisted)
    (tasks : List Task) :
    let p := (Process.newStateManager start client).run cfg tasks
    (p.breaker scope scopeValue).Forgettable cfg p.now scope → p.SameAnswers cfg scope scopeValue := by
  intro p hforget
  have hcounted : (p.breaker scope scopeValue).Counted :=
    Process.counted_run cfg start client tasks
  by_cases ht1 : 1 ≤ failureThreshold cfg scope
  · have h := simulation_of_threshold ht1
    exact h.sameAnswers ⟨⟨.initial, rfl⟩, (h.reached start client tasks).2⟩
  by_cases hcool : cooldownFor cfg scope < 0
  · have h := simulation_of_cooldown hcool
    exact h.sameAnswers ⟨nofun, (h.reached start client tasks).2⟩
  rcases hforget with hcool' | ht1' | ⟨ht0, hblock⟩ | ⟨hclosed, hexcess⟩
  · exact absurd hcool' hcool
  · exact absurd ht1' ht1
  · exact (simulation_of_opens ht0).sameAnswers ⟨.initial, hcounted, .inr ⟨nofun, hblock⟩⟩
  · refine (simulation_alike (not_le.1 ht1)).sameAnswers ⟨.initial, hcounted, hclosed.symm,
      fun _ => ?_, nofun, nofun⟩
    rw [hexcess]
    simp [CircuitState.excess, CircuitState.initial]

end Simulation

/-! ## Telling breakers apart -/

section Apart

variable {cfg : CircuitBreakerConfig} {scope : CircuitBreakerScope} {scopeValue : String} {now : ℤ}
  {cs a b : CircuitState}

/-- A breaker after operations that take no time. -/
def applyAll (cfg : CircuitBreakerConfig) (now : ℤ) (scope : CircuitBreakerScope)
    (ops : List Operation) (cs : CircuitState) : CircuitState :=
  ops.foldl (fun cs op => op.apply cfg now scope cs) cs

/-- After some operations, one of two breakers turns calls away and the other does not. -/
def Apart (cfg : CircuitBreakerConfig) (now : ℤ) (scope : CircuitBreakerScope) (a b : CircuitState) :
    Prop :=
  ∃ ops : List Operation, ¬ ((applyAll cfg now scope ops a).Blocking now ↔
    (applyAll cfg now scope ops b).Blocking now)

theorem Apart.symm (h : Apart cfg now scope a b) : Apart cfg now scope b a := by
  obtain ⟨ops, hne⟩ := h
  exact ⟨ops, fun hiff => hne hiff.symm⟩

/-- Breakers that are told apart after some operations are told apart. -/
theorem Apart.of_applyAll (ops : List Operation)
    (h : Apart cfg now scope (applyAll cfg now scope ops a) (applyAll cfg now scope ops b)) :
    Apart cfg now scope a b := by
  obtain ⟨ops', hne⟩ := h
  refine ⟨ops ++ ops', ?_⟩
  rwa [applyAll, applyAll, List.foldl_append, List.foldl_append]

/-- The successes of a closed breaker are counted. -/
theorem applyAll_successes (hstate : cs.state = .closed) (k : ℕ) :
    applyAll cfg now scope (List.replicate k .recordSuccess) cs =
      { cs with successCount := cs.successCount + k } := by
  induction k generalizing cs with
  | zero => simp [applyAll]
  | succ k ih =>
    have hstep : applyAll cfg now scope (List.replicate (k + 1) .recordSuccess) cs =
        applyAll cfg now scope (List.replicate k .recordSuccess)
          { cs with successCount := cs.successCount + 1 } := by
      rw [← CircuitState.succeeded_of_closed cfg scope hstate]
      rfl
    rw [hstep, @ih { cs with successCount := cs.successCount + 1 } hstate]
    congr 1
    push_cast
    ring

/-- An open breaker stays open while it fails, and its cooldown starts again. -/
theorem applyAll_failures_of_opened (ht1 : failureThreshold cfg scope < 1) (hcounted : cs.Counted)
    (hstate : cs.state = .opened) (hexcess : 0 < cs.excess cfg scope)
    (huntil : cs.cooldownUntil = now + cooldownFor cfg scope) (m : ℕ) :
    (applyAll cfg now scope (List.replicate m .recordFailure) cs).state = .opened ∧
      (applyAll cfg now scope (List.replicate m .recordFailure) cs).cooldownUntil =
        now + cooldownFor cfg scope := by
  induction m generalizing cs with
  | zero => exact ⟨hstate, huntil⟩
  | succ m ih =>
    have hhalf : cs.state ≠ .halfOpen := by simp [hstate]
    have hgrows : 0 < cs.countFailure.excess cfg scope := by
      rw [CircuitState.excess_countFailure]
      linarith
    have hfailed : cs.failed cfg now scope = cs.countFailure.opens cfg now scope := by
      rw [hcounted.failed_eq hhalf, if_pos hgrows]
    have hcounted' : (cs.failed cfg now scope).Counted := hcounted.apply cfg now scope .recordFailure
    have hstep := ih hcounted'
    rw [hfailed] at hstep
    have hrest := hstep rfl hgrows rfl
    rw [← hfailed] at hrest
    exact hrest

variable (now) in
/-- **A closed breaker that fails** is open as soon as there are too many failures. -/
theorem applyAll_failures (ht1 : failureThreshold cfg scope < 1) (hcounted : cs.Counted)
    (hstate : cs.state = .closed) (hexcess : cs.excess cfg scope ≤ 0) (m : ℕ) :
    let cs' := applyAll cfg now scope (List.replicate m .recordFailure) cs
    if 0 < cs.excess cfg scope + m * (1 - failureThreshold cfg scope) then
      cs'.state = .opened ∧ cs'.cooldownUntil = now + cooldownFor cfg scope
    else cs'.state = .closed := by
  induction m generalizing cs with
  | zero =>
    intro cs'
    rw [if_neg (by simpa using hexcess)]
    exact hstate
  | succ m ih =>
    intro cs'
    have hhalf : cs.state ≠ .halfOpen := by simp [hstate]
    have hgrows := CircuitState.excess_countFailure cfg scope cs
    have hcounted' : (cs.failed cfg now scope).Counted := hcounted.apply cfg now scope .recordFailure
    have hsum : cs.excess cfg scope + (m + 1 : ℕ) * (1 - failureThreshold cfg scope) =
        cs.countFailure.excess cfg scope + m * (1 - failureThreshold cfg scope) := by
      rw [hgrows]
      push_cast
      ring
    have hcs' : cs' = applyAll cfg now scope (List.replicate m .recordFailure)
        (cs.failed cfg now scope) := rfl
    rw [hcs', hsum]
    rw [hcounted.failed_eq hhalf] at hcounted' ⊢
    by_cases hpos : 0 < cs.countFailure.excess cfg scope
    · rw [if_pos hpos] at hcounted' ⊢
      have hle : 0 ≤ (m : ℚ) * (1 - failureThreshold cfg scope) :=
        mul_nonneg (Nat.cast_nonneg m) (sub_nonneg.2 ht1.le)
      rw [if_pos (by linarith)]
      exact applyAll_failures_of_opened ht1 hcounted' rfl hpos rfl m
    · rw [if_neg hpos] at hcounted' ⊢
      exact ih hcounted' hstate (not_lt.1 hpos)

/-- Of two numbers of successes one is passed by some number of failures, the other not: otherwise
as many failures as the closed breaker has would be worth its successes. -/
theorem exists_successes_failures {t : ℚ} (ht0 : 0 < t) (ht1 : t < 1) {f s : ℕ}
    (hexcess : (f : ℚ) - t * (f + s) < 0) :
    ∃ k m : ℕ, 0 < (m : ℚ) * (1 - t) - t * k ∧
      (f : ℚ) - t * (f + s) + m * (1 - t) - t * k ≤ 0 := by
  by_contra hnone
  push Not at hnone
  have hu : 0 < 1 - t := sub_pos.2 ht1
  -- after `k` successes, so many failures are the first that are too many
  let first (k : ℕ) : ℕ := ⌊t * k / (1 - t)⌋₊ + 1
  have hfirst (k : ℕ) : 0 < (first k : ℚ) * (1 - t) - t * k := by
    have hlt := Nat.lt_floor_add_one (t * k / (1 - t))
    rw [div_lt_iff₀ hu] at hlt
    simp only [first]
    push_cast
    linarith
  have hstep (k : ℕ) : first (k + s) ≤ first k + f := by
    have hpos := hnone k (first k) (hfirst k)
    have hlt : t * (k + s : ℕ) / (1 - t) < (first k + f : ℕ) := by
      rw [div_lt_iff₀ hu]
      push_cast
      linarith
    have hnonneg : 0 ≤ t * (k + s : ℕ) / (1 - t) := by positivity
    exact Nat.succ_le_of_lt ((Nat.floor_lt hnonneg).2 hlt)
  have hmany (n : ℕ) : first (n * s) ≤ 1 + n * f := by
    induction n with
    | zero => simp [first]
    | succ n ih =>
      have hle := hstep (n * s)
      rw [Nat.succ_mul, Nat.succ_mul]
      omega
  obtain ⟨n, hn⟩ := exists_nat_gt ((1 - t) / (t * (f + s) - f))
  have hgap : 0 < t * (f + s) - f := by linarith
  rw [div_lt_iff₀ hgap] at hn
  have hlt := hfirst (n * s)
  have hle : (first (n * s) : ℚ) ≤ 1 + n * f := by exact_mod_cast hmany n
  have hbound := mul_le_mul_of_nonneg_right hle hu.le
  push_cast at hlt
  linarith

section Thresholds

variable (ht0 : 0 < failureThreshold cfg scope) (ht1 : failureThreshold cfg scope < 1)
  (hcool : 0 ≤ cooldownFor cfg scope)
include ht0 ht1 hcool

/-- A closed breaker without samples can be told from one below the threshold. -/
theorem apart_of_excess_neg (ha : a.Counted) (hb : b.Counted) (hstate : a.state = .closed)
    (hstate' : b.state = .closed) (hzero : a.failureCount = 0 ∧ a.successCount = 0)
    (hexcess : b.excess cfg scope < 0) : Apart cfg now scope a b := by
  obtain ⟨f, hf⟩ := Int.eq_ofNat_of_zero_le hb.failures
  obtain ⟨s, hs⟩ := Int.eq_ofNat_of_zero_le hb.successes
  have hexcess' : (f : ℚ) - failureThreshold cfg scope * (f + s) < 0 := by
    simpa [CircuitState.excess, hf, hs] using hexcess
  obtain ⟨k, m, hpos, hneg⟩ := exists_successes_failures ht0 ht1 hexcess'
  refine .of_applyAll (List.replicate k .recordSuccess) ⟨List.replicate m .recordFailure, ?_⟩
  rw [applyAll_successes hstate, applyAll_successes hstate']
  have hk : (0 : ℚ) ≤ failureThreshold cfg scope * k := by positivity
  have hcounted : ({ a with successCount := a.successCount + k } : CircuitState).Counted :=
    ⟨ha.failures, by simp [hzero.2]⟩
  have hcounted' : ({ b with successCount := b.successCount + k } : CircuitState).Counted :=
    ⟨hb.failures, by simpa [hs] using add_nonneg (Int.natCast_nonneg s) (Int.natCast_nonneg k)⟩
  have hopens := applyAll_failures now ht1 hcounted hstate
    (by simp [CircuitState.excess, hzero.1, hzero.2]; exact hk) m
  have hcloses := applyAll_failures now ht1 hcounted' hstate'
    (by simp only [CircuitState.excess, hf, hs]; push_cast; linarith) m
  rw [if_pos (by simp only [CircuitState.excess, hzero.1, hzero.2]; push_cast; linarith)] at hopens
  rw [if_neg (by simp only [CircuitState.excess, hf, hs]; push_cast; linarith)] at hcloses
  refine fun hiff => ?_
  have hblocks := hiff.1 ⟨hopens.1, by rw [hopens.2]; omega⟩
  cases hcloses.symm.trans hblocks.1

/-- A breaker in trial can be told from a closed one without samples: once the trial has been
passed, the successes of the other still count. -/
theorem apart_of_halfOpen (hstate : a.state = .halfOpen) (hb : b.Counted)
    (hstate' : b.state = .closed) (hzero : b.failureCount = 0 ∧ b.successCount = 0) :
    Apart cfg now scope a b := by
  have hpasses (n : ℕ) : ∀ {a : CircuitState}, a.state = .halfOpen →
      halfOpenSuccessesFor cfg scope - a.halfOpenTrial ≤ n + 1 →
      ∃ k : ℕ, ∃ c : CircuitState, c.Counted ∧ c.state = .closed ∧
        (c.failureCount = 0 ∧ c.successCount = 0) ∧
        applyAll cfg now scope (List.replicate (k + 1) .recordSuccess) a = c := by
    induction n with
    | zero =>
      intro a hstate hlast
      refine ⟨0, a.succeeded cfg scope, ?_⟩
      rw [CircuitState.succeeded_of_halfOpen cfg scope hstate, if_pos (by omega)]
      refine ⟨⟨le_refl 0, le_refl 0⟩, rfl, ⟨rfl, rfl⟩, ?_⟩
      change a.succeeded cfg scope = _
      rw [CircuitState.succeeded_of_halfOpen cfg scope hstate, if_pos (by omega)]
    | succ n ih =>
      intro a hstate hlast
      have hsucceeded := CircuitState.succeeded_of_halfOpen cfg scope hstate
      by_cases hpassed : halfOpenSuccessesFor cfg scope ≤ a.halfOpenTrial + 1
      · rw [if_pos hpassed] at hsucceeded
        exact ⟨0, _, ⟨le_refl 0, le_refl 0⟩, rfl, ⟨rfl, rfl⟩, hsucceeded⟩
      · rw [if_neg hpassed] at hsucceeded
        obtain ⟨k, c, hc, hclosed, hcount, hall⟩ := ih
          (a := { a with successCount := a.successCount + 1, halfOpenTrial := a.halfOpenTrial + 1 })
          hstate (show _ - (a.halfOpenTrial + 1) ≤ _ by push_cast at hlast; omega)
        refine ⟨k + 1, c, hc, hclosed, hcount, ?_⟩
        rw [← hsucceeded] at hall
        exact hall
  obtain ⟨k, c, hc, hclosed, hcount, hall⟩ := hpasses
    (halfOpenSuccessesFor cfg scope - a.halfOpenTrial).toNat hstate (by omega)
  refine .of_applyAll (List.replicate (k + 1) .recordSuccess) ?_
  rw [hall, applyAll_successes hstate']
  refine apart_of_excess_neg ht0 ht1 hcool hc ⟨hb.failures, ?_⟩ hclosed hstate' hcount ?_
  · simp only [hzero.2]
    omega
  · have hprod : 0 < failureThreshold cfg scope * (k + 1) := by positivity
    simp only [CircuitState.excess, hzero.1, hzero.2]
    push_cast
    linarith

/-- **A breaker that is not as a new one** can be told from a new one. -/
theorem apart_of_not_forgettable (hcounted : cs.Counted)
    (hlow : cs.state = .closed → cs.excess cfg scope ≤ 0)
    (hforget : ¬ cs.Forgettable cfg now scope) : Apart cfg now scope .initial cs := by
  have hzero : CircuitState.initial.failureCount = 0 ∧ CircuitState.initial.successCount = 0 :=
    ⟨rfl, rfl⟩
  cases hstate : cs.state with
  | closed =>
    have hne : cs.excess cfg scope ≠ 0 := fun h => hforget (.inr (.inr (.inr ⟨hstate, h⟩)))
    exact apart_of_excess_neg ht0 ht1 hcool .initial hcounted rfl hstate hzero
      (lt_of_le_of_ne (hlow hstate) hne)
  | halfOpen =>
    exact (apart_of_halfOpen ht0 ht1 hcool hstate .initial rfl hzero).symm
  | opened =>
    by_cases hblock : cs.Blocking now
    · exact ⟨[], fun hiff => by cases (hiff.2 hblock).1⟩
    · have hexpired : cs.cooldownUntil < now := not_le.1 fun hle => hblock ⟨hstate, hle⟩
      have hasked : applyAll cfg now scope [.getState] cs =
          { cs with state := .halfOpen, halfOpenTrial := 0 } := if_pos ⟨hstate, hexpired⟩
      refine .of_applyAll [.getState] ?_
      rw [hasked]
      exact (apart_of_halfOpen ht0 ht1 hcool rfl .initial rfl hzero).symm

end Thresholds

/-- The closed breakers of a process do not have too many failures. -/
theorem Process.excess_run (ht0 : 0 ≤ failureThreshold cfg scope) (start : ℤ)
    (client : String → Option Persisted) (tasks : List Task) :
    let cs := ((newStateManager start client).run cfg tasks).breaker scope scopeValue
    cs.state = .closed → cs.excess cfg scope ≤ 0 := by
  induction tasks using List.reverseRecOn with
  | nil =>
    intro cs _
    simp [cs, run, breaker, newStateManager, getOrCreateState, CircuitState.initial,
      CircuitState.excess]
  | append_singleton tasks t ih =>
    have hcounted : (((newStateManager start client).run cfg tasks).breaker scope scopeValue).Counted :=
      counted_run cfg start client tasks
    rw [run, List.foldl_append, List.foldl_cons, List.foldl_nil, breaker_step]
    cases t.actionOn scope scopeValue with
    | none => exact ih
    | some action =>
      cases action with
      | perform op => exact hcounted.excess_apply ht0 ih op
      | reset => simp [Action.apply, CircuitState.initial, CircuitState.excess]

variable (cfg scope scopeValue) in
/-- Operations on a breaker that take no time. -/
theorem Process.run_operations (p : Process) (ops : List Operation) :
    let p' := p.run cfg (ops.map fun op => ⟨0, .perform op, scope, scopeValue⟩)
    p'.now = p.now ∧
      p'.breaker scope scopeValue = applyAll cfg p.now scope ops (p.breaker scope scopeValue) := by
  induction ops generalizing p with
  | nil => exact ⟨rfl, rfl⟩
  | cons op ops ih =>
    obtain ⟨hnow, hbreaker⟩ := ih (p.step cfg ⟨0, .perform op, scope, scopeValue⟩)
    have hstep : (p.step cfg ⟨0, .perform op, scope, scopeValue⟩).now = p.now := by simp
    refine ⟨hnow.trans hstep, hbreaker.trans ?_⟩
    rw [hstep, breaker_step]
    simp [Task.actionOn, Action.apply, applyAll]

end Apart

/-- **After which runs a restart goes unnoticed**: exactly if every breaker will be as a new one. -/
theorem sameAnswers_iff (cfg : CircuitBreakerConfig) (start : ℤ)
    (client : String → Option Persisted) (tasks : List Task) :
    let p := (Process.newStateManager start client).run cfg tasks
    (∀ scope scopeValue, p.SameAnswers cfg scope scopeValue) ↔
      ∀ scope scopeValue, (p.breaker scope scopeValue).Forgettable cfg p.now scope := by
  intro p
  refine ⟨fun hsame scope scopeValue => ?_, fun hforget scope scopeValue =>
    sameAnswers_of_forgettable start client tasks (hforget scope scopeValue)⟩
  by_contra hforget
  have hcounted : (p.breaker scope scopeValue).Counted := Process.counted_run cfg start client tasks
  -- a breaker outside the first two cases has a threshold below one and a cooldown
  have hcool : 0 ≤ cooldownFor cfg scope := not_lt.1 fun h => hforget (.inl h)
  have ht1 : failureThreshold cfg scope < 1 := not_le.1 fun h => hforget (.inr (.inl h))
  have hanswer (ops : List Operation) :
      ((applyAll cfg p.now scope ops .initial).Blocking p.now ↔
        (applyAll cfg p.now scope ops (p.breaker scope scopeValue)).Blocking p.now) := by
    have hops := hsame scope scopeValue (ops.map fun op => ⟨0, .perform op, scope, scopeValue⟩) 0
    obtain ⟨hnow, hbreaker⟩ := p.run_operations cfg scope scopeValue ops
    obtain ⟨hnow', hbreaker'⟩ := p.restart.run_operations cfg scope scopeValue ops
    rw [Process.isOpen_eq, Process.isOpen_eq, hnow, hnow', hbreaker, hbreaker', decide_eq_decide,
      Nat.cast_zero, add_zero, add_zero] at hops
    exact hops
  by_cases ht0 : 0 < failureThreshold cfg scope
  · obtain ⟨ops, hne⟩ := apart_of_not_forgettable ht0 ht1 hcool hcounted
      (Process.excess_run ht0.le start client tasks) hforget
    exact hne (hanswer ops)
  · have hblock : (p.breaker scope scopeValue).Blocking p.now := by
      by_contra hblock
      exact hforget (.inr (.inr (.inl ⟨not_lt.1 ht0, hblock⟩)))
    cases ((hanswer []).2 hblock).1

/-- A device whose breaker has opened is called again after a restart. -/
theorem sameAnswers_open :
    ¬ ((Process.newStateManager 0 fun _ => none).run .default
      [⟨0, .perform .recordFailure, .device, "device-1"⟩]).SameAnswers .default .device "device-1" := by
  intro h
  exact absurd (h [] 0) (by decide +kernel)

end AeroxeBee.Dispatch
