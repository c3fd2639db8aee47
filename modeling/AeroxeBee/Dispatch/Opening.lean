import AeroxeBee.Dispatch.Breakers
import AeroxeBee.Dispatch.Sticky

/-!
# Which breakers can open

`processMessage` asks the breaker of the account and the breakers of the devices, but it counts
outcomes for the devices only. So a device that keeps failing is turned away after a while, and an
account never.

* `recorded_trySend`: an attempt to send counts one outcome, for its device;
* `account_closed`: the breaker of an account stays closed in every run;
* `opens_iff`: whose breaker opens when all attempts fail.
-/

namespace AeroxeBee.Dispatch

open Foundations StateManager

/-! ## The breakers that a command is about -/

/-- The operation of a command on a breaker. -/
def operationOn (scope : CircuitBreakerScope) (scopeValue : String) :
    {β : Type} → ServerCmd β → Option Operation
  | _, .isOpen scope' scopeValue' =>
    if scope' = scope ∧ scopeValue' = scopeValue then some .getState else none
  | _, .recordFailure scope' scopeValue' =>
    if scope' = scope ∧ scopeValue' = scopeValue then some .recordFailure else none
  | _, .recordSuccess scope' scopeValue' =>
    if scope' = scope ∧ scopeValue' = scopeValue then some .recordSuccess else none
  | _, _ => none

/-- The command counts outcomes of devices only, and forgets no breaker. -/
def CountsDevices : {β : Type} → ServerCmd β → Prop
  | _, .recordFailure scope _ | _, .recordSuccess scope _ => scope = .device
  | _, .reset _ _ => False
  | _, _ => True

/-- Nothing else changes the breakers. -/
def BreakersKept (w : World) : Prop :=
  ∀ t ∈ w.env, ∀ s : Shared, (t.others s).breakers = s.breakers

/-- A breaker of the server. -/
def breakerOf (w : World) (scope : CircuitBreakerScope) (scopeValue : String) : CircuitState :=
  getOrCreateState w.breakers scope scopeValue

section Step

variable {cfg : Config} {w : World} {scope : CircuitBreakerScope} {scopeValue : String}

theorem BreakersKept.tick (h : BreakersKept w) : w.tick.breakers = w.breakers := by
  unfold World.tick World.next
  cases henv : w.env with
  | nil => rfl
  | cons t ts => exact h t (henv ▸ List.mem_cons_self) w.toShared

theorem BreakersKept.step {β : Type} (h : BreakersKept w) (e : ServerCmd β) :
    BreakersKept ((server cfg).step e w).2 := by
  intro t ht
  rw [step_env] at ht
  exact h t (List.mem_of_mem_tail ht)

/-- **A command changes the breaker it is about, and no other one.** -/
theorem breakerOf_step {β : Type} (h : BreakersKept w) {e : ServerCmd β} (he : CountsDevices e) :
    breakerOf ((server cfg).step e w).2 scope scopeValue =
      match operationOn scope scopeValue e with
      | none => breakerOf w scope scopeValue
      | some op => op.apply cfg.circuitBreaker w.tick.clock scope (breakerOf w scope scopeValue) := by
  have hperform (op : Operation) (scope' : CircuitBreakerScope) (scopeValue' : String) :
      getOrCreateState (perform cfg.circuitBreaker w.tick.breakers w.tick.clock scope' scopeValue' op)
          scope scopeValue =
        match if scope' = scope ∧ scopeValue' = scopeValue then some op else none with
        | none => breakerOf w scope scopeValue
        | some op =>
          op.apply cfg.circuitBreaker w.tick.clock scope (breakerOf w scope scopeValue) := by
    rw [perform_eq, h.tick]
    by_cases hsame : scope' = scope ∧ scopeValue' = scopeValue
    · obtain ⟨rfl, rfl⟩ := hsame
      simp [breakerOf]
    · rw [if_neg hsame]
      exact getOrCreateState_putState_of_ne _ _ _ hsame _
  have hother (hbreakers : ((server cfg).step e w).2.breakers = w.tick.breakers) :
      breakerOf ((server cfg).step e w).2 scope scopeValue = breakerOf w scope scopeValue := by
    rw [breakerOf, breakerOf, hbreakers, h.tick]
  cases e with
  | isOpen scope' scopeValue' => exact hperform .getState scope' scopeValue'
  | recordFailure scope' scopeValue' => exact hperform .recordFailure scope' scopeValue'
  | recordSuccess scope' scopeValue' => exact hperform .recordSuccess scope' scopeValue'
  | reset scope' scopeValue' => exact he.elim
  | publish topic payload =>
    refine hother ?_
    cases hfault : w.next.fault <;> simp [server, serve, hfault]
  | _ => exact hother rfl

end Step

/-! ## What the handler counts -/

section Handler

variable {cfg : Config} {scan : ContentScan} {msg : QueueMessage}

/-- What the handler of a message asks for: apart from idle commands it judges SIM cards, publishes,
writes the outcome, and tells the webhooks. -/
def Handles : {β : Type} → ServerCmd β → Prop
  | _, .db (.updateHealthStatus _ _ _) | _, .db (.updateDeliveryStatus _ _ _ _) => True
  | _, .db (.updateDeviceID _ _) | _, .db (.recordSent _ _) => True
  | _, .evaluateDevice _ _ | _, .publish _ _ | _, .dispatchWebhooks _ _ => True
  | _, e => Idle e

theorem Idle.handles {β : Type} {e : ServerCmd β} (h : Idle e) : Handles e := by
  cases e with
  | db q =>
    cases q with
    | eligibleDevices _ | deviceCostProfile _ | incrementUsage _ _ => trivial
    | _ => exact h.elim
  | evaluateDevice _ _ | publish _ _ | dispatchWebhooks _ _ => trivial
  | _ => exact h

theorem handles_of_idle {α : Type} {p : ServerProg α} (hp : p.Only Idle) : p.Only Handles :=
  hp.mono fun _ => Idle.handles

theorem recordSent_handles (device : Device) :
    (recordSent cfg msg device).Only Handles :=
  recordSent_only handles_of_idle trivial trivial (fun _ => trivial) trivial (fun _ => trivial) rfl
    fun _ => trivial

theorem trySend_handles (device : Device) : (trySend cfg msg device).Only Handles := by
  refine ⟨trivial, fun connected => ?_⟩
  cases connected with
  | false => exact (handles_of_idle (recordFailed_idle device)).bind fun _ => trivial
  | true =>
    refine ⟨trivial, fun _ => ⟨trivial, fun reply => ?_⟩⟩
    rcases reply with e | ⟨⟩
    · exact (handles_of_idle (recordFailed_idle device)).bind fun _ => trivial
    · exact (recordSent_handles device).bind fun _ => trivial

theorem attempt_handles (device : Device) : (attempt cfg msg device).Only Handles := by
  refine ⟨trivial, fun isOpen => ?_⟩
  cases isOpen with
  | true => trivial
  | false =>
    refine (handles_of_idle (checkRates_idle device)).bind fun rates => ?_
    rcases rates with e | ⟨⟩
    · trivial
    · have hhealth : (checkHealth device).Only Handles := checkHealth_only trivial fun _ _ => trivial
      refine hhealth.bind fun health => ?_
      rcases health with e | ⟨⟩
      · trivial
      · refine (trySend_handles device).bind fun r => ?_
        cases r <;> trivial

theorem sendLoop_handles (scored : List ScoredDevice) (lastErr : Option String) :
    (sendLoop cfg msg lastErr scored).Only Handles := by
  induction scored generalizing lastErr with
  | nil => cases lastErr <;> trivial
  | cons d rest ih =>
    rw [sendLoop_cons]
    refine (attempt_handles d.device).bind fun a => ?_
    cases a with
    | skipped => exact ih lastErr
    | failed e => exact ih (some e)
    | sent => trivial

/-- **What the handler asks for.** -/
theorem processMessage_handles : (processMessage cfg scan msg).Only Handles := by
  refine (handles_of_idle candidates_idle).bind fun r => ?_
  cases r with
  | error e => trivial
  | ok scored => exact sendLoop_handles scored none

theorem Handles.countsDevices {β : Type} {e : ServerCmd β} (h : Handles e) : CountsDevices e := by
  cases e with
  | recordFailure _ _ | recordSuccess _ _ | reset _ _ => exact h
  | _ => trivial

/-- **The handler counts outcomes of devices only.** -/
theorem processMessage_countsDevices : (processMessage cfg scan msg).Only CountsDevices :=
  processMessage_handles.mono fun _ => Handles.countsDevices

/-- The outcome that an event counts, and of which device. -/
def outcomeOf : Event ServerCmd → Option (String × Bool)
  | ⟨.recordFailure .device id, _⟩ => some (id, false)
  | ⟨.recordSuccess .device id, _⟩ => some (id, true)
  | _ => none

/-- The command counts no outcome. -/
def Uncounted : {β : Type} → ServerCmd β → Prop
  | _, .recordFailure _ _ | _, .recordSuccess _ _ => False
  | _, _ => True

/-- The protocol that allows everything and notes the outcomes that are counted. -/
def counting : Protocol ServerCmd (List (String × Bool)) where
  allows _ := fun _ => True
  expects _ := True
  next s ev := s ++ (outcomeOf ev).toList

theorem Uncounted.keeps {α : Type} {p : ServerProg α} (hp : p.Only Uncounted)
    (s : List (String × Bool)) : p.Keeps counting (fun s' _ => s' = s) s := by
  refine Prog.Keeps.of_only hp (fun _ _ => trivial) fun e b he => ?_
  cases e with
  | recordFailure _ _ | recordSuccess _ _ => exact he.elim
  | _ => exact List.append_nil s

theorem keeps_counting_recordFailed (device : Device) (s : List (String × Bool)) :
    (recordFailed device).Keeps counting (fun s' _ => s' = s ++ [(device.id, false)]) s :=
  ⟨trivial, fun _ _ => ⟨trivial, fun _ _ => List.append_nil _⟩⟩

theorem keeps_counting_recordSent (device : Device) (s : List (String × Bool)) :
    (recordSent cfg msg device).Keeps counting (fun s' _ => s' = s ++ [(device.id, true)]) s := by
  have hcounters : (RateControl.incrementDeviceCounters device.id).Only Uncounted :=
    ⟨trivial, fun _ => ⟨trivial, fun _ => ⟨trivial, fun _ => ⟨trivial, fun _ =>
      ⟨trivial, fun _ => ⟨trivial, fun _ => trivial⟩⟩⟩⟩⟩⟩
  have hthrottle : (RateControl.incrementGlobalThrottle "carrier" device.carrier).Only Uncounted :=
    ⟨trivial, fun _ => ⟨trivial, fun _ => trivial⟩⟩
  have husage : (incrementUsage msg.accountID).Only Uncounted :=
    ⟨trivial, fun _ => ⟨trivial, fun _ => trivial⟩⟩
  refine ⟨trivial, fun _ _ => ⟨trivial, fun _ _ => ⟨trivial, fun _ _ => ⟨trivial, fun _ _ => ?_⟩⟩⟩⟩
  refine (Uncounted.keeps hcounters _).bind fun s₁ _ hs₁ => ?_
  refine (Uncounted.keeps hthrottle _).bind fun s₂ _ hs₂ => ?_
  refine ⟨trivial, fun _ _ => ⟨trivial, fun _ _ => ?_⟩⟩
  refine (Uncounted.keeps husage _).bind fun s₃ _ hs₃ => ?_
  refine ⟨trivial, fun _ _ => ⟨trivial, fun _ _ => ?_⟩⟩
  change _ ++ [(device.id, true)] ++ [] = _
  rw [List.append_nil, hs₃]
  simp only [counting, outcomeOf, Option.toList_none, List.append_nil]
  rw [hs₂, hs₁]
  simp only [counting, outcomeOf, Option.toList_none, List.append_nil]

/-- **An attempt to send counts one outcome, for its device**, and says what it was. -/
theorem recorded_trySend (device : Device) (s : List (String × Bool)) :
    (trySend cfg msg device).Keeps counting
      (fun s' r => s' = s ++ [(device.id, match r with | .ok _ => true | .error _ => false)]) s := by
  refine ⟨trivial, fun connected _ => ?_⟩
  cases connected with
  | false =>
    refine (keeps_counting_recordFailed device _).bind fun s' _ hs' => ?_
    change s' = s ++ [(device.id, false)]
    simpa [counting, outcomeOf] using hs'
  | true =>
    refine ⟨trivial, fun _ _ => ⟨trivial, fun reply _ => ?_⟩⟩
    rcases reply with e | ⟨⟩
    · refine (keeps_counting_recordFailed device _).bind fun s' _ hs' => ?_
      change s' = s ++ [(device.id, false)]
      simpa [counting, outcomeOf] using hs'
    · refine (keeps_counting_recordSent device _).bind fun s' _ hs' => ?_
      change s' = s ++ [(device.id, true)]
      simpa [counting, outcomeOf] using hs'

end Handler

/-! ## Runs of the handler -/

section Runs

/-- Whose breaker it is. -/
inductive Subject where
  | account (id : String)
  | device (id : String)
deriving DecidableEq

/-- The scope of a breaker. -/
def Subject.scope : Subject → CircuitBreakerScope
  | account _ => .account
  | device _ => .device

/-- The value that a breaker is for. -/
def Subject.value : Subject → String
  | account id => id
  | device id => id

variable (cfg : Config) (scan : ContentScan) (calls : List QueueMessage) (subject : Subject)

/-- The outcome of an attempt of an account or a device that an event counts. -/
def outcomeFor (x : ℕ × Event ServerCmd) : Option Bool :=
  match subject with
  | .account id =>
    if calls[x.1]?.any (·.accountID = id) then (outcomeOf x.2).map Prod.snd else none
  | .device id => (outcomeOf x.2).bind fun o => if o.1 = id then some o.2 else none

/-- The outcomes of all attempts so far. -/
def outcomes (log : List (ℕ × Event ServerCmd)) : List Bool := log.filterMap (outcomeFor calls subject)

/-- The outcomes that a run adds. -/
def laterOutcomes (P : Dispatchers) (sched : List ℕ) : List Bool :=
  (outcomes calls subject (P.run (server cfg) sched).log).drop (outcomes calls subject P.log).length

/-- In the rest of the run every attempt fails, and there are more attempts than there were before. -/
def KeepsFailing (P : Dispatchers) (sched : List ℕ) : Prop :=
  (∀ sent ∈ laterOutcomes cfg calls subject P sched, sent = false) ∧
    (outcomes calls subject P.log).length < (laterOutcomes cfg calls subject P sched).length

instance (P : Dispatchers) (sched : List ℕ) : Decidable (KeepsFailing cfg calls subject P sched) :=
  inferInstanceAs (Decidable (_ ∧ _))

/-- The breaker is open at some moment of a run. -/
def OpensDuring (P : Dispatchers) (sched : List ℕ) : Prop :=
  ∃ k ∈ List.range (sched.length + 1),
    (breakerOf (P.run (server cfg) (sched.take k)).state subject.scope subject.value).state = .opened

instance (P : Dispatchers) (sched : List ℕ) : Decidable (OpensDuring cfg subject P sched) :=
  inferInstanceAs (Decidable (∃ k ∈ _, _))

variable {calls subject} in
theorem outcomes_concat (log : List (ℕ × Event ServerCmd)) (x : ℕ × Event ServerCmd) :
    outcomes calls subject (log ++ [x]) =
      outcomes calls subject log ++ (outcomeFor calls subject x).toList := by
  rw [outcomes, List.filterMap_append]
  congr 1

variable {calls} in
/-- The outcomes of a device are those that the operations on its breaker count. -/
theorem outcomeFor_device {β : Type} (id : String) (i : ℕ) (e : ServerCmd β) (b : β) :
    outcomeFor calls (.device id) (i, ⟨e, b⟩) =
      match operationOn .device id e with
      | some .recordFailure => some false
      | some .recordSuccess => some true
      | _ => none := by
  cases e with
  | recordFailure scope value =>
    cases scope <;> simp [outcomeFor, outcomeOf, operationOn]
    split_ifs <;> rfl
  | recordSuccess scope value =>
    cases scope <;> simp [outcomeFor, outcomeOf, operationOn]
    split_ifs <;> rfl
  | isOpen scope value =>
    simp only [outcomeFor, outcomeOf, operationOn, Option.bind_none]
    split_ifs <;> rfl
  | _ => rfl

/-- The command of an account's breaker only asks for its state. -/
theorem operationOn_account {β : Type} {e : ServerCmd β} (he : CountsDevices e) (id : String) :
    operationOn .account id e = none ∨ operationOn .account id e = some .getState := by
  cases e with
  | isOpen scope value =>
    simp only [operationOn]
    split_ifs
    · exact .inr rfl
    · exact .inl rfl
  | recordFailure scope value | recordSuccess scope value =>
    obtain rfl : scope = .device := he
    exact .inl (by simp [operationOn])
  | _ => exact .inl rfl

/-- What a step of the runs can do. -/
theorem dispatchers_step (w : World) (sched : List ℕ) (i : ℕ) :
    let P := (dispatchers cfg scan calls w).run (server cfg) sched
    P.step (server cfg) i = P ∨
      ∃ (β : Type) (e : ServerCmd β) (k : β → ServerProg (Except String Unit)), CountsDevices e ∧
        P.step (server cfg) i = P.advance (server cfg) i e k := by
  intro P
  rcases Pool.step_cases (server cfg) P i with hs | ⟨β, e, k, hi, hs⟩
  · exact .inl hs
  · obtain ⟨msg, -, hfollows⟩ := Pool.follows (processMessage cfg scan) calls w sched hi
    exact .inr ⟨β, e, k, (hfollows.only processMessage_countsDevices).1, hs⟩

/-- Nothing else changes the breakers, as long as the runs go on. -/
theorem breakersKept_run {w : World} (hkept : BreakersKept w) (sched : List ℕ) :
    BreakersKept ((dispatchers cfg scan calls w).run (server cfg) sched).state := by
  refine Pool.run_inv (I := fun P : Dispatchers => BreakersKept P.state) (fun P i hP => ?_) hkept sched
  rcases Pool.step_cases (server cfg) P i with hs | ⟨β, e, k, -, hs⟩
  · rw [hs]
    exact hP
  · rw [hs]
    exact hP.step e

/-! ### Accounts -/

/-- **The breaker of an account stays closed**, whatever happens to its messages. -/
theorem account_closed {w : World} (hnew : w.breakers = fun _ => none) (hkept : BreakersKept w)
    (id : String) (sched : List ℕ) :
    (breakerOf ((dispatchers cfg scan calls w).run (server cfg) sched).state .account id).state =
      .closed := by
  induction sched using List.reverseRecOn with
  | nil =>
    change (breakerOf w .account id).state = .closed
    rw [breakerOf, hnew]
    rfl
  | append_singleton sched i ih =>
    rw [Pool.run_concat]
    rcases dispatchers_step cfg scan calls w sched i with
      hs | ⟨β, e, k, he, hs⟩
    · rw [hs]
      exact ih
    · rw [hs]
      change (breakerOf ((server cfg).step e _).2 .account id).state = .closed
      rw [breakerOf_step (breakersKept_run cfg scan calls hkept sched) he]
      rcases operationOn_account he id with hop | hop
      · rw [hop]
        exact ih
      · rw [hop]
        simp only [Operation.apply, CircuitState.asked]
        rw [if_neg fun h => by cases ih.symm.trans h.1]
        exact ih

/-! ### Devices -/

section Device

variable {now : ℤ} {cs : CircuitState} {samples failures : ℕ}

/-- What is known of the breaker of a device after some samples. -/
structure Sampled (cfg : CircuitBreakerConfig) (samples : ℕ) (cs : CircuitState) : Prop where
  counted : cs.Counted
  closed : cs.state = .closed → cs.excess cfg .device ≤ 0
  samples : cs.successCount ≤ samples

/-- A breaker that has not opened although there were failures after the first samples. -/
structure Endures (cfg : CircuitBreakerConfig) (samples failures : ℕ) (cs : CircuitState) :
    Prop where
  sampled : Sampled cfg samples cs
  notOpen : cs.state ≠ .opened
  closed : cs.state = .closed → failures ≤ cs.failureCount
  halfOpen : cs.state = .halfOpen → failures = 0

/-- Only a success adds to the successes. -/
theorem successCount_apply_le {cfg : CircuitBreakerConfig} (h : cs.Counted) (op : Operation) :
    (op.apply cfg now .device cs).successCount ≤
      cs.successCount + if op = .recordSuccess then 1 else 0 := by
  have hs := h.successes
  cases op with
  | recordFailure =>
    simp only [Operation.apply]
    by_cases hhalf : cs.state = .halfOpen
    · rw [CircuitState.failed_of_halfOpen hhalf]
      simpa [CircuitState.opens] using hs
    · rw [h.failed_eq hhalf]
      split_ifs <;> simp [CircuitState.opens, CircuitState.countFailure]
  | recordSuccess =>
    simp only [Operation.apply]
    cases hstate : cs.state with
    | opened =>
      rw [CircuitState.succeeded_of_opened hstate]
      simp
    | halfOpen =>
      rw [CircuitState.succeeded_of_halfOpen cfg .device hstate]
      split_ifs
      · simp only
        omega
      · exact le_refl _
    | closed =>
      rw [CircuitState.succeeded_of_closed cfg .device hstate]
      exact le_refl _
  | getState =>
    simp only [Operation.apply, CircuitState.asked]
    split_ifs <;> simp

/-- How many samples an operation takes. -/
def taken : Operation → ℕ
  | .getState => 0
  | _ => 1

variable (now) in
/-- An operation takes at most one more sample. -/
theorem Sampled.apply {cfg : CircuitBreakerConfig} (h : Sampled cfg samples cs)
    (ht0 : 0 ≤ failureThreshold cfg .device) (op : Operation) :
    Sampled cfg (samples + taken op) (op.apply cfg now .device cs) := by
  refine ⟨h.counted.apply cfg now .device op, h.counted.excess_apply ht0 h.closed op, ?_⟩
  have hsamples := h.samples
  have hle : (op.apply cfg now .device cs).successCount ≤ _ := successCount_apply_le h.counted op
  cases op with
  | recordFailure | recordSuccess | getState =>
    simp [taken] at hle ⊢
    omega

/-- A breaker that endures another failure, if it does not open. -/
theorem Endures.failed {cfg : CircuitBreakerConfig} (h : Endures cfg samples failures cs)
    (ht0 : 0 ≤ failureThreshold cfg .device) :
    (cs.failed cfg now .device).state = .opened ∨
      Endures cfg samples (failures + 1) (cs.failed cfg now .device) := by
  by_cases hhalf : cs.state = .halfOpen
  · rw [CircuitState.failed_of_halfOpen hhalf]
    exact .inl rfl
  · have hcounted := h.sampled.counted.apply cfg now .device .recordFailure
    have hexcess : (cs.failed cfg now .device).state = .closed →
        (cs.failed cfg now .device).excess cfg .device ≤ 0 :=
      h.sampled.counted.excess_apply ht0 h.sampled.closed .recordFailure
    simp only [Operation.apply] at hcounted
    rw [h.sampled.counted.failed_eq hhalf] at hcounted hexcess ⊢
    split_ifs at hcounted hexcess ⊢
    · exact .inl rfl
    · have hfailures (hclosed : cs.state = .closed) :
          ((failures + 1 : ℕ) : ℤ) ≤ cs.countFailure.failureCount := by
        have hle := h.closed hclosed
        simp only [CircuitState.countFailure]
        omega
      exact .inr ⟨⟨hcounted, hexcess, h.sampled.samples⟩, h.notOpen, hfailures,
        fun hc => absurd hc hhalf⟩

/-- Asking for the state of a breaker that is not open changes nothing. -/
theorem Endures.asked {cfg : CircuitBreakerConfig} (h : Endures cfg samples failures cs) :
    Endures cfg samples failures (cs.asked now) := by
  rw [CircuitState.asked, if_neg fun hc => h.notOpen hc.1]
  exact h

/-- **Not more failures than earlier samples** are endured by a breaker that opens when more than
half of the samples are failures. -/
theorem Endures.le {cfg : CircuitBreakerConfig} (h : Endures cfg samples failures cs)
    (ht : cfg.deviceFailureThreshold = 1 / 2) : failures ≤ samples := by
  cases hstate : cs.state with
  | opened => exact absurd hstate h.notOpen
  | halfOpen => exact (h.halfOpen hstate).le.trans (Nat.zero_le _)
  | closed =>
    have hexcess := h.sampled.closed hstate
    have hsamples := h.sampled.samples
    have hfailures := h.closed hstate
    simp only [CircuitState.excess, failureThreshold, ht] at hexcess
    have hle : (cs.failureCount : ℚ) ≤ cs.successCount := by linarith
    have hle' : cs.failureCount ≤ cs.successCount := by exact_mod_cast hle
    omega

end Device

/-- The samples of a device are among the outcomes of its attempts. -/
theorem sampled_run {w : World} (ht : cfg.circuitBreaker.deviceFailureThreshold = 1 / 2)
    (hnew : w.breakers = fun _ => none) (hkept : BreakersKept w) (id : String) (sched : List ℕ) :
    let P := (dispatchers cfg scan calls w).run (server cfg) sched
    Sampled cfg.circuitBreaker (outcomes calls (.device id) P.log).length
      (breakerOf P.state .device id) := by
  have ht0 : 0 ≤ failureThreshold cfg.circuitBreaker .device := by
    rw [failureThreshold, ht]
    norm_num
  induction sched using List.reverseRecOn with
  | nil =>
    intro P
    have hinitial : breakerOf P.state .device id = .initial := by
      change getOrCreateState w.breakers .device id = _
      rw [hnew]
      rfl
    rw [hinitial]
    exact ⟨.initial, fun _ => by simp [CircuitState.excess, CircuitState.initial], Int.natCast_nonneg _⟩
  | append_singleton sched i ih =>
    rw [Pool.run_concat]
    rcases dispatchers_step cfg scan calls w sched i with
      hs | ⟨β, e, k, he, hs⟩
    · rw [hs]
      exact ih
    · rw [hs]
      simp only [Pool.advance]
      rw [breakerOf_step (breakersKept_run cfg scan calls hkept sched) he, outcomes_concat, List.length_append,
        outcomeFor_device]
      cases hop : operationOn .device id e with
      | none => exact ih
      | some op =>
        have happly := ih.apply
          ((dispatchers cfg scan calls w).run (server cfg) sched).state.tick.clock ht0 op
        cases op with
        | recordFailure | recordSuccess | getState => exact happly

/-- **A device whose attempts all fail** is turned away after a while. -/
theorem device_opens {w : World} (ht : cfg.circuitBreaker.deviceFailureThreshold = 1 / 2)
    (hnew : w.breakers = fun _ => none) (hkept : BreakersKept w) (id : String)
    (before after : List ℕ) :
    let P := (dispatchers cfg scan calls w).run (server cfg) before
    KeepsFailing cfg calls (.device id) P after → OpensDuring cfg (.device id) P after := by
  intro P hfails
  let earlier := outcomes calls (.device id) P.log
  have ht0 : 0 ≤ failureThreshold cfg.circuitBreaker .device := by
    rw [failureThreshold, ht]
    norm_num
  -- by induction on the rest of the run: the breaker has opened, or endures the failures so far
  have hrun (after : List ℕ) :
      let Q := P.run (server cfg) after
      let later := laterOutcomes cfg calls (.device id) P after
      earlier.length ≤ (outcomes calls (.device id) Q.log).length ∧
        ((∀ sent ∈ later, sent = false) → OpensDuring cfg (.device id) P after ∨
          Endures cfg.circuitBreaker earlier.length later.length (breakerOf Q.state .device id)) := by
    induction after using List.reverseRecOn with
    | nil =>
      intro Q later
      have hsampled : Sampled cfg.circuitBreaker earlier.length (breakerOf P.state .device id) :=
        sampled_run cfg scan calls ht hnew hkept id before
      have hlater : later = [] := List.drop_length
      refine ⟨le_refl _, fun _ => ?_⟩
      rw [hlater]
      by_cases hopen : (breakerOf P.state .device id).state = .opened
      · exact .inl ⟨0, by simp, hopen⟩
      · exact .inr ⟨hsampled, hopen, fun _ => hsampled.counted.failures, fun _ => rfl⟩
    | append_singleton after i ih =>
      intro Q later
      obtain ⟨hlen, hold⟩ := ih
      simp only [laterOutcomes] at hold
      have hopens (h : OpensDuring cfg (.device id) P after) :
          OpensDuring cfg (.device id) P (after ++ [i]) := by
        obtain ⟨k, hk, hopen⟩ := h
        rw [List.mem_range] at hk
        refine ⟨k, List.mem_range.2 (by rw [List.length_append]; omega), ?_⟩
        rwa [List.take_append_of_le_length (Nat.lt_succ_iff.1 hk)]
      have hlast (hopen : (breakerOf Q.state .device id).state = .opened) :
          OpensDuring cfg (.device id) P (after ++ [i]) := by
        refine ⟨(after ++ [i]).length, List.mem_range.2 (Nat.lt_succ_self _), ?_⟩
        rwa [List.take_length]
      have hreached : P.run (server cfg) after =
          (dispatchers cfg scan calls w).run (server cfg) (before ++ after) :=
        (Pool.run_append _ _ _ _).symm
      have hQ : Q = (P.run (server cfg) after).step (server cfg) i := Pool.run_concat _ _ _ _
      have hkept' := breakersKept_run cfg scan calls hkept (before ++ after)
      have hstep := dispatchers_step cfg scan calls w (before ++ after) i
      rw [← hreached] at hkept' hstep
      rcases hstep with hs | ⟨β, e, k, he, hs⟩
      · have hsame : Q = P.run (server cfg) after := hQ.trans hs
        rw [← hsame] at hlen hold
        exact ⟨hlen, fun hfail => (hold hfail).imp_left hopens⟩
      · generalize hR : P.run (server cfg) after = R at hlen hold hQ hkept' hs
        have hlog : outcomes calls (.device id) Q.log = outcomes calls (.device id) R.log ++
            (outcomeFor calls (.device id) (i, ⟨e, ((server cfg).step e R.state).1⟩)).toList := by
          rw [hQ, hs]
          exact outcomes_concat R.log _
        have hbreaker : breakerOf Q.state .device id =
            match operationOn .device id e with
            | none => breakerOf R.state .device id
            | some op => op.apply cfg.circuitBreaker R.state.tick.clock .device
                (breakerOf R.state .device id) := by
          rw [hQ, hs]
          exact breakerOf_step hkept' he
        have hlater : later = (outcomes calls (.device id) R.log).drop earlier.length ++
            (outcomeFor calls (.device id) (i, ⟨e, ((server cfg).step e R.state).1⟩)).toList := by
          rw [← List.drop_append_of_le_length hlen, ← hlog]
          rfl
        refine ⟨by rw [hlog, List.length_append]; omega, fun hfail => ?_⟩
        rw [hlater, hbreaker]
        rw [hlater, outcomeFor_device] at hfail
        rw [outcomeFor_device]
        have hbefore := hold fun sent hsent => hfail sent (List.mem_append_left _ hsent)
        rcases hbefore with hopen | hendures
        · exact .inl (hopens hopen)
        · cases hop : operationOn .device id e with
          | none =>
            simp only [Option.toList_none, List.append_nil]
            exact .inr hendures
          | some op =>
            rw [hop] at hfail hbreaker
            cases op with
            | getState =>
              simp only [Option.toList_none, List.append_nil]
              exact .inr hendures.asked
            | recordSuccess => exact absurd (hfail true (by simp)) Bool.true_eq_false_eq_False
            | recordFailure =>
              rcases hendures.failed ht0 with hopen | hmore
              · exact .inl (hlast (hbreaker ▸ hopen))
              · rw [List.length_append]
                exact .inr hmore
  rcases (hrun after).2 hfails.1 with hopens | hendures
  · exact hopens
  · exact absurd (hendures.le ht) (not_le.2 hfails.2)

/-- **Whose breaker opens** when, from some point on, every attempt fails and there are more of them
than there were before: that of a device, but not that of an account. -/
theorem opens_iff (w : World) (before after : List ℕ)
    (ht : cfg.circuitBreaker.deviceFailureThreshold = 1 / 2) (hnew : w.breakers = fun _ => none)
    (hkept : BreakersKept w)
    (hfails : KeepsFailing cfg calls subject
      ((dispatchers cfg scan calls w).run (server cfg) before) after) :
    OpensDuring cfg subject ((dispatchers cfg scan calls w).run (server cfg) before) after ↔
      ∃ id, subject = .device id := by
  cases subject with
  | account id =>
    refine iff_of_false ?_ nofun
    rintro ⟨k, -, hopen⟩
    rw [← Pool.run_append] at hopen
    cases (account_closed cfg scan calls hnew hkept id _).symm.trans hopen
  | device id =>
    exact iff_of_true (device_opens cfg scan calls ht hnew hkept id before after hfails) ⟨id, rfl⟩

end Runs

/-! ## A delivery that fails -/

/-- A server with one device, for which the broker does not take the command. -/
def deafPhone : World := onePhone (List.replicate 23 .quiet ++ [brokerDown])

theorem breakersKept_deafPhone : BreakersKept deafPhone := by
  intro t ht s
  change t ∈ List.replicate 23 .quiet ++ [brokerDown] at ht
  simp only [List.mem_append, List.mem_replicate, List.mem_singleton] at ht
  rcases ht with ⟨-, rfl⟩ | rfl <;> rfl

/-- The only attempt of the account has failed, and its breaker has not opened. -/
theorem deafPhone_account :
    ¬ (KeepsFailing .default [greeting] (.account "account-1")
        (dispatchers .default noViolations [greeting] deafPhone) (List.replicate 30 0) →
      OpensDuring .default (.account "account-1")
        (dispatchers .default noViolations [greeting] deafPhone) (List.replicate 30 0)) := by
  have hfails : KeepsFailing .default [greeting] (.account "account-1")
      (dispatchers .default noViolations [greeting] deafPhone) (List.replicate 30 0) := by
    decide +kernel
  have hclosed : ¬ OpensDuring .default (.account "account-1")
      (dispatchers .default noViolations [greeting] deafPhone) (List.replicate 30 0) := by
    decide +kernel
  intro h
  exact hclosed (h hfails)

/-- The breaker of the device has opened. -/
theorem opens_iff_deafPhone :
    OpensDuring .default (.device "device-1")
        ((dispatchers .default noViolations [greeting] deafPhone).run (server .default) [])
        (List.replicate 30 0) ↔ ∃ id, Subject.device "device-1" = .device id := by
  have hfails : KeepsFailing .default [greeting] (.device "device-1")
      ((dispatchers .default noViolations [greeting] deafPhone).run (server .default) [])
      (List.replicate 30 0) := by
    decide +kernel
  have hhalf : Config.default.circuitBreaker.deviceFailureThreshold = 1 / 2 := rfl
  exact opens_iff _ _ _ _ _ _ _ hhalf rfl breakersKept_deafPhone hfails

end AeroxeBee.Dispatch
