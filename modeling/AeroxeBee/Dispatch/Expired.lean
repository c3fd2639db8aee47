import AeroxeBee.Dispatch.Acknowledged

/-!
# Messages that have expired

A message carries its creation time and how long it may wait. Both are written by the endpoints
and travel with the message, and nothing reads them again: a message is dispatched however old it
is.

* `dispatched_in_time_iff`: what is published for a message is published in time, in every run that
  is over by a given time, exactly if that time is early enough or the content filter blocks the
  message.
-/

namespace AeroxeBee.Dispatch

open Foundations

/-! ## Deadlines -/

/-- How long messages may wait in the lanes, in nanoseconds, according to the configuration. -/
structure QueueMaxAges where
  otpMaxAge : ℤ
  transactionalMaxAge : ℤ
  marketingMaxAge : ℤ

/-- The default configuration. -/
def QueueMaxAges.default : QueueMaxAges := ⟨90000000000, 900000000000, 900000000000⟩

/-- How long a message may wait: as long as it says itself, or as its lane says if it does not. -/
def maxAge (ages : QueueMaxAges) (lane : PriorityLane) (msg : QueueMessage) : ℤ :=
  if 0 < msg.maxAge.toInt then msg.maxAge.toInt
  else if lane = .otp then ages.otpMaxAge
  else if lane = .marketing then ages.marketingMaxAge
  else ages.transactionalMaxAge

/-- When a message expires. -/
def deadline (ages : QueueMaxAges) (lane : PriorityLane) (msg : QueueMessage) : ℤ :=
  msg.createdAt.nanos + maxAge ages lane msg

/-- A command that publishes is executed no later than the deadline. -/
def InTime (deadline : ℤ) : {β : Type} → ServerCmd β → World → Prop
  | _, .publish _ _, w => w.tick.clock ≤ deadline
  | _, _, _ => True

variable (cfg : Config) (scan : ContentScan) (msg : QueueMessage)

/-- **Nothing is published for the message after it has expired.** -/
def Punctual (deadline : ℤ) (w : World) : Prop :=
  (processMessage cfg scan msg).EachStep (server cfg) (InTime deadline) w

/-- The content filter blocks the message. -/
def Blocked : Prop :=
  (Fraud.checkSensitiveContent scan
    ⟨msg.accountID, msg.recipient, msg.sender, msg.message⟩).flagged = true

/-! ## Messages that are in time -/

variable {cfg scan msg}

/-- What is over before the message expires is in time. -/
theorem punctual_of_horizon_le {deadline : ℤ} {w : World} (h : w.horizon ≤ deadline) :
    Punctual cfg scan msg deadline w := by
  refine Prog.Only.eachStep (P := fun _ => True) (I := fun w => w.horizon ≤ deadline)
    (fun e w _ hw => ?_) (fun e w hw => ?_) (Prog.only_of_forall (fun _ => trivial) _) h
  · cases e with
    | publish topic payload => exact w.tick_clock_le_horizon.trans hw
    | _ => trivial
  · rw [horizon_step]
    exact hw

/-! ## Messages that are blocked -/

theorem flagged_of_flagged {result : Except String DetectionResult} {r : DetectionResult}
    (h : Fraud.flagged result = some r) : r.flagged = true :=
  (Option.filter_eq_some_iff.1 h).2

/-- A blocked message does not pass the checks, whatever they find. -/
theorem analyze_of_blocked (h : Blocked scan msg) :
    (Fraud.analyze scan ⟨msg.accountID, msg.recipient, msg.sender, msg.message⟩).Returns
      fun r => r.flagged = true := by
  unfold Fraud.analyze
  refine (Prog.Returns.of_forall (fun _ => trivial) _).bind fun spam _ => ?_
  cases hspam : Fraud.flagged spam with
  | some r => exact flagged_of_flagged hspam
  | none =>
    refine (Prog.Returns.of_forall (fun _ => trivial) _).bind fun listed _ => ?_
    cases hlisted : Fraud.flagged listed with
    | some r => exact flagged_of_flagged hlisted
    | none =>
      refine (Prog.Returns.of_forall (fun _ => trivial) _).bind fun velocity _ => ?_
      cases hvelocity : Fraud.flagged velocity with
      | some r => exact flagged_of_flagged hvelocity
      | none => exact h

/-- No devices are chosen for a blocked message. -/
theorem candidates_of_blocked (h : Blocked scan msg) :
    (candidates scan msg).Returns fun r => ∃ e, r = .error e := by
  unfold candidates
  intro accountOpen
  cases accountOpen with
  | true => exact ⟨_, rfl⟩
  | false =>
    refine (analyze_of_blocked h).bind fun result hresult => ?_
    change Prog.Returns _ (ite _ _ _)
    rw [if_pos hresult]
    exact fun _ _ _ => ⟨_, rfl⟩

/-- Nothing is ever published for a blocked message. -/
theorem punctual_of_blocked (h : Blocked scan msg) (deadline : ℤ) (w : World) :
    Punctual cfg scan msg deadline w := by
  have hsilent : (processMessage cfg scan msg).Only Silent := by
    refine Prog.Only.bind_of_returns (candidates_idle.mono fun _ => Idle.silent)
      (candidates_of_blocked h) fun r hr => ?_
    obtain ⟨e, rfl⟩ := hr
    trivial
  refine hsilent.eachStep (I := fun _ => True) (fun e w he _ => ?_) (fun _ _ _ => trivial) trivial
  cases e with
  | publish topic payload => exact he.elim
  | _ => trivial

/-! ## A message that is late -/

/-- A command that finds the stores down. -/
def down : Tick := { Tick.quiet with fault := .refused "connection refused" }

/-- The phone of an account. -/
def ownPhone (accountID : String) : Device := { phone with accountID := accountID }

/-- A server with the phone of one account, on which nothing has been sent. -/
def unused (accountID : String) : Shared where
  db := { (onePhone []).db with devices := [ownPhone accountID] }
  redis _ := none
  streams _ := Stream.empty
  antiStarvationCnt := 0
  breakers _ := some .initial
  history _ := []
  flags := []

/-- The server at a time, with some ticks to come. -/
abbrev unusedAt (accountID : String) (clock : ℤ) (env : List Tick) : World :=
  ⟨unused accountID, clock, env⟩

section Unused

variable (accountID : String) (clock : ℤ) (env : List Tick)

theorem tick_unused {t : Tick} (hothers : t.others = id) (helapsed : t.elapsed = 0) :
    (unusedAt accountID clock (t :: env)).tick = unusedAt accountID clock env := by
  simp [World.tick, World.next, hothers, helapsed]

theorem tick_unused_nil : (unusedAt accountID clock []).tick = unusedAt accountID clock [] := by
  simp [World.tick, World.next, Tick.quiet, Worker.Tick.quiet]

theorem step_down {β : Type} (e : ServerCmd β) :
    (server .default).step e (unusedAt accountID clock (down :: env)) =
      serve .default down (unusedAt accountID clock env) e := by
  change serve _ down (World.tick _) e = _
  rw [tick_unused _ _ _ rfl rfl]

theorem step_quiet {β : Type} (e : ServerCmd β) :
    (server .default).step e (unusedAt accountID clock []) =
      serve .default .quiet (unusedAt accountID clock []) e := by
  change serve _ .quiet (World.tick _) e = _
  rw [tick_unused_nil]

theorem serve_now (t : Tick) :
    serve .default t (unusedAt accountID clock env) .now =
      (clock, unusedAt accountID clock env) :=
  rfl

theorem serve_isOpen (t : Tick) (scope : CircuitBreakerScope) (scopeValue : String) :
    serve .default t (unusedAt accountID clock env) (.isOpen scope scopeValue) =
      (false, unusedAt accountID clock env) := by
  have hopen : StateManager.isOpen (fun _ => some CircuitState.initial) clock scope scopeValue =
      (false, fun _ => some CircuitState.initial) :=
    Prod.ext rfl (Function.update_eq_self (f := fun _ : String => some CircuitState.initial) _)
  change ((StateManager.isOpen (fun _ => some CircuitState.initial) clock scope scopeValue).1,
    World.mk { unused accountID with
      breakers := (StateManager.isOpen (fun _ => some CircuitState.initial) clock scope
        scopeValue).2 } clock env) = _
  rw [hopen]
  rfl

theorem serve_redis_down {β : Type} (e : RedisCmd β) :
    serve .default down (unusedAt accountID clock env) (.redis e) =
      (.error (.refused "connection refused"), unusedAt accountID clock env) :=
  rfl

theorem serve_get (key : String) :
    serve .default .quiet (unusedAt accountID clock env) (.redis (.get key)) =
      (.error .nil, unusedAt accountID clock env) := by
  have hput : Keyspace.put (fun _ => none) key none = fun _ => none :=
    Function.update_eq_self (f := fun _ : String => (none : Option RedisEntry)) key
  change (_, World.mk { unused accountID with redis := Keyspace.put (fun _ => none) key none }
    clock env) = _
  rw [hput]
  rfl

/-- The phone is eligible for the messages of its account. -/
theorem serve_eligibleDevices (msg : QueueMessage) :
    serve .default .quiet (unusedAt msg.accountID clock env)
        (.db (.eligibleDevices (eligibility msg))) =
      (.ok [ownPhone msg.accountID], unusedAt msg.accountID clock env) := by
  have hadmits : (eligibility msg).admits (ownPhone msg.accountID) = true := by
    simp [DeviceFilterOptions.admits, eligibility, ownPhone, phone]
  have hfilter : [ownPhone msg.accountID].filter (eligibility msg).admits =
      [ownPhone msg.accountID] := by
    rw [List.filter_cons_of_pos hadmits, List.filter_nil]
  change (Except.ok ((([ownPhone msg.accountID].filter
    (eligibility msg).admits).insertionSort _).take 10), _) = _
  rw [hfilter]
  rfl

theorem serve_deviceCostProfile (deviceID : String) :
    serve .default .quiet (unusedAt accountID clock env) (.db (.deviceCostProfile deviceID)) =
      (.ok none, unusedAt accountID clock env) :=
  rfl

theorem serve_rand (t : Tick) :
    serve .default t (unusedAt accountID clock env) .rand =
      (t.rand, unusedAt accountID clock env) :=
  rfl

theorem serve_evaluateDevice (t : Tick) (deviceID : String) :
    serve .default t (unusedAt accountID clock env) (.evaluateDevice deviceID .healthy) =
      ((.healthy, 0), unusedAt accountID clock env) := by
  have hstatus : (SimHealth.evaluateDevice .default clock [] .healthy).1 = .healthy :=
    SimHealth.evaluateDevice_of_aged_out (by norm_num [SIMHealthConfig.default])
      (by norm_num [SIMHealthConfig.default]) nofun
  have hslope : (SimHealth.evaluateDevice .default clock [] .healthy).2 = 0 := by
    simp [SimHealth.evaluateDevice, SimHealth.calculateTrend, SimHealth.filterByDuration]
  exact Prod.ext (Prod.ext hstatus hslope) rfl

theorem serve_isConnected :
    serve .default .quiet (unusedAt accountID clock env) .isConnected =
      (true, unusedAt accountID clock env) :=
  rfl

end Unused

theorem exec_checkOTPSpam_down (input : DetectionInput) (accountID : String) (clock : ℤ)
    (env : List Tick) :
    ∃ e evs, (Fraud.checkOTPSpam input).exec (server .default)
        (unusedAt accountID clock (List.replicate 6 down ++ env)) =
      ⟨.error e, unusedAt accountID clock env, evs⟩ := by
  simp only [Fraud.checkOTPSpam, List.replicate, List.cons_append, List.nil_append, Prog.call_bind,
    Prog.exec_act, step_down, serve_now, serve_redis_down]
  exact ⟨_, _, rfl⟩

theorem exec_checkRecipientBlacklist_down (recipient accountID : String) (clock : ℤ)
    (env : List Tick) :
    ∃ e evs, (Fraud.checkRecipientBlacklist recipient).exec (server .default)
        (unusedAt accountID clock (down :: env)) =
      ⟨.error e, unusedAt accountID clock env, evs⟩ := by
  simp only [Fraud.checkRecipientBlacklist, Prog.call_bind, Prog.exec_act, step_down,
    serve_redis_down]
  exact ⟨_, _, rfl⟩

theorem exec_checkVelocityAnomaly_down (id accountID : String) (clock : ℤ) (env : List Tick) :
    ∃ e evs, (Fraud.checkVelocityAnomaly id 0).exec (server .default)
        (unusedAt accountID clock (down :: env)) =
      ⟨.error e, unusedAt accountID clock env, evs⟩ := by
  simp only [Fraud.checkVelocityAnomaly, Prog.call_bind, Prog.exec_act, step_down,
    serve_redis_down]
  exact ⟨_, _, rfl⟩

variable (scan) in
/-- The fraud check finds its store down, and goes by what the content filter says. -/
theorem exec_analyze_down (input : DetectionInput) (accountID : String) (clock : ℤ) :
    ∃ evs, (Fraud.analyze scan input).exec (server .default)
        (unusedAt accountID clock (List.replicate 8 down)) =
      ⟨Fraud.checkSensitiveContent scan input, unusedAt accountID clock [], evs⟩ := by
  obtain ⟨e₁, evs₁, hspam⟩ := exec_checkOTPSpam_down input accountID clock [down, down]
  obtain ⟨e₂, evs₂, hlisted⟩ :=
    exec_checkRecipientBlacklist_down input.recipient accountID clock [down]
  obtain ⟨e₃, evs₃, hvelocity⟩ :=
    exec_checkVelocityAnomaly_down input.accountID accountID clock []
  have hflagged : ∀ e : String, Fraud.flagged (.error e) = none := fun _ => rfl
  unfold Fraud.analyze
  rw [show List.replicate 8 down = List.replicate 6 down ++ [down, down] from rfl]
  simp only [Prog.exec_bind, hspam, hlisted, hvelocity, hflagged]
  exact ⟨_, rfl⟩

theorem exec_getCostMap_unused (id accountID : String) (clock : ℤ) :
    ∃ costMap evs, (getCostMap [id]).exec (server .default) (unusedAt accountID clock []) =
      ⟨.ok costMap, unusedAt accountID clock [], evs⟩ := by
  simp only [getCostMap, Prog.call_bind, Prog.exec_act, step_quiet, serve_deviceCostProfile,
    Prog.pure_eq, Prog.ret_bind, Prog.exec_ret]
  exact ⟨_, _, rfl⟩

/-- One device that passes the gates is chosen. -/
theorem exec_filterAndScore_unused {d : Device} {opts : Selector.DeviceOptions}
    (h : opts.admits d = true) (hmax : 0 < opts.maxResults) (costMap : List (String × ℚ))
    (accountID : String) (clock : ℤ) :
    ∃ score evs, (Selector.filterAndScore [d] opts costMap).exec (server .default)
        (unusedAt accountID clock []) =
      ⟨[⟨d, score⟩], unusedAt accountID clock [], evs⟩ := by
  have hfilter : [d].filter opts.admits = [d] := by
    rw [List.filter_cons_of_pos h, List.filter_nil]
  have htake : ∀ s : ScoredDevice, [s].take opts.maxResults = [s] := fun s =>
    List.take_of_length_le hmax
  simp only [Selector.filterAndScore, hfilter, List.length_singleton, one_ne_zero, if_false,
    Selector.selectDevices, Selector.scoreDevices, Prog.call_bind, Prog.act_bind, Prog.exec_act,
    step_quiet, serve_rand, Prog.pure_eq, Prog.ret_bind, Prog.exec_ret,
    List.insertionSort_cons, List.insertionSort_nil, List.orderedInsert_nil, htake]
  exact ⟨_, _, rfl⟩

/-- The phone is chosen for a message of its account that the content filter lets pass. -/
theorem exec_candidates_unused (h : ¬ Blocked scan msg) (clock : ℤ) :
    ∃ score evs, (candidates scan msg).exec (server .default)
        (unusedAt msg.accountID clock (List.replicate 9 down)) =
      ⟨.ok [⟨ownPhone msg.accountID, score⟩], unusedAt msg.accountID clock [], evs⟩ := by
  obtain ⟨evs, hanalyze⟩ := exec_analyze_down scan
    ⟨msg.accountID, msg.recipient, msg.sender, msg.message⟩ msg.accountID clock
  have hclean : ¬ (Fraud.checkSensitiveContent scan
    ⟨msg.accountID, msg.recipient, msg.sender, msg.message⟩).flagged = true := h
  obtain ⟨costMap, evs', hcosts⟩ :=
    exec_getCostMap_unused (ownPhone msg.accountID).id msg.accountID clock
  obtain ⟨score, evs'', hscore⟩ := exec_filterAndScore_unused
    (show (routingOptions msg).admits (ownPhone msg.accountID) = true from rfl) (by decide : 0 < 3)
    costMap msg.accountID clock
  rw [show List.replicate 9 down = down :: List.replicate 8 down from rfl]
  simp only [candidates, Prog.call_bind, Prog.exec_act, step_down, serve_isOpen, Prog.exec_bind,
    hanalyze, if_neg hclean, Bool.false_eq_true, if_false, getEligibleDevices, step_quiet,
    serve_eligibleDevices, Prog.pure_eq, Prog.exec_ret, List.map_cons, List.map_nil, hcosts, hscore,
    List.length_singleton, one_ne_zero]
  exact ⟨_, _, rfl⟩

/-- No counter has been written. -/
theorem exec_getInt_unused (key accountID : String) (clock : ℤ) :
    ∃ evs, (getInt key).exec (server .default) (unusedAt accountID clock []) =
      ⟨.ok none, unusedAt accountID clock [], evs⟩ := by
  simp only [getInt, Prog.call_bind, Prog.exec_act, step_quiet, serve_get]
  exact ⟨_, rfl⟩

theorem exec_checkRates_unused (device : Device) (accountID : String) (clock : ℤ) :
    ∃ evs, (checkRates .default device).exec (server .default) (unusedAt accountID clock []) =
      ⟨.ok (), unusedAt accountID clock [], evs⟩ := by
  have hthrottle := exec_getInt_unused (RateControl.throttleKey "carrier" device.carrier)
    accountID clock
  have hminute := exec_getInt_unused (RateControl.minKey device.id clock) accountID clock
  have hhour := exec_getInt_unused (RateControl.hourKey device.id clock) accountID clock
  obtain ⟨evs₁, hthrottle⟩ := hthrottle
  obtain ⟨evs₂, hminute⟩ := hminute
  obtain ⟨evs₃, hhour⟩ := hhour
  simp only [checkRates, RateControl.checkGlobalThrottle, RateControl.checkDeviceRate,
    Prog.call_bind, Prog.exec_bind, Prog.exec_act, step_quiet, serve_now, hthrottle, hminute,
    hhour, Prog.pure_eq, Prog.exec_ret]
  exact ⟨_, rfl⟩

theorem exec_checkHealth_unused (accountID : String) (clock : ℤ) :
    ∃ evs, (checkHealth (ownPhone accountID)).exec (server .default)
        (unusedAt accountID clock []) =
      ⟨.ok (), unusedAt accountID clock [], evs⟩ := by
  have hhealth : (ownPhone accountID).simHealthStatus = .healthy := rfl
  have hslope : (ownPhone accountID).healthTrendSlope = 0 := rfl
  simp only [checkHealth, hhealth, hslope, Prog.call_bind, Prog.exec_act, step_quiet,
    serve_evaluateDevice]
  exact ⟨_, rfl⟩

/-- The phone is sent the command, whatever the message. -/
theorem publish_mem_sendLoop (score : ℚ) (msg : QueueMessage) (accountID : String) (clock : ℤ) :
    ∃ topic payload reply, (⟨.publish topic payload, reply⟩ : Event ServerCmd) ∈
      ((sendLoop .default msg none [⟨ownPhone accountID, score⟩]).exec (server .default)
        (unusedAt accountID clock [])).trace := by
  obtain ⟨evs, hrates⟩ := exec_checkRates_unused (ownPhone accountID) accountID clock
  obtain ⟨evs', hhealth⟩ := exec_checkHealth_unused accountID clock
  simp only [sendLoop, attempt, attemptClosed, trySend, sendSMSCommand, Prog.call_bind,
    Prog.act_bind, Prog.exec_bind, Prog.exec_act, step_quiet, serve_isOpen, Bool.false_eq_true,
    if_false, hrates, hhealth, serve_isConnected, if_true, serve_now]
  refine ⟨_, _, _, List.mem_cons_of_mem _ (List.mem_append_left _ (List.mem_append_right _
    (List.mem_append_right _ (.tail _ (.tail _ (.head _))))))⟩

theorem horizon_unused (accountID : String) (clock : ℤ) (n : ℕ) :
    (unusedAt accountID clock (List.replicate n down)).horizon = clock := by
  simp [World.horizon, down, Tick.quiet, Worker.Tick.quiet]

/-- An expired message that the content filter lets pass is published when the fraud check finds
its store down and the phone is free. -/
theorem not_punctual_unused (h : ¬ Blocked scan msg) {deadline clock : ℤ}
    (hlate : deadline < clock) :
    ¬ Punctual .default scan msg deadline
      (unusedAt msg.accountID clock (List.replicate 9 down)) := by
  intro hpunctual
  have hsilent := hpunctual.forall_trace (I := fun w => deadline < w.clock) (Q := Silent)
    (fun e w hw he => ?_) (fun e w hw => ?_) hlate
  · obtain ⟨score, evs, hcandidates⟩ := exec_candidates_unused h clock
    obtain ⟨topic, payload, reply, hmem⟩ := publish_mem_sendLoop score msg msg.accountID clock
    refine hsilent ⟨.publish topic payload, reply⟩ ?_
    simp only [processMessage, Prog.exec_bind, hcandidates]
    exact List.mem_append_right _ hmem
  · cases e with
    | publish topic payload =>
      have hclock : w.tick.clock = w.clock + w.next.elapsed := rfl
      have htime : w.tick.clock ≤ deadline := he
      omega
    | _ => trivial
  · rw [step_clock]
    omega

/-! ## When messages are in time -/

/-- **What is published for a message is published in time exactly if its handling is over before
it expires or the content filter blocks it.** Every lane treats an expired message like any other
message. -/
theorem dispatched_in_time_iff (ages : QueueMaxAges) (lane : PriorityLane) (scan : ContentScan)
    (msg : QueueMessage) (T : ℤ) :
    (∀ (cfg : Config) (w : World), w.horizon ≤ T →
      Punctual cfg scan msg (deadline ages lane msg) w) ↔
        T ≤ deadline ages lane msg ∨ Blocked scan msg := by
  constructor
  · intro h
    by_contra hnot
    obtain ⟨hlate, hclean⟩ := not_or.1 hnot
    exact not_punctual_unused hclean (not_le.1 hlate) (h .default _ (horizon_unused _ T 9).le)
  · rintro (hT | hblocked) cfg w hw
    · exact punctual_of_horizon_le (hw.trans hT)
    · exact punctual_of_blocked hblocked _ w

/-! ## A one-time password that waits for two minutes -/

instance decidableInTime (deadline : ℤ) :
    {β : Type} → (e : ServerCmd β) → (w : World) → Decidable (InTime deadline e w)
  | _, .publish _ _, w => inferInstanceAs (Decidable (w.tick.clock ≤ deadline))
  | _, .now, _ | _, .uuid, _ | _, .rand, _ | _, .nonce, _ | _, .redis _, _ | _, .db _, _
  | _, .queue _, _ | _, .isOpen _ _, _ | _, .recordFailure _ _, _ | _, .recordSuccess _ _, _
  | _, .reset _ _, _ | _, .evaluateDevice _ _, _ | _, .recordDelivery _ _, _
  | _, .addFraudFlag _, _ | _, .isConnected, _ | _, .dispatchWebhooks _ _, _ =>
    inferInstanceAs (Decidable True)

instance (deadline : ℤ) (w : World) : Decidable (Punctual cfg scan msg deadline w) :=
  inferInstanceAs (Decidable (Prog.EachStep _ _ _ _))

/-- A one-time password of 1970, which is good for ninety seconds. -/
def oneTimePassword : QueueMessage :=
  { greeting with
    messageType := .otp
    priority := .otp
    createdAt := ⟨0, 0, Timestamp.utc_lt⟩
    maxAge := 90000000000 }

/-- The server after the password was appended to its lane, two minutes before the next read. -/
def passwordWaits : World :=
  (((Worker.enqueue .default .otp oneTimePassword).embed ServerCmd.queue).exec (server .default)
    (onePhone [.quiet, .quiet, { Tick.quiet with elapsed := 120000000000 }])).state

/-- The next read of the lanes. -/
def passwordRead : Outcome ServerCmd World (Except String (Option Worker.Delivery)) :=
  ((Worker.dequeue .default "aeroxebee-workers" "consumer-1" Worker.lanes).embed
    ServerCmd.queue).exec (server .default) passwordWaits

/-- The password is read after it has expired, and published. -/
theorem expired_dispatched :
    passwordRead.val = .ok (some ⟨.otp, oneTimePassword, 0⟩) ∧
      ¬ Punctual .default (fun _ _ _ => (false, [])) oneTimePassword
        (deadline .default .otp oneTimePassword) passwordRead.state := by
  constructor
  · decide +kernel
  · decide +kernel

end AeroxeBee.Dispatch
