import AeroxeBee.Dispatch.Deliveries

/-!
# The limits of a device

A dispatch reads the two counters of a device, judges its SIM card, publishes the command, and
counts it only afterwards, under the keys of the minute and the hour that it finds then. So what it
has read can be out of date when it publishes: other dispatches that have read the same numbers
publish too, the minute can have passed, and a command that was delivered without being confirmed
is never counted.

* `processMessage_keeps_reading`: a command is published only after the last two counters that were
  read were below the limits;
* `limits_hold`: no device is sent more commands in a minute or an hour than it may be, in any run
  in which each command is published in the minute and the hour of its check, and the check has
  counted every command that was delivered to the device since these began.
-/

namespace AeroxeBee.Dispatch

open Foundations RateControl

/-! ## What has been sent -/

/-- It is noted on which topics commands to send a message were delivered, and when. -/
def noteCommand (_ : ℕ) {β : Type} (e : ServerCmd β) (w : World)
    (delivered : List (String × ℤ)) : List (String × ℤ) :=
  match e with
  | .publish topic payload =>
    if payload.action = "send_sms" then
      match w.next.fault with
      | .refused _ => delivered
      | _ => delivered ++ [(topic, w.tick.clock)]
    else delivered
  | _ => delivered

/-- How many commands were delivered to a device in the minute or the hour of a time. -/
def sentIn (window : ℤ → ℤ) (device : String) (now : ℤ) (delivered : List (String × ℤ)) : ℕ :=
  delivered.countP fun x => x.1 = commandTopic device ∧ window x.2 = window now

/-- **No device is sent more commands in a minute or an hour than it may be.** -/
def WithinLimits (limits : RateLimitConfig) (delivered : List (String × ℤ)) : Prop :=
  ∀ (device : String) (now : ℤ),
    sentIn minuteOf device now delivered ≤ limits.deviceMaxPerMinute.toNat ∧
      sentIn hourOf device now delivered ≤ limits.deviceMaxPerHour.toNat

/-! ## What has been read -/

/-- The number that the reply of a counter stands for. -/
def countRead : Except RedisErr (List Char) → Option ℤ
  | .error .nil => some 0
  | .error _ => none
  | .ok cs => Json.parseInt cs

/-- The last two keys that a dispatch has read, with the numbers found there. -/
abbrev Readings := (String × Option ℤ) × (String × Option ℤ)

/-- Before anything was read. -/
def Readings.none : Readings := (("", .none), ("", .none))

/-- Take account of a key that was read. -/
def Readings.note (s : Readings) : Event ServerCmd → Readings
  | ⟨.redis (.get key), reply⟩ => (s.2, (key, countRead reply))
  | _ => s

/-- The device may be sent another command, as far as was read. -/
def Readings.Admits (limits : RateLimitConfig) (s : Readings) : Prop :=
  (∃ n, s.1.2 = some n ∧ n < limits.deviceMaxPerMinute) ∧
    ∃ n, s.2.2 = some n ∧ n < limits.deviceMaxPerHour

/-- The protocol of a dispatch. -/
def reading (limits : RateLimitConfig) : Protocol ServerCmd Readings where
  allows s := fun e =>
    match e with
    | .publish _ _ => s.Admits limits
    | _ => True
  expects _ := True
  next := Readings.note

/-- The command neither reads a key nor publishes anything. -/
def Unread : {β : Type} → ServerCmd β → Prop
  | _, .redis (.get _) => False
  | _, .publish _ _ => False
  | _, _ => True

section Check

variable {cfg : Config} {scan : ContentScan} {msg : QueueMessage} {limits : RateLimitConfig}
  {s : Readings}

/-- A program that publishes nothing keeps to the protocol. -/
theorem silent_keeps_reading {α : Type} {p : ServerProg α} (hp : p.Only Silent) :
    p.Keeps (reading limits) (fun _ _ => True) s := by
  refine Prog.keeps_of_only_forall hp (fun s β e he => ?_) fun _ _ => trivial
  cases e with
  | publish topic payload => exact he.elim
  | _ => trivial

/-- A program that reads nothing either leaves what was read as it is. -/
theorem unread_keeps_reading {α : Type} {p : ServerProg α} (hp : p.Only Unread) :
    p.Keeps (reading limits) (fun s' _ => s' = s) s := by
  refine Prog.Keeps.of_only hp (fun e he => ?_) fun e b he => ?_
  · cases e with
    | publish topic payload => exact he.elim
    | _ => trivial
  · cases e with
    | redis e =>
      cases e with
      | get key => exact he.elim
      | _ => rfl
    | _ => rfl

theorem getInt_keeps_reading (key : String) :
    (getInt key).Keeps (reading limits)
      (fun s' r => ∀ n, r = .ok n → s' = (s.2, (key, some (n.getD 0)))) s := by
  refine ⟨trivial, fun reply _ => ?_⟩
  rcases reply with (_ | _ | text) | cs
  · intro n hn
    cases hn
    rfl
  · intro n hn
    cases hn
  · intro n hn
    cases hn
  · dsimp only [Prog.bind]
    cases hcs : Json.parseInt cs with
    | none =>
      intro n hn
      cases hn
    | some m =>
      intro n hn
      cases hn
      show (s.2, (key, Json.parseInt cs)) = _
      rw [hcs]
      rfl

/-- A check that lets a device pass has read numbers below the limits. -/
theorem checkDeviceRate_keeps_reading (deviceID : String) :
    (checkDeviceRate limits deviceID).Keeps (reading limits)
      (fun s' r => r = .ok true → s'.Admits limits) s := by
  refine ⟨trivial, fun t _ => ⟨trivial, fun t' _ => ?_⟩⟩
  refine (getInt_keeps_reading _).bind fun s₁ minCount hmin => ?_
  cases minCount with
  | error e =>
    intro h
    cases h
  | ok minCount =>
    refine (getInt_keeps_reading _).bind fun s₂ hourCount hhour => ?_
    cases hourCount with
    | error e =>
      intro h
      cases h
    | ok hourCount =>
      intro h
      have hbelow := Except.ok.inj h
      rw [Bool.and_eq_true, decide_eq_true_eq, decide_eq_true_eq] at hbelow
      rw [hhour _ rfl, hmin _ rfl]
      exact ⟨⟨_, rfl, hbelow.1⟩, ⟨_, rfl, hbelow.2⟩⟩

theorem checkRates_keeps_reading (device : Device) :
    (checkRates cfg device).Keeps (reading cfg.rateLimit)
      (fun s' r => r = .ok () → s'.Admits cfg.rateLimit) s := by
  refine (silent_keeps_reading ((checkGlobalThrottle_idle _ _).mono fun _ => Idle.silent)).bind
    fun s₁ carrierOK _ => ?_
  rcases carrierOK with e | (_ | _)
  · intro h
    cases h
  · intro h
    cases h
  · refine (checkDeviceRate_keeps_reading device.id).bind fun s₂ deviceOK hs₂ => ?_
    rcases deviceOK with e | (_ | _)
    · intro h
      cases h
    · intro h
      cases h
    · exact fun _ => hs₂ rfl

theorem trySend_keeps_reading (device : Device) (hs : s.Admits cfg.rateLimit) :
    (trySend cfg msg device).Keeps (reading cfg.rateLimit)
      (fun _ r => (r ≠ .ok () → True) ∧ (r = .ok () → True)) s := by
  refine trySend_keeps_of (I := fun _ => True) (J := fun _ => True)
    (K := fun s => s.Admits cfg.rateLimit) (Q := fun _ => True) (fun s hs => ⟨trivial, fun _ _ => hs⟩)
    (fun s hs => ?_) (fun s _ => ?_) (fun s _ => ?_) hs
  · exact ⟨trivial, fun now _ => ⟨hs, fun reply _ => ⟨fun _ => hs, fun _ => trivial⟩⟩⟩
  · exact (silent_keeps_reading ((recordFailed_idle device).mono fun _ => Idle.silent)).mono
      fun _ _ _ => trivial
  · exact (silent_keeps_reading ((recordSent_quiet device).mono fun _ => Quiet.silent)).mono
      fun _ _ _ => trivial

theorem attempt_keeps_reading (device : Device) :
    (attempt cfg msg device).Keeps (reading cfg.rateLimit)
      (fun _ a => (a ≠ .sent → True) ∧ (a = .sent → True)) s := by
  refine attempt_keeps_of (I := fun _ => True) (Q := fun _ => True)
    (fun s _ => ⟨trivial, fun _ _ => trivial⟩) (fun s _ => ?_) trivial
  refine attemptClosed_keeps_of (J := fun s => s.Admits cfg.rateLimit)
    (K := fun s => s.Admits cfg.rateLimit) (fun s _ => ?_) (fun s hs => ?_)
    (fun s hs => trySend_keeps_reading device hs) trivial
  · exact (checkRates_keeps_reading device).mono fun _ _ hpassed => ⟨trivial, hpassed⟩
  · have hhealth : (checkHealth device).Only Unread := checkHealth_only trivial fun _ _ => trivial
    exact (unread_keeps_reading hhealth).mono fun _ _ hsame => ⟨trivial, fun _ => hsame ▸ hs⟩

/-- **A command is published only if the last two numbers read were below the limits.** -/
theorem processMessage_keeps_reading :
    (processMessage cfg scan msg).Keeps (reading cfg.rateLimit) (fun _ _ => True) s := by
  refine processMessage_keeps_of (I := fun _ => True) ?_ (fun d s _ => ?_) fun _ _ _ => trivial
  · exact (silent_keeps_reading (candidates_idle.mono fun _ => Idle.silent)).mono
      fun _ _ _ => trivial
  · exact attempt_keeps_reading d

end Check

/-! ## Runs -/

/-- The device that receives its commands on a topic. -/
def deviceOf (topic : String) : String :=
  let chars := topic.toList.drop "devices/".toList.length
  String.ofList (chars.take (chars.length - "/commands".toList.length))

@[simp]
theorem deviceOf_commandTopic (device : String) : deviceOf (commandTopic device) = device := by
  simp only [deviceOf, commandTopic, String.toList_append, List.append_assoc, List.drop_left,
    List.length_append, Nat.add_sub_cancel, List.take_left, String.ofList_toList]

/-- What a dispatch has read are the counters of a device for the minute and the hour of a time,
and they have counted all that was delivered to the device since these began. -/
def Readings.CountsAll (s : Readings) (device : String) (now : ℤ)
    (delivered : List (String × ℤ)) : Prop :=
  s.1.1 = minKey device now ∧ s.2.1 = hourKey device now ∧
    (sentIn minuteOf device now delivered : ℤ) ≤ s.1.2.getD 0 ∧
      (sentIn hourOf device now delivered : ℤ) ≤ s.2.2.getD 0

instance (s : Readings) (device : String) (now : ℤ) (delivered : List (String × ℤ)) :
    Decidable (s.CountsAll device now delivered) :=
  inferInstanceAs (Decidable (_ ∧ _))

/-- A command is published in the minute and the hour of the check that let it pass, and the check
has counted every command that was delivered to the device since these began. -/
def CheckedAll (P : Dispatchers) (delivered : List (String × ℤ)) (i : ℕ) {β : Type}
    (e : ServerCmd β) : Prop :=
  match e with
  | .publish topic _ =>
    (P.phase Readings.note .none i).CountsAll (deviceOf topic) P.state.tick.clock delivered
  | _ => True

instance (P : Dispatchers) (delivered : List (String × ℤ)) (i : ℕ) {β : Type} (e : ServerCmd β) :
    Decidable (CheckedAll P delivered i e) :=
  match e with
  | .publish topic _ => inferInstanceAs (Decidable (Readings.CountsAll _ (deviceOf topic) _ _))
  | .now | .uuid | .rand | .nonce | .redis .. | .db .. | .queue .. | .isOpen .. | .recordFailure ..
  | .recordSuccess .. | .reset .. | .evaluateDevice .. | .recordDelivery .. | .addFraudFlag ..
  | .isConnected | .dispatchWebhooks .. => isTrue trivial

theorem dispatches_reading (cfg : Config) (scan : ContentScan) :
    Pool.Phased (processMessage cfg scan) (fun _ => reading cfg.rateLimit)
      (fun _ _ _ => True) Readings.note .none where
  next_eq _ := rfl
  expects _ _ := trivial
  keeps _ := processMessage_keeps_reading

section Runs

variable {limits : RateLimitConfig} {delivered : List (String × ℤ)} {s : Readings}

/-- A command counts in its own minute or hour only. -/
theorem sentIn_concat (window : ℤ → ℤ) (device : String) (now : ℤ) (x : String × ℤ) :
    sentIn window device now (delivered ++ [x]) =
      sentIn window device now delivered +
        if x.1 = commandTopic device ∧ window x.2 = window now then 1 else 0 := by
  simp [sentIn, List.countP_append, List.countP_singleton]

/-- One more command is within a limit if the number before it was below. -/
theorem sentIn_concat_le {window : ℤ → ℤ} {limit : ℤ} {topic : String} {now : ℤ}
    (hbelow : (sentIn window (deviceOf topic) now delivered : ℤ) < limit) {device : String} {t : ℤ}
    (hold : sentIn window device t delivered ≤ limit.toNat) :
    sentIn window device t (delivered ++ [(topic, now)]) ≤ limit.toNat := by
  rw [sentIn_concat]
  by_cases hcounts : topic = commandTopic device ∧ window now = window t
  · obtain ⟨rfl, hwindow⟩ := hcounts
    have hsame : sentIn window device t delivered = sentIn window device now delivered := by
      simp only [sentIn, hwindow]
    rw [deviceOf_commandTopic] at hbelow
    rw [if_pos ⟨rfl, hwindow⟩, hsame]
    omega
  · rw [if_neg hcounts]
    exact hold

/-- **A command whose check has counted all of them keeps within the limits.** -/
theorem WithinLimits.deliver (hI : WithinLimits limits delivered) {topic : String} {now : ℤ}
    (hadmits : s.Admits limits) (hall : s.CountsAll (deviceOf topic) now delivered) :
    WithinLimits limits (delivered ++ [(topic, now)]) := by
  obtain ⟨⟨n, hn, hminute⟩, m, hm, hhour⟩ := hadmits
  obtain ⟨-, -, hn', hm'⟩ := hall
  rw [hn, Option.getD_some] at hn'
  rw [hm, Option.getD_some] at hm'
  intro device t
  exact ⟨sentIn_concat_le (hn'.trans_lt hminute) (hI device t).1,
    sentIn_concat_le (hm'.trans_lt hhour) (hI device t).2⟩

/-- **The limits of the devices hold**, whatever the messages, the order of the steps and the
environment are, as long as each command is published in the minute and the hour of its check, and
the check has counted every command delivered to the device since these began. -/
theorem limits_hold (cfg : Config) (scan : ContentScan) (calls : List QueueMessage) (w : World)
    (sched : List ℕ)
    (h : Pool.EachNoted (server cfg) noteCommand CheckedAll (dispatchers cfg scan calls w) []
      sched) :
    WithinLimits cfg.rateLimit
      (Pool.noted (server cfg) noteCommand (dispatchers cfg scan calls w) [] sched) := by
  refine Pool.run_noted_inv (dispatches_reading cfg scan)
    (I := fun _ delivered => WithinLimits cfg.rateLimit delivered) ?_ h
    fun P delivered i msg β e k _ hi hkeeping hI hG => ?_
  · intro device now
    exact ⟨Nat.zero_le _, Nat.zero_le _⟩
  · cases e with
    | publish topic payload =>
      obtain ⟨_, -, hadmits, -⟩ := hkeeping i _ hi
      unfold noteCommand
      dsimp only
      split_ifs
      · cases P.state.next.fault with
        | refused text => exact hI
        | none => exact hI.deliver hadmits hG
        | lost text => exact hI.deliver hadmits hG
      · exact hI
    | _ => exact hI

end Runs

/-! ## A device with a limit of one message a minute -/

/-- The configuration that allows a device one message a minute. -/
def oneAMinute : Config := { Config.default with rateLimit := ⟨1, 100⟩ }

/-- Another message to the same recipient. -/
def secondGreeting : QueueMessage := { greeting with id := "message-2" }

/-- Two messages for one device. -/
def twoGreetings (env : List Tick) : Dispatchers :=
  dispatchers oneAMinute noViolations [greeting, secondGreeting] (onePhone env)

/-- Run one after the other, the second message finds the device at its limit. -/
theorem limits_hold_inTurn :
    WithinLimits oneAMinute.rateLimit
      (Pool.noted (server oneAMinute) noteCommand (twoGreetings []) []
        (List.replicate 50 0 ++ List.replicate 50 1)) :=
  limits_hold oneAMinute noViolations [greeting, secondGreeting] (onePhone [])
    (List.replicate 50 0 ++ List.replicate 50 1) (by decide +kernel)

/-- Run in alternation, both messages pass the check before either is counted, and the device is
sent two commands in one minute. -/
theorem limits_exceeded :
    ¬ WithinLimits oneAMinute.rateLimit
      (Pool.noted (server oneAMinute) noteCommand (twoGreetings []) []
        ((List.range 100).map (· % 2))) := by
  have hdelivered : Pool.noted (server oneAMinute) noteCommand (twoGreetings []) []
      ((List.range 100).map (· % 2)) =
      [(commandTopic "device-1", 0), (commandTopic "device-1", 0)] := by
    decide +kernel
  rw [hdelivered]
  intro h
  have hminute := (h "device-1" 0).1
  simp [sentIn, oneAMinute] at hminute

end AeroxeBee.Dispatch
