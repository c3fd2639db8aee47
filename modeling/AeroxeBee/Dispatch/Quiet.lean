import AeroxeBee.Dispatch.Process

/-!
# Commands that concern no device

Most of what processing a message does concerns neither the health of a SIM card nor a command
published to a device. `Quiet` says so of a command. Choosing devices and counting messages moreover
change no table but the usage counters and tell no webhook, which is `Idle`; the lemmas below say
it of the routines that issue only such commands.
-/

namespace AeroxeBee.Dispatch

open Foundations

/-- The command neither judges a SIM card, nor stores its status, nor publishes anything. -/
def Quiet : {β : Type} → ServerCmd β → Prop
  | _, .evaluateDevice _ _ => False
  | _, .db (.updateHealthStatus _ _ _) => False
  | _, .publish _ _ => False
  | _, _ => True

/-- The command changes no table but the usage counters, judges no SIM card, publishes nothing,
tells no webhook, and counts outcomes of devices only. -/
def Idle : {β : Type} → ServerCmd β → Prop
  | _, .db (.eligibleDevices _) | _, .db (.deviceCostProfile _) | _, .db (.incrementUsage _ _) => True
  | _, .db _ => False
  | _, .evaluateDevice _ _ => False
  | _, .publish _ _ => False
  | _, .dispatchWebhooks _ _ => False
  | _, .recordFailure scope _ | _, .recordSuccess scope _ => scope = .device
  | _, .reset _ _ => False
  | _, _ => True

/-- The command does not publish anything. -/
def Silent : {β : Type} → ServerCmd β → Prop
  | _, .publish _ _ => False
  | _, _ => True

theorem Quiet.silent {β : Type} {e : ServerCmd β} (h : Quiet e) : Silent e := by
  cases e with
  | publish topic payload => exact h.elim
  | _ => trivial

theorem Idle.quiet {β : Type} {e : ServerCmd β} (h : Idle e) : Quiet e := by
  cases e with
  | db q =>
    cases q with
    | eligibleDevices _ | deviceCostProfile _ | incrementUsage _ _ => trivial
    | _ => exact h.elim
  | evaluateDevice _ _ | publish _ _ => exact h.elim
  | _ => trivial

theorem Idle.silent {β : Type} {e : ServerCmd β} (h : Idle e) : Silent e := h.quiet.silent

theorem quiet_of_idle {α : Type} {p : ServerProg α} (hp : p.Only Idle) : p.Only Quiet :=
  hp.mono fun _ => Idle.quiet

variable {cfg : Config} {scan : ContentScan} {msg : QueueMessage}

theorem getInt_idle (key : String) : (getInt key).Only Idle := by
  refine ⟨trivial, fun reply => ?_⟩
  rcases reply with (_ | _ | _) | cs
  · trivial
  · trivial
  · trivial
  · dsimp only [Prog.bind]
    cases Json.parseInt cs <;> trivial

theorem checkGlobalThrottle_idle (scope scopeValue : String) :
    (RateControl.checkGlobalThrottle scope scopeValue).Only Idle := by
  refine (getInt_idle _).bind fun count => ?_
  rcases count with e | (_ | n) <;> trivial

theorem checkDeviceRate_idle (deviceID : String) :
    (RateControl.checkDeviceRate cfg.rateLimit deviceID).Only Idle := by
  refine ⟨trivial, fun t => ⟨trivial, fun t' => (getInt_idle _).bind fun minCount => ?_⟩⟩
  cases minCount with
  | error e => trivial
  | ok n =>
    refine (getInt_idle _).bind fun hourCount => ?_
    cases hourCount <;> trivial

theorem checkRates_idle (device : Device) : (checkRates cfg device).Only Idle := by
  refine (checkGlobalThrottle_idle _ _).bind fun carrierOK => ?_
  rcases carrierOK with e | (_ | _)
  · trivial
  · trivial
  · refine (checkDeviceRate_idle _).bind fun deviceOK => ?_
    rcases deviceOK with e | (_ | _) <;> trivial

/-- What the check of a SIM card issues. -/
theorem checkHealth_only {A : ∀ {β : Type}, ServerCmd β → Prop} {device : Device}
    (hjudge : A (.evaluateDevice device.id device.simHealthStatus))
    (hstore : ∀ status slope, A (.db (.updateHealthStatus device.id status slope))) :
    (checkHealth device).Only A := by
  refine ⟨hjudge, fun judged => ?_⟩
  change Prog.Only _ (ite _ _ _)
  split_ifs
  · trivial
  · exact ⟨hstore _ _, fun _ => trivial⟩
  · trivial

theorem recordFailed_idle (device : Device) : (recordFailed device).Only Idle :=
  ⟨rfl, fun _ => ⟨trivial, fun _ => trivial⟩⟩

theorem incrementDeviceCounters_idle (deviceID : String) :
    (RateControl.incrementDeviceCounters deviceID).Only Idle :=
  ⟨trivial, fun _ => ⟨trivial, fun _ => ⟨trivial, fun _ => ⟨trivial, fun _ =>
    ⟨trivial, fun _ => ⟨trivial, fun _ => trivial⟩⟩⟩⟩⟩⟩

theorem incrementGlobalThrottle_idle (scope scopeValue : String) :
    (RateControl.incrementGlobalThrottle scope scopeValue).Only Idle :=
  ⟨trivial, fun _ => ⟨trivial, fun _ => trivial⟩⟩

theorem incrementUsage_idle (accountID : String) : (incrementUsage accountID).Only Idle :=
  ⟨trivial, fun _ => ⟨trivial, fun _ => trivial⟩⟩

/-- What a delivery issues. -/
theorem recordSent_only {A : ∀ {β : Type}, ServerCmd β → Prop} {device : Device}
    (hidle : ∀ {α : Type} {p : ServerProg α}, p.Only Idle → p.Only A)
    (hdelivery : A (.recordDelivery device.id true)) (hnow : A .now)
    (hstatus : ∀ deliveredAt,
      let confidence := DeliveryConf.calculateFromDevice cfg.delivery device
        (device.lastPongAt.isSome && decide (0 < device.successRate24h)) (returnsReceipts device.carrier)
      A (.db (.updateDeliveryStatus msg.id confidence.deliveryStatus confidence.score deliveredAt)))
    (hdevice : A (.db (.updateDeviceID msg.id device.id)))
    (hsent : ∀ usedAt, A (.db (.recordSent device.id usedAt)))
    (hsuccess : A (.recordSuccess .device device.id))
    (hwebhooks : ∀ payload, A (.dispatchWebhooks msg.accountID payload)) :
    (recordSent cfg msg device).Only A := by
  refine ⟨hdelivery, fun _ => ⟨hnow, fun _ => ⟨hstatus _, fun _ => ⟨hdevice, fun _ => ?_⟩⟩⟩⟩
  refine (hidle (incrementDeviceCounters_idle _)).bind fun _ => ?_
  refine (hidle (incrementGlobalThrottle_idle _ _)).bind fun _ => ?_
  refine ⟨hnow, fun _ => ⟨hsent _, fun _ => ?_⟩⟩
  refine (hidle (incrementUsage_idle _)).bind fun _ => ?_
  exact ⟨hsuccess, fun _ => ⟨hwebhooks _, fun _ => trivial⟩⟩

theorem recordSent_quiet (device : Device) : (recordSent cfg msg device).Only Quiet :=
  recordSent_only quiet_of_idle trivial trivial (fun _ => trivial) trivial (fun _ => trivial) trivial
    fun _ => trivial

/-! ## The choice of devices -/

theorem checkOTPSpam_idle (input : DetectionInput) : (Fraud.checkOTPSpam input).Only Idle := by
  refine ⟨trivial, fun _ => ⟨trivial, fun _ => ⟨trivial, fun incr => ⟨trivial, fun hourExpire =>
    ⟨trivial, fun add => ⟨trivial, fun recipientsExpire => ?_⟩⟩⟩⟩⟩⟩
  rcases incr with e | hourCount
  · trivial
  · rcases hourExpire with e | _
    · trivial
    · rcases add with e | _
      · trivial
      · rcases recipientsExpire with e | _
        · trivial
        · refine ⟨trivial, fun card => ?_⟩
          change Prog.Only Idle (ite _ _ _)
          split_ifs <;> trivial

theorem checkRecipientBlacklist_idle (recipient : String) :
    (Fraud.checkRecipientBlacklist recipient).Only Idle := by
  refine ⟨trivial, fun reply => ?_⟩
  rcases reply with e | (_ | _) <;> trivial

theorem checkVelocityAnomaly_idle (accountID : String) (currentRate : ℕ) :
    (Fraud.checkVelocityAnomaly accountID currentRate).Only Idle := by
  refine ⟨trivial, fun reply => ?_⟩
  rcases reply with (_ | _ | _) | baselineStr
  · exact ⟨trivial, fun _ => trivial⟩
  · trivial
  · trivial
  · change Prog.Only Idle (ite _ _ _)
    split_ifs <;> trivial

theorem analyze_idle (input : DetectionInput) : (Fraud.analyze scan input).Only Idle := by
  refine (checkOTPSpam_idle input).bind fun otpResult => ?_
  cases Fraud.flagged otpResult with
  | some r => trivial
  | none =>
    refine (checkRecipientBlacklist_idle _).bind fun blacklistResult => ?_
    cases Fraud.flagged blacklistResult with
    | some r => trivial
    | none =>
      refine (checkVelocityAnomaly_idle _ _).bind fun velocityResult => ?_
      cases Fraud.flagged velocityResult <;> trivial

theorem getEligibleDevices_idle (opts : DeviceFilterOptions) :
    (getEligibleDevices opts).Only Idle := by
  refine ⟨trivial, fun reply => ?_⟩
  cases reply <;> trivial

theorem getCostMap_idle (ids : List String) : (getCostMap ids).Only Idle := by
  induction ids with
  | nil => trivial
  | cons id ids ih =>
    refine ⟨trivial, fun reply => ?_⟩
    cases reply with
    | error e => trivial
    | ok profile =>
      refine ih.bind fun costMap => ?_
      cases costMap <;> trivial

theorem filterAndScore_idle (devices : List Device) (opts : Selector.DeviceOptions)
    (costMap : List (String × ℚ)) :
    (Selector.filterAndScore devices opts costMap).Only Idle := by
  have hscore (ds : List Device) : (Selector.scoreDevices opts.strategy costMap
      opts.recipientCountry ds).Only Idle := by
    induction ds with
    | nil => trivial
    | cons d ds ih => exact ⟨trivial, fun _ => ih.bind fun _ => trivial⟩
  unfold Selector.filterAndScore
  split_ifs
  · trivial
  · exact (hscore _).bind fun _ => trivial

/-- Choosing the devices concerns none of them. -/
theorem candidates_idle : (candidates scan msg).Only Idle := by
  refine ⟨trivial, fun accountOpen => ?_⟩
  cases accountOpen with
  | true => trivial
  | false =>
    refine (analyze_idle _).bind fun result => ?_
    change Prog.Only Idle (ite _ _ _)
    split_ifs
    · exact ⟨trivial, fun _ => ⟨trivial, fun _ => ⟨trivial, fun _ => trivial⟩⟩⟩
    · refine (getEligibleDevices_idle _).bind fun reply => ?_
      rcases reply with e | (_ | ⟨d, ds⟩)
      · trivial
      · trivial
      · refine (getCostMap_idle _).bind fun costMap => ?_
        cases costMap with
        | error e => trivial
        | ok costMap =>
          refine (filterAndScore_idle _ _ _).bind fun scored => ?_
          change Prog.Only Idle (ite _ _ _)
          split_ifs <;> trivial

end AeroxeBee.Dispatch
