import AeroxeBee.Dispatch.Acknowledged
import Mathlib.Tactic.Linarith

/-!
# The confidence in a delivery

The confidence is a weighted sum of whether there is a delivery report, of how often the device
succeeded within a day, and of how reliable its carrier is. Thresholds turn it into a delivery
status, for which there are two functions that have to agree. When a device is looked at, a
reputation that is not positive counts as a half, so a device whose reputation is nothing does better
than one whose reputation is little. And since the lowest threshold makes the status `FAILED`, the
handler stores a failure for messages that a device has been told to send.

* `calculate_coherent`: the confidence, its parts and its status for any weights;
* `calculateFromDevice_atMost`: where a better device has no worse a confidence;
* `neverFailed_iff`: when the handler stores no failure.
-/

namespace AeroxeBee.Dispatch.DeliveryConf

variable {cfg : DeliveryConfig} {input : ConfidenceInput}

/-! ## The order of the statuses -/

/-- How good a status is. -/
def rank (status : DeliveryStatus) : ℕ :=
  [DeliveryStatus.failed, .sent, .probableDelivered, .carrierAccepted].idxOf status

theorem rank_calculateDeliveryStatus (score : ℚ) (report : Bool) :
    rank (calculateDeliveryStatus score report) =
      if 9 / 10 ≤ score ∧ report then 3
      else if 7 / 10 ≤ score then 2
      else if score < 3 / 10 then 0
      else 1 := by
  unfold calculateDeliveryStatus
  split_ifs <;> rfl

/-- A report and a greater confidence do not make the status worse. -/
theorem rank_mono {score score' : ℚ} {report report' : Bool} (hscore : score ≤ score')
    (hreport : report ≤ report') :
    rank (calculateDeliveryStatus score report) ≤
      rank (calculateDeliveryStatus score' report') := by
  rw [rank_calculateDeliveryStatus, rank_calculateDeliveryStatus]
  by_cases haccepted : 9 / 10 ≤ score ∧ report
  · have haccepted' : 9 / 10 ≤ score' ∧ report' :=
      ⟨haccepted.1.trans hscore, Bool.le_iff_imp.1 hreport haccepted.2⟩
    rw [if_pos haccepted, if_pos haccepted']
  · rw [if_neg haccepted]
    by_cases hprobable : 7 / 10 ≤ score
    · rw [if_pos hprobable, if_pos (hprobable.trans hscore)]
      split_ifs <;> omega
    · rw [if_neg hprobable]
      by_cases hfailed : score < 3 / 10
      · rw [if_pos hfailed]
        exact Nat.zero_le _
      · rw [if_neg hfailed, if_neg (not_lt.2 ((not_lt.1 hfailed).trans hscore))]
        split_ifs <;> omega

/-- One confidence is no better than another one. -/
structure AtMost (a b : ConfidenceResult) : Prop where
  score : a.score ≤ b.score
  status : rank a.deliveryStatus ≤ rank b.deliveryStatus

/-! ## The weighted sum -/

/-- How much a delivery report counts. -/
def reportScore (hasDeliveryReport carrierReturnsReceipts : Bool) : ℚ :=
  if hasDeliveryReport && carrierReturnsReceipts then 1
  else if hasDeliveryReport then 7 / 10
  else 0

theorem score_calculate (cfg : DeliveryConfig) (input : ConfidenceInput) :
    (calculate cfg input).score =
      reportScore input.hasDeliveryReport input.carrierReturnsReceipts * cfg.deliveryReportWeight +
        input.historicalSuccessRate * cfg.historicalPatternWeight +
        input.carrierReliability * cfg.carrierReliabilityWeight := rfl

/-- Both functions have the same thresholds. -/
theorem deliveryStatus_calculate (cfg : DeliveryConfig) (input : ConfidenceInput) :
    (calculate cfg input).deliveryStatus =
      calculateDeliveryStatus (calculate cfg input).score input.hasDeliveryReport := rfl

theorem reportScore_nonneg (report receipts : Bool) : 0 ≤ reportScore report receipts := by
  unfold reportScore
  split_ifs <;> norm_num

theorem reportScore_le_one (report receipts : Bool) : reportScore report receipts ≤ 1 := by
  unfold reportScore
  split_ifs <;> norm_num

theorem reportScore_mono {report report' receipts receipts' : Bool} (hreport : report ≤ report')
    (hreceipts : receipts ≤ receipts') :
    reportScore report receipts ≤ reportScore report' receipts' := by
  cases report with
  | false => exact reportScore_nonneg report' receipts'
  | true =>
    obtain rfl : report' = true := Bool.le_iff_imp.1 hreport rfl
    cases receipts with
    | false =>
      cases receipts' with
      | false => exact le_rfl
      | true => norm_num [reportScore]
    | true =>
      obtain rfl : receipts' = true := Bool.le_iff_imp.1 hreceipts rfl
      exact le_rfl

/-- The weights are not negative. -/
structure Nonneg (cfg : DeliveryConfig) : Prop where
  report : 0 ≤ cfg.deliveryReportWeight
  historical : 0 ≤ cfg.historicalPatternWeight
  carrier : 0 ≤ cfg.carrierReliabilityWeight

/-- The weights share out the whole. -/
structure Weighting (cfg : DeliveryConfig) : Prop extends Nonneg cfg where
  sum : cfg.deliveryReportWeight + cfg.historicalPatternWeight + cfg.carrierReliabilityWeight = 1

/-- The rates lie between nothing and the whole. -/
structure Normalized (input : ConfidenceInput) : Prop where
  historical_nonneg : 0 ≤ input.historicalSuccessRate
  historical_le_one : input.historicalSuccessRate ≤ 1
  carrier_nonneg : 0 ≤ input.carrierReliability
  carrier_le_one : input.carrierReliability ≤ 1

/-- Each of the four inputs that are used is at most the other one. -/
structure Below (a b : ConfidenceInput) : Prop where
  report : a.hasDeliveryReport ≤ b.hasDeliveryReport
  receipts : a.carrierReturnsReceipts ≤ b.carrierReturnsReceipts
  historical : a.historicalSuccessRate ≤ b.historicalSuccessRate
  carrier : a.carrierReliability ≤ b.carrierReliability

/-- **The confidence grows with its inputs.** -/
theorem calculate_mono (hcfg : Nonneg cfg) {a b : ConfidenceInput} (h : Below a b) :
    AtMost (calculate cfg a) (calculate cfg b) := by
  have hscore : (calculate cfg a).score ≤ (calculate cfg b).score := by
    have hreport := mul_le_mul_of_nonneg_right (reportScore_mono h.report h.receipts) hcfg.report
    have hhistorical := mul_le_mul_of_nonneg_right h.historical hcfg.historical
    have hcarrier := mul_le_mul_of_nonneg_right h.carrier hcfg.carrier
    rw [score_calculate, score_calculate]
    exact add_le_add (add_le_add hreport hhistorical) hcarrier
  exact ⟨hscore, rank_mono hscore h.report⟩

/-- **A coherent confidence**: it lies between nothing and the whole, is the sum of its parts, comes
with its status, and no input makes it smaller that is greater in some parts. -/
structure Coherent (cfg : DeliveryConfig) (input : ConfidenceInput) : Prop where
  nonneg : 0 ≤ (calculate cfg input).score
  le_one : (calculate cfg input).score ≤ 1
  parts : (calculate cfg input).score =
    (calculate cfg input).breakdown.deliveryReportContribution +
      (calculate cfg input).breakdown.historicalContribution +
      (calculate cfg input).breakdown.carrierReliabilityContribution
  status : (calculate cfg input).deliveryStatus =
    calculateDeliveryStatus (calculate cfg input).score input.hasDeliveryReport
  monotone : ∀ input', Below input input' → AtMost (calculate cfg input) (calculate cfg input')

/-- **The confidence is coherent**, whatever the weights are. -/
theorem calculate_coherent (hcfg : Weighting cfg) (hinput : Normalized input) :
    Coherent cfg input where
  nonneg := by
    have hreport := mul_nonneg (reportScore_nonneg input.hasDeliveryReport
      input.carrierReturnsReceipts) hcfg.report
    have hhistorical := mul_nonneg hinput.historical_nonneg hcfg.historical
    have hcarrier := mul_nonneg hinput.carrier_nonneg hcfg.carrier
    rw [score_calculate]
    exact add_nonneg (add_nonneg hreport hhistorical) hcarrier
  le_one := by
    have hreport := mul_le_of_le_one_left hcfg.report (reportScore_le_one
      input.hasDeliveryReport input.carrierReturnsReceipts)
    have hhistorical := mul_le_of_le_one_left hcfg.historical hinput.historical_le_one
    have hcarrier := mul_le_of_le_one_left hcfg.carrier hinput.carrier_le_one
    rw [score_calculate, ← hcfg.sum]
    exact add_le_add (add_le_add hreport hhistorical) hcarrier
  parts := rfl
  status := deliveryStatus_calculate cfg input
  monotone _ hbelow := calculate_mono hcfg.toNonneg hbelow

/-- The confidence with the default weights, a report, and middling rates. -/
theorem default_coherent : Coherent Config.default.delivery ⟨true, false, 1 / 2, 1 / 2, 1 / 2⟩ :=
  calculate_coherent
    ⟨⟨by decide +kernel, by decide +kernel, by decide +kernel⟩, by decide +kernel⟩
    ⟨by norm_num, by norm_num, by norm_num, by norm_num⟩

/-! ## Better devices -/

/-- How reliable the carrier of a device is taken to be. -/
def reliability (reputationScore : ℚ) : ℚ :=
  if reputationScore ≤ 0 then 1 / 2
  else if 1 < reputationScore then 1
  else reputationScore

theorem reliability_of_nonpos {reputation : ℚ} (h : reputation ≤ 0) : reliability reputation = 1 / 2 :=
  if_pos h

theorem reliability_of_pos {reputation : ℚ} (h : 0 < reputation) :
    reliability reputation = min reputation 1 := by
  rw [reliability, if_neg h.not_ge]
  by_cases hone : 1 < reputation
  · rw [if_pos hone, min_eq_right hone.le]
  · rw [if_neg hone, min_eq_left (not_lt.1 hone)]

theorem reliability_pos (reputation : ℚ) : 0 < reliability reputation := by
  rcases lt_or_ge 0 reputation with hpos | hnonpos
  · rw [reliability_of_pos hpos]
    exact lt_min hpos one_pos
  · rw [reliability_of_nonpos hnonpos]
    norm_num

theorem reliability_mono {reputation reputation' : ℚ} (h : reputation ≤ reputation')
    (hreplaced : 0 < reputation ∨ reputation' ≤ 0 ∨ 1 / 2 ≤ reputation') :
    reliability reputation ≤ reliability reputation' := by
  rcases lt_or_ge 0 reputation with hpos | hnonpos
  · rw [reliability_of_pos hpos, reliability_of_pos (hpos.trans_le h)]
    exact min_le_min_right 1 h
  · rw [reliability_of_nonpos hnonpos]
    rcases hreplaced with hpos | hnone | hhalf
    · exact absurd hpos hnonpos.not_gt
    · rw [reliability_of_nonpos hnone]
    · rw [reliability_of_pos (lt_of_lt_of_le (by norm_num) hhalf)]
      exact le_min hhalf (by norm_num)

variable {device : Device} {successRate24h reputationScore : ℚ}

/-- **A better device has no worse a confidence**, if the reputation of the worse one is positive, or
that of the better one is nothing or at least a half. -/
theorem calculateFromDevice_atMost (hhistorical : 0 ≤ cfg.historicalPatternWeight)
    (hcarrier : 0 ≤ cfg.carrierReliabilityWeight) (hrate : device.successRate24h ≤ successRate24h)
    (hreputation : device.reputationScore ≤ reputationScore)
    (hreplaced : 0 < device.reputationScore ∨ reputationScore ≤ 0 ∨ 1 / 2 ≤ reputationScore)
    (report receipts : Bool) :
    AtMost (calculateFromDevice cfg device report receipts)
      (calculateFromDevice cfg
        { device with successRate24h := successRate24h, reputationScore := reputationScore }
        report receipts) := by
  have hscore : (calculateFromDevice cfg device report receipts).score ≤
      (calculateFromDevice cfg
        { device with successRate24h := successRate24h, reputationScore := reputationScore }
        report receipts).score := by
    have hold := mul_le_mul_of_nonneg_right hrate hhistorical
    have hnew := mul_le_mul_of_nonneg_right (reliability_mono hreputation hreplaced) hcarrier
    exact add_le_add (add_le_add le_rfl hold) hnew
  exact ⟨hscore, rank_mono hscore le_rfl⟩

/-- A device that is better in both respects, with the default weights. -/
theorem phone_atMost : AtMost
    (calculateFromDevice Config.default.delivery { phone with successRate24h := 1 / 2 } false false)
    (calculateFromDevice Config.default.delivery
      { phone with successRate24h := 1, reputationScore := 3 / 4 } false false) :=
  @calculateFromDevice_atMost Config.default.delivery { phone with successRate24h := 1 / 2 }
    1 (3 / 4) (by decide +kernel) (by decide +kernel) (by decide +kernel) (by decide +kernel)
    (.inl (by decide +kernel)) false false

/-- A device whose reputation is nothing does better than one whose reputation is little. -/
theorem little_worse_than_nothing : ¬ AtMost
    (calculateFromDevice Config.default.delivery { phone with reputationScore := 0 } false false)
    (calculateFromDevice Config.default.delivery { phone with reputationScore := 1 / 10 } false
      false) := fun h =>
  absurd h.score (by decide +kernel)

end AeroxeBee.Dispatch.DeliveryConf

namespace AeroxeBee.Dispatch

open Foundations DeliveryConf

variable (cfg : Config) (scan : ContentScan) (msg : QueueMessage)

/-! ## Failures of the handler -/

/-- The event asks the database to store that the message has failed. -/
def storesFailed (msgID : String) : Event ServerCmd → Bool
  | ⟨.db (.updateDeliveryStatus id status _ _), _⟩ => id = msgID && status = .failed
  | _ => false

/-- **What is asked of the handler**: it does not store that the message has failed. -/
def NeverFailed (o : Outcome ServerCmd World (Except String Unit)) : Prop :=
  o.trace.any (storesFailed msg.id) = false

/-- The device to which the loop publishes the command. -/
def taker : List ScoredDevice → World → Option Device
  | [], _ => none
  | d :: ds, w =>
    let o := (attempt cfg msg d.device).exec (server cfg) w
    if o.val = .sent then some d.device else taker ds o.state

/-- The device to which the handler publishes the command. -/
def takerOf (w : World) : Option Device :=
  match ((candidates scan msg).exec (server cfg) w).val with
  | .error _ => none
  | .ok scored => taker cfg msg scored ((candidates scan msg).exec (server cfg) w).state

/-- What is known of the device outweighs the lowest threshold. There is a report of it if it has
answered a ping and some of its messages succeeded. -/
def Confident (device : Device) : Prop :=
  3 / 10 ≤
    reportScore (device.lastPongAt.isSome && decide (0 < device.successRate24h))
        (returnsReceipts device.carrier) * cfg.delivery.deliveryReportWeight +
      device.successRate24h * cfg.delivery.historicalPatternWeight +
      reliability device.reputationScore * cfg.delivery.carrierReliabilityWeight

instance (device : Device) : Decidable (Confident cfg device) :=
  inferInstanceAs (Decidable (_ ≤ _))

/-- The confidence in a device to which the command was published. -/
def confidenceOf (device : Device) : ConfidenceResult :=
  calculateFromDevice cfg.delivery device
    (device.lastPongAt.isSome && decide (0 < device.successRate24h)) (returnsReceipts device.carrier)

section Failures

variable {cfg scan msg}

theorem calculateDeliveryStatus_failed_iff (score : ℚ) (report : Bool) :
    calculateDeliveryStatus score report = .failed ↔ score < 3 / 10 := by
  unfold calculateDeliveryStatus
  split_ifs with haccepted hprobable hfailed
  · exact iff_of_false (by decide) (not_lt.2 (le_trans (by norm_num) haccepted.1))
  · exact iff_of_false (by decide) (not_lt.2 (le_trans (by norm_num) hprobable))
  · exact iff_of_true rfl hfailed
  · exact iff_of_false (by decide) hfailed

theorem failed_iff (device : Device) :
    (confidenceOf cfg device).deliveryStatus = .failed ↔ ¬ Confident cfg device := by
  rw [Confident, not_le]
  exact calculateDeliveryStatus_failed_iff _ _

theorem Idle.spotless {β : Type} {e : ServerCmd β} (h : Idle e) (b : β) :
    storesFailed msg.id ⟨e, b⟩ = false := by
  cases e with
  | db q =>
    cases q with
    | updateDeliveryStatus _ _ _ _ => exact h.elim
    | _ => rfl
  | _ => rfl

theorem spotless_of_idle {α : Type} {p : ServerProg α} (hp : p.Only Idle) :
    p.Only fun e => ∀ b, storesFailed msg.id ⟨e, b⟩ = false :=
  hp.mono fun _ => Idle.spotless

/-- The failure is stored exactly if the device is not one of which enough is known. -/
theorem recordSent_notes (device : Device) :
    (recordSent cfg msg device).Keeps (.noting (storesFailed msg.id))
      (fun s' _ => s' = !decide (Confident cfg device)) false := by
  refine ⟨trivial, fun _ _ => ⟨trivial, fun now _ => ⟨trivial, fun reply _ => ?_⟩⟩⟩
  refine (Prog.Keeps.noting_of_only ?_ _).mono fun s' _ hs' => hs'.trans ?_
  · refine ⟨fun _ => rfl, fun _ => ?_⟩
    refine (spotless_of_idle (incrementDeviceCounters_idle _)).bind fun _ => ?_
    refine (spotless_of_idle (incrementGlobalThrottle_idle _ _)).bind fun _ => ?_
    refine ⟨fun _ => rfl, fun _ => ⟨fun _ => rfl, fun _ => ?_⟩⟩
    refine (spotless_of_idle (incrementUsage_idle _)).bind fun _ => ?_
    exact ⟨fun _ => rfl, fun _ => ⟨fun _ => rfl, fun _ => trivial⟩⟩
  · change storesFailed msg.id ⟨.db (.updateDeliveryStatus msg.id
      (confidenceOf cfg device).deliveryStatus (confidenceOf cfg device).score now), reply⟩ = _
    simp [storesFailed, failed_iff]

variable (cfg msg) in
theorem attempt_notes (device : Device) :
    (attempt cfg msg device).Keeps (.noting (storesFailed msg.id))
      (fun s' a => (a ≠ .sent → s' = false) ∧
        (a = .sent → s' = !decide (Confident cfg device))) false := by
  have hquiet {α : Type} {p : ServerProg α}
      (hp : p.Only fun e => ∀ b, storesFailed msg.id ⟨e, b⟩ = false) {s : Bool} (hs : s = false) :
      p.Keeps (.noting (storesFailed msg.id)) (fun s' _ => s' = false) s :=
    (Prog.Keeps.noting_of_only hp s).mono fun s' _ hs' => hs'.trans hs
  have hsend (s : Bool) (hs : s = false) : (trySend cfg msg device).Keeps
      (.noting (storesFailed msg.id)) (fun s' r => (r ≠ .ok () → s' = false) ∧
        (r = .ok () → s' = !decide (Confident cfg device))) s := by
    refine trySend_keeps_of (J := fun s => s = false) (K := fun s => s = false) (fun s hs => ?_)
      (fun s hs => ?_) (fun s hs => ?_) (fun s hs => hs ▸ recordSent_notes device) hs
    · exact hquiet (p := Prog.call _) ⟨fun _ => rfl, fun _ => trivial⟩ hs
    · refine (hquiet (p := sendSMSCommand _ _ _ _ _ _)
        ⟨fun _ => rfl, fun _ => ⟨fun _ => rfl, fun _ => trivial⟩⟩ hs).mono ?_
      exact fun s' _ hs' => ⟨fun _ => hs', fun _ => hs'⟩
    · exact hquiet (spotless_of_idle (recordFailed_idle device)) hs
  refine attempt_keeps_of (fun s hs => ?_) (fun s hs => ?_) rfl
  · exact hquiet (p := Prog.call _) ⟨fun _ => rfl, fun _ => trivial⟩ hs
  · refine attemptClosed_keeps_of (J := fun s => s = false) (K := fun s => s = false)
      (fun s hs => ?_) (fun s hs => ?_) hsend hs
    · refine (hquiet (spotless_of_idle (checkRates_idle device)) hs).mono ?_
      exact fun s' _ hs' => ⟨hs', fun _ => hs'⟩
    · refine (hquiet (checkHealth_only (fun _ => rfl) fun _ _ _ => rfl) hs).mono ?_
      exact fun s' _ hs' => ⟨hs', fun _ => hs'⟩

/-- The loop stores the failure exactly if it publishes the command to a device of which not enough
is known. -/
theorem sendLoop_neverFailed (scored : List ScoredDevice) (lastErr : Option String) (w : World) :
    NeverFailed msg ((sendLoop cfg msg lastErr scored).exec (server cfg) w) ↔
      ∀ device ∈ taker cfg msg scored w, Confident cfg device := by
  induction scored generalizing lastErr w with
  | nil => cases lastErr <;> simp [sendLoop, NeverFailed, taker]
  | cons d rest ih =>
    have hnoted := (attempt_notes cfg msg d.device).exec_noting (server cfg) w
    rw [NeverFailed, sendLoop_cons, Prog.exec_bind, taker]
    generalize (attempt cfg msg d.device).exec (server cfg) w = o at hnoted ⊢
    obtain ⟨a, w', evs⟩ := o
    rw [List.any_append, Bool.or_eq_false_iff]
    cases a with
    | skipped =>
      rw [if_neg (by simp)]
      exact (and_iff_right (hnoted.1 (by simp))).trans (ih lastErr w')
    | failed e =>
      rw [if_neg (by simp)]
      exact (and_iff_right (hnoted.1 (by simp))).trans (ih (some e) w')
    | sent =>
      rw [if_pos rfl]
      rw [hnoted.2 rfl]
      simp [continueLoop]

end Failures

/-- **When the handler stores no failure**: whatever the devices, breakers, counters and delivery
outcomes are and whatever the broker answers, the device to which it publishes the command is one of
which enough is known. -/
theorem neverFailed_iff (w : World) :
    NeverFailed msg ((processMessage cfg scan msg).exec (server cfg) w) ↔
      ∀ device ∈ takerOf cfg scan msg w, Confident cfg device := by
  have hchoice : ((candidates scan msg).exec (server cfg) w).trace.any (storesFailed msg.id) = false :=
    (Prog.Keeps.noting_of_only (spotless_of_idle candidates_idle) false).exec_noting (server cfg) w
  rw [NeverFailed, takerOf, processMessage, Prog.exec_bind]
  generalize (candidates scan msg).exec (server cfg) w = o at hchoice ⊢
  obtain ⟨r, w', evs⟩ := o
  rw [List.any_append, Bool.or_eq_false_iff]
  cases r with
  | error e => simpa using hchoice
  | ok scored => exact (and_iff_right hchoice).trans (sendLoop_neverFailed scored none w')

/-- With the default weights enough is known of a device if there is a report of it, or if its success
rate and its reputation are good enough. -/
theorem confident_default_iff (device : Device) : Confident .default device ↔
    (device.lastPongAt.isSome = true ∧ 0 < device.successRate24h) ∨
      3 ≤ 3 * device.successRate24h + 2 * reliability device.reputationScore := by
  change 3 / 10 ≤ reportScore _ _ * (1 / 2) + device.successRate24h * (3 / 10) +
    reliability device.reputationScore * (1 / 5) ↔ _
  by_cases hreport : device.lastPongAt.isSome = true ∧ 0 < device.successRate24h
  · have hscore : 7 / 10 ≤ reportScore (device.lastPongAt.isSome && decide (0 < device.successRate24h))
        (returnsReceipts device.carrier) := by
      rw [hreport.1, decide_eq_true hreport.2]
      exact reportScore_mono le_rfl (Bool.false_le _)
    have hreliability := reliability_pos device.reputationScore
    exact iff_of_true (by linarith [hreport.2]) (.inl hreport)
  · have hscore : reportScore (device.lastPongAt.isSome && decide (0 < device.successRate24h))
        (returnsReceipts device.carrier) = 0 := by
      have hnone : (device.lastPongAt.isSome && decide (0 < device.successRate24h)) = false := by
        simpa using hreport
      rw [hnone]
      rfl
    rw [hscore, or_iff_right hreport]
    constructor <;> intro h <;> linarith

/-- A server with a device that has not succeeded yet. -/
def unproven : World :=
  { onePhone [] with
    db := { (onePhone []).db with devices := [{ phone with successRate24h := 0 }] } }

/-- The handler stores that a message has failed which a device has been told to send. -/
theorem unproven_failed :
    Sent greeting.id ((processMessage .default (fun _ _ _ => (false, [])) greeting).exec
      (server .default) unproven).trace ∧
    ¬ NeverFailed greeting ((processMessage .default (fun _ _ _ => (false, [])) greeting).exec
      (server .default) unproven) := by
  rw [Sent, NeverFailed]
  decide +kernel

end AeroxeBee.Dispatch
