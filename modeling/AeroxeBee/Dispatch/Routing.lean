import AeroxeBee.Server

/-!
# Routing

How the devices for a message are chosen: devices that pass the gates are scored by a strategy,
with a little randomness, and the best few are kept. The confidence that a message sent by a
device is delivered is computed here as well.

* `mem_filterAndScore`: whatever the random numbers are, a device that is chosen is one of those
  offered and passed the gates;
* `length_filterAndScore_le`: no more than the asked number are chosen.
-/

namespace AeroxeBee.Dispatch

open Foundations

/-! ## Scores -/

/-- The weights of a routing strategy. -/
structure Strategy where
  reliabilityWeight : ℚ
  reputationWeight : ℚ
  costWeight : ℚ
  latencyWeight : ℚ
  geoPreferenceWeight : ℚ

/-- The strategies under their names. -/
def strategies (name : RoutingStrategy) : Option Strategy :=
  if name = .fastest then some ⟨3 / 10, 1 / 10, 0, 1 / 2, 1 / 10⟩
  else if name = .lowestCost then some ⟨1 / 5, 1 / 10, 1 / 2, 1 / 10, 1 / 10⟩
  else if name = .highestReliability then some ⟨1 / 2, 1 / 5, 1 / 10, 1 / 10, 1 / 10⟩
  else if name = .geoAffinity then some ⟨1 / 5, 1 / 10, 1 / 10, 1 / 10, 1 / 2⟩
  else if name = .profitOptimized then some ⟨1 / 5, 1 / 10, 3 / 10, 1 / 10, 1 / 10⟩
  else none

/-- A device with its score. -/
structure ScoredDevice where
  device : Device
  totalScore : ℚ

namespace Selector

/-- The score of a device. A strategy without a name is the most reliable one; `random` moves the
score by at most a twentieth. -/
def scoreDevice (device : Device) (strategy : RoutingStrategy) (costPerSMS : ℚ)
    (recipientCountry : String) (random : UnitFloat) : ScoredDevice :=
  let strat := (strategies strategy).getD ⟨1 / 2, 1 / 5, 1 / 10, 1 / 10, 1 / 10⟩
  let normalizedLatency := max 0 (1 - device.avgLatencyMs / 10000)
  let normalizedCost := max 0 (1 - costPerSMS / (1 / 10))
  let geoScore : ℚ :=
    if recipientCountry = "" then 1 / 2
    else if device.countryCode = recipientCountry then 1
    else 3 / 10
  let totalScore :=
    device.reliabilityScore * strat.reliabilityWeight +
      device.reputationScore * strat.reputationWeight + normalizedCost * strat.costWeight +
      normalizedLatency * strat.latencyWeight + geoScore * strat.geoPreferenceWeight
  ⟨device, totalScore * (1 + (random.val * (1 / 10) - 1 / 20))⟩

/-- The scores of some devices, each with a random number of its own. -/
def scoreDevices (strategy : RoutingStrategy) (costMap : List (String × ℚ))
    (recipientCountry : String) : List Device → ServerProg (List ScoredDevice)
  | [] => return []
  | d :: ds => do
    let random ← Prog.call .rand
    let scored := scoreDevice d strategy ((costMap.lookup d.id).getD 0) recipientCountry random
    return scored :: (← scoreDevices strategy costMap recipientCountry ds)

/-- The devices with the best scores. The library sorts a list of at most twelve elements by
insertion, so equal scores keep their order. -/
def selectDevices (devices : List Device) (strategy : RoutingStrategy)
    (costMap : List (String × ℚ)) (recipientCountry : String) (limit : ℕ) :
    ServerProg (List ScoredDevice) := do
  let scored ← scoreDevices strategy costMap recipientCountry devices
  return (scored.insertionSort fun a b => b.totalScore ≤ a.totalScore).take limit

/-- Which devices are chosen, and how. -/
structure DeviceOptions where
  strategy : RoutingStrategy
  recipientCountry : String
  maxResults : ℕ
  excludeBlocked : Bool
  excludeDegraded : Bool
  requireOnline : Bool

/-- The gates that a device has to pass. -/
def DeviceOptions.admits (opts : DeviceOptions) (d : Device) : Bool :=
  (!opts.requireOnline || d.status = .online) &&
    (!opts.excludeBlocked || d.simHealthStatus ≠ .blocked) &&
    (!opts.excludeDegraded || d.simHealthStatus ≠ .degraded)

/-- The best devices among those that pass the gates. -/
def filterAndScore (devices : List Device) (opts : DeviceOptions) (costMap : List (String × ℚ)) :
    ServerProg (List ScoredDevice) :=
  if (devices.filter opts.admits).length = 0 then return []
  else
    selectDevices (devices.filter opts.admits) opts.strategy costMap opts.recipientCountry
      opts.maxResults

/-! ## What is chosen -/

theorem follows_scoreDevices {strategy : RoutingStrategy} {costMap : List (String × ℚ)}
    {recipientCountry : String} {ds : List Device} {evs : List (Event ServerCmd)}
    {scored : List ScoredDevice}
    (h : (scoreDevices strategy costMap recipientCountry ds).Follows evs (.ret scored)) :
    scored.map ScoredDevice.device = ds := by
  induction ds generalizing evs scored with
  | nil =>
    obtain ⟨-, h⟩ := Prog.follows_ret.1 h
    cases h
    rfl
  | cons d ds ih =>
    rw [scoreDevices, Prog.call_bind] at h
    obtain ⟨random, rest, -, h⟩ := Prog.follows_act.1 h
    obtain ⟨scored', _, _, -, hrest, h⟩ := Prog.Follows.of_bind h
    obtain ⟨-, h⟩ := Prog.follows_ret.1 h
    cases h
    rw [List.map_cons, ih hrest]
    rfl

/-- **What is chosen was offered and passed the gates.** -/
theorem mem_filterAndScore {devices : List Device} {opts : DeviceOptions}
    {costMap : List (String × ℚ)} {evs : List (Event ServerCmd)} {scored : List ScoredDevice}
    (h : (filterAndScore devices opts costMap).Follows evs (.ret scored)) {s : ScoredDevice}
    (hs : s ∈ scored) : s.device ∈ devices ∧ opts.admits s.device = true := by
  unfold filterAndScore at h
  split_ifs at h with hempty
  · obtain ⟨-, h⟩ := Prog.follows_ret.1 h
    cases h
    cases hs
  · obtain ⟨scored', _, _, -, hscore, h⟩ := Prog.Follows.of_bind h
    obtain ⟨-, h⟩ := Prog.follows_ret.1 h
    cases h
    have hmem : s ∈ scored' := (List.mem_insertionSort _).1 (List.mem_of_mem_take hs)
    have hdev : s.device ∈ devices.filter opts.admits := by
      rw [← follows_scoreDevices hscore]
      exact List.mem_map_of_mem hmem
    exact List.mem_filter.1 hdev

theorem length_filterAndScore_le {devices : List Device} {opts : DeviceOptions}
    {costMap : List (String × ℚ)} {evs : List (Event ServerCmd)} {scored : List ScoredDevice}
    (h : (filterAndScore devices opts costMap).Follows evs (.ret scored)) :
    scored.length ≤ opts.maxResults := by
  unfold filterAndScore at h
  split_ifs at h with hempty
  · obtain ⟨-, h⟩ := Prog.follows_ret.1 h
    cases h
    exact Nat.zero_le _
  · obtain ⟨scored', _, _, -, -, h⟩ := Prog.Follows.of_bind h
    obtain ⟨-, h⟩ := Prog.follows_ret.1 h
    cases h
    exact List.length_take_le _ _

end Selector

/-! ## Delivery confidence -/

namespace DeliveryConf

/-- What the confidence depends on. The correlation is handed over but not used. -/
structure ConfidenceInput where
  hasDeliveryReport : Bool
  carrierReturnsReceipts : Bool
  historicalSuccessRate : ℚ
  carrierReliability : ℚ
  deviceHistoricalCorrelation : ℚ

/-- What each part contributes to the confidence. -/
structure ConfidenceBreakdown where
  deliveryReportContribution : ℚ
  historicalContribution : ℚ
  carrierReliabilityContribution : ℚ

/-- The confidence, the delivery status it stands for, and its parts. -/
structure ConfidenceResult where
  score : ℚ
  deliveryStatus : DeliveryStatus
  breakdown : ConfidenceBreakdown

/-- The weighted confidence. -/
def calculate (cfg : DeliveryConfig) (input : ConfidenceInput) : ConfidenceResult :=
  let deliveryReportScore : ℚ :=
    if input.hasDeliveryReport && input.carrierReturnsReceipts then 1
    else if input.hasDeliveryReport then 7 / 10
    else 0
  let score :=
    deliveryReportScore * cfg.deliveryReportWeight +
      input.historicalSuccessRate * cfg.historicalPatternWeight +
      input.carrierReliability * cfg.carrierReliabilityWeight
  let status : DeliveryStatus :=
    if 9 / 10 ≤ score ∧ input.hasDeliveryReport then .carrierAccepted
    else if 7 / 10 ≤ score then .probableDelivered
    else if score < 3 / 10 then .failed
    else .sent
  { score := score
    deliveryStatus := status
    breakdown :=
      { deliveryReportContribution := deliveryReportScore * cfg.deliveryReportWeight
        historicalContribution := input.historicalSuccessRate * cfg.historicalPatternWeight
        carrierReliabilityContribution := input.carrierReliability * cfg.carrierReliabilityWeight } }

/-- The confidence in a message that a device has sent. -/
def calculateFromDevice (cfg : DeliveryConfig) (device : Device)
    (hasDeliveryReport carrierReturnsReceipts : Bool) : ConfidenceResult :=
  let carrierReliability :=
    if device.reputationScore ≤ 0 then 1 / 2
    else if 1 < device.reputationScore then 1
    else device.reputationScore
  calculate cfg
    { hasDeliveryReport := hasDeliveryReport
      carrierReturnsReceipts := carrierReturnsReceipts
      historicalSuccessRate := device.successRate24h
      carrierReliability := carrierReliability
      deviceHistoricalCorrelation := device.reliabilityScore }

/-- The delivery status that a confidence stands for. -/
def calculateDeliveryStatus (confidenceScore : ℚ) (hasDeliveryReport : Bool) : DeliveryStatus :=
  if 9 / 10 ≤ confidenceScore ∧ hasDeliveryReport then .carrierAccepted
  else if 7 / 10 ≤ confidenceScore then .probableDelivered
  else if confidenceScore < 3 / 10 then .failed
  else .sent

end DeliveryConf

end AeroxeBee.Dispatch
