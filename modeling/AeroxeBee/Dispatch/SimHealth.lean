import AeroxeBee.Database

/-!
# The health of SIM cards

The engine keeps the outcome of every delivery with its time, and judges a SIM card by the
outcomes in a window that ends now. The judgement is not kept: once the bad outcomes have left the
window the card is judged by what is left in it.

* `evaluateDevice_blocked_iff`: a card is judged blocked if the rate in its window is below the
  threshold, or if it was passed in as blocked and the rate is not below the threshold of a
  degraded card;
* `evaluateDevice_of_aged_out`: a card with nothing in its window keeps the status passed in.
-/

namespace AeroxeBee.Dispatch

/-- The configuration of the engine. -/
structure SIMHealthConfig where
  degradedThreshold : ℚ
  blockedThreshold : ℚ
  windowDuration : ℤ
  trendWindowDuration : ℤ

/-- The default configuration. -/
def SIMHealthConfig.default : SIMHealthConfig where
  degradedThreshold := 3 / 5
  blockedThreshold := 3 / 10
  windowDuration := 300000000000
  trendWindowDuration := 10800000000000

/-- The outcome of a delivery. -/
structure DeliverySample where
  timestamp : ℤ
  success : Bool
deriving DecidableEq

/-- The outcomes of every device, the oldest first. -/
abbrev DeliveryHistory := String → List DeliverySample

namespace SimHealth

variable (cfg : SIMHealthConfig) (now : ℤ) (samples : List DeliverySample)

/-- Add an outcome. -/
def recordDelivery (history : DeliveryHistory) (deviceID : String) (success : Bool) :
    DeliveryHistory :=
  Function.update history deviceID (history deviceID ++ [⟨now, success⟩])

/-- The outcomes that are not older than a duration. -/
def filterByDuration (duration : ℤ) : List DeliverySample :=
  samples.filter fun s => now - duration < s.timestamp

/-- The share of successes, which is one if there is no outcome. -/
def calculateRate : ℚ :=
  if samples.length = 0 then 1
  else ((samples.filter fun s => s.success).length : ℚ) / samples.length

/-- The sums of a linear regression of the outcomes on their positions. -/
structure TrendSums where
  sumX : ℚ
  sumY : ℚ
  sumXY : ℚ
  sumX2 : ℚ

/-- Take account of one outcome. -/
def TrendSums.add (sums : TrendSums) (s : DeliverySample) (i : ℕ) : TrendSums :=
  let x : ℚ := i
  let y : ℚ := if s.success then 1 else 0
  ⟨sums.sumX + x, sums.sumY + y, sums.sumXY + x * y, sums.sumX2 + x * x⟩

/-- The slope of the last twenty outcomes; fewer than ten have none. -/
def calculateTrend : ℚ :=
  if samples.length < 10 then 0
  else
    let windowSamples := min 20 samples.length
    let samples := samples.drop (samples.length - windowSamples)
    let n : ℚ := samples.length
    let sums : TrendSums := samples.zipIdx.foldl (fun sums s => sums.add s.1 s.2) ⟨0, 0, 0, 0⟩
    (n * sums.sumXY - sums.sumX * sums.sumY) / (n * sums.sumX2 - sums.sumX * sums.sumX)

/-- The status of a device and the slope of its outcomes, given its current status. One reading of
the clock stands for the two that the code makes. -/
def evaluateDevice (currentStatus : SIMHealthStatus) : SIMHealthStatus × ℚ :=
  let shortRate := calculateRate (filterByDuration now samples cfg.windowDuration)
  let trendSlope := calculateTrend (filterByDuration now samples cfg.trendWindowDuration)
  let newStatus :=
    if shortRate < cfg.blockedThreshold then .blocked
    else if shortRate < cfg.degradedThreshold then .degraded
    else currentStatus
  (newStatus, trendSlope)

/-- Forget the outcomes that no window reaches any more. -/
def cleanup (history : DeliveryHistory) : DeliveryHistory :=
  fun deviceID => filterByDuration now (history deviceID) cfg.trendWindowDuration

/-- The outcomes in the window of a device count as a block. -/
def WindowBlocked : Prop :=
  calculateRate (filterByDuration now samples cfg.windowDuration) < cfg.blockedThreshold

instance : Decidable (WindowBlocked cfg now samples) := inferInstanceAs (Decidable (_ < _))

variable {cfg now samples} {currentStatus : SIMHealthStatus}

/-- **When a SIM card is judged blocked.** -/
theorem evaluateDevice_blocked_iff :
    (evaluateDevice cfg now samples currentStatus).1 = .blocked ↔
      WindowBlocked cfg now samples ∨ currentStatus = .blocked ∧
        cfg.degradedThreshold ≤
          calculateRate (filterByDuration now samples cfg.windowDuration) := by
  simp only [evaluateDevice, WindowBlocked]
  split_ifs with hb hd
  · simp [hb]
  · simp [hb, not_le.2 hd]
  · simp [hb, not_lt.1 hd]

/-- A card whose outcomes have all left the window is judged by the status passed in. -/
theorem evaluateDevice_of_aged_out (hb : cfg.blockedThreshold ≤ 1) (hd : cfg.degradedThreshold ≤ 1)
    (hold : ∀ s ∈ samples, s.timestamp ≤ now - cfg.windowDuration) :
    (evaluateDevice cfg now samples currentStatus).1 = currentStatus := by
  have hempty : filterByDuration now samples cfg.windowDuration = [] :=
    List.filter_eq_nil_iff.2 fun s hs => by simpa using hold s hs
  simp only [evaluateDevice, hempty, calculateRate, List.length_nil, if_true]
  rw [if_neg (not_lt.2 hb), if_neg (not_lt.2 hd)]

end SimHealth

end AeroxeBee.Dispatch
