import AeroxeBee.Dispatch.SimHealth
import AeroxeBee.Foundations.Regression

/-!
# The trend of a device

`calculateTrend` goes once through the last outcomes of a device and sums up what it needs for the
slope of a regression line.

* `calculateTrend_eq`: the sums make the slope of the line that is closest to the outcomes;
* `calculateTrend_spec`: what is known of it therefore.
-/

namespace AeroxeBee.Dispatch.SimHealth

open Foundations Foundations.Regression Finset

/-- The last twenty outcomes. -/
def lastSamples (samples : List DeliverySample) : List DeliverySample :=
  samples.drop (samples.length - min 20 samples.length)

/-- The outcome at a position, as a number. -/
def outcome (samples : List DeliverySample) (i : ℕ) : ℚ :=
  if samples[i]?.any DeliverySample.success then 1 else 0

/-- The sums over some outcomes. -/
def trendSums (samples : List DeliverySample) : TrendSums :=
  samples.zipIdx.foldl (fun sums s => sums.add s.1 s.2) ⟨0, 0, 0, 0⟩

/-- The outcome at one of the last positions turned into a success. -/
def succeedAt (samples : List DeliverySample) (k : ℕ) : List DeliverySample :=
  samples.modify (samples.length - min 20 samples.length + k) fun s => { s with success := true }

variable {samples : List DeliverySample}

theorem length_lastSamples : (lastSamples samples).length = min 20 samples.length := by
  rw [lastSamples, List.length_drop]
  omega

/-! ## The sums -/

/-- **What is summed up.** -/
theorem trendSums_eq (samples : List DeliverySample) :
    let n := samples.length
    trendSums samples = ⟨∑ i ∈ range n, (i : ℚ), ∑ i ∈ range n, outcome samples i,
      ∑ i ∈ range n, i * outcome samples i, ∑ i ∈ range n, (i : ℚ) * i⟩ := by
  dsimp only
  induction samples using List.reverseRecOn with
  | nil => rfl
  | append_singleton samples s ih =>
    have hold (i : ℕ) (hi : i ∈ range samples.length) :
        outcome (samples ++ [s]) i = outcome samples i := by
      rw [outcome, outcome, List.getElem?_append_left (mem_range.1 hi)]
    have hnew : outcome (samples ++ [s]) samples.length = if s.success then 1 else 0 := by
      rw [outcome, List.getElem?_append_right le_rfl, Nat.sub_self]
      rfl
    have hadd : trendSums (samples ++ [s]) = (trendSums samples).add s samples.length := by
      rw [trendSums, List.zipIdx_append, List.foldl_append, ← trendSums]
      simp
    have hmul : ∑ i ∈ range samples.length, (i : ℚ) * outcome (samples ++ [s]) i =
        ∑ i ∈ range samples.length, (i : ℚ) * outcome samples i :=
      sum_congr rfl fun i hi => by rw [hold i hi]
    rw [hadd, ih, List.length_append, List.length_singleton, sum_range_succ, sum_range_succ,
      sum_range_succ, sum_range_succ, sum_congr rfl hold, hnew, hmul]
    rfl

/-- The denominator of the code. -/
theorem spread_eq (samples : List DeliverySample) : spread ℚ samples.length =
    samples.length * (trendSums samples).sumX2 -
      (trendSums samples).sumX * (trendSums samples).sumX := by
  rw [trendSums_eq, spread]

/-- **The trend is the slope of the regression line.** -/
theorem calculateTrend_eq (h : 10 ≤ samples.length) : calculateTrend samples =
    Regression.slope (lastSamples samples).length (outcome (lastSamples samples)) := by
  rw [calculateTrend, if_neg (by omega)]
  dsimp only
  rw [← lastSamples, ← trendSums, Regression.slope, spread_eq, trendSums_eq]

/-! ## An outcome that changes -/

theorem length_succeedAt (k : ℕ) : (succeedAt samples k).length = samples.length :=
  List.length_modify ..

theorem lastSamples_succeedAt (k : ℕ) : lastSamples (succeedAt samples k) =
    (lastSamples samples).modify k fun s => { s with success := true } := by
  rw [lastSamples, length_succeedAt]
  refine List.ext_getElem? fun i => ?_
  rw [List.getElem?_drop, succeedAt, List.getElem?_modify, List.getElem?_modify, lastSamples,
    List.getElem?_drop]
  simp only [Nat.add_left_cancel_iff]

theorem outcome_modify {k : ℕ} (hk : k < samples.length) :
    outcome (samples.modify k fun s => { s with success := true }) =
      Function.update (outcome samples) k 1 := by
  funext i
  rw [outcome, List.getElem?_modify]
  by_cases hi : i = k
  · subst hi
    rw [Function.update_self, List.getElem?_eq_getElem hk]
    simp
  · rw [Function.update_of_ne hi, outcome]
    simp [Ne.symm hi]

theorem outcome_le_one (i : ℕ) : outcome samples i ≤ 1 := by
  rw [outcome]
  split_ifs <;> norm_num

/-- The trend with an outcome turned into a success. -/
theorem calculateTrend_succeedAt (h : 10 ≤ samples.length) {k : ℕ}
    (hk : k < (lastSamples samples).length) : calculateTrend (succeedAt samples k) =
      Regression.slope (lastSamples samples).length
        (Function.update (outcome (lastSamples samples)) k 1) := by
  rw [calculateTrend_eq (h.trans (length_succeedAt k).ge), lastSamples_succeedAt, outcome_modify hk,
    List.length_modify]

/-! ## What is known of the trend -/

/-- **The trend is the slope of the line that is closest to the outcomes**: its denominator is
positive, it is zero if all outcomes are equal, and a failure that becomes a success does not lower
it in the second half, and does not raise it in the first. -/
theorem calculateTrend_spec (samples : List DeliverySample) (h : 10 ≤ samples.length) :
    let last := lastSamples samples
    let n := last.length
    (n = min 20 samples.length ∧ last <:+ samples) ∧
      0 < n * (trendSums last).sumX2 - (trendSums last).sumX * (trendSums last).sumX ∧
      (∃ a, IsLeastSquares n (outcome last) a (calculateTrend samples)) ∧
      (∀ a b, IsLeastSquares n (outcome last) a b → b = calculateTrend samples) ∧
      ((∀ s ∈ last, ∀ t ∈ last, s.success = t.success) → calculateTrend samples = 0) ∧
      ∀ k < n, outcome last k = 0 →
        (((n : ℚ) - 1) / 2 < k → calculateTrend samples ≤ calculateTrend (succeedAt samples k)) ∧
          ((k : ℚ) < (n - 1) / 2 →
            calculateTrend (succeedAt samples k) ≤ calculateTrend samples) := by
  intro last n
  have hn : n = min 20 samples.length := length_lastSamples
  have htwo : 2 ≤ n := by omega
  have htrend : calculateTrend samples = Regression.slope n (outcome last) := calculateTrend_eq h
  refine ⟨⟨hn, List.drop_suffix _ _⟩, ?_, ?_, ?_, ?_, ?_⟩
  · rw [← spread_eq]
    exact spread_pos htwo
  · exact ⟨_, (isLeastSquares_iff htwo _ _).2 ⟨rfl, htrend⟩⟩
  · intro a b hleast
    rw [htrend]
    exact ((isLeastSquares_iff htwo a b).1 hleast).2
  · intro hequal
    rw [htrend]
    obtain ⟨s, hs⟩ : ∃ s, s ∈ last := List.exists_mem_of_length_pos (by omega)
    refine slope_of_const (c := if s.success then 1 else 0) fun i hi => ?_
    rw [outcome, List.getElem?_eq_getElem hi, Option.any_some,
      hequal _ (List.getElem_mem hi) s hs]
  · intro k hk hfailed
    have hle : outcome last k ≤ 1 := outcome_le_one k
    rw [htrend, calculateTrend_succeedAt h hk]
    exact ⟨fun hlate => slope_le_slope_update hk htwo hle hlate.le,
      fun hearly => slope_update_le_slope hk htwo hle hearly.le⟩

/-- Ten failures. -/
def tenFailures : List DeliverySample := List.replicate 10 ⟨0, false⟩

/-- Ten failures have no trend, and a success at the end gives them none that falls. -/
theorem calculateTrend_tenFailures :
    (∃ a, IsLeastSquares 10 (outcome (lastSamples tenFailures)) a (calculateTrend tenFailures)) ∧
      calculateTrend tenFailures = 0 ∧
      calculateTrend tenFailures ≤ calculateTrend (succeedAt tenFailures 9) := by
  obtain ⟨-, -, hleast, -, hequal, hchange⟩ := calculateTrend_spec tenFailures (by decide)
  refine ⟨hleast, hequal (by decide), (hchange 9 (by decide) (by decide)).1 ?_⟩
  have hlen : (lastSamples tenFailures).length = 10 := by decide
  rw [hlen]
  norm_num

end AeroxeBee.Dispatch.SimHealth
