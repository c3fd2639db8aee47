import AeroxeBee.Dispatch.SimHealth
import Mathlib.Algebra.Order.Field.Basic
import Mathlib.Tactic.NormNum

/-!
# How severely a SIM card is judged

A judgement hides trouble if it is less severe than the status of the card, or than the rate of the
window asks for, or if a worse history would have been judged less severely. The engine begins with
the status of the card and overwrites it when the rate is below a threshold. It does so for a blocked
card as well, so that a rate between the thresholds makes a degraded card of it, while a better rate
leaves it blocked.

* `exists_windowRate_eq`: every rate is the rate of some history;
* `hidesNothing_iff`: which judgements hide nothing.
-/

namespace AeroxeBee.Dispatch.SimHealth

variable (cfg : SIMHealthConfig) (now : ℤ) (samples : List DeliverySample)
  (currentStatus : SIMHealthStatus)

/-- How severe a status is. -/
def severity : SIMHealthStatus → ℕ
  | .healthy => 0
  | .degraded => 1
  | .blocked => 2

/-- The rate in the window. -/
def windowRate : ℚ := calculateRate (filterByDuration now samples cfg.windowDuration)

/-- The status that a rate asks for, whatever the status of the card is. -/
def prescribed (rate : ℚ) : SIMHealthStatus :=
  if rate < cfg.blockedThreshold then .blocked
  else if rate < cfg.degradedThreshold then .degraded
  else .healthy

/-- **A judgement hides no trouble**: it is as severe as the status of the card and as what the rate
asks for, and no history with a lower rate is judged less severely. -/
structure HidesNothing : Prop where
  current : severity currentStatus ≤ severity (evaluateDevice cfg now samples currentStatus).1
  prescribed : severity (prescribed cfg (windowRate cfg now samples)) ≤
    severity (evaluateDevice cfg now samples currentStatus).1
  monotone : ∀ now' samples', windowRate cfg now' samples' ≤ windowRate cfg now samples →
    severity (evaluateDevice cfg now samples currentStatus).1 ≤
      severity (evaluateDevice cfg now' samples' currentStatus).1

/-- The card is not blocked, or it still does badly enough to be, or there is no rate between the
thresholds. -/
def NotRelieved : Prop :=
  currentStatus = .blocked →
    windowRate cfg now samples < cfg.blockedThreshold ∨ cfg.blockedThreshold = cfg.degradedThreshold

section Rates

variable {cfg now samples currentStatus}

theorem status_eq : (evaluateDevice cfg now samples currentStatus).1 =
    if windowRate cfg now samples < cfg.blockedThreshold then .blocked
    else if windowRate cfg now samples < cfg.degradedThreshold then .degraded
    else currentStatus := rfl

theorem status_of_blocked (h : windowRate cfg now samples < cfg.blockedThreshold) :
    (evaluateDevice cfg now samples currentStatus).1 = .blocked := by
  rw [status_eq, if_pos h]

theorem status_of_between (hb : cfg.blockedThreshold ≤ windowRate cfg now samples)
    (hd : windowRate cfg now samples < cfg.degradedThreshold) :
    (evaluateDevice cfg now samples currentStatus).1 = .degraded := by
  rw [status_eq, if_neg (not_lt.2 hb), if_pos hd]

theorem status_of_good (hb : cfg.blockedThreshold ≤ windowRate cfg now samples)
    (hd : cfg.degradedThreshold ≤ windowRate cfg now samples) :
    (evaluateDevice cfg now samples currentStatus).1 = currentStatus := by
  rw [status_eq, if_neg (not_lt.2 hb), if_neg (not_lt.2 hd)]

/-- Every rate is the rate of some history. -/
theorem exists_windowRate_eq (cfg : SIMHealthConfig) (now : ℤ) {rate : ℚ} (h₀ : 0 ≤ rate)
    (h₁ : rate ≤ 1) : ∃ samples, windowRate cfg now samples = rate := by
  let t := now - cfg.windowDuration + 1
  let n := rate.num.toNat
  have hnum : (n : ℤ) = rate.num := Int.toNat_of_nonneg (Rat.num_nonneg.2 h₀)
  have hle : n ≤ rate.den := by
    have hden : (0 : ℚ) < rate.den := Nat.cast_pos.2 rate.den_pos
    have hone : (rate.num : ℚ) / rate.den ≤ 1 := (Rat.num_div_den rate).trans_le h₁
    have hcast : rate.num ≤ rate.den := by exact_mod_cast (div_le_one hden).1 hone
    omega
  let samples := List.replicate n (⟨t, true⟩ : DeliverySample) ++
    List.replicate (rate.den - n) (⟨t, false⟩ : DeliverySample)
  have hall : filterByDuration now samples cfg.windowDuration = samples := by
    refine List.filter_eq_self.2 fun s hs => ?_
    have htime : s.timestamp = t := by
      rcases List.mem_append.1 hs with hs | hs
      · rw [List.eq_of_mem_replicate hs]
      · rw [List.eq_of_mem_replicate hs]
    rw [decide_eq_true_eq, htime]
    omega
  have hlength : samples.length = rate.den := by
    simp only [samples, List.length_append, List.length_replicate]
    omega
  have hsuccesses : (samples.filter fun s => s.success).length = n := by
    simp [samples]
  refine ⟨samples, ?_⟩
  rw [windowRate, hall, calculateRate, hlength, hsuccesses, if_neg rate.den_nz]
  have hcast : (n : ℚ) = rate.num := by exact_mod_cast hnum
  rw [hcast, Rat.num_div_den]

end Rates

variable {cfg now samples currentStatus}

/-- A card that is not blocked, or does badly enough to be, is judged as severely as it should be. -/
theorem HidesNothing.of_notRelieved (h : NotRelieved cfg now samples currentStatus) :
    HidesNothing cfg now samples currentStatus := by
  rcases lt_or_ge (windowRate cfg now samples) cfg.blockedThreshold with hb | hb
  · -- the card is judged blocked, and so is every card that does worse
    have hstatus : (SimHealth.evaluateDevice cfg now samples currentStatus).1 = .blocked :=
      status_of_blocked hb
    refine ⟨?_, ?_, fun now' samples' hworse => ?_⟩
    · rw [hstatus]
      cases currentStatus <;> decide
    · rw [hstatus, SimHealth.prescribed, if_pos hb]
    · rw [hstatus, status_of_blocked (lt_of_le_of_lt hworse hb)]
  · rcases lt_or_ge (windowRate cfg now samples) cfg.degradedThreshold with hd | hd
    · have hstatus : (SimHealth.evaluateDevice cfg now samples currentStatus).1 = .degraded :=
        status_of_between hb hd
      have hnot : currentStatus ≠ .blocked := fun hblocked => by
        rcases h hblocked with hlow | heq
        · exact not_lt.2 hb hlow
        · exact not_lt.2 hb (heq ▸ hd)
      refine ⟨?_, ?_, fun now' samples' hworse => ?_⟩
      · rw [hstatus]
        cases currentStatus with
        | blocked => exact absurd rfl hnot
        | _ => decide
      · rw [hstatus, SimHealth.prescribed, if_neg (not_lt.2 hb), if_pos hd]
      · rw [hstatus]
        rcases lt_or_ge (windowRate cfg now' samples') cfg.blockedThreshold with hb' | hb'
        · rw [status_of_blocked hb']
          decide
        · rw [status_of_between hb' (lt_of_le_of_lt hworse hd)]
    · have hstatus : (SimHealth.evaluateDevice cfg now samples currentStatus).1 = currentStatus :=
        status_of_good hb hd
      refine ⟨(congrArg severity hstatus).ge, ?_, fun now' samples' hworse => ?_⟩
      · rw [SimHealth.prescribed, if_neg (not_lt.2 hb), if_neg (not_lt.2 hd)]
        exact Nat.zero_le _
      · rw [hstatus]
        rcases lt_or_ge (windowRate cfg now' samples') cfg.blockedThreshold with hb' | hb'
        · rw [status_of_blocked hb']
          cases currentStatus <;> decide
        · rcases lt_or_ge (windowRate cfg now' samples') cfg.degradedThreshold with hd' | hd'
          · rw [status_of_between hb' hd']
            cases currentStatus with
            | blocked =>
              rcases h rfl with hlow | heq
              · exact absurd hlow (not_lt.2 hb)
              · exact absurd hd' (not_lt.2 (heq ▸ hb'))
            | _ => decide
          · rw [status_of_good hb' hd']

/-- **Which judgements hide nothing.** -/
theorem hidesNothing_iff (h₀ : 0 ≤ cfg.blockedThreshold)
    (hle : cfg.blockedThreshold ≤ cfg.degradedThreshold) (h₁ : cfg.degradedThreshold ≤ 1) :
    HidesNothing cfg now samples currentStatus ↔ NotRelieved cfg now samples currentStatus := by
  refine ⟨fun h hblocked => ?_, HidesNothing.of_notRelieved⟩
  subst hblocked
  by_contra hnot
  obtain ⟨hb, hne⟩ := not_or.1 hnot
  have hb : cfg.blockedThreshold ≤ windowRate cfg now samples := not_lt.1 hb
  have hlt : cfg.blockedThreshold < cfg.degradedThreshold := lt_of_le_of_ne hle hne
  rcases lt_or_ge (windowRate cfg now samples) cfg.degradedThreshold with hd | hd
  · have hcurrent := h.current
    rw [status_of_between hb hd] at hcurrent
    exact absurd hcurrent (by decide)
  · -- a card at the lower threshold is judged less severely
    obtain ⟨samples', hrate⟩ := exists_windowRate_eq cfg now h₀ (hle.trans h₁)
    have hmonotone := h.monotone now samples' (hrate ▸ hb)
    rw [status_of_good hb hd, status_of_between (hrate ▸ le_rfl) (hrate ▸ hlt)] at hmonotone
    exact absurd hmonotone (by decide)

/-- Judgements of cards that are not blocked hide nothing, with the default thresholds. -/
theorem hidesNothing_degraded : HidesNothing .default 0 [⟨0, true⟩, ⟨0, false⟩] .degraded := by
  refine (hidesNothing_iff ?_ ?_ ?_).2 nofun
  · norm_num [SIMHealthConfig.default]
  · norm_num [SIMHealthConfig.default]
  · norm_num [SIMHealthConfig.default]

/-- A blocked card, of which every second message is delivered, is judged degraded. -/
theorem blocked_relieved : ¬ HidesNothing .default 0 [⟨0, true⟩, ⟨0, false⟩] .blocked := by
  intro h
  exact absurd h.current (by decide +kernel)

end AeroxeBee.Dispatch.SimHealth
