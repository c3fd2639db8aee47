import AeroxeBee.Dispatch.SimHealth

/-!
# Forgetting old outcomes

The engine forgets the outcomes that are older than the longer of its two windows. What it answers
depends on the outcomes in a window only, and the clock does not go back. So nothing shows whether it
has forgotten any.

* `SameFrom`: two histories that differ in outcomes before some time only;
* `results_without_cleanup`: the answers of all calls, with and without the cleanups between them.
-/

namespace AeroxeBee.Dispatch.SimHealth

/-! ## Calls -/

/-- What is asked of the engine. -/
inductive EngineCall where
  | recordDelivery (deviceID : String) (success : Bool)
  | evaluateDevice (deviceID : String) (currentStatus : SIMHealthStatus)
  | getDeliveryRate (deviceID : String)
  | cleanup
deriving DecidableEq

/-- A call with the time at which it reads the clock, and at which it does so again if it looks at
both windows. -/
structure TimedCall where
  call : EngineCall
  now : ℤ
  later : ℤ
  ordered : now ≤ later

/-- What a call answers: a status with a slope, or a rate with a number of outcomes. -/
inductive EngineResult where
  | judged (status : SIMHealthStatus) (trendSlope : ℚ)
  | rate (rate : ℚ) (samples : ℕ)
deriving DecidableEq

variable (cfg : SIMHealthConfig)

/-- The judgement of a device, with a reading of the clock for each of the windows. -/
def evaluateDeviceAt (now later : ℤ) (samples : List DeliverySample)
    (currentStatus : SIMHealthStatus) : SIMHealthStatus × ℚ :=
  let shortRate := calculateRate (filterByDuration now samples cfg.windowDuration)
  let trendSlope := calculateTrend (filterByDuration later samples cfg.trendWindowDuration)
  let newStatus :=
    if shortRate < cfg.blockedThreshold then .blocked
    else if shortRate < cfg.degradedThreshold then .degraded
    else currentStatus
  (newStatus, trendSlope)

/-- Two readings of the same time are as good as one. -/
theorem evaluateDeviceAt_self (now : ℤ) (samples : List DeliverySample)
    (currentStatus : SIMHealthStatus) :
    evaluateDeviceAt cfg now now samples currentStatus =
      evaluateDevice cfg now samples currentStatus := rfl

/-- The rate in the window, and the number of outcomes there. -/
def getDeliveryRate (now : ℤ) (samples : List DeliverySample) : ℚ × ℕ :=
  let samples := filterByDuration now samples cfg.windowDuration
  if samples.length = 0 then (0, 0) else (calculateRate samples, samples.length)

namespace TimedCall

/-- The history after a call. -/
def next (c : TimedCall) (history : DeliveryHistory) : DeliveryHistory :=
  match c.call with
  | .recordDelivery deviceID success => recordDelivery c.now history deviceID success
  | .cleanup => cleanup cfg c.now history
  | _ => history

/-- The answer of a call. -/
def answer (c : TimedCall) (history : DeliveryHistory) : Option EngineResult :=
  match c.call with
  | .evaluateDevice deviceID currentStatus =>
    let r := evaluateDeviceAt cfg c.now c.later (history deviceID) currentStatus
    some (.judged r.1 r.2)
  | .getDeliveryRate deviceID =>
    let r := getDeliveryRate cfg c.now (history deviceID)
    some (.rate r.1 r.2)
  | _ => none

end TimedCall

/-- The answers of some calls, one after the other. -/
def results : DeliveryHistory → List TimedCall → List EngineResult
  | _, [] => []
  | history, c :: calls => (c.answer cfg history).toList ++ results (c.next cfg history) calls

/-! ## Histories that differ in what is old -/

/-- The histories have the same outcomes after a time. -/
def SameFrom (cutoff : ℤ) (history history' : DeliveryHistory) : Prop :=
  ∀ deviceID, ∀ t, cutoff ≤ t →
    (history deviceID).filter (fun s => t < s.timestamp) =
      (history' deviceID).filter fun s => t < s.timestamp

variable {cfg} {cutoff cutoff' now : ℤ} {history history' : DeliveryHistory} {c : TimedCall}

theorem SameFrom.refl (history : DeliveryHistory) : SameFrom cutoff history history :=
  fun _ _ _ => rfl

theorem SameFrom.mono (h : SameFrom cutoff history history') (hle : cutoff ≤ cutoff') :
    SameFrom cutoff' history history' :=
  fun deviceID t ht => h deviceID t (hle.trans ht)

/-- A window that begins after the time has the same outcomes. -/
theorem SameFrom.filterByDuration (h : SameFrom cutoff history history') {duration : ℤ}
    (hcutoff : cutoff ≤ now - duration) (deviceID : String) :
    filterByDuration now (history deviceID) duration =
      filterByDuration now (history' deviceID) duration :=
  h deviceID (now - duration) hcutoff

theorem SameFrom.recordDelivery (h : SameFrom cutoff history history') (deviceID : String)
    (success : Bool) : SameFrom cutoff (recordDelivery now history deviceID success)
      (recordDelivery now history' deviceID success) := by
  intro device t ht
  unfold SimHealth.recordDelivery
  by_cases hdevice : device = deviceID
  · subst hdevice
    rw [Function.update_self, Function.update_self, List.filter_append, List.filter_append,
      h device t ht]
  · rw [Function.update_of_ne hdevice, Function.update_of_ne hdevice, h device t ht]

/-- What a cleanup forgets lies before the longer window. -/
theorem SameFrom.cleanup (h : SameFrom cutoff history history')
    (hcutoff : cutoff ≤ now - cfg.trendWindowDuration) :
    SameFrom (now - cfg.trendWindowDuration) history (cleanup cfg now history') := by
  intro deviceID t ht
  rw [h deviceID t (hcutoff.trans ht), SimHealth.cleanup, SimHealth.filterByDuration,
    List.filter_filter]
  refine List.filter_congr fun s _ => ?_
  rw [← Bool.decide_and]
  exact decide_eq_decide.2 ⟨fun hs => ⟨hs, ht.trans_lt hs⟩, And.left⟩

/-- Calls answer the same on histories that have the same outcomes in the windows. -/
theorem SameFrom.answer (h : SameFrom cutoff history history')
    (hwindow : cfg.windowDuration ≤ cfg.trendWindowDuration)
    (hcutoff : cutoff ≤ c.now - cfg.trendWindowDuration) :
    c.answer cfg history = c.answer cfg history' := by
  have hordered := c.ordered
  have hshort (deviceID : String) :
      SimHealth.filterByDuration c.now (history deviceID) cfg.windowDuration =
        SimHealth.filterByDuration c.now (history' deviceID) cfg.windowDuration :=
    h.filterByDuration (by omega) deviceID
  have hlong (deviceID : String) :
      SimHealth.filterByDuration c.later (history deviceID) cfg.trendWindowDuration =
        SimHealth.filterByDuration c.later (history' deviceID) cfg.trendWindowDuration :=
    h.filterByDuration (by omega) deviceID
  unfold TimedCall.answer
  cases c.call with
  | recordDelivery deviceID success => rfl
  | evaluateDevice deviceID currentStatus =>
    simp only [evaluateDeviceAt, hshort deviceID, hlong deviceID]
  | getDeliveryRate deviceID => simp only [getDeliveryRate, hshort deviceID]
  | cleanup => rfl

/-- A call that is no cleanup keeps the histories the same. -/
theorem SameFrom.next (h : SameFrom cutoff history history') (hcall : c.call ≠ .cleanup) :
    SameFrom cutoff (c.next cfg history) (c.next cfg history') := by
  unfold TimedCall.next
  cases hc : c.call with
  | recordDelivery deviceID success => exact h.recordDelivery deviceID success
  | cleanup => exact absurd hc hcall
  | _ => exact h

/-- Leaving out the cleanups changes no answer, from histories that have the same outcomes in the
windows of all calls. -/
theorem SameFrom.results (hwindow : cfg.windowDuration ≤ cfg.trendWindowDuration)
    {calls : List TimedCall} (hordered : calls.Pairwise fun c c' => c.later ≤ c'.now)
    (h : SameFrom cutoff history history')
    (hcutoff : ∀ c ∈ calls, cutoff ≤ c.now - cfg.trendWindowDuration) :
    results cfg history (calls.filter fun c => c.call ≠ .cleanup) =
      results cfg history' calls := by
  induction calls generalizing cutoff history history' with
  | nil => rfl
  | cons c calls ih =>
    obtain ⟨hlater, hordered⟩ := List.pairwise_cons.1 hordered
    have hc := hcutoff c List.mem_cons_self
    by_cases hcall : c.call = .cleanup
    · have hanswer : c.answer cfg history' = none := by
        unfold TimedCall.answer
        rw [hcall]
      have hnext : c.next cfg history' = SimHealth.cleanup cfg c.now history' := by
        unfold TimedCall.next
        rw [hcall]
      rw [List.filter_cons_of_neg (by simpa using hcall), SimHealth.results, hanswer, hnext]
      refine ih hordered (h.cleanup hc) fun c' hc' => ?_
      have hnow := c.ordered.trans (hlater c' hc')
      omega
    · rw [List.filter_cons_of_pos (by simpa using hcall), SimHealth.results, SimHealth.results,
        h.answer hwindow hc]
      congr 1
      exact ih hordered (h.next hcall) fun c' hc' => hcutoff c' (List.mem_cons_of_mem c hc')

/-- **Nothing shows whether the engine has forgotten outcomes**, if its shorter window is not the
longer one and the clock does not go back. -/
theorem results_without_cleanup (hwindow : cfg.windowDuration ≤ cfg.trendWindowDuration)
    (calls : List TimedCall) (hordered : calls.Pairwise fun c c' => c.later ≤ c'.now)
    (history : DeliveryHistory) :
    results cfg history (calls.filter fun c => c.call ≠ .cleanup) = results cfg history calls := by
  cases calls with
  | nil => rfl
  | cons c calls =>
    have hsame : SameFrom (c.now - cfg.trendWindowDuration) history history := SameFrom.refl history
    refine SameFrom.results hwindow hordered hsame fun c' hc' => ?_
    rcases List.mem_cons.1 hc' with rfl | hc'
    · exact le_rfl
    · have hnow := c.ordered.trans ((List.pairwise_cons.1 hordered).1 c' hc')
      omega

/-- A failure is recorded, forgotten after three hours, and the device is judged. -/
def threeHours : List TimedCall :=
  [⟨.recordDelivery "device-1" false, 0, 0, le_rfl⟩, ⟨.cleanup, 10800000000000, 10800000000000, le_rfl⟩,
    ⟨.evaluateDevice "device-1" .healthy, 10800000000000, 10800000000001, by decide⟩]

/-- The device is judged as if the failure had not been forgotten. -/
theorem results_threeHours :
    results .default (fun _ => []) (threeHours.filter fun c => c.call ≠ .cleanup) =
      results .default (fun _ => []) threeHours :=
  results_without_cleanup (by decide) threeHours (by decide) _

end AeroxeBee.Dispatch.SimHealth
