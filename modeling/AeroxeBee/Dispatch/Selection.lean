import AeroxeBee.Dispatch.Acknowledged
import AeroxeBee.Dispatch.Fleet
import AeroxeBee.Foundations.Ranking

/-!
# The devices with the best scores

Each device that passes the gates is scored once, with a random number of its own, and the best ones
are kept. How the library sorts a long list is not known; it is documented that it permutes the list,
and that no score comes before a greater one. The selection is followed here for every such sort.

* `filterAndScoreBy_top`: what is selected are the best of the scores;
* `filterAndScoreBy_clearWinner`: the random numbers cannot overturn a clear advantage.
-/

namespace AeroxeBee.Dispatch.Selector

open Foundations

/-! ## The selection for any sort -/

/-- What is documented of the sort: it permutes the list, and no score comes before a greater one. -/
structure Sorts (sort : List ScoredDevice → List ScoredDevice) : Prop where
  perm : ∀ scored, (sort scored).Perm scored
  sorted : ∀ scored, (sort scored).Pairwise fun a b => b.totalScore ≤ a.totalScore

variable (sort : List ScoredDevice → List ScoredDevice)

/-- The devices with the best scores. -/
def selectDevicesBy (devices : List Device) (strategy : RoutingStrategy)
    (costMap : List (String × ℚ)) (recipientCountry : String) (limit : ℕ) :
    ServerProg (List ScoredDevice) := do
  let scored ← scoreDevices strategy costMap recipientCountry devices
  return (sort scored).take limit

/-- The best devices among those that pass the gates. -/
def filterAndScoreBy (devices : List Device) (opts : DeviceOptions) (costMap : List (String × ℚ)) :
    ServerProg (List ScoredDevice) :=
  if (devices.filter opts.admits).length = 0 then return []
  else
    selectDevicesBy sort (devices.filter opts.admits) opts.strategy costMap opts.recipientCountry
      opts.maxResults

/-- The sort for short lists. -/
def insertion (scored : List ScoredDevice) : List ScoredDevice :=
  scored.insertionSort fun a b => b.totalScore ≤ a.totalScore

theorem insertion_sorts : Sorts insertion where
  perm scored := List.perm_insertionSort _ scored
  sorted scored := by
    have htotal : Std.Total fun a b : ScoredDevice => b.totalScore ≤ a.totalScore :=
      ⟨fun a b => le_total b.totalScore a.totalScore⟩
    have htrans : IsTrans ScoredDevice fun a b => b.totalScore ≤ a.totalScore :=
      ⟨fun _ _ _ hab hbc => hbc.trans hab⟩
    exact List.pairwise_insertionSort _ scored

/-- With a short list the devices are sorted by insertion. -/
theorem filterAndScoreBy_insertion :
    filterAndScoreBy insertion = filterAndScore := rfl

/-! ## The scores -/

/-- The strategy-weighted sum for a device, before it is moved. -/
def weightedSum (device : Device) (strategy : RoutingStrategy) (costPerSMS : ℚ)
    (recipientCountry : String) : ℚ :=
  let strat := (strategies strategy).getD ⟨1 / 2, 1 / 5, 1 / 10, 1 / 10, 1 / 10⟩
  device.reliabilityScore * strat.reliabilityWeight +
    device.reputationScore * strat.reputationWeight +
    max 0 (1 - costPerSMS / (1 / 10)) * strat.costWeight +
    max 0 (1 - device.avgLatencyMs / 10000) * strat.latencyWeight +
    (if recipientCountry = "" then 1 / 2
      else if device.countryCode = recipientCountry then 1
      else 3 / 10) * strat.geoPreferenceWeight

/-- The score of a device is its weighted sum with the jitter. -/
theorem totalScore_scoreDevice (device : Device) (strategy : RoutingStrategy) (costPerSMS : ℚ)
    (recipientCountry : String) (random : UnitFloat) :
    (scoreDevice device strategy costPerSMS recipientCountry random).totalScore =
      weightedSum device strategy costPerSMS recipientCountry * jitter random := rfl

variable (opts : DeviceOptions) (costMap : List (String × ℚ))

/-- The score of a device. -/
def scored (device : Device) (random : UnitFloat) : ScoredDevice :=
  scoreDevice device opts.strategy ((costMap.lookup device.id).getD 0) opts.recipientCountry random

/-- The score of a device before it is moved. -/
def base (device : Device) : ℚ :=
  weightedSum device opts.strategy ((costMap.lookup device.id).getD 0) opts.recipientCountry

/-- The random numbers of a run. -/
def draws (evs : List (Event ServerCmd)) : List UnitFloat :=
  evs.filterMap fun
    | ⟨.rand, random⟩ => some random
    | _ => none

variable {σ : Type} (M : Sem ServerCmd σ)

/-- Each device is scored once, with a random number of its own. -/
theorem exec_scoreDevices (devices : List Device) (w : σ) :
    let o := (scoreDevices opts.strategy costMap opts.recipientCountry devices).exec M w
    (draws o.trace).length = devices.length ∧
      o.val = devices.zipWith (scored opts costMap) (draws o.trace) := by
  induction devices generalizing w with
  | nil => exact ⟨rfl, rfl⟩
  | cons d ds ih =>
    intro o
    let random := (M.step .rand w).1
    let rest := (scoreDevices opts.strategy costMap opts.recipientCountry ds).exec M (M.step .rand w).2
    have hval : o.val = scored opts costMap d random :: rest.val := by
      simp only [o, scoreDevices, Prog.call_bind, Prog.exec_act, Prog.exec_bind]
      rfl
    have htrace : draws o.trace = random :: draws rest.trace := by
      simp only [o, scoreDevices, Prog.call_bind, Prog.exec_act, Prog.exec_bind]
      simp [draws, random, rest]
    obtain ⟨hlength, hrest⟩ := ih (M.step .rand w).2
    rw [hval, htrace]
    exact ⟨congrArg (· + 1) hlength, congrArg (scored opts costMap d random :: ·) hrest⟩

/-! ## What is selected -/

/-- **A correct selection**: each device that passes the gates is scored once, and the best ones of
the scores are selected, as many as there are up to the limit, in descending order. -/
structure Selected (devices : List Device) (random : List UnitFloat) (chosen : List ScoredDevice) :
    Prop where
  drawn : random.length = (devices.filter opts.admits).length
  once : ((devices.filter opts.admits).zipWith (scored opts costMap) random).map
    ScoredDevice.device = devices.filter opts.admits
  length : chosen.length = min opts.maxResults (devices.filter opts.admits).length
  top : IsTop ScoredDevice.totalScore opts.maxResults
    ((devices.filter opts.admits).zipWith (scored opts costMap) random) chosen

theorem map_device_zipWith (devices : List Device) {random : List UnitFloat}
    (h : random.length = devices.length) :
    (devices.zipWith (scored opts costMap) random).map ScoredDevice.device = devices := by
  have hdevice : (fun d r => (scored opts costMap d r).device) = fun d _ => d := rfl
  rw [List.map_zipWith, hdevice, ← List.map_uncurry_zip_eq_zipWith]
  exact List.map_fst_zip h.ge

section Selected

variable {sort opts}

/-- What is selected are the best of the scores. -/
theorem filterAndScoreBy_top (hsort : Sorts sort) (devices : List Device) (w : σ) :
    let o := (filterAndScoreBy sort devices opts costMap).exec M w
    (draws o.trace).length = (devices.filter opts.admits).length ∧
      IsTop ScoredDevice.totalScore opts.maxResults
        ((devices.filter opts.admits).zipWith (scored opts costMap) (draws o.trace)) o.val := by
  intro o
  by_cases hempty : (devices.filter opts.admits).length = 0
  · have ho : o = ⟨[], w, []⟩ := by
      simp only [o, filterAndScoreBy, if_pos hempty]
      rfl
    rw [ho, List.length_eq_zero_iff.1 hempty]
    have htop : IsTop ScoredDevice.totalScore opts.maxResults [] (List.take opts.maxResults []) :=
      isTop_take (List.Perm.refl []) List.Pairwise.nil opts.maxResults
    rw [List.take_nil] at htop
    exact ⟨rfl, htop⟩
  · obtain ⟨hdrawn, hval⟩ := exec_scoreDevices opts costMap M (devices.filter opts.admits) w
    have ho : o.trace = ((scoreDevices opts.strategy costMap opts.recipientCountry
        (devices.filter opts.admits)).exec M w).trace ∧ o.val =
          (sort ((scoreDevices opts.strategy costMap opts.recipientCountry
            (devices.filter opts.admits)).exec M w).val).take opts.maxResults := by
      simp only [o, filterAndScoreBy, if_neg hempty, selectDevicesBy, Prog.exec_bind]
      exact ⟨List.append_nil _, rfl⟩
    rw [ho.1, ho.2, hval]
    exact ⟨hdrawn, isTop_take (hsort.perm _) (hsort.sorted _) opts.maxResults⟩

/-- **The selection is correct**, whatever the random numbers are. -/
theorem filterAndScoreBy_selected (hsort : Sorts sort) (devices : List Device) (w : σ) :
    let o := (filterAndScoreBy sort devices opts costMap).exec M w
    Selected opts costMap devices (draws o.trace) o.val := by
  intro o
  obtain ⟨hdrawn, htop⟩ := filterAndScoreBy_top costMap M hsort devices w
  refine ⟨hdrawn, map_device_zipWith opts costMap _ hdrawn, ?_, htop⟩
  rw [htop.length, List.length_zipWith, hdrawn, min_self]

end Selected

/-- The only device is selected, whatever its score is. -/
theorem filterAndScore_onlyPhone :
    let o := (filterAndScoreBy insertion [phone] (routingOptions greeting) []).exec
      (server .default) (onePhone [])
    Selected (routingOptions greeting) [] [phone] (draws o.trace) o.val :=
  filterAndScoreBy_selected [] (server .default) insertion_sorts [phone] (onePhone [])

/-! ## Clear winners -/

/-- **One device is ranked before another one**, which is never returned without it. -/
structure RankedBefore (winner other : Device) (chosen : List ScoredDevice) : Prop where
  before : ∀ (i j : ℕ) (a b : ScoredDevice), chosen[i]? = some a → chosen[j]? = some b →
    a.device = winner → b.device = other → i < j
  neverWithout : other ∈ chosen.map ScoredDevice.device → winner ∈ chosen.map ScoredDevice.device

section ClearWinner

variable {sort opts costMap} {winner other : Device}

/-- A clear advantage outweighs the random numbers. -/
theorem score_lt_of_clear (hpos : 0 < base opts costMap winner)
    (hclear : 105 / 100 * base opts costMap other ≤ 95 / 100 * base opts costMap winner)
    (random random' : UnitFloat) :
    (scored opts costMap other random).totalScore <
      (scored opts costMap winner random').totalScore := by
  change base opts costMap other * jitter random < base opts costMap winner * jitter random'
  have hwinner : 95 / 100 * base opts costMap winner ≤ base opts costMap winner * jitter random' := by
    rw [mul_comm (95 / 100 : ℚ)]
    exact mul_le_mul_of_nonneg_left (jitter_ge random') hpos.le
  rcases lt_or_ge 0 (base opts costMap other) with hother | hother
  · have hmoved : base opts costMap other * jitter random <
        base opts costMap other * (105 / 100) := mul_lt_mul_of_pos_left (jitter_lt random) hother
    linarith
  · -- a score that is not positive stays so
    have hjitter : 0 ≤ jitter random := le_trans (by norm_num) (jitter_ge random)
    have hmoved : base opts costMap other * jitter random ≤ 0 :=
      mul_nonpos_of_nonpos_of_nonneg hother hjitter
    linarith

/-- **The random numbers cannot overturn a clear advantage.** -/
theorem filterAndScoreBy_clearWinner (hsort : Sorts sort) {devices : List Device}
    (hmem : winner ∈ devices) (hadmits : opts.admits winner = true)
    (hpos : 0 < base opts costMap winner)
    (hclear : 105 / 100 * base opts costMap other ≤ 95 / 100 * base opts costMap winner) (w : σ) :
    RankedBefore winner other ((filterAndScoreBy sort devices opts costMap).exec M w).val := by
  obtain ⟨hdrawn, htop⟩ := filterAndScoreBy_top costMap M hsort devices w
  have honce := map_device_zipWith opts costMap (devices.filter opts.admits) hdrawn
  generalize draws ((filterAndScoreBy sort devices opts costMap).exec M w).trace = random at hdrawn htop honce
  generalize ((filterAndScoreBy sort devices opts costMap).exec M w).val = chosen at htop ⊢
  -- every score is that of its device, with some random number
  have hscored {s : ScoredDevice} (hs : s ∈ chosen) :
      ∃ r, s = scored opts costMap s.device r := by
    obtain ⟨rest, hperm, -⟩ := htop.rest
    have hall := hperm.mem_iff.1 (List.mem_append_left rest hs)
    rw [← List.map_uncurry_zip_eq_zipWith] at hall
    obtain ⟨⟨d, r⟩, -, rfl⟩ := List.mem_map.1 hall
    exact ⟨r, rfl⟩
  constructor
  · intro i j a b hi hj ha hb
    obtain ⟨r, hra⟩ := hscored (List.mem_of_getElem? hi)
    obtain ⟨r', hrb⟩ := hscored (List.mem_of_getElem? hj)
    rw [ha] at hra
    rw [hb] at hrb
    refine index_lt_of_key_lt htop.sorted hi hj ?_
    rw [hra, hrb]
    exact score_lt_of_clear hpos hclear r' r
  · intro hother
    obtain ⟨b, hb, hdevice⟩ := List.mem_map.1 hother
    obtain ⟨r', hrb⟩ := hscored hb
    have hwinner : winner ∈ devices.filter opts.admits := List.mem_filter.2 ⟨hmem, hadmits⟩
    rw [← honce, ← List.map_uncurry_zip_eq_zipWith, List.map_map] at hwinner
    obtain ⟨⟨d, r⟩, hzip, rfl⟩ := List.mem_map.1 hwinner
    refine List.mem_map.2 ⟨scored opts costMap d r, htop.mem_of_key_lt ?_ hb ?_, rfl⟩
    · rw [← List.map_uncurry_zip_eq_zipWith]
      exact List.mem_map_of_mem (f := Function.uncurry (scored opts costMap)) hzip
    · rw [hrb, hdevice]
      exact score_lt_of_clear hpos hclear r' r

end ClearWinner

/-- A device of which nothing good is known. -/
def discredited : Device :=
  { phone with
    id := "device-2"
    reliabilityScore := 0
    reputationScore := 0
    avgLatencyMs := 10000 }

/-- The random numbers cannot put the device of which nothing good is known first. -/
theorem phone_before_discredited : RankedBefore phone discredited
    ((filterAndScoreBy insertion [discredited, phone] (routingOptions greeting) []).exec
      (server .default) (onePhone [])).val :=
  filterAndScoreBy_clearWinner (server .default) insertion_sorts (by simp) (by decide)
    (by decide +kernel) (by decide +kernel) (onePhone [])

end AeroxeBee.Dispatch.Selector
