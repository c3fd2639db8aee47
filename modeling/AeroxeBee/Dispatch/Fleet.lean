import AeroxeBee.Dispatch.Expired
import AeroxeBee.Dispatch.Sticky
import AeroxeBee.Foundations.Protocol
import Mathlib.Tactic.Linarith
import Mathlib.Tactic.Positivity

/-!
# The devices that are compared

The candidates for a message are chosen in two steps. A query keeps the ten devices with the best
reliability and reputation, and the selector scores these by the strategy of the message, moves
each score by at most a twentieth, and keeps the best three. So a device that the query cuts off is
not compared at all, however good it is under the strategy.

* `chosen_of_candidates`: whatever the random numbers are, the candidates are the best of the
  devices that the query kept;
* `optimal_iff`: no device that is better by more than the random factor can account for is missing
  from the candidates of a message, exactly if the query never cuts off one that is better by so
  much than a device that can come first, or the message is blocked for its content.
-/

namespace AeroxeBee.Dispatch

open Foundations

/-! ## Scores -/

/-- The random number that leaves a score as it is. -/
def midway : UnitFloat := ⟨1 / 2, by norm_num, by norm_num⟩

/-- The factor by which a random number moves a score. -/
def jitter (random : UnitFloat) : ℚ := 1 + (random.val * (1 / 10) - 1 / 20)

theorem jitter_ge (random : UnitFloat) : 95 / 100 ≤ jitter random := by
  have hnonneg := random.nonneg
  unfold jitter
  linarith

theorem jitter_lt (random : UnitFloat) : jitter random < 105 / 100 := by
  have hlt := random.lt_one
  unfold jitter
  linarith

variable (db : Database) (msg : QueueMessage)

/-- What a message that a device sends costs. -/
def costOf (deviceID : String) : ℚ :=
  match db.costProfiles.find? (·.deviceID = deviceID) with
  | some p => p.simCostPerSMS * p.regionCostMultiplier
  | none => 1 / 100

/-- A device scored for a message. -/
def scoreOf (d : Device) (random : UnitFloat) : ScoredDevice :=
  Selector.scoreDevice d msg.routingStrategy (costOf db d.id) (detectCountryFromPhone msg.recipient)
    random

/-- The score of a device for a message, before it is moved. -/
def baseScore (d : Device) : ℚ := (scoreOf db msg d midway).totalScore

@[simp]
theorem scoreOf_device (d : Device) (random : UnitFloat) : (scoreOf db msg d random).device = d :=
  rfl

theorem scoreOf_totalScore (d : Device) (random : UnitFloat) :
    (scoreOf db msg d random).totalScore = baseScore db msg d * jitter random := by
  have hmidway : (1 : ℚ) + (midway.val * (1 / 10) - 1 / 20) = 1 := by norm_num [midway]
  simp only [baseScore, scoreOf, Selector.scoreDevice, jitter, hmidway, mul_one]

/-- The weights of the strategies are not negative, and each of them values the place of a device. -/
theorem strategies_weights (name : RoutingStrategy) :
    let s := (strategies name).getD ⟨1 / 2, 1 / 5, 1 / 10, 1 / 10, 1 / 10⟩
    0 ≤ s.reliabilityWeight ∧ 0 ≤ s.reputationWeight ∧ 0 ≤ s.costWeight ∧ 0 ≤ s.latencyWeight ∧
      0 < s.geoPreferenceWeight := by
  unfold strategies
  split_ifs <;> norm_num

/-- A device without a negative score of its own has a positive one for every message. -/
theorem baseScore_pos {d : Device} (hreliability : 0 ≤ d.reliabilityScore)
    (hreputation : 0 ≤ d.reputationScore) : 0 < baseScore db msg d := by
  obtain ⟨h₁, h₂, h₃, h₄, h₅⟩ := strategies_weights msg.routingStrategy
  have hmidway : (1 : ℚ) + (midway.val * (1 / 10) - 1 / 20) = 1 := by norm_num [midway]
  simp only [baseScore, scoreOf, Selector.scoreDevice, hmidway, mul_one]
  have hgeo : (0 : ℚ) < if detectCountryFromPhone msg.recipient = "" then 1 / 2
      else if d.countryCode = detectCountryFromPhone msg.recipient then 1 else 3 / 10 := by
    split_ifs <;> norm_num
  have hlatency : (0 : ℚ) ≤ max 0 (1 - d.avgLatencyMs / 10000) := le_max_left _ _
  have hcost : (0 : ℚ) ≤ max 0 (1 - costOf db d.id / (1 / 10)) := le_max_left _ _
  positivity

/-! ## The fleet -/

/-- The devices of the account that may be used for the message. -/
def fleet : List Device := db.devices.filter (eligibility msg).admits

/-- The devices that the query keeps. -/
def queried : List Device :=
  ((fleet db msg).insertionSort fun a b => a.ranksBefore b).take (eligibility msg).limit

/-- **No better device is missing**: each device of the fleet whose base score is more than 1.05/0.95
times the one of the first candidate is a candidate. The score of the first candidate has to be
positive for this to mean anything. -/
def NoneMissing (scored : List ScoredDevice) : Prop :=
  ∀ first, scored.head? = some first → 0 < baseScore db msg first.device →
    ∀ d ∈ fleet db msg, 105 / 95 * baseScore db msg first.device < baseScore db msg d →
      d ∈ scored.map ScoredDevice.device

/-- The devices and what they cost stay as they are while the message is dispatched. -/
def FleetStays (w : World) : Prop :=
  ∀ t ∈ w.env, ∀ s : Shared, (t.others s).db.devices = s.db.devices ∧
    (t.others s).db.costProfiles = s.db.costProfiles

/-- **Routing is optimal**: whatever the random numbers, the faults, the counters and the time are. -/
def Optimal (cfg : Config) (scan : ContentScan) : Prop :=
  ∀ w : World, w.db = db → FleetStays w → ∀ scored,
    ((candidates scan msg).exec (server cfg) w).val = .ok scored → NoneMissing db msg scored

/-- The device can come first among those that the query keeps. -/
def CanLead (a : Device) : Prop :=
  a ∈ queried db msg ∧ 0 < baseScore db msg a ∧
    ∀ b ∈ queried db msg, 95 * baseScore db msg b < 105 * baseScore db msg a

/-- The query cuts off no device that is better, by more than the random factor can account for, than
one that can come first. -/
def CutsFairly : Prop :=
  ∀ a, CanLead db msg a → ∀ d ∈ fleet db msg, d ∉ queried db msg →
    baseScore db msg d ≤ 105 / 95 * baseScore db msg a

variable {db msg}

/-- The query of a small fleet cuts off nothing. -/
theorem cutsFairly_of_length_le (h : (fleet db msg).length ≤ 10) : CutsFairly db msg := by
  intro a _ d hd hcut
  refine absurd ?_ hcut
  rw [queried, List.take_of_length_le (by rwa [List.length_insertionSort]),
    List.mem_insertionSort]
  exact hd

/-! ## What the candidates are -/

/-- The devices are these, each scored with some random number. -/
def Scored (db : Database) (msg : QueueMessage) (ds : List Device) (all : List ScoredDevice) :
    Prop :=
  all.map ScoredDevice.device = ds ∧ ∀ s ∈ all, ∃ random, s = scoreOf db msg s.device random

/-- The three with the best scores. -/
def best (all : List ScoredDevice) : List ScoredDevice :=
  (all.insertionSort fun a b => b.totalScore ≤ a.totalScore).take 3

/-- The candidates are the best of the devices that the query keeps. -/
def Chosen (db : Database) (msg : QueueMessage) (scored : List ScoredDevice) : Prop :=
  ∃ all, Scored db msg (queried db msg) all ∧ scored = best all

/-- The statements about the fleet are answered from the tables. -/
def Told (db : Database) : Event ServerCmd → Prop
  | ⟨.db (.eligibleDevices opts), reply⟩ =>
    ∀ ds, reply = .ok ds → (Query.run db (.eligibleDevices opts)).1 = .ok ds
  | ⟨.db (.deviceCostProfile id), reply⟩ =>
    ∀ p, reply = .ok p → (Query.run db (.deviceCostProfile id)).1 = .ok p
  | _ => True

/-- The protocol of choosing devices, as the tables are. -/
def choosing (db : Database) : Protocol ServerCmd Unit where
  allows _ := fun e => Idle e
  expects := Told db
  next _ _ := ()

theorem idle_keeps_choosing {α : Type} {p : ServerProg α} (hp : p.Only Idle) :
    p.Keeps (choosing db) (fun _ _ => True) () :=
  Prog.keeps_of_only_forall hp (fun _ _ _ he => he) fun _ _ => trivial

/-- The costs that are fetched are those of the tables. -/
theorem getCostMap_keeps (ids : List String) :
    (getCostMap ids).Keeps (choosing db)
      (fun _ r => ∀ costMap, r = .ok costMap →
        ∀ id ∈ ids, costMap.lookup id = some (costOf db id)) () := by
  induction ids with
  | nil =>
    intro costMap _ id hid
    cases hid
  | cons id ids ih =>
    refine ⟨trivial, fun reply hreply => ?_⟩
    cases reply with
    | error text =>
      intro costMap h
      cases h
    | ok profile =>
      have hprofile : db.costProfiles.find? (·.deviceID = id) = profile :=
        Except.ok.inj (hreply profile rfl)
      refine ih.bind fun _ r hr => ?_
      cases r with
      | error text =>
        intro costMap h
        cases h
      | ok rest =>
        intro costMap h id' hid'
        cases h
        rw [List.lookup_cons]
        by_cases hsame : id' = id
        · subst hsame
          have hcost : costOf db id' = match profile with
              | some p => p.simCostPerSMS * p.regionCostMultiplier
              | none => 1 / 100 := by
            rw [costOf, hprofile]
          rw [beq_self_eq_true]
          exact congrArg some hcost.symm
        · have hrest := hr rest rfl id' ((List.mem_cons.1 hid').resolve_left hsame)
          rw [beq_eq_false_iff_ne.2 hsame]
          exact hrest

theorem scoreDevices_keeps {costMap : List (String × ℚ)} {ds : List Device}
    (hcosts : ∀ d ∈ ds, costMap.lookup d.id = some (costOf db d.id)) :
    (Selector.scoreDevices msg.routingStrategy costMap (detectCountryFromPhone msg.recipient)
        ds).Keeps (choosing db) (fun _ all => Scored db msg ds all) () := by
  induction ds with
  | nil => exact ⟨rfl, fun s hs => by cases hs⟩
  | cons d ds ih =>
    refine ⟨trivial, fun random _ => ?_⟩
    refine (ih fun d hd => hcosts d (List.mem_cons_of_mem _ hd)).bind fun _ all hall => ?_
    refine ⟨congrArg (d :: ·) hall.1, List.forall_mem_cons.2 ⟨⟨random, ?_⟩, hall.2⟩⟩
    rw [hcosts d List.mem_cons_self, Option.getD_some]
    rfl

/-- The devices that the query keeps pass the gates of the selector. -/
theorem filter_queried : (queried db msg).filter (routingOptions msg).admits = queried db msg := by
  refine List.filter_eq_self.2 fun d hd => ?_
  have hmem := (List.mem_insertionSort _).1 (List.mem_of_mem_take hd)
  have hadmits := (List.mem_filter.1 hmem).2
  simp only [DeviceFilterOptions.admits, eligibility, Bool.and_eq_true] at hadmits
  simp only [Selector.DeviceOptions.admits, routingOptions]
  grind

theorem filterAndScore_keeps {costMap : List (String × ℚ)}
    (hcosts : ∀ d ∈ queried db msg, costMap.lookup d.id = some (costOf db d.id)) :
    (Selector.filterAndScore (queried db msg) (routingOptions msg) costMap).Keeps (choosing db)
      (fun _ scored => Chosen db msg scored) () := by
  unfold Selector.filterAndScore
  rw [filter_queried]
  split_ifs with hempty
  · rw [List.length_eq_zero_iff] at hempty
    refine ⟨[], ⟨hempty.symm, fun s hs => by cases hs⟩, rfl⟩
  · exact (scoreDevices_keeps hcosts).bind fun _ all hall => ⟨all, hall, rfl⟩

/-- **What the candidates are.** -/
theorem candidates_keeps {scan : ContentScan} :
    (candidates scan msg).Keeps (choosing db)
      (fun _ r => ∀ scored, r = .ok scored → Chosen db msg scored) () := by
  refine ⟨trivial, fun accountOpen _ => ?_⟩
  cases accountOpen with
  | true =>
    intro scored h
    cases h
  | false =>
    refine (idle_keeps_choosing (analyze_idle _)).bind fun _ result _ => ?_
    change Prog.Keeps _ _ (ite _ _ _) _
    split_ifs
    · refine ⟨trivial, fun _ _ => ⟨trivial, fun _ _ => ⟨trivial, fun _ _ => ?_⟩⟩⟩
      intro scored h
      cases h
    · refine ⟨trivial, fun reply hreply => ?_⟩
      rcases reply with text | ds
      · intro scored h
        cases h
      · have hds : queried db msg = ds := Except.ok.inj (hreply ds rfl)
        subst hds
        cases hqueried : queried db msg with
        | nil =>
          intro scored h
          cases h
        | cons d ds =>
          refine (getCostMap_keeps ((d :: ds).map Device.id)).bind fun _ r hr => ?_
          cases r with
          | error text =>
            intro scored h
            cases h
          | ok costMap =>
            have hcosts : ∀ d' ∈ queried db msg,
                costMap.lookup d'.id = some (costOf db d'.id) := by
              intro d' hd'
              rw [hqueried] at hd'
              exact hr costMap rfl d'.id (List.mem_map_of_mem hd')
            rw [← hqueried]
            refine (filterAndScore_keeps hcosts).bind fun _ all hall => ?_
            change Prog.Keeps _ _ (ite _ _ _) _
            split_ifs
            · intro scored h
              cases h
            · intro scored h
              cases h
              exact hall

/-- The fleet is as it was. -/
def SameFleet (db : Database) (w : World) : Prop :=
  w.db.devices = db.devices ∧ w.db.costProfiles = db.costProfiles

theorem SameFleet.tick {w : World} (h : SameFleet db w) (hstays : FleetStays w) :
    SameFleet db w.tick := by
  unfold SameFleet World.tick World.next
  cases henv : w.env with
  | nil => exact h
  | cons t ts =>
    obtain ⟨hdevices, hcosts⟩ := hstays t (henv ▸ List.mem_cons_self) w.toShared
    exact ⟨hdevices.trans h.1, hcosts.trans h.2⟩

theorem FleetStays.step {cfg : Config} {β : Type} {w : World} (h : FleetStays w)
    (e : ServerCmd β) : FleetStays ((server cfg).step e w).2 := by
  intro t ht
  rw [step_env] at ht
  exact h t (List.mem_of_mem_tail ht)

/-- A statement about the fleet is answered as by the tables of the fleet. -/
theorem told_of_sameFleet {cfg : Config} {β : Type} {w : World} (h : SameFleet db w.tick)
    (e : ServerCmd β) : Told db ⟨e, ((server cfg).step e w).1⟩ := by
  cases e with
  | db q =>
    have hreply : ∀ b, ((server cfg).step (.db q) w).1 = .ok b → (q.run w.tick.db).1 = .ok b :=
      fun b hb => congrArg Prod.fst (run_of_ok hb)
    cases q with
    | eligibleDevices opts =>
      intro ds hds
      rw [← hreply ds hds]
      simp only [Query.run, h.1]
    | deviceCostProfile id =>
      intro profile hprofile
      rw [← hreply profile hprofile]
      simp only [Query.run, h.2]
    | _ => trivial
  | _ => trivial

/-- A command of the choice leaves the fleet alone. -/
theorem SameFleet.step {cfg : Config} {β : Type} {w : World} (h : SameFleet db w.tick)
    {e : ServerCmd β} (he : Idle e) : SameFleet db ((server cfg).step e w).2 := by
  unfold SameFleet
  rw [step_db]
  cases e with
  | db q =>
    rcases Fault.apply_snd w.next.fault id id (fun db => q.run db) w.tick.db with hr | hr
    · rw [ServerCmd.tables, hr]
      exact h
    · rw [ServerCmd.tables, hr]
      cases q with
      | eligibleDevices opts => exact h
      | deviceCostProfile id => exact h
      | incrementUsage accountID day =>
        have hcosts : (w.tick.db.countUsage accountID day).costProfiles =
            w.tick.db.costProfiles := by
          unfold Database.countUsage
          split_ifs <;> rfl
        exact ⟨(w.tick.db.countUsage_devices accountID day).trans h.1, hcosts.trans h.2⟩
      | _ => exact he.elim
  | _ => exact h

/-- In every run the candidates are the best of the devices that the query keeps. -/
theorem chosen_of_candidates {cfg : Config} {scan : ContentScan} {w : World} (hdb : w.db = db)
    (hstays : FleetStays w) {scored : List ScoredDevice}
    (h : ((candidates scan msg).exec (server cfg) w).val = .ok scored) : Chosen db msg scored := by
  have hstep : ∀ (s : Unit) {β : Type} (e : ServerCmd β) (w : World), Idle e →
      SameFleet db w ∧ FleetStays w → Told db ⟨e, ((server cfg).step e w).1⟩ ∧
        SameFleet db ((server cfg).step e w).2 ∧ FleetStays ((server cfg).step e w).2 := by
    intro _ β e w he hw
    have htick := hw.1.tick hw.2
    exact ⟨told_of_sameFleet htick e, htick.step he, hw.2.step e⟩
  have hstart : SameFleet db w ∧ FleetStays w := by
    refine ⟨?_, hstays⟩
    rw [← hdb]
    exact ⟨rfl, rfl⟩
  have hkeeps : (candidates scan msg).Keeps (choosing db)
    (fun _ r => ∀ scored, r = .ok scored → Chosen db msg scored) () := candidates_keeps
  have hrun := hkeeps.exec_of (M := server cfg)
    (I := fun w => SameFleet db w ∧ FleetStays w) hstep hstart
  obtain ⟨_, hchosen⟩ := hrun.1
  exact hchosen scored h

/-! ## Who can come first -/

section Order

variable {scored : List ScoredDevice} {leader : ScoredDevice}

instance totalScore_total :
    Std.Total fun a b : ScoredDevice => b.totalScore ≤ a.totalScore :=
  ⟨fun a b => le_total b.totalScore a.totalScore⟩

instance totalScore_trans :
    IsTrans ScoredDevice fun a b : ScoredDevice => b.totalScore ≤ a.totalScore :=
  ⟨fun _ _ _ hab hbc => hbc.trans hab⟩

/-- The first of the best is one of all, and no other has a better score. -/
theorem head?_best {all : List ScoredDevice} (h : (best all).head? = some leader) :
    leader ∈ all ∧ ∀ s ∈ all, s.totalScore ≤ leader.totalScore := by
  unfold best at h
  have hsorted := List.pairwise_insertionSort
    (fun a b : ScoredDevice => b.totalScore ≤ a.totalScore) all
  have hmem : ∀ s, s ∈ all.insertionSort (fun a b => b.totalScore ≤ a.totalScore) ↔ s ∈ all :=
    fun s => List.mem_insertionSort _
  generalize all.insertionSort (fun a b => b.totalScore ≤ a.totalScore) = sorted at h hsorted hmem
  cases sorted with
  | nil => cases h
  | cons s rest =>
    cases h
    refine ⟨(hmem leader).1 List.mem_cons_self, fun s hs => ?_⟩
    rcases List.mem_cons.1 ((hmem s).2 hs) with rfl | hrest
    · exact le_refl _
    · exact (List.pairwise_cons.1 hsorted).1 s hrest

/-- The first candidate is one of the devices that the query keeps, and no other has a better
score. -/
theorem Chosen.leads (h : Chosen db msg scored) (hleader : scored.head? = some leader) :
    leader.device ∈ queried db msg ∧ ∀ b ∈ queried db msg, ∃ random random',
      baseScore db msg b * jitter random ≤ baseScore db msg leader.device * jitter random' := by
  obtain ⟨all, ⟨hdevices, hscores⟩, rfl⟩ := h
  obtain ⟨hmem, hbest⟩ := head?_best hleader
  rw [← hdevices]
  refine ⟨List.mem_map_of_mem hmem, fun b hb => ?_⟩
  obtain ⟨s, hs, rfl⟩ := List.mem_map.1 hb
  obtain ⟨random, hrandom⟩ := hscores s hs
  obtain ⟨random', hrandom'⟩ := hscores leader hmem
  have hle := hbest s hs
  rw [hrandom, hrandom', scoreOf_totalScore, scoreOf_totalScore] at hle
  exact ⟨random, random', hle⟩

/-- Then it can come first. -/
theorem Chosen.canLead (h : Chosen db msg scored) (hleader : scored.head? = some leader)
    (hpos : 0 < baseScore db msg leader.device) : CanLead db msg leader.device := by
  obtain ⟨hmem, hbest⟩ := h.leads hleader
  refine ⟨hmem, hpos, fun b hb => ?_⟩
  obtain ⟨random, random', hle⟩ := hbest b hb
  have hlow := jitter_ge random
  have hhigh := mul_lt_mul_of_pos_left (jitter_lt random') hpos
  by_cases hb : baseScore db msg b ≤ 0
  · linarith
  · have hkept := mul_le_mul_of_nonneg_left hlow (not_le.1 hb).le
    linarith

end Order

/-- If the query cuts off no better device, none is missing. -/
theorem optimal_of_cutsFairly {cfg : Config} {scan : ContentScan} (h : CutsFairly db msg) :
    Optimal db msg cfg scan := by
  intro w hdb hstays scored hscored leader hleader hpos d hd hbetter
  have hlead := (chosen_of_candidates hdb hstays hscored).canLead hleader hpos
  by_cases hkept : d ∈ queried db msg
  · have hkept := hlead.2.2 d hkept
    linarith
  · have hcut := h leader.device hlead d hd hkept
    linarith

theorem optimal_of_blocked {cfg : Config} {scan : ContentScan} (h : Blocked scan msg) :
    Optimal db msg cfg scan := by
  intro w _ _ scored hscored
  obtain ⟨e, he⟩ := (candidates_of_blocked h).exec (server cfg) w
  rw [hscored] at he
  cases he

/-! ## How a device comes first -/

/-- There is a random number with which one device has a better score than some others at their
worst. -/
theorem exists_jitter {score : ℚ} (hpos : 0 < score) {others : List ℚ}
    (h : ∀ b ∈ others, 95 * b < 105 * score) :
    ∃ random : UnitFloat, ∀ b ∈ others, b * (95 / 100) < score * jitter random := by
  induction others with
  | nil => exact ⟨midway, by simp⟩
  | cons b others ih =>
    obtain ⟨random, hothers⟩ := ih fun b' hb' => h b' (List.mem_cons_of_mem _ hb')
    -- the random number at which the scores of the two are equal is below one
    have hlt : max random.val ((b * (95 / 100) / score - 95 / 100) * 10) < 1 := by
      refine max_lt random.lt_one ?_
      have hb := h b List.mem_cons_self
      have hdiv : b * (95 / 100) / score < 105 / 100 := by
        rw [div_lt_iff₀ hpos]
        linarith
      linarith
    obtain ⟨r, hlow, hhigh⟩ := exists_between hlt
    obtain ⟨hmore, hbeats⟩ := max_lt_iff.1 hlow
    refine ⟨⟨r, random.nonneg.trans hmore.le, hhigh⟩, List.forall_mem_cons.2 ⟨?_, ?_⟩⟩
    · have hfactor : b * (95 / 100) / score < jitter ⟨r, random.nonneg.trans hmore.le, hhigh⟩ := by
        simp only [jitter]
        linarith
      rw [div_lt_iff₀ hpos] at hfactor
      linarith
    · intro b' hb'
      refine (hothers b' hb').trans_le (mul_le_mul_of_nonneg_left ?_ hpos.le)
      simp only [jitter]
      linarith

/-- A server at rest with some tables, while its Redis is down. -/
def resting (db : Database) (env : List Tick) : World := ⟨{ unused "" with db := db }, 0, env⟩

/-- What a command can come to on the server at rest. -/
def Comes (db : Database) : Event ServerCmd → Prop
  | ⟨.now, now⟩ => now = 0
  | ⟨.rand, _⟩ => True
  | ⟨.isOpen _ _, isOpen⟩ => isOpen = false
  | ⟨.redis _, reply⟩ => reply = .error (.refused "connection refused")
  | ⟨.db q, reply⟩ => q.run db = (reply, db)
  | _ => False

/-- Each of these events comes about with the right tick. -/
theorem exists_tick {cfg : Config} {β : Type} (e : ServerCmd β) (b : β) (h : Comes db ⟨e, b⟩) :
    ∃ t : Tick, t.others = id ∧
      ∀ env, (server cfg).step e (resting db (t :: env)) = (b, resting db env) := by
  have htick : ∀ (t : Tick) (env : List Tick), t.others = id → t.elapsed = 0 →
      (resting db (t :: env)).tick = resting db env := by
    intro t env hothers helapsed
    simp [resting, World.tick, World.next, hothers, helapsed]
  have hstep : ∀ (t : Tick), t.others = id → t.elapsed = 0 →
      (∀ env, serve cfg t (resting db env) e = (b, resting db env)) →
      ∃ t : Tick, t.others = id ∧
        ∀ env, (server cfg).step e (resting db (t :: env)) = (b, resting db env) := by
    intro t hothers helapsed hserve
    refine ⟨t, hothers, fun env => ?_⟩
    change serve cfg t (resting db (t :: env)).tick e = _
    rw [htick t env hothers helapsed, hserve]
  cases e with
  | now =>
    cases h
    exact hstep .quiet rfl rfl fun env => rfl
  | rand => exact hstep { Tick.quiet with rand := b } rfl rfl fun env => rfl
  | isOpen scope scopeValue =>
    cases h
    refine hstep .quiet rfl rfl fun env => ?_
    have hopen : StateManager.isOpen (fun _ => some CircuitState.initial) 0 scope scopeValue =
        (false, fun _ => some CircuitState.initial) :=
      Prod.ext rfl (Function.update_eq_self (f := fun _ : String => some CircuitState.initial) _)
    change ((StateManager.isOpen (fun _ => some CircuitState.initial) 0 scope scopeValue).1,
      World.mk { unused "" with
        db := db
        breakers := (StateManager.isOpen (fun _ => some CircuitState.initial) 0 scope
          scopeValue).2 } 0 env) = _
    rw [hopen]
    rfl
  | redis e =>
    cases h
    exact hstep down rfl rfl fun env => rfl
  | db q =>
    have hq : q.run db = (b, db) := h
    refine hstep .quiet rfl rfl fun env => ?_
    change ((q.run db).1, World.mk { unused "" with db := (q.run db).2 } 0 env) = _
    rw [hq]
    rfl
  | _ => exact h.elim

section Draws

variable {scan : ContentScan} (draw : Device → UnitFloat)

/-- While Redis is down a message is judged by its content only. -/
theorem analyze_can (input : DetectionInput) :
    (Fraud.analyze scan input).Can (Comes db)
      fun r => r = Fraud.checkSensitiveContent scan input := by
  have hspam : (Fraud.checkOTPSpam input).Can (Comes db) fun r => ∃ e, r = .error e :=
    ⟨0, rfl, 0, rfl, _, rfl, _, rfl, _, rfl, _, rfl, _, rfl⟩
  have hlisted : (Fraud.checkRecipientBlacklist input.recipient).Can (Comes db)
      fun r => ∃ e, r = .error e :=
    ⟨_, rfl, _, rfl⟩
  have hvelocity : (Fraud.checkVelocityAnomaly input.accountID 0).Can (Comes db)
      fun r => ∃ e, r = .error e :=
    ⟨_, rfl, _, rfl⟩
  unfold Fraud.analyze
  refine hspam.bind fun _ hr => ?_
  obtain ⟨e, rfl⟩ := hr
  refine hlisted.bind fun _ hr => ?_
  obtain ⟨e, rfl⟩ := hr
  refine hvelocity.bind fun _ hr => ?_
  obtain ⟨e, rfl⟩ := hr
  rfl

/-- What can come is answered from the tables. -/
theorem told_of_comes (ev : Event ServerCmd) (h : Comes db ev) : Told db ev := by
  obtain ⟨e, b⟩ := ev
  cases e with
  | db q =>
    have hq : (q.run db).1 = b := congrArg Prod.fst h
    cases q with
    | eligibleDevices opts =>
      intro ds hds
      exact hq.trans hds
    | deviceCostProfile id =>
      intro profile hprofile
      exact hq.trans hprofile
    | _ => trivial
  | _ => trivial

theorem getCostMap_can (ids : List String) :
    (getCostMap ids).Can (Comes db) fun r => ∃ costMap, r = .ok costMap := by
  induction ids with
  | nil => exact ⟨[], rfl⟩
  | cons id ids ih =>
    refine ⟨_, rfl, ih.bind fun r hr => ?_⟩
    obtain ⟨costMap, rfl⟩ := hr
    exact ⟨_, rfl⟩

/-- The random numbers are drawn as they may be. -/
theorem scoreDevices_can {costMap : List (String × ℚ)} {ds : List Device}
    (hcosts : ∀ d ∈ ds, costMap.lookup d.id = some (costOf db d.id)) :
    (Selector.scoreDevices msg.routingStrategy costMap (detectCountryFromPhone msg.recipient)
        ds).Can (Comes db) fun all => all = ds.map fun d => scoreOf db msg d (draw d) := by
  induction ds with
  | nil => rfl
  | cons d ds ih =>
    refine ⟨draw d, trivial, ?_⟩
    refine (ih fun d hd => hcosts d (List.mem_cons_of_mem _ hd)).bind fun all hall => ?_
    subst hall
    rw [hcosts d List.mem_cons_self, Option.getD_some]
    rfl

theorem filterAndScore_can {costMap : List (String × ℚ)} (hne : queried db msg ≠ [])
    (hcosts : ∀ d ∈ queried db msg, costMap.lookup d.id = some (costOf db d.id)) :
    (Selector.filterAndScore (queried db msg) (routingOptions msg) costMap).Can (Comes db)
      fun scored => scored = best ((queried db msg).map fun d => scoreOf db msg d (draw d)) := by
  unfold Selector.filterAndScore
  rw [filter_queried, if_neg (by rwa [List.length_eq_zero_iff])]
  refine (scoreDevices_can draw hcosts).bind fun all hall => ?_
  subst hall
  rfl

/-- The candidates of a message whose content is not blocked, with such random numbers. -/
theorem candidates_can (hclean : ¬ Blocked scan msg) (hne : queried db msg ≠ []) :
    (candidates scan msg).Can (Comes db) fun r =>
      r = .ok (best ((queried db msg).map fun d => scoreOf db msg d (draw d))) := by
  have hclean : ¬ (Fraud.checkSensitiveContent scan
    ⟨msg.accountID, msg.recipient, msg.sender, msg.message⟩).flagged = true := hclean
  refine ⟨false, rfl, ?_⟩
  refine (analyze_can _).bind fun result hresult => ?_
  subst hresult
  change Prog.Can _ _ (ite _ _ _)
  rw [if_neg hclean]
  refine ⟨.ok (queried db msg), rfl, ?_⟩
  obtain ⟨d, ds, hqueried⟩ := List.exists_cons_of_ne_nil hne
  have hfetched : (getCostMap ((queried db msg).map Device.id)).Can (Comes db)
    fun r => ∃ costMap, r = .ok costMap := getCostMap_can _
  have hcosts := hfetched.and_keeps (getCostMap_keeps _) told_of_comes
  rw [hqueried] at hcosts ⊢
  refine hcosts.bind fun r hr => ?_
  obtain ⟨⟨costMap, rfl⟩, _, hlookup⟩ := hr
  rw [← hqueried] at hlookup ⊢
  have hcosts : ∀ d ∈ queried db msg, costMap.lookup d.id = some (costOf db d.id) :=
    fun d hd => hlookup costMap rfl d.id (List.mem_map_of_mem hd)
  refine (filterAndScore_can draw hne hcosts).bind fun scored hscored => ?_
  subst hscored
  have hlength : ¬ (best ((queried db msg).map fun d => scoreOf db msg d (draw d))).length = 0 := by
    rw [best, List.length_take, List.length_insertionSort, List.length_map, hqueried,
      List.length_cons]
    omega
  change Prog.Can _ _ (ite _ _ _)
  rw [if_neg hlength]
  rfl

end Draws

/-- The random number that lowers a score the most. -/
def unlucky : UnitFloat := ⟨0, le_refl 0, by norm_num⟩

theorem jitter_unlucky : jitter unlucky = 95 / 100 := by
  norm_num [jitter, unlucky]

theorem exists_leader {all : List ScoredDevice} (h : all ≠ []) :
    ∃ leader, (best all).head? = some leader := by
  have hlength : 0 < (best all).length := by
    rw [best, List.length_take, List.length_insertionSort]
    have hpos := List.length_pos_of_ne_nil h
    omega
  obtain ⟨s, rest, hbest⟩ := List.exists_cons_of_length_pos hlength
  exact ⟨s, by rw [hbest, List.head?_cons]⟩

/-- A device that can come first does so with a lucky random number, if all others are unlucky. -/
theorem exists_draw {a : Device} (ha : CanLead db msg a) :
    ∃ draw : Device → UnitFloat, ∀ leader,
      (best ((queried db msg).map fun d => scoreOf db msg d (draw d))).head? = some leader →
        leader.device = a := by
  obtain ⟨hmem, hpos, hbeats⟩ := ha
  have hworst : ∀ s ∈ (queried db msg).map (baseScore db msg), 95 * s < 105 * baseScore db msg a := by
    intro s hs
    obtain ⟨b, hb, rfl⟩ := List.mem_map.1 hs
    exact hbeats b hb
  obtain ⟨lucky, hlucky⟩ := exists_jitter hpos hworst
  refine ⟨Function.update (fun _ => unlucky) a lucky, fun leader hleader => ?_⟩
  obtain ⟨hleads, hbest⟩ := head?_best hleader
  obtain ⟨b, hb, rfl⟩ := List.mem_map.1 hleads
  by_contra hne
  have hle := hbest _ (List.mem_map_of_mem hmem)
  have hlt := hlucky _ (List.mem_map_of_mem hb)
  rw [scoreOf_device] at hne
  rw [scoreOf_totalScore, scoreOf_totalScore, Function.update_self, Function.update_of_ne hne,
    jitter_unlucky] at hle
  exact absurd hlt (not_lt.2 hle)

/-- **A device that the query cuts off is missing**, however good it is. -/
theorem not_optimal {cfg : Config} {scan : ContentScan} {a d : Device} (hclean : ¬ Blocked scan msg)
    (ha : CanLead db msg a) (hd : d ∈ fleet db msg) (hcut : d ∉ queried db msg)
    (hbetter : 105 / 95 * baseScore db msg a < baseScore db msg d) : ¬ Optimal db msg cfg scan := by
  intro hoptimal
  obtain ⟨draw, hdraw⟩ := exists_draw ha
  have hne : queried db msg ≠ [] := List.ne_nil_of_mem ha.1
  obtain ⟨env, henv, hval⟩ := (candidates_can draw hclean hne).exec (M := server cfg)
    (R := fun t : Tick => t.others = id) exists_tick
  have hstays : FleetStays (resting db env) := by
    intro t ht s
    rw [henv t ht]
    exact ⟨rfl, rfl⟩
  have hscored : (queried db msg).map (fun d => scoreOf db msg d (draw d)) ≠ [] := by
    simpa using hne
  obtain ⟨leader, hleader⟩ := exists_leader hscored
  have hdevice := hdraw leader hleader
  have hthere := hoptimal (resting db env) rfl hstays _ hval leader hleader
    (hdevice ▸ ha.2.1) d hd (hdevice ▸ hbetter)
  obtain ⟨s, hs, rfl⟩ := List.mem_map.1 hthere
  have hall := (List.mem_insertionSort _).1 (List.mem_of_mem_take hs)
  obtain ⟨b, hb, rfl⟩ := List.mem_map.1 hall
  exact hcut hb

/-- **When routing is optimal.** -/
theorem optimal_iff (db : Database) (msg : QueueMessage) (cfg : Config) (scan : ContentScan) :
    Optimal db msg cfg scan ↔ Blocked scan msg ∨ CutsFairly db msg := by
  constructor
  · intro hoptimal
    by_contra h
    push Not at h
    obtain ⟨hclean, hunfair⟩ := h
    unfold CutsFairly at hunfair
    push Not at hunfair
    obtain ⟨a, ha, d, hd, hcut, hbetter⟩ := hunfair
    exact not_optimal hclean ha hd hcut hbetter hoptimal
  · rintro (h | h)
    · exact optimal_of_blocked h
    · exact optimal_of_cutsFairly h

/-! ## Eleven devices -/

/-- A device in another country that is more reliable. -/
def abroad (n : ℕ) : Device :=
  { phone with
    id := "abroad-" ++ toString n
    physicalDeviceID := "abroad-" ++ toString n
    countryCode := "US"
    reliabilityScore := 3 / 5 }

/-- Ten such devices, and the one of the country of the recipient. -/
def elevenPhones : Database :=
  { (onePhone []).db with devices := phone :: (List.range 10).map abroad }

/-- A message that should go out in the country of its recipient. -/
def localGreeting : QueueMessage := { greeting with routingStrategy := .geoAffinity }

/-- The device in the country of the recipient is the best by far, and is cut off. -/
theorem elevenPhones_not_optimal :
    ¬ Optimal elevenPhones localGreeting .default noViolations := by
  have hclean : ¬ Blocked noViolations localGreeting := by
    intro h
    cases h
  have hlead : abroad 0 ∈ queried elevenPhones localGreeting ∧
      0 < baseScore elevenPhones localGreeting (abroad 0) ∧
        ∀ b ∈ queried elevenPhones localGreeting, 95 * baseScore elevenPhones localGreeting b <
          105 * baseScore elevenPhones localGreeting (abroad 0) := by
    decide +kernel
  have hcut : phone ∈ fleet elevenPhones localGreeting ∧
      phone ∉ queried elevenPhones localGreeting := by
    decide +kernel
  have hbetter : 105 / 95 * baseScore elevenPhones localGreeting (abroad 0) <
      baseScore elevenPhones localGreeting phone := by
    decide +kernel
  exact not_optimal hclean hlead hcut.1 hcut.2 hbetter

end AeroxeBee.Dispatch
