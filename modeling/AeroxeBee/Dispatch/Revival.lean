import AeroxeBee.Database

/-!
# Waking devices up

The background job pushes a notification to devices that are offline, once a minute. It remembers
when it last tried to wake a phone, does not try again for a quarter of an hour, and forgets what is
older than an hour.

* `attempts_apart`: no phone is tried twice within a quarter of an hour, and nothing that is forgotten
  makes a difference.
-/

namespace AeroxeBee.Dispatch.Revival

/-! ## The job -/

/-- The time for which a phone is left alone, in nanoseconds. -/
def revivalCooldown : ℤ := 15 * 60 * 1000000000

/-- The time for which an attempt is remembered. -/
def retention : ℤ := 60 * 60 * 1000000000

/-- When phones were last tried. -/
abbrev LastRevivalAttempt := String → Option ℤ

/-- What the surroundings contribute to a tick: two readings of the clock, the devices, the tokens
that are found for phones, and what becomes of the notifications. An error of the sender says whether
the token is invalid. -/
structure Tick where
  cleanup : ℤ
  devices : Except String (List Device)
  now : ℤ
  fcmToken : String → Except String String
  sendToDevice : String → String → Except Bool Unit

/-- What becomes of an attempt. -/
inductive Outcome where
  | noToken
  | pushed (fcmToken status : String)
deriving DecidableEq

/-- An attempt to wake a phone. -/
structure Attempt where
  deviceID : String
  time : ℤ
  outcome : Outcome
deriving DecidableEq

/-- Forget the attempts that are older than an hour. -/
def forget (now : ℤ) (last : LastRevivalAttempt) : LastRevivalAttempt :=
  fun id => (last id).filter fun t => ¬ retention < now - t

/-- Look up the token of a phone and push a notification. -/
def push (t : Tick) (id : String) : Outcome :=
  match t.fcmToken id with
  | .error _ => .noToken
  | .ok fcmToken =>
    if fcmToken = "" then .noToken
    else
      match t.sendToDevice id fcmToken with
      | .error invalid => .pushed fcmToken (if invalid then "invalid_token" else "error")
      | .ok () => .pushed fcmToken "success"

/-- A phone is left alone. -/
def Cooling (now : ℤ) (last : LastRevivalAttempt) (id : String) : Prop :=
  ∃ t ∈ last id, now - t < revivalCooldown

instance (now : ℤ) (last : LastRevivalAttempt) (id : String) : Decidable (Cooling now last id) :=
  inferInstanceAs (Decidable (∃ t ∈ last id, _))

/-- Go through the devices. -/
def revive (t : Tick) : List Device → LastRevivalAttempt → List Attempt × LastRevivalAttempt
  | [], last => ([], last)
  | d :: devices, last =>
    if d.status ≠ .offline then revive t devices last
    else if Cooling t.now last d.physicalDeviceID then revive t devices last
    else
      let last := Function.update last d.physicalDeviceID (some t.now)
      let attempt := ⟨d.physicalDeviceID, t.now, push t d.physicalDeviceID⟩
      let rest := revive t devices last
      (attempt :: rest.1, rest.2)

/-- A tick of the job, with what is forgotten before. -/
def tick (fcmSender : Bool) (forget : ℤ → LastRevivalAttempt → LastRevivalAttempt) (t : Tick)
    (last : LastRevivalAttempt) : List Attempt × LastRevivalAttempt :=
  let last := forget t.cleanup last
  match fcmSender, t.devices with
  | true, .ok devices => revive t devices last
  | _, _ => ([], last)

theorem tick_ok {t : Tick} {devices : List Device} (h : t.devices = .ok devices)
    (forget : ℤ → LastRevivalAttempt → LastRevivalAttempt) (last : LastRevivalAttempt) :
    tick true forget t last = revive t devices (forget t.cleanup last) := by
  simp only [tick, h]

theorem tick_error {t : Tick} {e : String} (h : t.devices = .error e)
    (forget : ℤ → LastRevivalAttempt → LastRevivalAttempt) (last : LastRevivalAttempt) :
    tick true forget t last = ([], forget t.cleanup last) := by
  simp only [tick, h]

theorem tick_false (t : Tick) (forget : ℤ → LastRevivalAttempt → LastRevivalAttempt)
    (last : LastRevivalAttempt) : tick false forget t last = ([], forget t.cleanup last) :=
  rfl

/-- The attempts of some ticks. -/
def ticks (fcmSender : Bool) (forget : ℤ → LastRevivalAttempt → LastRevivalAttempt) :
    List Tick → LastRevivalAttempt → List Attempt
  | [], _ => []
  | t :: ts, last =>
    let r := tick fcmSender forget t last
    r.1 ++ ticks fcmSender forget ts r.2

/-- The attempts of the job, which has tried nothing when it starts. -/
def startBackgroundJobs (fcmSender : Bool) (ts : List Tick) : List Attempt :=
  ticks fcmSender forget ts fun _ => none

/-- The readings of the clock. -/
def readings (ts : List Tick) : List ℤ := ts.flatMap fun t => [t.cleanup, t.now]

/-- The clock never goes back, within a tick and between ticks. -/
theorem clock_cons {now : ℤ} {t : Tick} {ts : List Tick}
    (hclock : (now :: readings (t :: ts)).Pairwise (· ≤ ·)) :
    now ≤ t.cleanup ∧ t.cleanup ≤ t.now ∧ (t.now :: readings ts).Pairwise (· ≤ ·) := by
  rw [readings, List.flatMap_cons, ← readings] at hclock
  obtain ⟨hnow, hclock⟩ := List.pairwise_cons.1 hclock
  obtain ⟨hcleanup, hclock⟩ := List.pairwise_cons.1 hclock
  exact ⟨hnow _ List.mem_cons_self, hcleanup _ List.mem_cons_self, hclock⟩

/-! ## What is remembered -/

/-- Each attempt is remembered, or it was longer ago than attempts are remembered. -/
def Covers (last : LastRevivalAttempt) (past : List Attempt) (now : ℤ) : Prop :=
  ∀ a ∈ past, (∃ t ∈ last a.deviceID, a.time ≤ t) ∨ retention < now - a.time

/-- The attempts of each phone are a quarter of an hour apart. -/
def Apart (attempts : List Attempt) : Prop :=
  attempts.Pairwise fun a b => a.deviceID = b.deviceID → revivalCooldown ≤ b.time - a.time

section Remembered

variable {last last' : LastRevivalAttempt} {past : List Attempt} {now now' : ℤ} {t : Tick}
  {id : String}

theorem cooldown_lt_retention : revivalCooldown < retention := by decide

theorem Covers.later (h : Covers last past now) (hle : now ≤ now') : Covers last past now' := by
  intro a ha
  rcases h a ha with hknown | hold
  · exact .inl hknown
  · exact .inr (by omega)

/-- What is forgotten is old enough. -/
theorem Covers.forget (h : Covers last past now) : Covers (forget now last) past now := by
  intro a ha
  rcases h a ha with ⟨t, ht, hle⟩ | hold
  · by_cases hnew : retention < now - t
    · exact .inr (by omega)
    · refine .inl ⟨t, ?_, hle⟩
      rw [Revival.forget, Option.mem_def.1 ht, Option.filter_some, if_pos (decide_eq_true hnew)]
      rfl
  · exact .inr hold

/-- A phone that is not left alone was not tried lately. -/
theorem Covers.apart (h : Covers last past now) (hcool : ¬ Cooling now last id) :
    ∀ a ∈ past, a.deviceID = id → revivalCooldown ≤ now - a.time := by
  rintro a ha rfl
  have hlt := cooldown_lt_retention
  rcases h a ha with ⟨t, ht, hle⟩ | hold
  · have hdone : ¬ now - t < revivalCooldown := fun hlt => hcool ⟨t, ht, hlt⟩
    omega
  · omega

/-- An attempt is remembered. -/
theorem Covers.attempt (h : Covers last past now) (hcool : ¬ Cooling now last id)
    (outcome : Outcome) :
    Covers (Function.update last id (some now)) (past ++ [⟨id, now, outcome⟩]) now := by
  have hpos : 0 < revivalCooldown := by decide
  intro a ha
  rcases List.mem_append.1 ha with ha | ha
  · by_cases hid : a.deviceID = id
    · refine .inl ⟨now, ?_, ?_⟩
      · rw [hid, Function.update_self]
        rfl
      · have hapart := h.apart hcool a ha hid
        omega
    · rw [Function.update_of_ne hid]
      exact h a ha
  · rw [List.mem_singleton.1 ha]
    exact .inl ⟨now, by rw [Function.update_self]; rfl, le_rfl⟩

end Remembered

/-! ## The attempts -/

section Attempts

variable {last last' : LastRevivalAttempt} {past : List Attempt} {now : ℤ}

/-- **A pass through the devices** keeps the attempts apart and remembers them. -/
theorem revive_apart (t : Tick) (devices : List Device) (h : Covers last past t.now)
    (hpast : Apart past) :
    let r := revive t devices last
    Apart (past ++ r.1) ∧ Covers r.2 (past ++ r.1) t.now := by
  induction devices generalizing last past with
  | nil =>
    intro r
    rw [show r = ([], last) from rfl, List.append_nil]
    exact ⟨hpast, h⟩
  | cons d devices ih =>
    rw [revive]
    split_ifs with hstatus hcool
    · exact ih h hpast
    · exact ih h hpast
    · have hnext : Apart (past ++ [⟨d.physicalDeviceID, t.now, push t d.physicalDeviceID⟩]) := by
        refine List.pairwise_append.2 ⟨hpast, List.pairwise_singleton _ _, fun a ha b hb hid => ?_⟩
        rw [List.mem_singleton.1 hb] at hid ⊢
        exact h.apart hcool a ha hid
      have hrest := ih (h.attempt hcool (push t d.physicalDeviceID)) hnext
      dsimp only at hrest ⊢
      rwa [List.append_assoc, List.singleton_append] at hrest

/-- **The ticks of a job** keep the attempts apart. -/
theorem ticks_apart (fcmSender : Bool) (ts : List Tick)
    (hclock : (now :: readings ts).Pairwise (· ≤ ·)) (h : Covers last past now) (hpast : Apart past) :
    Apart (past ++ ticks fcmSender forget ts last) := by
  induction ts generalizing last past now with
  | nil => rwa [ticks, List.append_nil]
  | cons t ts ih =>
    obtain ⟨hnow, hcleanup, hclock⟩ := clock_cons hclock
    have hcovers : Covers (forget t.cleanup last) past t.now :=
      (h.later hnow).forget.later hcleanup
    rw [ticks, ← List.append_assoc]
    cases fcmSender with
    | false =>
      rw [tick_false, List.append_nil]
      exact ih hclock hcovers hpast
    | true =>
      cases hdevices : t.devices with
      | error e =>
        rw [tick_error hdevices, List.append_nil]
        exact ih hclock hcovers hpast
      | ok devices =>
        rw [tick_ok hdevices]
        obtain ⟨hapart, hcovers⟩ := revive_apart t devices hcovers hpast
        exact ih hclock hcovers hapart

/-! ## What is forgotten -/

/-- What one map remembers, the other one does too, or it is older than attempts are remembered. -/
def Alike (last last' : LastRevivalAttempt) (now : ℤ) : Prop :=
  ∀ id, last id = last' id ∨ last id = none ∧ ∃ t ∈ last' id, retention < now - t

theorem Alike.later (h : Alike last last' now) {now' : ℤ} (hle : now ≤ now') :
    Alike last last' now' := by
  intro id
  rcases h id with hsame | ⟨hnone, t, ht, hold⟩
  · exact .inl hsame
  · exact .inr ⟨hnone, t, ht, by omega⟩

theorem Alike.forget (h : Alike last last' now) : Alike (forget now last) last' now := by
  intro id
  rw [Revival.forget]
  rcases h id with hsame | ⟨hnone, hold⟩
  · cases hlast : last' id with
    | none =>
      rw [hsame, hlast]
      exact .inl rfl
    | some t =>
      rw [hsame, hlast, Option.filter_some]
      by_cases hold : retention < now - t
      · rw [if_neg (by simpa only [decide_not, Bool.not_eq_true', decide_eq_false_iff_not, not_not]
          using hold)]
        exact .inr ⟨rfl, t, rfl, hold⟩
      · rw [if_pos (decide_eq_true hold)]
        exact .inl rfl
  · rw [hnone]
    exact .inr ⟨rfl, hold⟩

/-- **It makes no difference to whom is left alone.** -/
theorem Alike.cooling_iff (h : Alike last last' now) (id : String) :
    Cooling now last id ↔ Cooling now last' id := by
  have hlt := cooldown_lt_retention
  rcases h id with hsame | ⟨hnone, t, ht, hold⟩
  · rw [Cooling, Cooling, hsame]
  · refine iff_of_false ?_ ?_
    · rintro ⟨t, ht, -⟩
      rw [hnone] at ht
      cases ht
    · rintro ⟨u, hu, hcool⟩
      obtain rfl := Option.mem_unique ht hu
      omega

theorem revive_alike (t : Tick) (devices : List Device) (h : Alike last last' t.now) :
    (revive t devices last).1 = (revive t devices last').1 ∧
      Alike (revive t devices last).2 (revive t devices last').2 t.now := by
  induction devices generalizing last last' with
  | nil => exact ⟨rfl, h⟩
  | cons d devices ih =>
    rw [revive, revive]
    by_cases hstatus : d.status ≠ .offline
    · rw [if_pos hstatus, if_pos hstatus]
      exact ih h
    · rw [if_neg hstatus, if_neg hstatus]
      by_cases hcool : Cooling t.now last d.physicalDeviceID
      · rw [if_pos hcool, if_pos ((h.cooling_iff _).1 hcool)]
        exact ih h
      · rw [if_neg hcool, if_neg fun hcool' => hcool ((h.cooling_iff _).2 hcool')]
        have hnext : Alike (Function.update last d.physicalDeviceID (some t.now))
            (Function.update last' d.physicalDeviceID (some t.now)) t.now := by
          intro id
          by_cases hid : id = d.physicalDeviceID
          · rw [hid, Function.update_self, Function.update_self]
            exact .inl rfl
          · rw [Function.update_of_ne hid, Function.update_of_ne hid]
            exact h id
        obtain ⟨hattempts, hrest⟩ := ih hnext
        exact ⟨congrArg (List.cons _) hattempts, hrest⟩

/-- **Nothing that is forgotten makes a difference.** -/
theorem ticks_alike (fcmSender : Bool) (ts : List Tick)
    (hclock : (now :: readings ts).Pairwise (· ≤ ·)) (h : Alike last last' now) :
    ticks fcmSender forget ts last = ticks fcmSender (fun _ last => last) ts last' := by
  induction ts generalizing last last' now with
  | nil => rfl
  | cons t ts ih =>
    obtain ⟨hnow, hcleanup, hclock⟩ := clock_cons hclock
    have halike : Alike (forget t.cleanup last) last' t.now :=
      (h.later hnow).forget.later hcleanup
    rw [ticks, ticks]
    cases fcmSender with
    | false =>
      rw [tick_false, tick_false, List.nil_append, List.nil_append]
      exact ih hclock halike
    | true =>
      cases hdevices : t.devices with
      | error e =>
        rw [tick_error hdevices, tick_error hdevices, List.nil_append, List.nil_append]
        exact ih hclock halike
      | ok devices =>
        rw [tick_ok hdevices, tick_ok hdevices]
        obtain ⟨hattempts, halike⟩ := revive_alike t devices halike
        exact congrArg₂ _ hattempts (ih hclock halike)

end Attempts

/-! ## Whole runs -/

/-- **No phone is tried twice within a quarter of an hour**, and no attempt is made that would not be
made if nothing were forgotten. -/
theorem attempts_apart (fcmSender : Bool) (ts : List Tick)
    (hclock : (readings ts).Pairwise (· ≤ ·)) :
    Apart (startBackgroundJobs fcmSender ts) ∧
      startBackgroundJobs fcmSender ts =
        ticks fcmSender (fun _ last => last) ts fun _ => none := by
  cases ts with
  | nil => exact ⟨List.Pairwise.nil, rfl⟩
  | cons t ts =>
    have hstart : (t.cleanup :: readings (t :: ts)).Pairwise (· ≤ ·) := by
      refine List.pairwise_cons.2 ⟨fun u hu => ?_, hclock⟩
      rcases List.mem_cons.1 hu with rfl | hu
      · exact le_rfl
      · exact (List.pairwise_cons.1 hclock).1 u hu
    have hcovers : Covers (fun _ => none) [] t.cleanup := fun a ha => by cases ha
    have hapart := ticks_apart fcmSender (t :: ts) hstart hcovers List.Pairwise.nil
    exact ⟨hapart,
      ticks_alike fcmSender _ hstart fun _ => .inl rfl⟩

/-- A row of a phone that is offline. -/
def offlinePhone (id : String) (simSlot : ℤ) : Device :=
  { id := id, physicalDeviceID := "phone", accountID := "account", simSlot := simSlot,
    carrier := "", phoneNumber := "", name := "", status := .offline,
    simHealthStatus := .healthy, healthTrendSlope := 0, lastSeen := none, lastPongAt := none,
    messagesSentCount := 0, lastUsedAt := none, reliabilityScore := 0, reputationScore := 0,
    successRate24h := 0, uptimeRatio24h := 0, avgLatencyMs := 0, countryCode := "", region := "",
    maxPerMinute := 0, maxPerHour := 0, circuitBreakerState := .closed }

/-- A tick at which two rows of the phone are offline and its token is not found. -/
def offlineTick (now : ℤ) : Tick :=
  ⟨now, .ok [offlinePhone "first" 0, offlinePhone "second" 1], now, fun _ => .error "no rows",
    fun _ _ => .ok ()⟩

theorem attempts_apart_offline :
    let ts := [offlineTick 0, offlineTick (revivalCooldown - 1), offlineTick revivalCooldown]
    (startBackgroundJobs true ts).map (·.time) = [0, revivalCooldown] ∧
      Apart (startBackgroundJobs true ts) :=
  ⟨by decide, (attempts_apart true
    [offlineTick 0, offlineTick (revivalCooldown - 1), offlineTick revivalCooldown]
    (by decide)).1⟩

end AeroxeBee.Dispatch.Revival
