import AeroxeBee.Dispatch.Fraud
import AeroxeBee.Foundations.Tallies
import Mathlib.Data.Int.ConditionallyCompleteOrder

/-!
# The check for spam with passwords

The check counts the messages of an account in the hour and their recipients in ten minutes. It is
made of every message, and it is not told what type a message is of.

* `check_spec`: what a check counts and finds, given what was counted before;
* `verdict_eq`: so what it finds after any messages;
* `otpOnly_iff`: when it finds what it would find after the messages with passwords alone.
-/

namespace AeroxeBee.Dispatch

open Foundations

namespace Spam

/-! ## Messages of an account -/

/-- A message that is examined, and what happens meanwhile. -/
structure Arrival where
  time : ℤ
  input : DetectionInput
  messageType : MessageType
  env : List Tick

namespace Arrival

/-- The tick that the command after `k` others takes. -/
def tick (a : Arrival) (k : ℕ) : Tick := (a.env.drop k).headD .quiet

/-- The time at which the command after `k` others is executed. -/
def clockAt (a : Arrival) (k : ℕ) : ℤ :=
  a.time + ((List.range (k + 1)).map fun j => ((a.tick j).elapsed : ℤ)).sum

/-- The server when the message arrives. -/
def world (a : Arrival) (w : World) : World := { w with clock := a.time, env := a.env }

/-- The hour in which the message is counted. -/
def hour (a : Arrival) : ℤ := RateControl.hourOf (a.clockAt 0)

end Arrival

/-- The start of ten minutes. -/
def tenMinutesOf (now : ℤ) : ℤ := now / 600000000000 * 600

/-- The ten minutes in which the recipient is counted. -/
def Arrival.window (a : Arrival) : ℤ := tenMinutesOf (a.clockAt 1)

/-- The check of a message. -/
def check (cfg : Config) (w : World) (a : Arrival) :
    Outcome ServerCmd World (Except String DetectionResult) :=
  (Fraud.checkOTPSpam a.input).exec (server cfg) (a.world w)

/-- The server after some messages. -/
def after (cfg : Config) (w : World) (past : List Arrival) : World :=
  past.foldl (fun w a => (check cfg w a).state) w

/-- What the check finds after some messages. -/
def verdict (cfg : Config) (w : World) (past : List Arrival) (a : Arrival) :
    Except String DetectionResult :=
  (check cfg (after cfg w past) a).val

/-- The messages with passwords. -/
def passwords (past : List Arrival) : List Arrival := past.filter (·.messageType = .otp)

/-- **The check looks at passwords only**: it finds what it finds after the messages with passwords
alone, and it flags no other message. -/
def OTPOnly (cfg : Config) (w : World) (past : List Arrival) (a : Arrival) : Prop :=
  verdict cfg w past a = verdict cfg w (passwords past) a ∧
    (a.messageType ≠ .otp → Fraud.flagged (verdict cfg w past a) = none)

/-! ## What decides -/

/-- The keys that count for an account. -/
def counterKeys (accountID : String) : Set String :=
  {key | ∃ t, key = Fraud.hourKey accountID t ∨ key = Fraud.recipientsKey accountID t}

/-- What is required of the messages of an account: nothing else touches its counters, and the
client gives up on commands early enough for a check to end within five minutes. -/
structure Arrival.Sound (accountID : String) (a : Arrival) : Prop where
  account : a.input.accountID = accountID
  spared : ∀ t ∈ a.env, ∀ s : Shared, ∀ key ∈ counterKeys accountID,
    (t.others s).redis key = s.redis key
  prompt : a.clockAt 6 ≤ a.clockAt 0 + 300000000000

/-- Why a command has no reply. -/
def faultText : Fault → Option String
  | .none => none
  | .refused text | .lost text => some text

namespace Arrival

/-- Why the check of a message fails, if it does. -/
def failure (a : Arrival) : Option String :=
  [2, 3, 4, 5].findSome? fun k => faultText (a.tick k).fault

/-- The message is counted. -/
def counted (a : Arrival) : Bool := !(a.tick 2).fault.isRefused

/-- The recipient is counted. -/
def collected (a : Arrival) : Bool := !(a.tick 4).fault.isRefused

end Arrival

/-- How many messages were counted in an hour. -/
def sentIn (past : List Arrival) (hour : ℤ) : ℕ :=
  past.countP fun a => a.counted && a.hour = hour

/-- The recipients that were counted in ten minutes. -/
def reached (past : List Arrival) (window : ℤ) : Finset String :=
  ((past.filter fun a => a.collected && a.window = window).map (·.input.recipient)).toFinset

/-- How many recipients the check of a message sees; none if the number cannot be read. -/
def seen (past : List Arrival) (a : Arrival) : ℕ :=
  if (a.tick 6).fault = .none then (reached (past ++ [a]) a.window).card else 0

/-- What follows from the numbers. -/
def judge (hourCount distinctCount : ℕ) : DetectionResult :=
  if 1000 < hourCount then ⟨true, "OTP spam detected: >1000/hr", 4 / 5⟩
  else if 500 < distinctCount then
    ⟨true, "OTP spam detected: >500 distinct recipients in 10min", 7 / 10⟩
  else .clean

/-- What is found of a message, given the numbers. -/
def outcome (a : Arrival) (hourCount distinctCount : ℕ) : Except String DetectionResult :=
  match a.failure with
  | some text => .error ("fraud check: " ++ text)
  | none => .ok (judge hourCount distinctCount)

/-- **When other messages make no difference**: the check fails; or the message is one with a
password, and what all messages exceed is exceeded by those with passwords; or it is not, and
nothing is exceeded. -/
def Unmixed (past : List Arrival) (a : Arrival) : Prop :=
  a.failure = none →
    if a.messageType = .otp then
      (sentIn (past ++ [a]) a.hour ≤ 1000 ∨ 1000 < sentIn (passwords past ++ [a]) a.hour) ∧
        (seen past a ≤ 500 ∨ 500 < seen (passwords past) a ∨
          1000 < sentIn (passwords past ++ [a]) a.hour)
    else sentIn (past ++ [a]) a.hour ≤ 1000 ∧ seen past a ≤ 500

instance (past : List Arrival) (a : Arrival) : Decidable (Unmixed past a) := by
  unfold Unmixed
  infer_instance

/-! ## The counters -/

section Keys

variable {accountID : String} {t t' : ℤ}

theorem hourKey_inj (h : Fraud.hourKey accountID t = Fraud.hourKey accountID t') :
    RateControl.hourOf t = RateControl.hourOf t' :=
  toString_injective (String.append_right_inj _ |>.1 h)

theorem recipientsKey_inj (h : Fraud.recipientsKey accountID t = Fraud.recipientsKey accountID t') :
    tenMinutesOf t = tenMinutesOf t' :=
  toString_injective (String.append_right_inj _ |>.1 h)

theorem hourKey_congr (h : RateControl.hourOf t = RateControl.hourOf t') :
    Fraud.hourKey accountID t = Fraud.hourKey accountID t' :=
  congrArg (fun x : ℤ => "fraud:otp:account:" ++ accountID ++ ":hour:" ++ toString x) h

theorem recipientsKey_congr (h : tenMinutesOf t = tenMinutesOf t') :
    Fraud.recipientsKey accountID t = Fraud.recipientsKey accountID t' :=
  congrArg (fun x : ℤ => "fraud:otp:account:" ++ accountID ++ ":recipients:" ++ toString x) h

theorem hourKey_ne_recipientsKey :
    Fraud.hourKey accountID t ≠ Fraud.recipientsKey accountID t' := by
  intro h
  have hrest : ":hour:".toList ++ (toString (RateControl.hourOf t)).toList =
      ":recipients:".toList ++ (toString (tenMinutesOf t')).toList := by
    have hlist := congrArg String.toList h
    unfold Fraud.hourKey Fraud.recipientsKey at hlist
    simp only [String.toList_append, List.append_assoc] at hlist
    exact List.append_cancel_left (List.append_cancel_left hlist)
  have hsecond := congrArg (·[1]?) hrest
  rw [List.getElem?_append_left (by decide), List.getElem?_append_left (by decide)] at hsecond
  exact absurd hsecond (by decide)

end Keys

/-- **What the keys of an account hold**: the number of messages for each hour, and the recipients
for each ten minutes, long enough for any check in that time. -/
structure Tallied (accountID : String) (n : ℤ → ℕ) (S : ℤ → Finset String) (K : Keyspace) :
    Prop where
  hours : ∀ t, Counts ((RateControl.hourOf t + 7200) * 1000000000) (n (RateControl.hourOf t))
    (K (Fraud.hourKey accountID t))
  recipients : ∀ t, Collects ((tenMinutesOf t + 900) * 1000000000) (S (tenMinutesOf t))
    (K (Fraud.recipientsKey accountID t))

section Step

variable {cfg : Config} {accountID : String} {n : ℤ → ℕ} {S : ℤ → Finset String} {w : World} {t : ℤ}
  {β : Type}

theorem mem_hourKey (t : ℤ) : Fraud.hourKey accountID t ∈ counterKeys accountID := ⟨t, .inl rfl⟩

theorem mem_recipientsKey (t : ℤ) : Fraud.recipientsKey accountID t ∈ counterKeys accountID :=
  ⟨t, .inr rfl⟩

/-- What a command leaves under the keys that nothing else touches. -/
theorem redis_step {keys : Set String} (hspared : Spares keys w) {key : String} (hkey : key ∈ keys)
    (e : RedisCmd β) :
    ((server cfg).step (.redis e) w).2.redis key =
      if key = e.key ∧ w.next.fault.isRefused = false then
        (e.reply w.tick.clock (w.redis.live w.tick.clock e.key)).2
      else w.redis key := by
  by_cases hown : key = e.key
  · subst hown
    cases hrefused : w.next.fault.isRefused with
    | true => rw [if_neg (by simp), hspared.redis_of_refused hkey e hrefused]
    | false => rw [if_pos ⟨rfl, rfl⟩, hspared.redis_of_executed hkey (by simp [hrefused])]
  · rw [if_neg (hown ·.1), hspared.redis_of_ne hkey hown]

/-- The reply of a command that is executed without an error, if it arrives. -/
theorem step_answers {keys : Set String} (hspared : Spares keys w) {e : RedisCmd β}
    (hkey : e.key ∈ keys) {b : β}
    (hb : (e.reply w.tick.clock (w.redis.live w.tick.clock e.key)).1 = .ok b) :
    (∃ err, ((server cfg).step (.redis e) w).1 = .error err ∧
        faultText w.next.fault = some err.text) ∨
      (((server cfg).step (.redis e) w).1 = .ok b ∧ faultText w.next.fault = none) := by
  cases hfault : w.next.fault with
  | none =>
    refine .inr ⟨?_, rfl⟩
    rw [step_redis_val hfault, hspared.live_tick hkey, hb]
  | refused text =>
    refine .inl ⟨.refused text, ?_, rfl⟩
    change (w.next.fault.apply .refused .lost (e.run w.tick.clock) w.tick.redis).1 = _
    rw [hfault]
    rfl
  | lost text =>
    refine .inl ⟨.lost text, ?_, rfl⟩
    change (w.next.fault.apply .refused .lost (e.run w.tick.clock) w.tick.redis).1 = _
    rw [hfault]
    rfl

/-- A command on the number of an hour. -/
theorem Tallied.onHour (h : Tallied accountID n S w.redis)
    (hspared : Spares (counterKeys accountID) w) {e : RedisCmd β}
    (hkey : e.key = Fraud.hourKey accountID t) {m : ℕ}
    (hexecuted : Counts ((RateControl.hourOf t + 7200) * 1000000000) m
      (e.reply w.tick.clock (w.redis.live w.tick.clock e.key)).2) :
    Tallied accountID
      (if w.next.fault.isRefused then n else Function.update n (RateControl.hourOf t) m) S
      ((server cfg).step (.redis e) w).2.redis where
  hours t' := by
    rw [redis_step hspared (mem_hourKey t')]
    cases w.next.fault.isRefused with
    | true =>
      rw [if_pos rfl, if_neg (by simp)]
      exact h.hours t'
    | false =>
      rw [if_neg Bool.false_ne_true]
      by_cases hown : Fraud.hourKey accountID t' = e.key
      · rw [if_pos ⟨hown, rfl⟩, hourKey_inj (hown.trans hkey), Function.update_self]
        exact hexecuted
      · have hhour : RateControl.hourOf t' ≠ RateControl.hourOf t := fun heq =>
          hown ((hourKey_congr heq).trans hkey.symm)
        rw [if_neg (hown ·.1), Function.update_of_ne hhour]
        exact h.hours t'
  recipients t' := by
    rw [redis_step hspared (mem_recipientsKey t'), if_neg]
    · exact h.recipients t'
    · rw [hkey]
      exact fun hand => hourKey_ne_recipientsKey hand.1.symm

/-- A command on the recipients of ten minutes. -/
theorem Tallied.onRecipients (h : Tallied accountID n S w.redis)
    (hspared : Spares (counterKeys accountID) w) {e : RedisCmd β}
    (hkey : e.key = Fraud.recipientsKey accountID t) {R : Finset String}
    (hexecuted : Collects ((tenMinutesOf t + 900) * 1000000000) R
      (e.reply w.tick.clock (w.redis.live w.tick.clock e.key)).2) :
    Tallied accountID n
      (if w.next.fault.isRefused then S else Function.update S (tenMinutesOf t) R)
      ((server cfg).step (.redis e) w).2.redis where
  hours t' := by
    rw [redis_step hspared (mem_hourKey t'), if_neg]
    · exact h.hours t'
    · rw [hkey]
      exact fun hand => hourKey_ne_recipientsKey hand.1
  recipients t' := by
    rw [redis_step hspared (mem_recipientsKey t')]
    cases w.next.fault.isRefused with
    | true =>
      rw [if_pos rfl, if_neg (by simp)]
      exact h.recipients t'
    | false =>
      rw [if_neg Bool.false_ne_true]
      by_cases hown : Fraud.recipientsKey accountID t' = e.key
      · rw [if_pos ⟨hown, rfl⟩, recipientsKey_inj (hown.trans hkey), Function.update_self]
        exact hexecuted
      · have hwindow : tenMinutesOf t' ≠ tenMinutesOf t := fun heq =>
          hown ((recipientsKey_congr heq).trans hkey.symm)
        rw [if_neg (hown ·.1), Function.update_of_ne hwindow]
        exact h.recipients t'

end Step

/-! ## One message -/

/-- The numbers of messages after one more. -/
def Arrival.count (a : Arrival) (n : ℤ → ℕ) : ℤ → ℕ :=
  if (a.tick 2).fault.isRefused then n else Function.update n a.hour (n a.hour + 1)

/-- The recipients after one more message. -/
def Arrival.collect (a : Arrival) (S : ℤ → Finset String) : ℤ → Finset String :=
  if (a.tick 4).fault.isRefused then S
  else Function.update S a.window (insert a.input.recipient (S a.window))

/-- The commands of a check come in order. -/
theorem Arrival.clockAt_mono (a : Arrival) : Monotone a.clockAt := by
  refine monotone_nat_of_le_succ fun k => ?_
  have hnext : a.clockAt (k + 1) = a.clockAt k + (a.tick (k + 1)).elapsed := by
    rw [clockAt, List.range_succ, List.map_append, List.sum_append, List.map_singleton,
      List.sum_singleton, ← add_assoc, clockAt]
  omega

namespace Arrival.Sound

variable {accountID : String} {a : Arrival} {k : ℕ}

/-- A check ends long before the number of the hour expires. -/
theorem hour_le (ha : a.Sound accountID) (hk : k ≤ 6) :
    RateControl.hourOf (a.clockAt 0) * 1000000000 ≤ a.clockAt k ∧
      a.clockAt k ≤ (RateControl.hourOf (a.clockAt 0) + 7200) * 1000000000 := by
  have hstart := a.clockAt_mono (Nat.zero_le k)
  have hend := (a.clockAt_mono hk).trans ha.prompt
  unfold RateControl.hourOf
  omega

/-- A check ends before the recipients of the ten minutes expire. -/
theorem window_le (ha : a.Sound accountID) (hpos : 1 ≤ k) (hk : k ≤ 6) :
    tenMinutesOf (a.clockAt 1) * 1000000000 ≤ a.clockAt k ∧
      a.clockAt k ≤ (tenMinutesOf (a.clockAt 1) + 900) * 1000000000 := by
  have hstart := a.clockAt_mono (Nat.zero_le 1)
  have hone := a.clockAt_mono hpos
  have hend := (a.clockAt_mono hk).trans ha.prompt
  unfold tenMinutesOf
  omega

end Arrival.Sound

/-- The server when the check of a message is about to issue a command. -/
structure Stage (accountID : String) (a : Arrival) (k : ℕ) (n : ℤ → ℕ) (S : ℤ → Finset String)
    (v : World) : Prop where
  sound : a.Sound accountID
  later : ∀ j, v.later j = a.tick (k + j)
  clockAt : ∀ j, v.clockAt j = a.clockAt (k + j)
  spared : Spares (counterKeys accountID) v
  tallied : Tallied accountID n S v.redis

/-- The reply of a command of the pipeline: what it counts to, or why it has no reply. -/
def Answers (a : Arrival) (k : ℕ) {β : Type} (r : Except RedisErr β) (b : β) : Prop :=
  (∃ err, r = .error err ∧ faultText (a.tick k).fault = some err.text) ∨
    (r = .ok b ∧ faultText (a.tick k).fault = none)

namespace Stage

variable (cfg : Config) {accountID : String} {a : Arrival} {k : ℕ} {n n' : ℤ → ℕ}
  {S S' : ℤ → Finset String} {v : World} {β : Type}

theorem next (h : Stage accountID a k n S v) : v.next = a.tick k := h.later 0

theorem clock (h : Stage accountID a k n S v) : v.tick.clock = a.clockAt k := by
  rw [v.tick_clock, h.clockAt, Nat.add_zero]

/-- A command brings the check to its next stage. -/
theorem step (h : Stage accountID a k n S v) {e : ServerCmd β}
    (htallied : Tallied accountID n' S' ((server cfg).step e v).2.redis) :
    Stage accountID a (k + 1) n' S' ((server cfg).step e v).2 where
  sound := h.sound
  later j := by rw [step_later, h.later, Nat.add_right_comm, Nat.add_assoc]
  clockAt j := by rw [step_clockAt, h.clockAt, Nat.add_right_comm, Nat.add_assoc]
  spared := h.spared.step e
  tallied := htallied

/-- A look at the clock. -/
theorem now (h : Stage accountID a k n S v) :
    ((server cfg).step .now v).1 = a.clockAt k ∧
      Stage accountID a (k + 1) n S ((server cfg).step .now v).2 := by
  refine ⟨by rw [step_now_val, h.clockAt, Nat.add_zero], h.step cfg ⟨fun t => ?_, fun t => ?_⟩⟩
  · exact (h.spared.tick (mem_hourKey t)).symm ▸ h.tallied.hours t
  · exact (h.spared.tick (mem_recipientsKey t)).symm ▸ h.tallied.recipients t

/-- The reply of a command on a counter. -/
theorem answers (h : Stage accountID a k n S v) {e : RedisCmd β}
    (hkey : e.key ∈ counterKeys accountID) {b : β}
    (hb : (e.reply v.tick.clock (v.redis.live v.tick.clock e.key)).1 = .ok b) :
    Answers a k ((server cfg).step (.redis e) v).1 b := by
  unfold Answers
  rw [← h.next]
  exact step_answers h.spared hkey hb

/-- What is found under the key of the hour. -/
theorem hour_live (h : Stage accountID a k n S v) (hk : k ≤ 6) :
    Counts ((RateControl.hourOf (a.clockAt 0) + 7200) * 1000000000) (n a.hour)
      (v.redis.live v.tick.clock (Fraud.hourKey accountID (a.clockAt 0))) :=
  Tally.live (h.tallied.hours _) (h.clock ▸ (h.sound.hour_le hk).2)

/-- What is found under the key of the ten minutes. -/
theorem window_live (h : Stage accountID a k n S v) (hpos : 1 ≤ k) (hk : k ≤ 6) :
    Collects ((tenMinutesOf (a.clockAt 1) + 900) * 1000000000) (S a.window)
      (v.redis.live v.tick.clock (Fraud.recipientsKey accountID (a.clockAt 1))) :=
  Tally.live (h.tallied.recipients _) (h.clock ▸ (h.sound.window_le hpos hk).2)

/-- The message is counted. -/
theorem incr (h : Stage accountID a 2 n S v) :
    let r := (server cfg).step (.redis (.incr (Fraud.hourKey accountID (a.clockAt 0)))) v
    Answers a 2 r.1 (n a.hour + 1 : ℤ) ∧ Stage accountID a 3 (a.count n) S r.2 := by
  intro r
  have hfound := (h.hour_live (by decide)).incr v.tick.clock (Fraud.hourKey accountID (a.clockAt 0))
  have hafter : Tallied accountID _ S r.2.redis := h.tallied.onHour h.spared rfl hfound.2
  refine ⟨h.answers cfg (mem_hourKey _) hfound.1, h.step cfg ?_⟩
  rwa [h.next] at hafter

/-- The number of the hour is given its time to live. -/
theorem expireHour (h : Stage accountID a 3 n S v) :
    let r := (server cfg).step
      (.redis (.expire (Fraud.hourKey accountID (a.clockAt 0)) 7200000000000)) v
    Answers a 3 r.1 () ∧ Stage accountID a 4 n S r.2 := by
  intro r
  have hlong : (RateControl.hourOf (a.clockAt 0) + 7200) * 1000000000 ≤
      v.tick.clock + 7200000000000 := by
    have hlate := (h.sound.hour_le (k := 3) (by decide)).1
    rw [h.clock]
    omega
  have hfound := Tally.expire (h.hour_live (by decide)) v.tick.clock
    (Fraud.hourKey accountID (a.clockAt 0)) (by decide) hlong
  have hafter : Tallied accountID _ S r.2.redis := h.tallied.onHour h.spared rfl hfound
  refine ⟨h.answers cfg (mem_hourKey _) rfl, h.step cfg ?_⟩
  rwa [Arrival.hour, Function.update_eq_self, ite_self] at hafter

/-- The recipient is counted. -/
theorem sAdd (h : Stage accountID a 4 n S v) :
    let r := (server cfg).step
      (.redis (.sAdd (Fraud.recipientsKey accountID (a.clockAt 1)) a.input.recipient)) v
    Answers a 4 r.1 () ∧ Stage accountID a 5 n (a.collect S) r.2 := by
  intro r
  have hfound := (h.window_live (by decide) (by decide)).sAdd v.tick.clock
    (Fraud.recipientsKey accountID (a.clockAt 1)) a.input.recipient
  refine ⟨h.answers cfg (mem_recipientsKey _) hfound.1, h.step cfg ?_⟩
  have hafter : Tallied accountID n _ r.2.redis := h.tallied.onRecipients h.spared rfl hfound.2
  rwa [h.next] at hafter

/-- The recipients are given their time to live. -/
theorem expireRecipients (h : Stage accountID a 5 n S v) :
    let r := (server cfg).step
      (.redis (.expire (Fraud.recipientsKey accountID (a.clockAt 1)) 900000000000)) v
    Answers a 5 r.1 () ∧ Stage accountID a 6 n S r.2 := by
  intro r
  have hlong : (tenMinutesOf (a.clockAt 1) + 900) * 1000000000 ≤ v.tick.clock + 900000000000 := by
    have hlate := (h.sound.window_le (k := 5) (by decide) (by decide)).1
    rw [h.clock]
    omega
  have hfound := Tally.expire (h.window_live (by decide) (by decide)) v.tick.clock
    (Fraud.recipientsKey accountID (a.clockAt 1)) (by decide) hlong
  have hafter : Tallied accountID n _ r.2.redis := h.tallied.onRecipients h.spared rfl hfound
  refine ⟨h.answers cfg (mem_recipientsKey _) rfl, h.step cfg ?_⟩
  rwa [Arrival.window, Function.update_eq_self, ite_self] at hafter

/-- The recipients are read. -/
theorem sCard (h : Stage accountID a 6 n S v) :
    let r := (server cfg).step (.redis (.sCard (Fraud.recipientsKey accountID (a.clockAt 1)))) v
    Answers a 6 r.1 (S a.window).card ∧ Stage accountID a 7 n S r.2 := by
  intro r
  have hlive := h.window_live (by decide) (by decide)
  have hfound : Collects ((tenMinutesOf (a.clockAt 1) + 900) * 1000000000) (S a.window)
      ((RedisCmd.sCard (Fraud.recipientsKey accountID (a.clockAt 1))).reply v.tick.clock
        (v.redis.live v.tick.clock (Fraud.recipientsKey accountID (a.clockAt 1)))).2 := by
    rw [RedisCmd.reply_of_reads rfl]
    exact hlive
  have hafter : Tallied accountID n _ r.2.redis := h.tallied.onRecipients h.spared rfl hfound
  refine ⟨h.answers cfg (mem_recipientsKey _) (hlive.sCard _ _), h.step cfg ?_⟩
  rwa [Arrival.window, Function.update_eq_self, ite_self] at hafter

end Stage

theorem outcome_of_failure {a : Arrival} {text : String} (h : a.failure = some text)
    (hourCount distinctCount : ℕ) :
    outcome a hourCount distinctCount = .error ("fraud check: " ++ text) := by
  rw [outcome, h]

/-- The end of a check. -/
theorem exec_judge (cfg : Config) {I : World → Prop} {w : World} (hourCount : ℕ)
    (e : ServerCmd (Except RedisErr ℕ)) (h : I ((server cfg).step e w).2) :
    let o := (Prog.act e fun card =>
      if 1000 < (hourCount : ℤ) then .ret (.ok ⟨true, "OTP spam detected: >1000/hr", 4 / 5⟩)
      else if 500 < card.toOption.getD 0 then
        .ret (.ok ⟨true, "OTP spam detected: >500 distinct recipients in 10min", 7 / 10⟩)
      else .ret (.ok DetectionResult.clean) : ServerProg (Except String DetectionResult)).exec
        (server cfg) w
    I o.state ∧ o.val = .ok (judge hourCount (((server cfg).step e w).1.toOption.getD 0)) := by
  rw [Prog.exec_act]
  unfold judge
  by_cases hmany : 1000 < hourCount
  · have hcast : 1000 < (hourCount : ℤ) := by exact_mod_cast hmany
    rw [if_pos hcast, if_pos hmany]
    exact ⟨h, rfl⟩
  · have hcast : ¬ 1000 < (hourCount : ℤ) := by exact_mod_cast hmany
    rw [if_neg hcast, if_neg hmany]
    split_ifs
    · exact ⟨h, rfl⟩
    · exact ⟨h, rfl⟩

/-- **What a check counts and finds.** -/
theorem check_spec (cfg : Config) {accountID : String} {n : ℤ → ℕ} {S : ℤ → Finset String}
    {w : World} {a : Arrival} (h : Tallied accountID n S w.redis) (ha : a.Sound accountID) :
    Tallied accountID (a.count n) (a.collect S) (check cfg w a).state.redis ∧
      (check cfg w a).val = outcome a (a.count n a.hour)
        (if (a.tick 6).fault = .none then (a.collect S a.window).card else 0) := by
  have h0 : Stage accountID a 0 n S (a.world w) :=
    ⟨ha, fun j => by rw [Nat.zero_add]; rfl, fun j => by rw [Nat.zero_add]; rfl, ha.spared, h⟩
  unfold check Fraud.checkOTPSpam
  rw [ha.account]
  -- two looks at the clock
  rw [Prog.call_bind, Prog.exec_act]
  obtain ⟨hnow, h1⟩ := h0.now cfg
  dsimp only
  rw [hnow]
  generalize ((server cfg).step .now (a.world w)).2 = w1 at h1 ⊢
  rw [Prog.call_bind, Prog.exec_act]
  obtain ⟨hnow, h2⟩ := h1.now cfg
  dsimp only
  rw [hnow]
  generalize ((server cfg).step .now w1).2 = w2 at h2 ⊢
  -- four commands, of which the first error counts
  rw [Prog.call_bind, Prog.exec_act]
  obtain ⟨hincr, h3⟩ := h2.incr cfg
  generalize (server cfg).step (.redis (.incr (Fraud.hourKey accountID (a.clockAt 0)))) w2 = s3
    at hincr h3 ⊢
  dsimp only
  rw [Prog.call_bind, Prog.exec_act]
  obtain ⟨hexpire, h4⟩ := h3.expireHour cfg
  generalize (server cfg).step
    (.redis (.expire (Fraud.hourKey accountID (a.clockAt 0)) 7200000000000)) s3.2 = s4
    at hexpire h4 ⊢
  dsimp only
  rw [Prog.call_bind, Prog.exec_act]
  obtain ⟨hadd, h5⟩ := h4.sAdd cfg
  generalize (server cfg).step
    (.redis (.sAdd (Fraud.recipientsKey accountID (a.clockAt 1)) a.input.recipient)) s4.2 = s5
    at hadd h5 ⊢
  dsimp only
  rw [Prog.call_bind, Prog.exec_act]
  obtain ⟨hlast, h6⟩ := h5.expireRecipients cfg
  generalize (server cfg).step
    (.redis (.expire (Fraud.recipientsKey accountID (a.clockAt 1)) 900000000000)) s5.2 = s6
    at hlast h6 ⊢
  dsimp only
  rcases hincr with ⟨err, hincr, hfault2⟩ | ⟨hincr, hfault2⟩
  · have hfailure : a.failure = some err.text := by simp [Arrival.failure, hfault2]
    rw [hincr, outcome_of_failure hfailure]
    exact ⟨h6.tallied, rfl⟩
  rw [hincr]
  rcases hexpire with ⟨err, hexpire, hfault3⟩ | ⟨hexpire, hfault3⟩
  · have hfailure : a.failure = some err.text := by simp [Arrival.failure, hfault2, hfault3]
    rw [hexpire, outcome_of_failure hfailure]
    exact ⟨h6.tallied, rfl⟩
  rw [hexpire]
  rcases hadd with ⟨err, hadd, hfault4⟩ | ⟨hadd, hfault4⟩
  · have hfailure : a.failure = some err.text := by
      simp [Arrival.failure, hfault2, hfault3, hfault4]
    rw [hadd, outcome_of_failure hfailure]
    exact ⟨h6.tallied, rfl⟩
  rw [hadd]
  rcases hlast with ⟨err, hlast, hfault5⟩ | ⟨hlast, hfault5⟩
  · have hfailure : a.failure = some err.text := by
      simp [Arrival.failure, hfault2, hfault3, hfault4, hfault5]
    rw [hlast, outcome_of_failure hfailure]
    exact ⟨h6.tallied, rfl⟩
  rw [hlast]
  have hfailure : a.failure = none := by
    simp [Arrival.failure, hfault2, hfault3, hfault4, hfault5]
  have hcounted : (a.count n a.hour : ℤ) = n a.hour + 1 := by
    have hexecuted : (a.tick 2).fault.isRefused = false := by
      cases hfault : (a.tick 2).fault with
      | refused text => simp [hfault, faultText] at hfault2
      | none | lost => rfl
    rw [Arrival.count, hexecuted, if_neg Bool.false_ne_true, Function.update_self]
    exact Nat.cast_succ _
  rw [outcome, hfailure, ← hcounted]
  -- the number of recipients
  obtain ⟨hcard, h7⟩ := h6.sCard cfg
  have hseen : ((server cfg).step
      (.redis (.sCard (Fraud.recipientsKey accountID (a.clockAt 1)))) s6.2).1.toOption.getD 0 =
        if (a.tick 6).fault = .none then (a.collect S a.window).card else 0 := by
    rcases hcard with ⟨err, hcard, hfault6⟩ | ⟨hcard, hfault6⟩
    · rw [hcard, if_neg fun hnone => by simp [hnone, faultText] at hfault6]
      rfl
    · rw [hcard, if_pos]
      · rfl
      · cases hfault : (a.tick 6).fault with
        | none => rfl
        | refused | lost => simp [hfault, faultText] at hfault6
  rw [← hseen]
  exact exec_judge (I := fun v => Tallied accountID (a.count n) (a.collect S) v.redis) cfg _ _
    h7.tallied

/-! ## Any messages -/

section History

variable (cfg : Config) {accountID : String} {w : World} {past : List Arrival} {a : Arrival}

/-- Nothing has been counted for an account. -/
def Fresh (accountID : String) (w : World) : Prop :=
  ∀ key ∈ counterKeys accountID, w.redis key = none

theorem sentIn_concat (past : List Arrival) (a : Arrival) :
    sentIn (past ++ [a]) = a.count (sentIn past) := by
  funext hour
  rw [sentIn, List.countP_append, List.countP_singleton, Arrival.count, Arrival.counted]
  cases (a.tick 2).fault.isRefused with
  | true => rfl
  | false =>
    rw [if_neg Bool.false_ne_true]
    by_cases hhour : a.hour = hour
    · subst hhour
      rw [Function.update_self, if_pos (by simp)]
      rfl
    · rw [Function.update_of_ne (Ne.symm hhour), if_neg (by simpa using hhour)]
      rfl

theorem reached_concat (past : List Arrival) (a : Arrival) :
    reached (past ++ [a]) = a.collect (reached past) := by
  funext window
  rw [reached, List.filter_append, List.map_append, List.toFinset_append, Arrival.collect]
  cases hrefused : (a.tick 4).fault.isRefused with
  | true => simp [Arrival.collected, hrefused, reached]
  | false =>
    rw [if_neg Bool.false_ne_true]
    by_cases hwindow : a.window = window
    · subst hwindow
      rw [Function.update_self, reached]
      simp [Arrival.collected, hrefused]
    · rw [Function.update_of_ne (Ne.symm hwindow), reached]
      simp [hwindow]

/-- **What the counters hold after any messages of an account.** -/
theorem tallied_after (hfresh : Fresh accountID w) (hpast : ∀ a ∈ past, a.Sound accountID) :
    Tallied accountID (sentIn past) (reached past) (after cfg w past).redis := by
  induction past using List.reverseRecOn with
  | nil =>
    refine ⟨fun t => ?_, fun t => ?_⟩
    · rw [show (after cfg w []).redis _ = none from hfresh _ (mem_hourKey t)]
      rfl
    · rw [show (after cfg w []).redis _ = none from hfresh _ (mem_recipientsKey t)]
      rfl
  | append_singleton past a ih =>
    have hbefore := ih fun b hb => hpast b (List.mem_append_left _ hb)
    have hafter := (check_spec cfg hbefore (hpast a (by simp))).1
    rw [sentIn_concat, reached_concat, after, List.foldl_concat]
    exact hafter

/-- **What the check finds after any messages of an account.** -/
theorem verdict_eq (hfresh : Fresh accountID w) (hpast : ∀ a ∈ past, a.Sound accountID)
    (ha : a.Sound accountID) :
    verdict cfg w past a = outcome a (sentIn (past ++ [a]) a.hour) (seen past a) := by
  rw [seen, sentIn_concat, reached_concat]
  exact (check_spec cfg (tallied_after cfg hfresh hpast) ha).2

/-- Messages with passwords are some of the messages. -/
theorem sentIn_passwords_le (past : List Arrival) (a : Arrival) (hour : ℤ) :
    sentIn (passwords past ++ [a]) hour ≤ sentIn (past ++ [a]) hour :=
  (List.filter_sublist.append (List.Sublist.refl [a])).countP_le

theorem seen_passwords_le (past : List Arrival) (a : Arrival) :
    seen (passwords past) a ≤ seen past a := by
  have hsub := ((List.filter_sublist (p := (·.messageType = .otp)) (l := past)).append
    (List.Sublist.refl [a])).filter fun b => b.collected && b.window = a.window
  unfold seen
  split_ifs
  · refine Finset.card_le_card fun recipient hmem => ?_
    exact List.mem_toFinset.2 ((hsub.map _).subset (List.mem_toFinset.1 hmem))
  · exact le_rfl

/-- The numbers for which the results are the same. -/
theorem judge_eq_iff {n n' d d' : ℕ} (hn : n' ≤ n) (hd : d' ≤ d) :
    judge n d = judge n' d' ↔ (n ≤ 1000 ∨ 1000 < n') ∧ (d ≤ 500 ∨ 500 < d' ∨ 1000 < n') := by
  unfold judge DetectionResult.clean
  split_ifs <;> simp <;> omega

/-- The numbers that are not objected to. -/
theorem flagged_judge {n d : ℕ} :
    Fraud.flagged (.ok (judge n d)) = none ↔ n ≤ 1000 ∧ d ≤ 500 := by
  unfold judge DetectionResult.clean
  split_ifs <;> simp [Fraud.flagged, Except.toOption] <;> omega

/-- **The check looks at passwords only** exactly if other messages make no difference. -/
theorem otpOnly_iff (hfresh : Fresh accountID w) (hpast : ∀ a ∈ past, a.Sound accountID)
    (ha : a.Sound accountID) : OTPOnly cfg w past a ↔ Unmixed past a := by
  have hpasswords : ∀ b ∈ passwords past, b.Sound accountID := fun b hb =>
    hpast b (List.mem_of_mem_filter hb)
  have hsent := sentIn_passwords_le past a a.hour
  have hseen := seen_passwords_le past a
  rw [OTPOnly, verdict_eq cfg hfresh hpast ha, verdict_eq cfg hfresh hpasswords ha, Unmixed]
  unfold outcome
  cases a.failure with
  | some text => exact iff_of_true ⟨rfl, fun _ => rfl⟩ nofun
  | none =>
    dsimp only
    rw [forall_prop_of_true rfl, Except.ok.injEq, judge_eq_iff hsent hseen, flagged_judge]
    split_ifs with hotp
    · exact and_iff_left fun hnot => absurd hotp hnot
    · rw [forall_prop_of_true hotp]
      omega

end History

/-- A message that the check objects to is blocked for it, whatever else would be found. -/
theorem analyze_of_flagged (cfg : Config) (scan : ContentScan) (input : DetectionInput) (w : World)
    {r : DetectionResult}
    (h : Fraud.flagged ((Fraud.checkOTPSpam input).exec (server cfg) w).val = some r) :
    ((Fraud.analyze scan input).exec (server cfg) w).val = r := by
  rw [Fraud.analyze, Prog.exec_bind, h]
  rfl

/-! ## A thousand messages -/

/-- A server on which nothing has been counted. -/
def nothingCounted : World where
  db := ⟨[], [], [], [], [], [], [], [], [], [], Registry.empty⟩
  redis _ := none
  streams _ := Stream.empty
  antiStarvationCnt := 0
  breakers _ := none
  history _ := []
  flags := []
  clock := 0
  env := []

/-- A message of an account. -/
def newsletter (messageType : MessageType) : Arrival :=
  ⟨0, ⟨"account-1", "+14155550100", "Shop", "Hello"⟩, messageType, []⟩

theorem newsletter_sound (messageType : MessageType) :
    (newsletter messageType).Sound "account-1" where
  account := rfl
  spared _ ht := absurd ht List.not_mem_nil
  prompt := (by decide : (newsletter .otp).clockAt 6 ≤ (newsletter .otp).clockAt 0 + 300000000000)

/-- Two messages with passwords. -/
theorem otpOnly_two : OTPOnly .default nothingCounted [newsletter .otp] (newsletter .otp) :=
  (otpOnly_iff .default (fun _ _ => rfl) (by simp [newsletter_sound]) (newsletter_sound .otp)).2
    (by decide)

/-- What the check finds after a thousand advertisements. -/
theorem verdict_newsletters (messageType : MessageType) :
    verdict .default nothingCounted (List.replicate 1000 (newsletter .marketing))
      (newsletter messageType) = .ok ⟨true, "OTP spam detected: >1000/hr", 4 / 5⟩ := by
  have hpast : ∀ b ∈ List.replicate 1000 (newsletter .marketing), b.Sound "account-1" := by
    intro b hb
    rw [List.eq_of_mem_replicate hb]
    exact newsletter_sound .marketing
  have hhour (messageType : MessageType) : (newsletter messageType).hour = 0 := by
    change (newsletter .otp).hour = 0
    decide
  have hcounted (messageType : MessageType) : ((newsletter messageType).counted &&
      (newsletter messageType).hour = 0) = true := by
    rw [hhour]
    rfl
  have hsent : sentIn (List.replicate 1000 (newsletter .marketing) ++ [newsletter messageType]) 0 =
      1001 := by
    rw [sentIn, List.countP_append, List.countP_replicate, List.countP_singleton,
      if_pos (hcounted .marketing), if_pos (hcounted messageType)]
  rw [verdict_eq .default (fun _ _ => rfl) hpast (newsletter_sound messageType), hhour, hsent]
  rfl

/-- The next advertisement is blocked for spam with passwords, and so is the first message with a
password, which would not be without the advertisements. -/
theorem blocked_by_newsletters :
    (∀ messageType, Fraud.flagged (verdict .default nothingCounted
      (List.replicate 1000 (newsletter .marketing)) (newsletter messageType)) ≠ none) ∧
    ¬ OTPOnly .default nothingCounted (List.replicate 1000 (newsletter .marketing))
      (newsletter .marketing) ∧
    ¬ OTPOnly .default nothingCounted (List.replicate 1000 (newsletter .marketing))
      (newsletter .otp) := by
  refine ⟨fun messageType => ?_, fun h => ?_, fun h => ?_⟩
  · rw [verdict_newsletters]
    nofun
  · have hclean := h.2 (by decide)
    rw [verdict_newsletters] at hclean
    cases hclean
  · have hsame := h.1
    rw [verdict_newsletters] at hsame
    have hnone : passwords (List.replicate 1000 (newsletter .marketing)) = [] := by
      rw [passwords, List.filter_replicate, if_neg (by decide)]
    have halone : outcome (newsletter .otp)
        (sentIn ([] ++ [newsletter .otp]) (newsletter .otp).hour) (seen [] (newsletter .otp)) =
          .ok .clean := rfl
    rw [hnone, verdict_eq .default (fun _ _ => rfl) (fun _ hb => absurd hb List.not_mem_nil)
      (newsletter_sound .otp), halone] at hsame
    cases hsame

end Spam

end AeroxeBee.Dispatch
