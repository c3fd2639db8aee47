import AeroxeBee.Dispatch.RateControl

/-!
# The throttle of a carrier

The counter of a carrier is forgotten a minute after the last message. So it counts the messages
since the last pause of a minute, and under a steady load these are more than those of a minute.

* `live_runCalls`: what the counter holds after calls at given times;
* `reopens_iff`: when the throttle is closed only while the messages of the last minute reach the
  limit.
-/

namespace AeroxeBee.Dispatch

open Foundations RateControl

/-! ## Calls at given times -/

/-- A call on the throttle of a carrier, country or prefix. -/
inductive ThrottleCall where
  | increment
  | check
deriving DecidableEq

/-- The server at a time at which nothing else happens. -/
def atTime (w : World) (t : ℤ) : World := { w with clock := t, env := [] }

section Calls

variable (cfg : Config) (scope scopeValue : String)

/-- The server after a call. -/
def afterCall (w : World) : ThrottleCall → World
  | .increment => ((incrementGlobalThrottle scope scopeValue).exec (server cfg) w).state
  | .check => ((checkGlobalThrottle scope scopeValue).exec (server cfg) w).state

/-- The server after calls at given times. -/
def runCalls (w : World) (calls : List (ℤ × ThrottleCall)) : World :=
  calls.foldl (fun w c => afterCall cfg scope scopeValue (atTime w c.1) c.2) w

/-- What a check answers at a time. -/
def checkAt (w : World) (t : ℤ) : Except RedisErr Bool :=
  ((checkGlobalThrottle scope scopeValue).exec (server cfg) (atTime w t)).val

end Calls

/-- The calls are given in the order in which they are made. -/
def Ordered (calls : List (ℤ × ThrottleCall)) : Prop := (calls.map Prod.fst).Pairwise (· ≤ ·)

/-- The times at which messages were counted, the last one first. -/
def increments (calls : List (ℤ × ThrottleCall)) : List ℤ :=
  ((calls.filter (·.2 = .increment)).map Prod.fst).reverse

/-- A minute. -/
def minute : ℤ := 60000000000

/-- How many messages were counted since the last pause of more than a minute, their times being given
from the last one on. -/
def sincePause : ℤ → List ℤ → ℕ
  | _, [] => 0
  | t, s :: times => if t ≤ s + minute then sincePause s times + 1 else 0

/-- How many messages were counted in the last minute. -/
def inLastMinute (t : ℤ) (times : List ℤ) : ℕ := times.countP fun s => t - minute ≤ s

/-- The throttle is closed only if the messages of the last minute reach the limit. -/
def Reopens (cfg : Config) (scope scopeValue : String) (w : World)
    (calls : List (ℤ × ThrottleCall)) : Prop :=
  ∀ before t, before ++ [(t, .check)] <+: calls →
    checkAt cfg scope scopeValue (runCalls cfg scope scopeValue w before) t = .ok false →
      maxLimit scope ≤ inLastMinute t (increments before)

/-- Where the messages since the last pause reach the limit, those of the last minute do. -/
def Paused (scope : String) (calls : List (ℤ × ThrottleCall)) : Prop :=
  ∀ before t, before ++ [(t, .check)] <+: calls →
    maxLimit scope ≤ sincePause t (increments before) →
      maxLimit scope ≤ inLastMinute t (increments before)

section Counter

variable {cfg : Config} {scope scopeValue : String} {w : World} {t : ℤ}
  {calls : List (ℤ × ThrottleCall)}

/-- A counter with the time at which it was last counted up. -/
def counter (n : ℕ) (times : List ℤ) : Option RedisEntry :=
  if n = 0 then none else some ⟨.text (Json.intLit n), times.head?.map (· + minute)⟩

@[simp] theorem increments_increment (calls : List (ℤ × ThrottleCall)) (t : ℤ) :
    increments (calls ++ [(t, .increment)]) = t :: increments calls := by
  simp [increments]

@[simp] theorem increments_check (calls : List (ℤ × ThrottleCall)) (t : ℤ) :
    increments (calls ++ [(t, .check)]) = increments calls := by
  simp [increments]

theorem atTime_self (hclock : w.clock = t) (henv : w.env = []) : atTime w t = w := by
  subst hclock
  unfold atTime
  rw [← henv]

/-- A command at a time is executed on what its key holds then. -/
theorem step_at {β : Type} (e : RedisCmd β) (w : World) :
    ((server cfg).step (.redis e) (atTime w t)).1 = (e.reply t (w.redis.live t e.key)).1 ∧
      ((server cfg).step (.redis e) (atTime w t)).2.redis e.key =
        (e.reply t (w.redis.live t e.key)).2 ∧
      atTime ((server cfg).step (.redis e) (atTime w t)).2 t =
        ((server cfg).step (.redis e) (atTime w t)).2 := by
  have hclock : (atTime w t).tick.clock = t := add_zero t
  refine ⟨?_, ?_, atTime_self hclock rfl⟩
  · change (e.run (atTime w t).tick.clock w.redis).1 = _
    rw [hclock]
    rfl
  · change (e.run (atTime w t).tick.clock w.redis).2 e.key = _
    rw [hclock, RedisCmd.run_self]

/-- A check reads the counter. -/
theorem checkAt_eq {n : ℕ} {times : List ℤ}
    (hlive : w.redis.live t (throttleKey scope scopeValue) = counter n times) :
    checkAt cfg scope scopeValue w t = .ok (decide ((n : ℤ) < maxLimit scope)) := by
  have hlimit : 0 < maxLimit scope := by
    unfold maxLimit
    split_ifs <;> omega
  have hread : ((server cfg).step (.redis (.get (throttleKey scope scopeValue))) (atTime w t)).1 =
      ((RedisCmd.get (throttleKey scope scopeValue)).reply t (counter n times)).1 := by
    rw [← hlive]
    exact (step_at _ w).1
  simp only [checkAt, checkGlobalThrottle, getInt, Prog.call_bind, Prog.act_bind, Prog.exec_act, hread]
  by_cases hn : n = 0
  · subst hn
    simp [counter, RedisCmd.reply, hlimit]
  · simp [counter, RedisCmd.reply, hn, Json.parseInt_intLit]

/-- A check leaves the counter as it is. -/
theorem live_afterCheck {later : ℤ} (hle : t ≤ later) :
    (afterCall cfg scope scopeValue (atTime w t) .check).redis.live later
        (throttleKey scope scopeValue) =
      w.redis.live later (throttleKey scope scopeValue) := by
  have hstate : (afterCall cfg scope scopeValue (atTime w t) .check) =
      ((server cfg).step (.redis (.get (throttleKey scope scopeValue))) (atTime w t)).2 := by
    simp only [afterCall, checkGlobalThrottle, getInt, Prog.call_bind, Prog.act_bind, Prog.exec_act]
    rcases ((server cfg).step (.redis (.get (throttleKey scope scopeValue))) (atTime w t)).1 with e | cs
    · cases e <;> rfl
    · dsimp only
      cases Json.parseInt cs <;> rfl
  have hredis : ((server cfg).step (.redis (.get (throttleKey scope scopeValue)))
      (atTime w t)).2.redis (throttleKey scope scopeValue) =
        w.redis.live t (throttleKey scope scopeValue) :=
    (step_at _ w).2.1.trans (RedisCmd.reply_get _ _ _).1
  rw [hstate, Keyspace.live, hredis, Keyspace.filter_live hle]

/-- **A message is counted**, and the counter is kept for another minute. -/
theorem live_afterIncrement {n : ℕ} {times : List ℤ}
    (hlive : w.redis.live t (throttleKey scope scopeValue) = counter n times) (later : ℤ) :
    (afterCall cfg scope scopeValue (atTime w t) .increment).redis.live later
        (throttleKey scope scopeValue) =
      if later ≤ t + minute then counter (n + 1) (t :: times) else none := by
  let key := throttleKey scope scopeValue
  let w₁ := ((server cfg).step (.redis (.incr key)) (atTime w t)).2
  have hstate : afterCall cfg scope scopeValue (atTime w t) .increment =
      ((server cfg).step (.redis (.expire key 60000000000)) w₁).2 := rfl
  have hat₁ : atTime w₁ t = w₁ := (step_at _ w).2.2
  have hcounted : ∃ expires, (∀ e, expires = some e → t ≤ e) ∧
      w₁.redis key = some ⟨.text (Json.intLit (n + 1)), expires⟩ := by
    rw [show w₁.redis key = ((RedisCmd.incr key).reply t (counter n times)).2 from
      hlive ▸ (step_at (.incr key) w).2.1]
    by_cases hn : n = 0
    · subst hn
      exact ⟨none, nofun, rfl⟩
    · refine ⟨times.head?.map (· + minute), fun e he => ?_, ?_⟩
      · have hfresh := (Option.filter_eq_some_iff.1 (hlive.trans (if_neg hn))).2
        rw [Keyspace.fresh, he] at hfresh
        exact of_decide_eq_true hfresh
      · simp [counter, hn, RedisCmd.reply, Json.parseInt_intLit]
  obtain ⟨expires, hfresh, hentry⟩ := hcounted
  have hlive₁ : w₁.redis.live t key = some ⟨.text (Json.intLit (n + 1)), expires⟩ := by
    rw [Keyspace.live, hentry, Option.filter_some, if_pos]
    cases expires with
    | none => rfl
    | some e => exact decide_eq_true (hfresh e rfl)
  have hkept : ((server cfg).step (.redis (.expire key 60000000000)) w₁).2.redis key =
      some ⟨.text (Json.intLit (n + 1)), some (t + minute)⟩ := by
    rw [← hat₁]
    refine (step_at (.expire key 60000000000) w₁).2.1.trans ?_
    rw [RedisCmd.key, hlive₁]
    rfl
  rw [hstate, Keyspace.live, hkept]
  rw [Option.filter_some]
  simp [counter, Keyspace.fresh]

theorem runCalls_concat (c : ℤ × ThrottleCall) :
    runCalls cfg scope scopeValue w (calls ++ [c]) =
      afterCall cfg scope scopeValue (atTime (runCalls cfg scope scopeValue w calls) c.1) c.2 := by
  simp [runCalls]

/-- **The counter holds the number of messages since the last pause**, if it did not exist before
them. -/
theorem live_runCalls (hnew : w.redis (throttleKey scope scopeValue) = none)
    (hordered : Ordered calls) (hle : ∀ c ∈ calls, c.1 ≤ t) :
    (runCalls cfg scope scopeValue w calls).redis.live t (throttleKey scope scopeValue) =
      counter (sincePause t (increments calls)) (increments calls) := by
  induction calls using List.reverseRecOn generalizing t with
  | nil =>
    change w.redis.live t _ = none
    rw [Keyspace.live, hnew]
    rfl
  | append_singleton calls c ih =>
    obtain ⟨s, call⟩ := c
    have hordered' : Ordered calls := by
      unfold Ordered at hordered ⊢
      rw [List.map_append] at hordered
      exact (List.pairwise_append.1 hordered).1
    have hbefore : ∀ c ∈ calls, c.1 ≤ s := by
      intro c hc
      unfold Ordered at hordered
      rw [List.map_append] at hordered
      exact (List.pairwise_append.1 hordered).2.2 c.1 (List.mem_map_of_mem hc) s (by simp)
    have hs : s ≤ t := hle (s, call) (by simp)
    have hthen := ih hordered' hbefore
    rw [runCalls_concat]
    cases call with
    | check =>
      rw [live_afterCheck hs, increments_check]
      exact ih hordered' fun c hc => (hbefore c hc).trans hs
    | increment =>
      rw [live_afterIncrement hthen, increments_increment, sincePause]
      split_ifs with hlater
      · rfl
      · simp [counter]

/-- What a check answers after calls. -/
theorem checkAt_runCalls (hnew : w.redis (throttleKey scope scopeValue) = none)
    (hordered : Ordered calls) (hle : ∀ c ∈ calls, c.1 ≤ t) :
    checkAt cfg scope scopeValue (runCalls cfg scope scopeValue w calls) t =
      .ok (decide ((sincePause t (increments calls) : ℤ) < maxLimit scope)) :=
  checkAt_eq (live_runCalls hnew hordered hle)

/-- Calls before a check are in order, and not later. -/
theorem ordered_of_prefix {before : List (ℤ × ThrottleCall)} {c : ℤ × ThrottleCall}
    (hordered : Ordered calls) (h : before ++ [c] <+: calls) :
    Ordered before ∧ ∀ b ∈ before, b.1 ≤ c.1 := by
  have hinit : Ordered (before ++ [c]) := hordered.sublist (h.sublist.map _)
  unfold Ordered at hinit
  rw [List.map_append, List.pairwise_append] at hinit
  exact ⟨hinit.1, fun b hb => hinit.2.2 b.1 (List.mem_map_of_mem hb) c.1 (by simp)⟩

/-- **The throttle is closed only while the messages of the last minute reach the limit** exactly when
at each check the messages since the last pause reach it only if those of the last minute do. -/
theorem reopens_iff (cfg : Config) (scopeValue : String) (hordered : Ordered calls)
    (hnew : w.redis (throttleKey scope scopeValue) = none) :
    Reopens cfg scope scopeValue w calls ↔ Paused scope calls := by
  refine forall_congr' fun before => forall_congr' fun t => forall_congr' fun h => ?_
  obtain ⟨hbefore, hle⟩ := ordered_of_prefix hordered h
  rw [checkAt_runCalls hnew hbefore hle]
  simp only [Except.ok.injEq, decide_eq_false_iff_not, not_lt]

end Counter

/-! ## A steady load -/

/-- A message every half a minute. -/
def steady (n : ℕ) : List (ℤ × ThrottleCall) :=
  (List.range n).map fun k : ℕ => (30000000000 * (k : ℤ), .increment)

theorem increments_steady (n : ℕ) :
    increments (steady (n + 1)) = 30000000000 * (n : ℤ) :: increments (steady n) := by
  rw [steady, List.range_succ, List.map_append, List.map_singleton, increments_increment, ← steady]

/-- The messages of a steady load are never interrupted. -/
theorem sincePause_steady (n : ℕ) :
    sincePause (30000000000 * n) (increments (steady n)) = n := by
  induction n with
  | zero => rfl
  | succ n ih =>
    rw [increments_steady, sincePause, if_pos, ih]
    unfold minute
    push_cast
    omega

/-- The messages of a steady load that are older than a minute are not counted. -/
theorem inLastMinute_steady_of_le {n : ℕ} {t : ℤ} (h : 30000000000 * (n : ℤ) + minute ≤ t) :
    inLastMinute t (increments (steady n)) = 0 := by
  induction n with
  | zero => rfl
  | succ n ih =>
    push_cast at h
    rw [increments_steady, inLastMinute, List.countP_cons_of_neg, ← inLastMinute, ih (by omega)]
    simp only [decide_eq_true_eq]
    omega

/-- A steady load has two messages in every minute. -/
theorem inLastMinute_steady (n : ℕ) :
    inLastMinute (30000000000 * ((n + 2 : ℕ) : ℤ)) (increments (steady (n + 2))) = 2 := by
  have hold : inLastMinute (30000000000 * ((n + 2 : ℕ) : ℤ)) (increments (steady n)) = 0 := by
    refine inLastMinute_steady_of_le ?_
    unfold minute
    push_cast
    omega
  have hlast : ∀ k : ℕ, n ≤ k →
      decide (30000000000 * ((n + 2 : ℕ) : ℤ) - minute ≤ 30000000000 * (k : ℤ)) = true := by
    intro k hk
    unfold minute
    push_cast
    exact decide_eq_true (by omega)
  rw [increments_steady, increments_steady, inLastMinute, List.countP_cons_of_pos,
    List.countP_cons_of_pos, ← inLastMinute, hold]
  · exact hlast n (le_refl n)
  · exact hlast (n + 1) (Nat.le_succ n)

theorem ordered_steady (n : ℕ) : Ordered (steady n ++ [(30000000000 * (n : ℤ), .check)]) := by
  unfold Ordered steady
  rw [List.map_append, List.map_map, List.pairwise_append]
  refine ⟨?_, List.pairwise_singleton _ _, ?_⟩
  · rw [List.pairwise_map]
    refine List.pairwise_lt_range.imp fun {a b} hab => ?_
    simp only [Function.comp_apply]
    omega
  · intro a ha b hb
    obtain ⟨k, hk, rfl⟩ := List.mem_map.1 ha
    have hlt : k < n := List.mem_range.1 hk
    simp only [List.map_cons, List.map_nil, List.mem_singleton] at hb
    rw [hb]
    simp only [Function.comp_apply]
    omega

/-- A server without keys. -/
def noKeys : World where
  db := ⟨[], [], [], [], [], [], [], [], [], [], Registry.empty⟩
  redis _ := none
  streams _ := Stream.empty
  antiStarvationCnt := 0
  breakers _ := none
  history _ := []
  flags := []
  clock := 0
  env := []

/-- There are no more messages since the last pause than there are messages. -/
theorem sincePause_le (t : ℤ) (times : List ℤ) : sincePause t times ≤ times.length := by
  induction times generalizing t with
  | nil => exact le_refl 0
  | cons s times ih =>
    rw [sincePause]
    split_ifs
    · exact Nat.succ_le_succ (ih s)
    · exact Nat.zero_le _

/-- A single message closes nothing. -/
theorem one_reopens :
    Reopens .default "carrier" "jio" noKeys [(0, .increment), (1, .check)] := by
  refine (reopens_iff .default "jio" (by unfold Ordered; decide) rfl).2 fun before t h hbusy => ?_
  have hlength : (increments before).length ≤ 2 := by
    have hbefore := h.length_le
    have hfilter := List.length_filter_le (·.2 = ThrottleCall.increment) before
    simp only [List.length_append, List.length_cons, List.length_nil] at hbefore
    simp only [increments, List.length_reverse, List.length_map]
    omega
  have hlimit : maxLimit "carrier" = 3000 := by decide
  have hle := sincePause_le t (increments before)
  omega

/-- After 3000 messages, one every half a minute, the throttle of a carrier is closed, although two
messages were sent in the last minute. -/
theorem steady_closed :
    Ordered (steady 3000 ++ [(90000000000000, .check)]) ∧
      noKeys.redis (throttleKey "carrier" "jio") = none ∧
      checkAt .default "carrier" "jio" (runCalls .default "carrier" "jio" noKeys (steady 3000))
        90000000000000 = .ok false ∧
      inLastMinute 90000000000000 (increments (steady 3000)) = 2 ∧
      ¬ Reopens .default "carrier" "jio" noKeys (steady 3000 ++ [(90000000000000, .check)]) := by
  have hordered := ordered_steady 3000
  have hfew : inLastMinute 90000000000000 (increments (steady 3000)) = 2 := inLastMinute_steady 2998
  obtain ⟨hbefore, hle⟩ := ordered_of_prefix hordered (List.prefix_refl _)
  have hclosed : checkAt .default "carrier" "jio" (runCalls .default "carrier" "jio" noKeys
      (steady 3000)) (30000000000 * (3000 : ℕ)) = .ok false := by
    rw [checkAt_runCalls rfl hbefore hle, sincePause_steady]
    rfl
  refine ⟨hordered, rfl, hclosed, hfew, fun h => ?_⟩
  have hmany := h (steady 3000) 90000000000000 (List.prefix_refl _) hclosed
  rw [hfew] at hmany
  exact absurd hmany (by decide)

end AeroxeBee.Dispatch
