import AeroxeBee.Api.RateLimits

/-!
# Guessing passwords

The routes that log in count the requests of each client, and lock a client out that makes too many.
Looking for the lockout, counting, locking out and deleting the counter are commands of their own, so a
request that has found no lockout can be counted on a counter that begins again behind the lockout.

* `phased_protect`: the protocol that a request keeps to until it reaches the handler;
* `protected_run`: no more requests reach the handler in an attempt window than are allowed, and none
  before a lockout is over, in every run in which none is let through while a lockout is in force.
-/

namespace AeroxeBee.Api

open Foundations Otp

/-! ## The middleware -/

/-- The settings of the protection: how many attempts there may be in a window, and how long it and a
lockout last. -/
structure BruteForceProtector where
  maxAttempts : ℤ
  windowDuration : ℤ
  lockoutDuration : ℤ

/-- Whom the attempts are counted for. -/
structure Client where
  identifier : String
  ip : String

/-- The counter of a client. -/
def Client.key (c : Client) : String := "bruteforce:" ++ c.identifier ++ ":" ++ c.ip

/-- The key that locks a client out. -/
def Client.lockoutKey (c : Client) : String := "lockout:" ++ c.identifier ++ ":" ++ c.ip

/-- What becomes of a request: it meets a lockout, it locks the client out, or it reaches the
handler. -/
inductive Verdict where
  | locked
  | lockedOut (headers : RateLimitHeaders) (answer : Response)
  | reached (headers : Option RateLimitHeaders)

/-- A lockout was found. When Redis fails there is none. -/
def isLocked : Except RedisErr ℕ → Bool
  | .ok n => 0 < n
  | .error _ => false

variable (p : BruteForceProtector) (c : Client)

/-- What stands in front of the handlers that log in. -/
def protect : ServerProg Verdict := do
  if isLocked (← Prog.call (.redis (.keyExists c.lockoutKey))) then return .locked
  else
    match ← Prog.call (.redis (.incr c.key)) with
    | .error _ => return .reached none
    | .ok count =>
      if count = 1 then
        let _ ← Prog.call (.redis (.expire c.key p.windowDuration))
      let headers : RateLimitHeaders := ⟨p.maxAttempts, max 0 (p.maxAttempts - count), none⟩
      if p.maxAttempts < count then do
        let _ ← Prog.call (.redis (.set c.lockoutKey "1".toList
          (RedisCmd.expiration p.lockoutDuration)))
        let _ ← Prog.call (.redis (.del c.key))
        let seconds := p.lockoutDuration / 1000000000
        return .lockedOut { headers with retryAfter := some seconds }
          (.error 429 ("too many attempts, account locked for " ++ toString seconds ++ " seconds"))
      else return .reached (some headers)

/-- Requests of one client that are served concurrently. -/
abbrev Attempts := Pool ServerCmd World Verdict

/-- A number of requests before any of them has moved. -/
def attempting (n : ℕ) (w : World) : Attempts :=
  .start ((List.replicate n c).map (protect p)) w

/-! ## The law -/

/-- The client is locked out. -/
def isLockoutOf : ℕ × Event ServerCmd → Bool
  | (_, ⟨.redis (.set key _ _), reply⟩) => key = c.lockoutKey && executed reply
  | _ => false

/-- The command after which a request reaches the handler. The first attempt of a window sets its
expiry before. -/
def isPass : ℕ × Event ServerCmd → Bool
  | (_, ⟨.redis (.incr _), .ok count⟩) => count ≠ 1 && decide (count ≤ p.maxAttempts)
  | (_, ⟨.redis (.incr _), .error _⟩) => true
  | (_, ⟨.redis (.expire _ _), _⟩) => decide (1 ≤ p.maxAttempts)
  | _ => false

/-- How an attempt was counted. -/
def countReply : ℕ × Event ServerCmd → Option (Except RedisErr ℤ)
  | (_, ⟨.redis (.incr _), reply⟩) => some reply
  | _ => none

/-- An attempt that is counted so goes on to the handler. -/
def admits : Except RedisErr ℤ → Bool
  | .ok count => count ≤ p.maxAttempts
  | .error _ => true

instance decidableLifted (ttl start now : ℤ) : Decidable (Lifted ttl start now) :=
  decidable_of_iff ((RedisCmd.expiration ttl).any (start + · < now) = true) (by
    unfold Lifted
    cases RedisCmd.expiration ttl <;> simp)

/-- The attempt begins a new window: it is the first on its counter, and every lockout is over. -/
def Opens (x : ℤ × ℕ × Event ServerCmd) (earlier : List (ℤ × ℕ × Event ServerCmd)) : Prop :=
  countReply x.2 = some (.ok 1) ∧
    ∀ y ∈ earlier, isLockoutOf c y.2 = true → Lifted p.lockoutDuration y.1 x.1

instance (x : ℤ × ℕ × Event ServerCmd) (earlier : List (ℤ × ℕ × Event ServerCmd)) :
    Decidable (Opens p c x earlier) :=
  inferInstanceAs (Decidable (_ ∧ _))

/-- How many attempts of the current window have gone on to the handler, in a log with the newest
entry first. -/
def windowCount : List (ℤ × ℕ × Event ServerCmd) → ℕ
  | [] => 0
  | x :: earlier =>
    (if (countReply x.2).any (admits p) then 1 else 0) +
      if Opens p c x earlier then 0 else windowCount earlier

/-- **What the protection promises**: in no attempt window do more requests reach the handler than are
allowed, and none does between a lockout and its end. -/
structure Protected (w : World) (P : Attempts) : Prop where
  bounded : (windowCount p c (timed w P.log).reverse : ℤ) ≤ max 0 p.maxAttempts
  lockedOut : (timed w P.log).Pairwise fun x y => isLockoutOf c x.2 = true →
    isPass p y.2 = true → Lifted p.lockoutDuration x.1 y.1

/-! ## The protocol of a request -/

/-- What a request has done: how it was counted, and whether it goes on to the handler. -/
structure Attempt where
  count : Option (Except RedisErr ℤ)
  passed : Bool

namespace Attempt

/-- A request that has not been counted. -/
def start : Attempt := ⟨none, false⟩

/-- What a request makes of an event. -/
def next (p : BruteForceProtector) (s : Attempt) (ev : Event ServerCmd) : Attempt :=
  { count := (countReply (0, ev)).or s.count
    passed := s.passed || isPass p (0, ev) }

/-- What a request may do next. -/
def Allows (p : BruteForceProtector) (c : Client) (s : Attempt) : {β : Type} → ServerCmd β → Prop
  | _, .redis (.keyExists key) => key = c.lockoutKey
  | _, .redis (.incr key) => key = c.key
  | _, .redis (.expire key _) => key = c.key ∧ s.count = some (.ok 1)
  | _, .redis (.set key _ ttl) =>
    key = c.lockoutKey ∧ ttl = RedisCmd.expiration p.lockoutDuration
  | _, .redis (.del key) => key = c.key
  | _, _ => False

/-- A request that reaches the handler has passed. -/
def Ends (s : Attempt) : Verdict → Prop
  | .reached _ => s.passed = true
  | _ => True

end Attempt

/-- The protocol of a request. -/
def attempt (c : Client) : Protocol ServerCmd Attempt where
  allows s := s.Allows p c
  expects _ := True
  next := Attempt.next p

theorem phased_protect : Pool.Phased (protect p) (attempt p) (fun _ => Attempt.Ends)
    (Attempt.next p) .start where
  next_eq _ := rfl
  expects _ _ := trivial
  keeps c := by
    refine ⟨rfl, fun locked _ => ?_⟩
    change Prog.Keeps _ _ (ite _ _ _) _
    split_ifs
    · trivial
    refine ⟨rfl, fun reply _ => ?_⟩
    cases reply with
    | error e => rfl
    | ok count =>
      -- a request that is not the first of its window, or has set the expiry
      have hrest (s : Attempt) (hpassed : count ≤ p.maxAttempts → s.passed = true) :
          (ite (p.maxAttempts < count)
            (Prog.call (.redis (.set c.lockoutKey "1".toList
                (RedisCmd.expiration p.lockoutDuration))) >>= fun _ =>
              Prog.call (.redis (.del c.key)) >>= fun _ =>
              pure (Verdict.lockedOut
                ⟨p.maxAttempts, max 0 (p.maxAttempts - count), some (p.lockoutDuration / 1000000000)⟩
                (.error 429 ("too many attempts, account locked for " ++
                  toString (p.lockoutDuration / 1000000000) ++ " seconds"))))
            (pure (Verdict.reached
              (some ⟨p.maxAttempts, max 0 (p.maxAttempts - count), none⟩))) :
              ServerProg Verdict).Keeps (attempt p c) Attempt.Ends s := by
        split_ifs with hover
        · exact ⟨⟨rfl, rfl⟩, fun _ _ => ⟨rfl, fun _ _ => trivial⟩⟩
        · exact hpassed (not_lt.1 hover)
      change Prog.Keeps _ _ (ite _ _ _) _
      split
      · rename_i hone
        subst hone
        refine ⟨⟨rfl, rfl⟩, fun _ _ => hrest _ fun hle => ?_⟩
        simp [attempt, Attempt.next, isPass, hle]
      · rename_i hone
        refine hrest _ fun hle => ?_
        simp [attempt, Attempt.next, isPass, hle, hone]

/-! ## Runs without a race -/

/-- What a request among others has done. -/
abbrev effort (P : Attempts) (i : ℕ) : Attempt := P.phase (Attempt.next p) .start i

/-- Redis is there, and no request is let through while a lockout is in force: none is counted within
the limit then, and none gives its window the expiry. -/
def Heeds (P : Attempts) (_ : ℕ) : {β : Type} → ServerCmd β → Prop
  | _, .redis e =>
    let held key := P.state.tick.redis.live P.state.tick.clock key
    P.state.next.fault = .none ∧
      match e with
      | .incr _ => countOf (held c.key) < p.maxAttempts → held c.lockoutKey = none
      | .expire _ _ => 1 ≤ p.maxAttempts → held c.lockoutKey = none
      | _ => True
  | _, _ => True

/-- The condition on a command as a test. -/
def heeds (P : Attempts) : {β : Type} → ServerCmd β → Bool
  | _, .redis e =>
    let held key := P.state.tick.redis.live P.state.tick.clock key
    decide (P.state.next.fault = .none) &&
      match e with
      | .incr _ => decide (countOf (held c.key) < p.maxAttempts → held c.lockoutKey = none)
      | .expire _ _ => decide (1 ≤ p.maxAttempts → held c.lockoutKey = none)
      | _ => true
  | _, _ => true

instance decidableHeeds (P : Attempts) (i : ℕ) {β : Type} (e : ServerCmd β) :
    Decidable (Heeds p c P i e) :=
  decidable_of_iff (heeds p c P e = true) (by
    cases e with
    | redis e =>
      refine Bool.and_eq_true_iff.trans (and_congr decide_eq_true_iff ?_)
      cases e with
      | incr | expire => exact decide_eq_true_iff
      | _ => exact iff_of_true rfl trivial
    | _ => exact iff_of_true rfl trivial)

theorem key_ne_lockoutKey : c.key ≠ c.lockoutKey := by
  intro h
  have hlist := congrArg String.toList h
  simp [Client.key, Client.lockoutKey] at hlist

/-- The keys of a client. -/
def Client.keys : Set String := {c.key, c.lockoutKey}

section Run

variable {p c} {cfg : Config} {w : World} {P : Attempts} {i : ℕ} {β : Type} {e : ServerCmd β}
  {k : β → ServerProg Verdict}

variable (p c w) in
/-- **The state of the protection.** The counter is no lower than the number of attempts of its window
that went on, and a lockout is found until it is over. -/
structure Guarding (P : Attempts) : Prop where
  spared : Spares c.keys P.state
  clockAt : ∀ n, P.state.clockAt n = w.clockAt (P.log.length + n)
  past : ∀ x ∈ timed w P.log, x.1 ≤ P.state.clock
  isCount : IsCount (P.state.redis c.key)
  counted : ∀ t, P.state.clock ≤ t → (P.state.redis.live t c.key).isSome = true →
    (windowCount p c (timed w P.log).reverse : ℤ) ≤ countOf (P.state.redis.live t c.key)
  locked : ∀ x ∈ timed w P.log, isLockoutOf c x.2 = true → ∀ t, P.state.clock ≤ t →
    P.state.redis.live t c.lockoutKey = none → Lifted p.lockoutDuration x.1 t
  promise : Protected p c w P

theorem Guarding.time (h : Guarding p c w P) : P.state.tick.clock = w.clockAt P.log.length :=
  P.state.tick_clock.trans (h.clockAt 0)

theorem Guarding.past_tick (h : Guarding p c w P) :
    ∀ x ∈ timed w P.log, x.1 ≤ P.state.tick.clock :=
  fun x hx => (h.past x hx).trans P.state.clock_le_tick

/-- The attempts of the current window after a step. -/
theorem Guarding.windowCount_concat (h : Guarding p c w P) (x : ℕ × Event ServerCmd) :
    windowCount p c (timed w (P.log ++ [x])).reverse =
      (if (countReply x).any (admits p) then 1 else 0) +
        if Opens p c (P.state.tick.clock, x) (timed w P.log).reverse then 0
        else windowCount p c (timed w P.log).reverse := by
  rw [timed_concat, List.reverse_append, ← h.time]
  rfl

/-- What has to be said of a step. -/
theorem Guarding.advance (h : Guarding p c w P)
    (hcount : IsCount (((server cfg).step e P.state).2.redis c.key))
    (hcounted : ∀ t, P.state.tick.clock ≤ t →
      (((server cfg).step e P.state).2.redis.live t c.key).isSome = true →
        (windowCount p c (timed w
          (P.log ++ [(i, ⟨e, ((server cfg).step e P.state).1⟩)])).reverse : ℤ) ≤
            countOf (((server cfg).step e P.state).2.redis.live t c.key))
    (hlocked : isLockoutOf c (i, ⟨e, ((server cfg).step e P.state).1⟩) = false ∧
        (∀ t, P.state.tick.clock ≤ t → ((server cfg).step e P.state).2.redis.live t c.lockoutKey =
          P.state.redis.live t c.lockoutKey) ∨
      ∀ t, P.state.tick.clock ≤ t → ((server cfg).step e P.state).2.redis.live t c.lockoutKey = none →
        Lifted p.lockoutDuration P.state.tick.clock t)
    (hbounded : (windowCount p c (timed w
      (P.log ++ [(i, ⟨e, ((server cfg).step e P.state).1⟩)])).reverse : ℤ) ≤ max 0 p.maxAttempts)
    (hpass : isPass p (i, ⟨e, ((server cfg).step e P.state).1⟩) = true →
      P.state.redis.live P.state.tick.clock c.lockoutKey = none) :
    Guarding p c w (P.advance (server cfg) i e k) := by
  have hclock : ((server cfg).step e P.state).2.clock = P.state.tick.clock :=
    step_clock cfg P.state e
  have hle := P.state.clock_le_tick
  refine ⟨h.spared.step e, clockAt_concat cfg h.clockAt e _, ?_, hcount,
    fun t ht => hcounted t (hclock ▸ ht), ?_, ⟨hbounded, ?_⟩⟩
  · change ∀ y ∈ timed w (P.log ++ [_]), y.1 ≤ ((server cfg).step e P.state).2.clock
    rw [hclock]
    exact timed_concat_le h.past hle h.time.ge
  · change ∀ y ∈ timed w (P.log ++ [_]), isLockoutOf c y.2 = true → ∀ t,
      ((server cfg).step e P.state).2.clock ≤ t → _
    rw [hclock]
    exact lifted_concat h.locked hle h.past_tick h.time hlocked
  · change (timed w (P.log ++ [_])).Pairwise _
    rw [timed_concat, List.pairwise_append]
    refine ⟨h.promise.lockedOut, List.pairwise_singleton _ _, fun y hy z hz hlock hpassed => ?_⟩
    obtain rfl := List.mem_singleton.1 hz
    rw [← h.time]
    exact h.locked y hy hlock _ hle (hpass hpassed)

/-- The attempts of the current window after a step that counts none. -/
theorem Guarding.windowCount_of_none (h : Guarding p c w P) {x : ℕ × Event ServerCmd}
    (hx : countReply x = none) : windowCount p c (timed w (P.log ++ [x])).reverse =
      windowCount p c (timed w P.log).reverse := by
  have hopens : ¬ Opens p c (P.state.tick.clock, x) (timed w P.log).reverse := by
    rintro ⟨hone, -⟩
    cases hx.symm.trans hone
  rw [h.windowCount_concat, hx, if_neg hopens]
  simp

/-- A step that leaves the counter alone. -/
theorem Guarding.aside (h : Guarding p c w P)
    (hkey : ((server cfg).step e P.state).2.redis c.key = P.state.redis c.key)
    (hnone : countReply (i, ⟨e, ((server cfg).step e P.state).1⟩) = none)
    (hlocked : isLockoutOf c (i, ⟨e, ((server cfg).step e P.state).1⟩) = false ∧
        (∀ t, P.state.tick.clock ≤ t → ((server cfg).step e P.state).2.redis.live t c.lockoutKey =
          P.state.redis.live t c.lockoutKey) ∨
      ∀ t, P.state.tick.clock ≤ t → ((server cfg).step e P.state).2.redis.live t c.lockoutKey = none →
        Lifted p.lockoutDuration P.state.tick.clock t)
    (hpass : isPass p (i, ⟨e, ((server cfg).step e P.state).1⟩) = false) :
    Guarding p c w (P.advance (server cfg) i e k) := by
  refine h.advance (hkey ▸ h.isCount) (fun t ht hsome => ?_) hlocked ?_ fun hpassed => ?_
  · rw [Keyspace.live_congr hkey] at hsome ⊢
    rw [h.windowCount_of_none hnone]
    exact h.counted t (P.state.clock_le_tick.trans ht) hsome
  · rw [h.windowCount_of_none hnone]
    exact h.promise.bounded
  · cases hpass.symm.trans hpassed

/-- A request looks for a lockout. -/
theorem Guarding.look (h : Guarding p c w P) {k : Except RedisErr ℕ → ServerProg Verdict} :
    Guarding p c w (P.advance (server cfg) i (.redis (.keyExists c.lockoutKey)) k) := by
  refine h.aside (h.spared.redis_of_ne (.inl rfl) (key_ne_lockoutKey c)) rfl
    (.inl ⟨rfl, fun t ht => ?_⟩) rfl
  exact h.spared.live_of_reads (.inr rfl) rfl ht

/-- A request locks the client out. -/
theorem Guarding.lockOut (h : Guarding p c w P) (hfault : P.state.next.fault = .none)
    {value : List Char} {k : Except RedisErr Unit → ServerProg Verdict} :
    Guarding p c w (P.advance (server cfg) i
      (.redis (.set c.lockoutKey value (RedisCmd.expiration p.lockoutDuration))) k) := by
  refine h.aside (h.spared.redis_of_ne (.inl rfl) (key_ne_lockoutKey c)) rfl
    (.inr fun t _ hgone => ?_) rfl
  have hset := @Spares.redis_of_executed cfg _ _ h.spared _
    (.set c.lockoutKey value (RedisCmd.expiration p.lockoutDuration)) (.inr rfl)
    (by rw [hfault]; nofun)
  exact .of_gone hset hgone

/-- The counter is deleted. -/
theorem Guarding.delete (h : Guarding p c w P) (hfault : P.state.next.fault = .none)
    {k : Except RedisErr Unit → ServerProg Verdict} :
    Guarding p c w (P.advance (server cfg) i (.redis (.del c.key)) k) := by
  have hgone : ((server cfg).step (.redis (.del c.key)) P.state).2.redis c.key = none :=
    @Spares.redis_of_executed cfg _ _ h.spared _ (.del c.key) (.inl rfl) (by rw [hfault]; nofun)
  have hlock (t : ℤ) : ((server cfg).step (.redis (.del c.key)) P.state).2.redis.live t c.lockoutKey =
      P.state.redis.live t c.lockoutKey :=
    Keyspace.live_congr (@Spares.redis_of_ne cfg _ _ _ h.spared (.inr rfl) _ (.del c.key)
      (key_ne_lockoutKey c).symm) t
  refine h.advance (hgone ▸ nofun) (fun t _ hsome => ?_) (.inl ⟨rfl, fun t _ => hlock t⟩) ?_ nofun
  · rw [Keyspace.live, hgone] at hsome
    cases hsome
  · rw [h.windowCount_of_none rfl]
    exact h.promise.bounded

/-- The window is given its expiry. -/
theorem Guarding.expire (h : Guarding p c w P) {ttl : ℤ}
    {k : Except RedisErr Unit → ServerProg Verdict}
    (hheeds : Heeds p c P i (.redis (.expire c.key ttl))) :
    Guarding p c w (P.advance (server cfg) i (.redis (.expire c.key ttl)) k) := by
  obtain ⟨hfault, hunlocked⟩ := hheeds
  dsimp only at hunlocked
  rw [h.spared.live_tick (.inr rfl)] at hunlocked
  have hset : ((server cfg).step (.redis (.expire c.key ttl)) P.state).2.redis c.key =
      if ttl ≤ 0 then none else (P.state.redis.live P.state.tick.clock c.key).map
        fun found => { found with expires := some (P.state.tick.clock + ttl) } :=
    @Spares.redis_of_executed cfg _ _ h.spared _ (.expire c.key ttl) (.inl rfl)
      (by rw [hfault]; nofun)
  have hlock (t : ℤ) : ((server cfg).step (.redis (.expire c.key ttl)) P.state).2.redis.live t
      c.lockoutKey = P.state.redis.live t c.lockoutKey :=
    Keyspace.live_congr (@Spares.redis_of_ne cfg _ _ _ h.spared (.inr rfl) _ (.expire c.key ttl)
      (key_ne_lockoutKey c).symm) t
  refine h.advance ?_ (fun t ht hsome => ?_) (.inl ⟨rfl, fun t _ => hlock t⟩) ?_ fun hpassed =>
    hunlocked (of_decide_eq_true hpassed)
  · rw [hset]
    split_ifs
    · nofun
    · exact (h.isCount.live _).withExpiry _
  · rw [h.windowCount_of_none rfl]
    unfold Keyspace.live at hsome ⊢
    rw [hset] at hsome ⊢
    split_ifs at hsome ⊢ with hpos
    · cases hsome
    · -- the counter is as it was, and only its expiry is new
      obtain ⟨found, hfound⟩ := Option.isSome_iff_exists.1 hsome
      obtain ⟨hmap, -⟩ := Option.filter_eq_some_iff.1 hfound
      have hlive : (P.state.redis.live P.state.tick.clock c.key).isSome = true := by
        rw [← Option.isSome_map, hmap]
        rfl
      rw [hfound, ← hmap, countOf_withExpiry]
      exact h.counted _ P.state.clock_le_tick hlive
  · rw [h.windowCount_of_none rfl]
    exact h.promise.bounded

/-- **An attempt finds room in its window**: what was counted stays within the limit, and the counter
covers it. -/
theorem Guarding.windowCount_incr (h : Guarding p c w P) {n : ℕ}
    (hn : countOf (P.state.redis.live P.state.tick.clock c.key) = n)
    (hunlocked : n < p.maxAttempts →
      P.state.redis.live P.state.tick.clock c.lockoutKey = none) :
    (windowCount p c (timed w
      (P.log ++ [(i, ⟨.redis (.incr c.key), .ok ((n : ℤ) + 1)⟩)])).reverse : ℤ) ≤
        min (max 0 p.maxAttempts) (n + 1) := by
  have hbounded := h.promise.bounded
  -- a counter that is there covers the attempts of its window
  have hcovered : (P.state.redis.live P.state.tick.clock c.key).isSome = true →
      (windowCount p c (timed w P.log).reverse : ℤ) ≤ n := fun hsome =>
    hn ▸ h.counted _ P.state.clock_le_tick hsome
  have hzero : (P.state.redis.live P.state.tick.clock c.key).isSome ≠ true → n = 0 := by
    intro hnone
    rw [Option.not_isSome_iff_eq_none.1 hnone] at hn
    exact Int.ofNat_eq_zero.1 hn.symm
  rw [h.windowCount_concat]
  by_cases hfits : (n : ℤ) + 1 ≤ p.maxAttempts
  · have hgone := hunlocked (by omega)
    have hadmits : (countReply (i, ⟨.redis (.incr c.key), .ok ((n : ℤ) + 1)⟩)).any (admits p) =
        true := decide_eq_true hfits
    rw [if_pos hadmits]
    by_cases hfirst : n = 0
    · -- a new window
      subst hfirst
      have hopens : Opens p c (P.state.tick.clock,
          (i, ⟨.redis (.incr c.key), .ok (((0 : ℕ) : ℤ) + 1)⟩)) (timed w P.log).reverse :=
        ⟨rfl, fun y hy hlock => h.locked y (List.mem_reverse.1 hy) hlock _
          P.state.clock_le_tick hgone⟩
      rw [if_pos hopens]
      omega
    · have hold := hcovered (by by_contra hnone; exact hfirst (hzero hnone))
      have hopens : ¬ Opens p c (P.state.tick.clock,
          (i, ⟨.redis (.incr c.key), .ok ((n : ℤ) + 1)⟩)) (timed w P.log).reverse := by
        rintro ⟨hone, -⟩
        have hone : (n : ℤ) + 1 = 1 := Except.ok.inj (Option.some.inj hone)
        omega
      rw [if_neg hopens]
      omega
  · have hrefused : (countReply (i, ⟨.redis (.incr c.key), .ok ((n : ℤ) + 1)⟩)).any (admits p) ≠
        true := fun hadmits => hfits (of_decide_eq_true hadmits)
    rw [if_neg hrefused]
    have hold : (windowCount p c (timed w P.log).reverse : ℤ) ≤ n + 1 := by
      by_cases hsome : (P.state.redis.live P.state.tick.clock c.key).isSome = true
      · have hcovered := hcovered hsome
        omega
      · have hzero := hzero hsome
        omega
    split_ifs <;> omega

/-- A request is counted. -/
theorem Guarding.incr (h : Guarding p c w P) {k : Except RedisErr ℤ → ServerProg Verdict}
    (hheeds : Heeds p c P i (.redis (.incr c.key))) :
    Guarding p c w (P.advance (server cfg) i (.redis (.incr c.key)) k) := by
  obtain ⟨hfault, hunlocked⟩ := hheeds
  dsimp only at hunlocked
  rw [h.spared.live_tick (.inr rfl), h.spared.live_tick (.inl rfl)] at hunlocked
  have hcount := h.isCount.live P.state.tick.clock
  have hset : ((server cfg).step (.redis (.incr c.key)) P.state).2.redis c.key =
      ((RedisCmd.incr c.key).reply P.state.tick.clock
        (P.state.redis.live P.state.tick.clock c.key)).2 :=
    @Spares.redis_of_executed cfg _ _ h.spared _ (.incr c.key) (.inl rfl) (by rw [hfault]; nofun)
  have hreply : ((server cfg).step (.redis (.incr c.key)) P.state).1 =
      .ok (countOf (P.state.redis.live P.state.tick.clock c.key) + 1) := by
    rw [← reply_incr_val hcount P.state.tick.clock c.key, ← h.spared.live_tick (.inl rfl)]
    exact step_redis_val hfault _
  have hlock (t : ℤ) : ((server cfg).step (.redis (.incr c.key)) P.state).2.redis.live t
      c.lockoutKey = P.state.redis.live t c.lockoutKey :=
    Keyspace.live_congr (@Spares.redis_of_ne cfg _ _ _ h.spared (.inr rfl) _ (.incr c.key)
      (key_ne_lockoutKey c).symm) t
  obtain ⟨n, hn, hentry⟩ := reply_incr hcount P.state.tick.clock c.key
  rw [hn] at hreply hunlocked
  rw [hentry] at hset
  have hwindow : (windowCount p c (timed w (P.log ++ [(i, ⟨.redis (.incr c.key),
      ((server cfg).step (.redis (.incr c.key)) P.state).1⟩)])).reverse : ℤ) ≤
        min (max 0 p.maxAttempts) (n + 1) := by
    rw [hreply]
    exact h.windowCount_incr hn hunlocked
  refine h.advance ?_ (fun t ht hsome => ?_) (.inl ⟨rfl, fun t _ => hlock t⟩)
    (hwindow.trans (min_le_left _ _)) fun hpassed => ?_
  · rw [hset]
    intro found hfound
    exact ⟨n + 1, by rw [← Option.some.inj hfound]; rfl⟩
  · obtain ⟨found, hfound⟩ := Option.isSome_iff_exists.1 hsome
    obtain ⟨hsame, -⟩ := Option.filter_eq_some_iff.1 hfound
    rw [hset] at hsame
    rw [hfound, ← hsame]
    have hcountOf : countOf (some ⟨.text (Json.intLit (n + 1)),
        (P.state.redis.live P.state.tick.clock c.key).bind RedisEntry.expires⟩) = n + 1 := by
      simp [countOf, Json.parseInt_intLit]
    rw [hcountOf]
    exact hwindow.trans (min_le_right _ _)
  · rw [hreply] at hpassed
    simp only [isPass, Bool.and_eq_true, decide_eq_true_eq] at hpassed
    exact hunlocked (by omega)

/-- **A step of a request** keeps the state of the protection. -/
theorem Guarding.step (h : Guarding p c w P) {s : Attempt} (hallows : s.Allows p c e)
    (hheeds : Heeds p c P i e) : Guarding p c w (P.advance (server cfg) i e k) := by
  cases e with
  | redis e =>
    cases e with
    | keyExists key =>
      obtain rfl := hallows
      exact h.look
    | incr key =>
      obtain rfl := hallows
      exact h.incr hheeds
    | expire key ttl =>
      obtain ⟨rfl, -⟩ := hallows
      exact h.expire hheeds
    | set key value ttl =>
      obtain ⟨rfl, rfl⟩ := hallows
      exact h.lockOut hheeds.1
    | del key =>
      obtain rfl := hallows
      exact h.delete hheeds.1
    | _ => exact hallows.elim
  | _ => exact hallows.elim

end Run

/-! ## Runs -/

/-- **A client is held back**, in runs in which no request is let through while a lockout is in
force. -/
theorem protected_run (cfg : Config) (n : ℕ) (w : World) (sched : List ℕ) (hw : Spares c.keys w)
    (hcount : IsCount (w.redis c.key))
    (hsched : Pool.EachStep (server cfg) (Pool.Meets (Heeds p c)) (attempting p c n w) sched) :
    Protected p c w ((attempting p c n w).run (server cfg) sched) := by
  have hstart : Guarding p c w (attempting p c n w) := by
    refine ⟨hw, fun n => by simp [attempting, Pool.start], by simp [attempting, Pool.start, timed],
      hcount, fun t _ _ => ?_, by simp [attempting, Pool.start, timed],
      ⟨le_max_left _ _, List.Pairwise.nil⟩⟩
    exact (hcount.live t).countOf_nonneg
  have hrun := Pool.run_phases_inv (phased_protect p) hstart hsched
    fun P i c' β e k hi hthread hallows _ hP hG => ?_
  · exact hrun.promise
  · obtain rfl := List.eq_of_mem_replicate (List.mem_of_getElem? hi)
    exact hP.step hallows (Pool.meets_of_act hG hthread)

variable {p} in
theorem exists_pass {evs : List (Event ServerCmd)} {s : Attempt}
    (h : (evs.foldl (Attempt.next p) s).passed = true) :
    s.passed = true ∨ ∃ ev ∈ evs, isPass p (0, ev) = true := by
  induction evs generalizing s with
  | nil => exact .inl h
  | cons ev evs ih =>
    rcases ih h with hnext | ⟨ev', hev', hpass⟩
    · rcases Bool.or_eq_true_iff.1 hnext with hs | hpass
      · exact .inl hs
      · exact .inr ⟨ev, List.mem_cons_self, hpass⟩
    · exact .inr ⟨ev', List.mem_cons_of_mem _ hev', hpass⟩

/-- Whose command it is makes no difference. -/
theorem isPass_thread (i j : ℕ) (ev : Event ServerCmd) : isPass p (i, ev) = isPass p (j, ev) := by
  obtain ⟨e, reply⟩ := ev
  cases e with
  | redis e =>
    cases e with
    | incr key => cases reply <;> rfl
    | _ => rfl
  | _ => rfl

/-- **Whatever reaches the handler is in the log as a pass.** -/
theorem passed_of_reached {cfg : Config} {n i : ℕ} {w : World} {sched : List ℕ}
    {headers : Option RateLimitHeaders} (hlt : i < n)
    (hi : ((attempting p c n w).run (server cfg) sched).threads[i]? = some (.ret (.reached headers))) :
    ∃ ev, (i, ev) ∈ ((attempting p c n w).run (server cfg) sched).log ∧
      isPass p (i, ev) = true := by
  have hc : (List.replicate n c)[i]? = some c := by simp [hlt]
  have hpassed := (phased_protect p).returned hc hi
  rcases exists_pass hpassed with hstart | ⟨ev, hev, hpass⟩
  · cases hstart
  · exact ⟨ev, Pool.mem_eventsOf.1 hev, (isPass_thread p i 0 ev).trans hpass⟩

/-! ## A request between two commands -/

/-- One attempt is allowed in a quarter of an hour, and a lockout takes half an hour. -/
def strict : BruteForceProtector := ⟨1, 900000000000, 1800000000000⟩

/-- A client who logs in. -/
def someone : Client := ⟨"login", "203.0.113.7"⟩

/-- Three requests look for a lockout before the first is counted; the second locks the client out,
and the third reaches the handler. -/
theorem lateAttempt_passes : ¬ Protected strict someone (Dispatch.onePhone [])
    ((attempting strict someone 3 (Dispatch.onePhone [])).run (server .default)
      [0, 1, 2, 0, 0, 1, 1, 1, 2, 2]) := by
  intro h
  exact absurd h.lockedOut (by decide)

/-- One after the other, the first request reaches the handler, the second locks the client out, and the
third is turned away. -/
theorem inTurn_protected : Protected strict someone (Dispatch.onePhone [])
    ((attempting strict someone 3 (Dispatch.onePhone [])).run (server .default)
      [0, 0, 0, 1, 1, 1, 1, 2]) :=
  protected_run strict someone .default 3 (Dispatch.onePhone []) [0, 0, 0, 1, 1, 1, 1, 2]
    (fun _ ht => absurd ht List.not_mem_nil) nofun (by decide)

end AeroxeBee.Api
